import MultiDap.Breakpoint.Tracking
import MultiDap.Breakpoint.Transaction

/-!
# The balance of a transaction

While a transaction runs, some physical breakpoints are in its hand: placed, but not yet known to
the store. Others are gone: cleared, but still tracked. `Balanced` is the equation between them,
the store and the answers of the placer. At the end nothing is in hand and nothing is gone.
-/

namespace MultiDap.Breakpoint

open Source List Physical Function

def PlacementRequest.site (r : PlacementRequest) : Site := ⟨r.hintToken, r.core, r.line⟩

/-- An answer after which the physical breakpoint may exist. -/
def mayExist (physical : Physical) (err : Option Error) : Bool :=
  err.isNone || physical.possiblyCommitted

/-- The sites that were set or possibly committed and not successfully cleared since. -/
def Event.apply (m : Multiset Site) : Event → Multiset Site
  | .set request physical err => if mayExist physical err then request.site ::ₘ m else m
  | .clear physical err => if err.isNone then m.erase physical.site else m

def present (log : List Event) : Multiset Site := log.foldl Event.apply 0

@[simp] lemma present_concat (log : List Event) (e : Event) :
    present (log ++ [e]) = e.apply (present log) := by
  simp [present]

/-- The place of a logical breakpoint in `bySource`. -/
def Logical.key (l : Logical) : String × Int := (l.source.key, l.line)

namespace Store

variable {l : Logical} {s : Store}

lemma lookup_eq_some {key : String} {line : Int}
    (h : s.lookup key line = some l) : l ∈ s.live ∧ l.key = (key, line) := by
  have hp := find?_some h
  simp only [Bool.and_eq_true, beq_iff_eq] at hp
  exact ⟨mem_of_find?_eq_some h, Prod.ext hp.1 hp.2⟩

lemma lookup_eq_none {key : String} {line : Int} :
    s.lookup key line = none ↔ ∀ l ∈ s.live, l.key ≠ (key, line) := by
  simp [lookup, Logical.key]

lemma lookup_of_mem (hks : (s.live.map Logical.key).Nodup)
    (hl : l ∈ s.live) : s.lookup l.source.key l.line = some l := by
  cases h : s.lookup l.source.key l.line with
  | none => exact absurd rfl (lookup_eq_none.mp h l hl)
  | some =>
    obtain ⟨hk, hke⟩ := lookup_eq_some h
    exact congrArg some (inj_on_of_nodup_map hks hk hl hke)

lemma live_delete (s : Store) (key : String) (line : Int) :
    (s.delete key line).live = s.live.filter fun l => l.key ≠ (key, line) := by
  refine filter_congr fun l _ => ?_
  by_cases hk : l.source.key = key <;> by_cases hl : l.line = line <;> simp [Logical.key, hk, hl]

lemma live_delete_of_forall_ne (h : ∀ k ∈ s.live, k.key ≠ l.key) :
    (s.delete l.source.key l.line).live = s.live := by
  rw [live_delete]
  exact filter_eq_self.mpr fun k hk => decide_eq_true (h k hk)

lemma perm_delete (hks : (s.live.map Logical.key).Nodup)
    (hl : l ∈ s.live) : s.live.Perm (l :: (s.delete l.source.key l.line).live) := by
  have hnd : s.live.Nodup := List.Nodup.of_map _ hks
  have heq : (s.delete l.source.key l.line).live = s.live.erase l := by
    rw [live_delete, hnd.erase_eq_filter]
    refine filter_congr fun k hk => ?_
    by_cases hkl : k = l
    · simp [hkl, Logical.key]
    · have hne : k.key ≠ l.key := fun h => hkl (inj_on_of_nodup_map hks hk hl h)
      exact (decide_eq_true hne).trans (bne_iff_ne.mpr hkl).symm
  rw [heq]
  exact perm_cons_erase hl

/-- Everything the store and a transaction account for. -/
def holds (s : Store) (hand : List Physical) : Multiset Site := sites s.tracked + sites hand

/-- The sites of the records that wait for a cleanup. -/
def waiting (s : Store) : Multiset Site := sites s.pending + sites s.orphaned

lemma holds_eq (s : Store) (hand : List Physical) :
    s.holds hand = sites (s.live.flatMap (·.physical)) + sites s.pending + sites s.orphaned +
      sites hand := by
  simp only [holds, tracked, sites_append]

lemma mem_waiting {x : Site} : x ∈ s.waiting ↔ x ∈ sites s.pending ∨ x ∈ sites s.orphaned :=
  Multiset.mem_add

lemma tracked_of_waiting {x : Site} (h : x ∈ s.waiting) : x ∈ sites s.tracked := by
  simp only [tracked, sites_append, Multiset.mem_add]
  exact (mem_waiting.mp h).imp_left .inr

end Store

open Store (mem_waiting)

/-- `m` is what may exist on the target, `hand` what the transaction has placed and the store does
not know, `gone` what the transaction has cleared and the store still tracks. -/
structure Balanced (m : Multiset Site) (hand gone : List Physical) (s : Store) : Prop where
  nodup : ((s.holds hand).map Site.token).Nodup
  known : ∀ x ∈ s.holds hand, x.token ≠ 0 ∧ s.hintTokens x.token = true
  balance : m + sites gone = s.holds hand

namespace Balanced

variable {m : Multiset Site} {hand hand' gone gone' : List Physical} {s s' : Store} {p : Physical}

lemma of_holds_eq (h : Balanced m hand gone s) (heq : s'.holds hand' = s.holds hand)
    (hto : s'.hintTokens = s.hintTokens) : Balanced m hand' gone s' where
  nodup := heq ▸ h.nodup
  known := by rw [heq, hto]; exact h.known
  balance := by rw [heq]; exact h.balance

lemma of_holds_cons (h : Balanced m hand gone s) {x : Site}
    (heq : s.holds hand = x ::ₘ s'.holds hand') (hgo : sites gone = x ::ₘ sites gone')
    (hto : s'.hintTokens = s.hintTokens) : Balanced m hand' gone' s' where
  nodup := by
    have hnd := h.nodup
    rw [heq, Multiset.map_cons, Multiset.nodup_cons] at hnd
    exact hnd.2
  known := by
    intro y hy
    rw [hto]
    exact h.known y (heq ▸ Multiset.mem_cons_of_mem hy)
  balance := by
    have hb := h.balance
    rw [heq, hgo, Multiset.add_cons] at hb
    exact (Multiset.cons_inj_right x).mp hb

lemma perm (h : Balanced m hand gone s) (hp : hand'.Perm hand) : Balanced m hand' gone s :=
  h.of_holds_eq (by simp only [Store.holds, sites_perm hp]) rfl

lemma token_ne_zero (h : Balanced m (p :: hand) gone s) : p.hintToken ≠ 0 :=
  (h.known p.site (by simp [Store.holds])).1

lemma hand_notMem_tracked (h : Balanced m (p :: hand) gone s) : p.hintToken ∉ tokens s.tracked := by
  intro hme
  have hnd := h.nodup
  rw [Store.holds, sites_cons, Multiset.add_cons, Multiset.map_cons, Multiset.nodup_cons] at hnd
  obtain ⟨q, hq, hto⟩ := mem_map.mp hme
  refine hnd.1 (Multiset.mem_map.mpr ⟨q.site, ?_, hto⟩)
  exact Multiset.mem_add.mpr (.inl (mem_sites hq))

lemma hand_notMem_waiting (h : Balanced m (p :: hand) gone s) :
    p.hintToken ∉ tokens s.pending ∧ p.hintToken ∉ tokens s.orphaned := by
  have hnt := h.hand_notMem_tracked
  simp only [Store.tracked, tokens_append, mem_append, not_or] at hnt
  exact ⟨hnt.1.2, hnt.2⟩

variable {ps : List Physical}

lemma nodup_hand (h : Balanced m (ps ++ hand) gone s) : (tokens ps).Nodup := by
  have hnd := h.nodup
  rw [Store.holds, sites_append, Multiset.map_add, Multiset.nodup_add, Multiset.map_add,
    Multiset.nodup_add] at hnd
  simpa [sites, tokens, site, comp_def] using hnd.2.1.1

lemma nodup_tracked (h : Balanced m hand gone s) : (tokens s.tracked).Nodup := by
  have hnd := h.nodup
  rw [Store.holds, Multiset.map_add, Multiset.nodup_add] at hnd
  simpa [sites, tokens, site, comp_def] using hnd.1

lemma nodup_waiting (h : Balanced m hand gone s) :
    (tokens s.pending).Nodup ∧ (tokens s.orphaned).Nodup ∧
      ∀ t ∈ tokens s.pending, t ∉ tokens s.orphaned := by
  have hnd := h.nodup_tracked
  rw [Store.tracked, tokens_append, tokens_append, nodup_append, nodup_append] at hnd
  refine ⟨hnd.1.2.1, hnd.2.1, fun t ht ht' => ?_⟩
  exact hnd.2.2 t (mem_append_right _ ht) t ht' rfl

lemma tracked_ne_zero (h : Balanced m hand gone s) {q : Physical} (hq : q.site ∈ sites s.tracked) :
    q.hintToken ≠ 0 :=
  (h.known q.site (Multiset.mem_add.mpr (.inl hq))).1

/-! ### Moves between the collections -/

lemma appendPending (h : Balanced m (p :: hand) gone s) :
    Balanced m hand gone (s.appendPending p) := by
  obtain ⟨hp, ho⟩ := h.hand_notMem_waiting
  obtain ⟨h₁, h₂, -⟩ := Store.appendPending_fresh h.token_ne_zero hp ho
  have hsm := Store.sameLive_pending s p
  refine h.of_holds_eq ?_ hsm.hintTokens
  simp only [Store.holds_eq, h₁, h₂, hsm.live, sites_append, sites_cons, sites_nil,
    site_detached, ← Multiset.singleton_add]
  abel

lemma appendOrphaned (h : Balanced m (p :: hand) gone s) :
    Balanced m hand gone (s.appendOrphaned p) := by
  obtain ⟨hp, ho⟩ := h.hand_notMem_waiting
  obtain ⟨h₁, h₂, -⟩ := Store.appendOrphaned_fresh h.token_ne_zero ho
  have hsm := Store.sameLive_orphaned s p
  rw [removePhysical_of h.token_ne_zero hp] at h₁
  refine h.of_holds_eq ?_ hsm.hintTokens
  simp only [Store.holds_eq, h₁, h₂, hsm.live, sites_append, sites_cons, sites_nil,
    site_orphan, ← Multiset.singleton_add]
  abel

lemma removeHand (h : Balanced m (p :: hand) gone s) (hgo : sites gone = p.site ::ₘ sites gone') :
    Balanced m hand gone' (s.removePhysicalEvidence p) := by
  obtain ⟨hp, ho⟩ := h.hand_notMem_waiting
  have hsm := Store.sameLive_remove s p
  have h₀ := h.token_ne_zero
  refine h.of_holds_cons ?_ hgo hsm.hintTokens
  simp only [Store.holds_eq, hsm.live, sites_cons]
  simp only [Store.removePhysicalEvidence, ne_eq, h₀, not_false_eq_true, if_true, Store.dropHint,
    removePhysical_of h₀ hp, removePhysical_of h₀ ho, ← Multiset.singleton_add]
  abel

lemma waiting_remove (h : Balanced m hand gone s) (hp : p.site ∈ s.waiting) :
    s.waiting = p.site ::ₘ (s.removePhysicalEvidence p).waiting := by
  have h₀ : p.hintToken ≠ 0 := h.tracked_ne_zero (Store.tracked_of_waiting hp)
  obtain ⟨hnp, hno, hdisj⟩ := h.nodup_waiting
  simp only [Store.waiting, Store.removePhysicalEvidence, ne_eq, h₀, not_false_eq_true, if_true,
    Store.dropHint]
  rcases mem_waiting.mp hp with hp | hp
  · have ho : p.hintToken ∉ tokens s.orphaned := hdisj _ (token_mem_of_site_mem hp)
    rw [removePhysical_of h₀ ho, sites_removePhysical h₀ hnp hp, Multiset.cons_add]
  have hp' : p.hintToken ∉ tokens s.pending :=
    fun hin => hdisj _ hin (token_mem_of_site_mem hp)
  rw [removePhysical_of h₀ hp', sites_removePhysical h₀ hno hp, Multiset.add_cons]

lemma removeWaiting (h : Balanced m hand gone s) (hp : p.site ∈ s.waiting)
    (hgo : sites gone = p.site ::ₘ sites gone') :
    Balanced m hand gone' (s.removePhysicalEvidence p) := by
  have hsm := Store.sameLive_remove s p
  refine h.of_holds_cons ?_ hgo hsm.hintTokens
  have hwait := h.waiting_remove hp
  simp only [Store.waiting] at hwait
  simp only [Store.holds_eq, hsm.live, add_assoc (sites (s.live.flatMap _)), hwait,
    Multiset.add_cons, Multiset.cons_add]

lemma movePendingToOrphaned (h : Balanced m hand gone s) (hp : p.site ∈ s.waiting) :
    Balanced m hand gone (s.movePendingToOrphaned p) := by
  have h₀ : p.hintToken ≠ 0 := h.tracked_ne_zero (Store.tracked_of_waiting hp)
  unfold Store.movePendingToOrphaned
  split_ifs with ho hpen
  · exact h
  · have hp' : p.site ∈ sites s.pending := by
      refine (mem_waiting.mp hp).resolve_right fun hin => ?_
      exact ho ((hasPhysical_eq_true h₀).mpr (token_mem_of_site_mem hin))
    -- the record is in hand between its removal and its return as an orphan
    have hand' : Balanced m (p :: hand) gone { s with pending := removePhysical s.pending p } := by
      refine h.of_holds_eq ?_ rfl
      simp only [Store.holds_eq, sites_cons, sites_removePhysical h₀ h.nodup_waiting.1 hp',
        ← Multiset.singleton_add]
      abel
    exact hand'.appendOrphaned
  · exact h

lemma foldl_appendPending (h : Balanced m (ps ++ hand) gone s) :
    Balanced m hand gone (ps.foldl Store.appendPending s) := by
  induction ps generalizing s with
  | nil => exact h
  | cons _ _ ih => exact ih (Balanced.appendPending h)

lemma foldl_appendOrphaned (h : Balanced m (ps ++ hand) gone s) :
    Balanced m hand gone (ps.foldl Store.appendOrphaned s) := by
  induction ps generalizing s with
  | nil => exact h
  | cons _ _ ih => exact ih (Balanced.appendOrphaned h)

lemma insert {l : Logical} (h : Balanced m (l.physical ++ hand) gone s)
    (hfree : ∀ k ∈ s.live, k.key ≠ l.key) : Balanced m hand gone (s.insert l) := by
  refine h.of_holds_eq ?_ rfl
  simp only [Store.holds_eq, Store.insert, Store.live_delete_of_forall_ne hfree,
    flatMap_append, flatMap_cons, flatMap_nil, append_nil, sites_append]
  simp only [Store.delete]
  abel

lemma delete {l : Logical} (h : Balanced m hand gone s) (hks : (s.live.map Logical.key).Nodup)
    (hl : l ∈ s.live) : Balanced m (l.physical ++ hand) gone (s.delete l.source.key l.line) := by
  refine h.of_holds_eq ?_ rfl
  have hperm := sites_perm ((Store.perm_delete hks hl).flatMap_right (·.physical))
  simp only [Store.holds_eq, hperm, flatMap_cons, sites_append]
  simp only [Store.delete]
  abel

/-! ### Answers of the placer -/

lemma set {req : PlacementRequest} (h : Balanced m hand gone s)
    (hp : p.site = req.site) (h₀ : p.hintToken ≠ 0) (hkn : s.hintTokens p.hintToken = true)
    (hfr : p.hintToken ∉ tokens (s.tracked ++ hand)) :
    Balanced (req.site ::ₘ m) (p :: hand) gone s := by
  have hcons : s.holds (p :: hand) = p.site ::ₘ s.holds hand := by
    simp [Store.holds]
  constructor
  case nodup =>
    rw [hcons, Multiset.map_cons, Multiset.nodup_cons]
    refine ⟨fun hin => hfr ?_, h.nodup⟩
    simpa [Store.holds, sites, tokens, site] using hin
  case known =>
    intro x hx
    rw [hcons, Multiset.mem_cons] at hx
    rcases hx with rfl | hx
    · exact ⟨h₀, hkn⟩
    · exact h.known x hx
  case balance => rw [hcons, Multiset.cons_add, h.balance, hp]

lemma mem_of_notMem_gone (h : Balanced m hand gone s) {x : Site} (hx : x ∈ s.holds hand)
    (hgo : x ∉ sites gone) : x ∈ m := by
  rw [← h.balance, Multiset.mem_add] at hx
  exact hx.resolve_right hgo

lemma clearHand (h : Balanced m (p :: hand) gone s) (hgo : p.site ∉ sites gone) :
    Balanced (m.erase p.site) hand gone s := by
  have hcons : s.holds (p :: hand) = p.site ::ₘ s.holds hand := by
    simp [Store.holds]
  have hm := h.mem_of_notMem_gone (hcons ▸ Multiset.mem_cons_self _ _) hgo
  have hb := h.balance
  have hnd := h.nodup
  rw [hcons] at hb
  rw [hcons, Multiset.map_cons, Multiset.nodup_cons] at hnd
  constructor
  case nodup => exact hnd.2
  case known => exact fun x hx => h.known x (hcons ▸ Multiset.mem_cons_of_mem hx)
  case balance =>
    rw [← Multiset.cons_inj_right p.site, ← hb, ← Multiset.cons_add, Multiset.cons_erase hm]

lemma clearTracked (h : Balanced m hand gone s) (hp : p.site ∈ sites s.tracked)
    (hgo : p.site ∉ sites gone) : Balanced (m.erase p.site) hand (gone ++ [p]) s := by
  have hm := h.mem_of_notMem_gone (Multiset.mem_add.mpr (.inl hp)) hgo
  refine ⟨h.nodup, h.known, ?_⟩
  calc m.erase p.site + sites (gone ++ [p])
      = p.site ::ₘ m.erase p.site + sites gone := by
        simp only [sites_append, sites_cons, sites_nil, ← Multiset.singleton_add]
        abel
    _ = m + sites gone := by rw [Multiset.cons_erase hm]
    _ = s.holds hand := h.balance

end Balanced

/-! ### The hint table -/

section Names

variable {s t : Store} {τ : UInt32} {target : HintTarget} {except : List UInt32} {x : Site}
variable {p : Physical}

lemma Store.holds_waiting (s : Store) :
    s.holds [] = sites (s.live.flatMap (·.physical)) + s.waiting := by
  simp only [Store.holds_eq, Store.waiting, sites_nil]
  abel

lemma Balanced.waiting_eq {m : Multiset Site} {gone gone' : List Physical}
    (h : Balanced m [] gone s) (h' : Balanced m [] gone' t) (hsm : Store.SameLive s t) :
    s.waiting + sites gone' = t.waiting + sites gone := by
  have hb := h.balance
  have hb' := h'.balance
  rw [Store.holds_waiting] at hb hb'
  rw [hsm.live] at hb'
  refine add_left_cancel (a := sites (s.live.flatMap (·.physical))) ?_
  rw [← add_assoc, ← add_assoc, ← hb, ← hb']
  abel

/-- What the records say about a token: a live one names its breakpoint, a waiting one only wakes
the session up. -/
def Store.Refers (s : Store) (τ : UInt32) (target : HintTarget) : Prop :=
  (∃ l ∈ s.live, ∃ p ∈ l.physical, p.hintToken = τ ∧ target = ⟨l.dapID, p.core⟩) ∨
    ∃ x ∈ s.waiting, x.token = τ ∧ target = { core := x.core }

/-- The hint table says what the records say, except about some tokens. -/
def Store.Names (s : Store) (except : List UInt32) : Prop :=
  ∀ τ ∉ except, ∀ target, s.liveHints τ = some target ↔ s.Refers τ target

lemma Store.Refers.tracked (h : s.Refers τ target) : τ ∈ tokens s.tracked := by
  simp only [Store.tracked, tokens_append, mem_append]
  rcases h with ⟨l, hl, p, hp, rfl, -⟩ | ⟨x, hx, rfl, -⟩
  · exact .inl (.inl (mem_tokens (mem_flatMap.mpr ⟨l, hl, hp⟩)))
  rcases mem_waiting.mp hx with hx | hx <;> obtain ⟨q, hq, rfl⟩ := of_mem_sites hx
  · exact .inl (.inr (mem_tokens hq))
  · exact .inr (mem_tokens hq)

lemma Store.not_refers (h : τ ∉ tokens s.tracked) : ¬ s.Refers τ target := fun href =>
  h href.tracked

lemma Store.refers_congr (hlive : t.live = s.live)
    (hwait : ∀ x : Site, x.token = τ → (x ∈ t.waiting ↔ x ∈ s.waiting)) :
    t.Refers τ target ↔ s.Refers τ target := by
  unfold Store.Refers
  rw [hlive]
  refine or_congr_right (exists_congr fun x => ?_)
  constructor
  · exact fun ⟨hx, hτ, ht⟩ => ⟨(hwait x hτ).mp hx, hτ, ht⟩
  · exact fun ⟨hx, hτ, ht⟩ => ⟨(hwait x hτ).mpr hx, hτ, ht⟩

lemma Store.Names.wait (h : s.Names (x.token :: except)) (hlive : t.live = s.live)
    (hwait : t.waiting = x ::ₘ s.waiting)
    (hhin : t.liveHints = Function.update s.liveHints x.token (some { core := x.core }))
    (hfr : x.token ∉ tokens s.tracked) : t.Names except := by
  intro τ hτ target
  rw [hhin]
  by_cases heq : τ = x.token
  · subst heq
    rw [update_self, Option.some.injEq]
    constructor
    · rintro rfl
      exact .inr ⟨x, by simp [hwait], rfl, rfl⟩
    rintro (⟨l, hl, p, hp, hpτ, -⟩ | ⟨y, hy, hyτ, rfl⟩)
    · exact absurd (Store.Refers.tracked (.inl ⟨l, hlive ▸ hl, p, hp, hpτ, rfl⟩)) hfr
    rw [hwait, Multiset.mem_cons] at hy
    rcases hy with rfl | hy
    · rfl
    · exact absurd (Store.Refers.tracked (.inr ⟨y, hy, hyτ, rfl⟩)) hfr
  · rw [update_of_ne heq, h τ (by simp [heq, hτ])]
    refine (Store.refers_congr hlive fun y hy => ?_).symm
    rw [hwait, Multiset.mem_cons]
    exact or_iff_right fun hyx => heq (hyx ▸ hy.symm)

lemma Store.Names.forget (h : s.Names (τ :: except)) (hlive : t.live = s.live)
    (hwait : ∀ y : Site, y.token ≠ τ → (y ∈ t.waiting ↔ y ∈ s.waiting))
    (hhin : t.liveHints = Function.update s.liveHints τ none)
    (hgo : τ ∉ tokens t.tracked) : t.Names except := by
  intro σ hσ target
  rw [hhin]
  by_cases heq : σ = τ
  · subst heq
    rw [update_self]
    exact iff_of_false (by simp) (Store.not_refers hgo)
  · rw [update_of_ne heq, h σ (by simp [heq, hσ])]
    exact (Store.refers_congr hlive fun y hy => hwait y (hy ▸ heq)).symm

lemma Store.Names.weaken {except' : List UInt32} (h : s.Names except)
    (hsub : ∀ τ ∈ except, τ ∈ except') : s.Names except' :=
  fun τ hτ => h τ fun hin => hτ (hsub τ hin)

lemma Store.Names.live (h : s.Names []) (hτ : s.liveHints τ = some target)
    (hid : target.dapID ≠ 0) : ∃ l ∈ s.live, l.dapID = target.dapID ∧ τ ∈ tokens l.physical := by
  rcases (h τ (by simp) target).mp hτ with ⟨l, hl, p, hp, rfl, rfl⟩ | ⟨x, -, -, rfl⟩
  · exact ⟨l, hl, rfl, mem_tokens hp⟩
  · exact absurd rfl hid

lemma site_eq_of_token {ps : List Physical} {y : Site} (hnd : (tokens ps).Nodup)
    (hx : x ∈ sites ps) (hy : y ∈ sites ps) (hto : x.token = y.token) : x = y := by
  obtain ⟨p, hp, rfl⟩ := of_mem_sites hx
  obtain ⟨q, hq, rfl⟩ := of_mem_sites hy
  exact congrArg site (inj_on_of_nodup_map hnd hp hq hto)

lemma Store.Names.withdrawn {ow : Owner} {out : List Physical} (h : s.Names [])
    (hnd : (tokens s.tracked).Nodup) (hw : s.Withdrawn ow t out) : t.Names [] := by
  have hnd' : (tokens t.tracked).Nodup := hw.tokens_tracked.nodup_iff.mpr hnd
  have hwait : ∀ x, x ∈ t.waiting ↔ x ∈ s.waiting ∨ x ∈ sites out := by
    intro x
    simp only [mem_waiting, hw.pending, hw.orphaned, sites_append, sites_map_detached,
      Multiset.mem_add]
    exact or_right_comm
  intro τ _ target
  by_cases hou : τ ∈ tokens out
  · obtain ⟨p, hp, rfl⟩ := mem_map.mp hou
    rw [hw.hints p hp, Option.some.injEq]
    constructor
    · rintro rfl
      exact .inr ⟨p.site, (hwait _).mpr (.inr (mem_sites hp)), rfl, rfl⟩
    rintro (⟨l, hl, q, hq, hqτ, rfl⟩ | ⟨x, hx, hxτ, rfl⟩)
    · -- no live record shares its token with a pending one
      rw [Store.tracked, tokens_append, tokens_append, nodup_append, nodup_append,
        hw.pending, tokens_append, tokens_map_detached] at hnd'
      have hq' := mem_tokens (mem_flatMap.mpr ⟨l, hl, hq⟩)
      exact absurd hqτ (hnd'.1.2.2 _ hq' _ (mem_append_right _ hou))
    have hp' : p.site ∈ t.waiting := (hwait _).mpr (.inr (mem_sites hp))
    obtain rfl := site_eq_of_token hnd' (Store.tracked_of_waiting hx)
      (Store.tracked_of_waiting hp') hxτ
    rfl
  · rw [hw.otherHints τ hou, h τ (by simp)]
    refine or_congr ?_ ?_
    · simp only [hw.live, mem_filter, bne_iff_ne]
      refine exists_congr fun l => ⟨fun he => ⟨⟨he.1, ?_⟩, he.2⟩, And.imp_left And.left⟩
      obtain ⟨hl, p, hp, rfl, -⟩ := he
      intro hon
      refine hou (mem_tokens (hw.perm.symm.subset (mem_flatMap.mpr ⟨l, ?_, hp⟩)))
      simp [hl, hon]
    refine exists_congr fun x => ?_
    rw [hwait]
    constructor
    · exact And.imp_left .inl
    rintro ⟨hx, rfl, ht⟩
    refine ⟨hx.resolve_right fun hin => hou ?_, rfl, ht⟩
    obtain ⟨p, hp, rfl⟩ := of_mem_sites hin
    exact mem_tokens hp

end Names

end MultiDap.Breakpoint
