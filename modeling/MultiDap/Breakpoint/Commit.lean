import MultiDap.Breakpoint.Placement

/-!
# The commit of a replacement

What the last locked section of a replacement makes of the outcomes: every record in hand finds
its place, every cleared record is forgotten, and the hint table keeps naming live breakpoints
only.
-/

namespace MultiDap.Breakpoint

open Source Machine World List Prod Physical

variable {m : Multiset Site} {hand gone ps : List Physical} {p : Physical} {s : Store}
variable {clears : Clears}

/-! ### The hint table -/

variable {except : List UInt32}

lemma Store.Names.appendPending (h : s.Names except)
    (hb : Balanced m (p :: hand) gone s) : (s.appendPending p).Names except := by
  obtain ⟨hp, ho⟩ := hb.hand_notMem_waiting
  obtain ⟨h₁, h₂, h₃⟩ := Store.appendPending_fresh hb.token_ne_zero hp ho
  refine Store.Names.wait (x := p.site) (h.weaken fun τ hτ => mem_cons_of_mem _ hτ)
    (Store.sameLive_pending s p).live ?_ h₃ hb.hand_notMem_tracked
  simp only [Store.waiting, h₁, h₂, sites_append, sites_cons, sites_nil, site_detached,
    ← Multiset.singleton_add]
  abel

lemma Store.Names.appendOrphaned
    (h : s.Names (p.hintToken :: except)) (hb : Balanced m (p :: hand) gone s) :
    (s.appendOrphaned p).Names except := by
  obtain ⟨hp, ho⟩ := hb.hand_notMem_waiting
  obtain ⟨h₁, h₂, h₃⟩ := Store.appendOrphaned_fresh hb.token_ne_zero ho
  rw [removePhysical_of hb.token_ne_zero hp] at h₁
  refine Store.Names.wait (x := p.site) h (Store.sameLive_orphaned s p).live ?_ h₃
    hb.hand_notMem_tracked
  simp only [Store.waiting, h₁, h₂, sites_append, sites_cons, sites_nil, site_orphan,
    ← Multiset.singleton_add]
  abel

lemma liveHints_removePhysicalEvidence (h₀ : p.hintToken ≠ 0) :
    (s.removePhysicalEvidence p).liveHints = Function.update s.liveHints p.hintToken none := by
  simp only [Store.removePhysicalEvidence, ne_eq, h₀, not_false_eq_true, if_true, Store.dropHint]

lemma Store.Names.removeHand
    (h : s.Names (p.hintToken :: except)) (hb : Balanced m (p :: hand) gone s) :
    (s.removePhysicalEvidence p).Names except := by
  obtain ⟨hp, ho⟩ := hb.hand_notMem_waiting
  have h₀ := hb.token_ne_zero
  have hlive := (Store.sameLive_remove s p).live
  have hpen : (s.removePhysicalEvidence p).pending = s.pending := by
    simp [Store.removePhysicalEvidence, h₀, Store.dropHint, removePhysical_of h₀ hp]
  have horp : (s.removePhysicalEvidence p).orphaned = s.orphaned := by
    simp [Store.removePhysicalEvidence, h₀, Store.dropHint, removePhysical_of h₀ ho]
  refine h.forget hlive (fun y _ => ?_) (liveHints_removePhysicalEvidence h₀) ?_
  · rw [Store.waiting, hpen, horp, Store.waiting]
  · rw [Store.tracked, hlive, hpen, horp]
    exact hb.hand_notMem_tracked

lemma Store.Names.removeWaiting (h : s.Names []) (hb : Balanced m hand gone s)
    (hp : p.site ∈ s.waiting) : (s.removePhysicalEvidence p).Names [] := by
  have h₀ : p.hintToken ≠ 0 := hb.tracked_ne_zero (Store.tracked_of_waiting hp)
  have hlive := (Store.sameLive_remove s p).live
  have hwait := hb.waiting_remove hp
  refine Store.Names.forget (h.weaken (by simp)) hlive (fun y hy => ?_)
    (liveHints_removePhysicalEvidence h₀) fun hin => ?_
  · rw [hwait, Multiset.mem_cons]
    exact (or_iff_right fun heq => hy (congrArg Site.token heq)).symm
  -- the tokens of the tracked records are distinct
  have hnd := hb.nodup
  rw [Store.holds_eq, hlive.symm, add_assoc (sites (flatMap _ _)), ← Store.waiting, hwait,
    Multiset.add_cons, Multiset.cons_add, Multiset.map_cons, Multiset.nodup_cons] at hnd
  obtain ⟨q, hq, hqτ⟩ := mem_map.mp hin
  refine hnd.1 (Multiset.mem_map.mpr ⟨q.site, ?_, hqτ⟩)
  have hq' := mem_sites hq
  simp only [Store.tracked, sites_append, Multiset.mem_add] at hq'
  simp only [Multiset.mem_add, Store.mem_waiting]
  exact .inl (or_assoc.mp hq')

/-! ### One old record -/

lemma mem_sites_removePhysical {vs : List Physical} {x : Site} (h₀ : p.hintToken ≠ 0)
    (hx : x ∈ sites vs) (hne : x.token ≠ p.hintToken) : x ∈ sites (removePhysical vs p) := by
  obtain ⟨q, hq, rfl⟩ := of_mem_sites hx
  refine mem_sites ((mem_eraseP_of_neg ?_).mpr hq)
  rw [samePhysical_eq h₀, beq_iff_eq]
  exact hne

/-- What the commit of old records leaves alone. -/
structure Settles (ps : List Physical) (s t : Store) (res res' : ReplaceResult) : Prop where
  same : Store.SameLive s t
  breakpoints : res'.breakpoints = res.breakpoints
  orphaned : ∀ x ∈ sites s.orphaned, x.token ∉ tokens ps → x ∈ sites t.orphaned
  pending : ∀ x ∈ sites s.pending, x.token ∉ tokens ps → x ∈ sites t.pending

lemma Settles.refl (s : Store) (res : ReplaceResult) : Settles [] s s res res :=
  ⟨.refl s, rfl, fun _ hx _ => hx, fun _ hx _ => hx⟩

lemma Settles.cons {t u : Store} {res res' res'' : ReplaceResult} (h₁ : Settles [p] s t res res')
    (h₂ : Settles ps t u res' res'') : Settles (p :: ps) s u res res'' where
  same := h₁.same.trans h₂.same
  breakpoints := h₂.breakpoints.trans h₁.breakpoints
  orphaned := fun x hx hne => by
    simp only [tokens_cons, mem_cons, not_or] at hne
    exact h₂.orphaned x (h₁.orphaned x hx (by simpa using hne.1)) hne.2
  pending := fun x hx hne => by
    simp only [tokens_cons, mem_cons, not_or] at hne
    exact h₂.pending x (h₁.pending x hx (by simpa using hne.1)) hne.2

lemma settles_commitCleared (clears : Clears) (res : ReplaceResult) (detached : Bool)
    (h₀ : p.hintToken ≠ 0) (ho : clears p.hintToken ≠ some none → p.hintToken ∉ tokens s.orphaned) :
    Settles [p] s (commitCleared clears detached (s, res) p).1 res
      (commitCleared clears detached (s, res) p).2 := by
  simp only [commitCleared]
  split
  · exact ⟨.refl s, rfl, fun _ hx _ => hx, fun _ hx _ => hx⟩
  · refine ⟨Store.sameLive_remove s p, rfl, ?_, ?_⟩
    all_goals
      intro x hx hne
      simp only [Store.removePhysicalEvidence, ne_eq, h₀, not_false_eq_true, if_true,
        Store.dropHint]
      exact mem_sites_removePhysical h₀ hx (by simpa using hne)
  rename_i err hsome
  split_ifs
  · exact ⟨.refl s, rfl, fun _ hx _ => hx, fun _ hx _ => hx⟩
  have hfr : p.hintToken ∉ tokens s.orphaned := ho (by rw [hsome]; simp)
  obtain ⟨hp, horph, -⟩ := Store.appendOrphaned_fresh h₀ hfr
  refine ⟨Store.sameLive_orphaned s p, rfl, ?_, ?_⟩
  · intro x hx _
    rw [horph, sites_append]
    exact Multiset.mem_add.mpr (.inl hx)
  intro x hx hne
  rw [hp]
  exact mem_sites_removePhysical h₀ hx (by simpa using hne)

lemma clearedBy_cons {rest : List Physical} (h : clears p.hintToken ≠ some none) :
    clearedBy clears (p :: rest) = clearedBy clears rest := by
  simp [clearedBy, h]

section

variable {rest : List Physical} (res : ReplaceResult)

include res

/-- Without a detach, a record of a deleted line leaves the hand: forgotten if it was cleared, an
orphan if not. -/
lemma Balanced.commitCleared (h : Balanced m (p :: hand) (clearedBy clears (p :: rest)) s)
    (htri : clears p.hintToken ≠ none) :
    Balanced m hand (clearedBy clears rest) (commitCleared clears false (s, res) p).1 := by
  simp only [Breakpoint.commitCleared]
  split
  · rename_i hnn
    exact absurd hnn htri
  · rename_i hcle
    refine h.removeHand ?_
    simp [clearedBy, hcle]
  rename_i err hfai
  rw [clearedBy_cons (by simp [hfai])] at h
  exact h.appendOrphaned

lemma Store.Names.commitCleared
    (h : s.Names (p.hintToken :: except)) (hb : Balanced m (p :: hand) gone s)
    (htri : clears p.hintToken ≠ none) :
    (commitCleared clears false (s, res) p).1.Names except := by
  simp only [Breakpoint.commitCleared]
  split
  · rename_i hnn
    exact absurd hnn htri
  · exact h.removeHand hb
  · exact h.appendOrphaned hb

lemma foldl_commitCleared (h : Balanced m (ps ++ hand) (clearedBy clears (ps ++ rest)) s)
    (hnames : s.Names (tokens ps)) (htri : ∀ p ∈ ps, clears p.hintToken ≠ none) :
    Balanced m hand (clearedBy clears rest) (ps.foldl (commitCleared clears false) (s, res)).1 ∧
      (ps.foldl (commitCleared clears false) (s, res)).1.Names [] ∧
      Settles ps s (ps.foldl (commitCleared clears false) (s, res)).1 res
        (ps.foldl (commitCleared clears false) (s, res)).2 := by
  induction ps generalizing s res with
  | nil => exact ⟨h, hnames, .refl s res⟩
  | cons p _ ih =>
    have hp := htri p mem_cons_self
    obtain ⟨h₁, h₂, h₃⟩ := ih (commitCleared clears false (s, res) p).2
      (h.commitCleared res hp) (hnames.commitCleared res h hp)
      fun q hq => htri q (mem_cons_of_mem p hq)
    refine ⟨h₁, h₂, Settles.cons ?_ h₃⟩
    exact settles_commitCleared clears res false h.token_ne_zero fun _ => h.hand_notMem_waiting.2

lemma Balanced.commitCleared_detached
    (h : Balanced m hand (clearedBy clears (p :: rest)) s) (hp : p.site ∈ sites s.pending) :
    Balanced m hand (clearedBy clears rest)
      (Breakpoint.commitCleared clears true (s, res) p).1 := by
  simp only [Breakpoint.commitCleared]
  split
  · rename_i hnn
    rwa [clearedBy_cons (by simp [hnn])] at h
  · rename_i hcle
    refine h.removeWaiting (Store.mem_waiting.mpr (.inl hp)) ?_
    simp [clearedBy, hcle]
  · rename_i err hfai
    rwa [clearedBy_cons (by simp [hfai])] at h

lemma Store.Names.commitCleared_detached (h : s.Names [])
    (hb : Balanced m hand gone s) (hp : p.site ∈ sites s.pending) :
    (Breakpoint.commitCleared clears true (s, res) p).1.Names [] := by
  simp only [Breakpoint.commitCleared]
  split
  · exact h
  · exact h.removeWaiting hb (Store.mem_waiting.mpr (.inl hp))
  · exact h

lemma foldl_commitCleared_detached
    (h : Balanced m hand (clearedBy clears (ps ++ rest)) s) (hnd : (tokens ps).Nodup)
    (hwait : ∀ p ∈ ps, p.site ∈ sites s.pending) (hnames : s.Names []) :
    Balanced m hand (clearedBy clears rest) (ps.foldl (commitCleared clears true) (s, res)).1 ∧
      (ps.foldl (commitCleared clears true) (s, res)).1.Names [] ∧
      Settles ps s (ps.foldl (commitCleared clears true) (s, res)).1 res
        (ps.foldl (commitCleared clears true) (s, res)).2 := by
  induction ps generalizing s res with
  | nil => exact ⟨h, hnames, .refl s res⟩
  | cons p ps ih =>
    rw [tokens_cons, nodup_cons] at hnd
    have hp := hwait p mem_cons_self
    have h₀ : p.hintToken ≠ 0 :=
      h.tracked_ne_zero (Store.tracked_of_waiting (Store.mem_waiting.mpr (.inl hp)))
    have hst := settles_commitCleared clears res true h₀ fun _ =>
      h.nodup_waiting.2.2 _ (token_mem_of_site_mem hp)
    -- the step takes away at most this record, so the others still wait
    have hwait' : ∀ q ∈ ps, q.site ∈ sites (commitCleared clears true (s, res) p).1.pending := by
      intro q hq
      refine hst.pending q.site (hwait q (mem_cons_of_mem p hq)) ?_
      intro hin
      have heq : q.hintToken = p.hintToken := by simpa [site] using hin
      exact hnd.1 (heq ▸ mem_tokens hq)
    obtain ⟨h₁, h₂, h₃⟩ := ih (commitCleared clears true (s, res) p).2
      (h.commitCleared_detached res hp) hnd.2 hwait' (hnames.commitCleared_detached res h hp)
    exact ⟨h₁, h₂, hst.cons h₃⟩

end

/-! ### One requested line -/

lemma foldl_appendPending_spec (h : Balanced m (ps ++ hand) gone s) (hnames : s.Names []) :
    (ps.foldl Store.appendPending s).Names [] ∧
      sites (ps.foldl Store.appendPending s).pending = sites s.pending + sites ps ∧
      (ps.foldl Store.appendPending s).orphaned = s.orphaned := by
  induction ps generalizing s with
  | nil => exact ⟨hnames, by simp, rfl⟩
  | cons _ _ ih =>
    obtain ⟨hp, ho⟩ := h.hand_notMem_waiting
    obtain ⟨h₁, h₂, -⟩ := Store.appendPending_fresh h.token_ne_zero hp ho
    obtain ⟨i₁, i₂, i₃⟩ := ih (Balanced.appendPending h) (hnames.appendPending h)
    refine ⟨i₁, ?_, i₃.trans h₂⟩
    rw [foldl_cons, i₂, h₁]
    simp only [sites_append, sites_cons, sites_nil, site_detached, ← Multiset.singleton_add]
    abel

lemma foldl_appendOrphaned_spec (h : Balanced m (ps ++ hand) gone s) (hnames : s.Names []) :
    (ps.foldl Store.appendOrphaned s).Names [] ∧
      sites (ps.foldl Store.appendOrphaned s).orphaned = sites s.orphaned + sites ps ∧
      (ps.foldl Store.appendOrphaned s).pending = s.pending := by
  induction ps generalizing s with
  | nil => exact ⟨hnames, by simp, rfl⟩
  | cons _ _ ih =>
    obtain ⟨hp, ho⟩ := h.hand_notMem_waiting
    obtain ⟨h₁, h₂, -⟩ := Store.appendOrphaned_fresh h.token_ne_zero ho
    rw [removePhysical_of h.token_ne_zero hp] at h₁
    obtain ⟨i₁, i₂, i₃⟩ := ih (Balanced.appendOrphaned h)
      ((hnames.weaken (by simp)).appendOrphaned h)
    refine ⟨i₁, ?_, i₃.trans h₁⟩
    rw [foldl_cons, i₂, h₂]
    simp only [sites_append, sites_cons, sites_nil, site_orphan, ← Multiset.singleton_add]
    abel

lemma foldl_setHint (ps : List Physical) (id : Int) (s : Store) :
    ∃ hints, ps.foldl (fun s p => s.setHint p.hintToken ⟨id, p.core⟩) s =
        { s with liveHints := hints } ∧ (∀ τ ∉ tokens ps, hints τ = s.liveHints τ) ∧
      ((tokens ps).Nodup → ∀ p ∈ ps, hints p.hintToken = some ⟨id, p.core⟩) := by
  induction ps generalizing s with
  | nil => exact ⟨s.liveHints, rfl, fun _ _ => rfl, by simp⟩
  | cons p _ ih =>
    obtain ⟨hints, heq, hother, hset⟩ := ih (s.setHint p.hintToken ⟨id, p.core⟩)
    refine ⟨hints, heq, fun τ hτ => ?_, fun hnd q hq => ?_⟩
    · rw [tokens_cons, mem_cons, not_or] at hτ
      rw [hother τ hτ.2]
      exact Function.update_of_ne hτ.1 _ _
    rw [tokens_cons, nodup_cons] at hnd
    rcases mem_cons.mp hq with rfl | hq
    · rw [hother _ hnd.1]
      exact Function.update_self _ _ _
    · exact hset hnd.2 q hq

variable {l : Logical}

lemma Store.Names.enter {hints : UInt32 → Option HintTarget} (h : s.Names [])
    (hb : Balanced m (l.physical ++ hand) gone s)
    (hother : ∀ τ ∉ tokens l.physical, hints τ = s.liveHints τ)
    (hset : ∀ p ∈ l.physical, hints p.hintToken = some ⟨l.dapID, p.core⟩) :
    Store.Names { s with live := s.live ++ [l], liveHints := hints } [] := by
  intro τ _ tgt
  change hints τ = some tgt ↔ _
  have href : Store.Refers { s with live := s.live ++ [l], liveHints := hints } τ tgt ↔
      (∃ p ∈ l.physical, p.hintToken = τ ∧ tgt = ⟨l.dapID, p.core⟩) ∨ s.Refers τ tgt := by
    simp only [Store.Refers, Store.waiting, mem_append, mem_singleton, or_and_right,
      exists_or, exists_eq_left]
    rw [or_comm (b := ∃ p ∈ l.physical, _), or_assoc]
  rw [href]
  by_cases hτ : τ ∈ tokens l.physical
  · obtain ⟨p, hp, rfl⟩ := mem_map.mp hτ
    have hfr : p.hintToken ∉ tokens s.tracked := by
      have hperm : (p :: (l.physical ++ hand).erase p).Perm (l.physical ++ hand) :=
        (perm_cons_erase (mem_append_left _ hp)).symm
      exact (hb.perm hperm).hand_notMem_tracked
    rw [hset p hp, Option.some.injEq, or_iff_left (Store.not_refers hfr)]
    constructor
    · rintro rfl
      exact ⟨p, hp, rfl, rfl⟩
    · rintro ⟨q, hq, hqp, rfl⟩
      rw [inj_on_of_nodup_map (Balanced.nodup_hand hb) hq hp hqp]
  · rw [hother τ hτ, h τ (by simp)]
    refine (or_iff_right ?_).symm
    rintro ⟨p, hp, rfl, -⟩
    exact hτ (mem_tokens hp)

lemma enter_spec (h : Balanced m (l.physical ++ hand) gone s)
    (hfree : ∀ k ∈ s.live, k.key ≠ l.key) (hnames : s.Names []) :
    ∃ hints, s.enter l = { s with live := s.live ++ [l], liveHints := hints } ∧
      Balanced m hand gone (s.enter l) ∧ (s.enter l).Names [] := by
  obtain ⟨hints, heq, hother, hset⟩ := foldl_setHint l.physical l.dapID (s.insert l)
  have hins : s.insert l = { s with live := s.live ++ [l] } := by
    simp only [Store.insert, Store.live_delete_of_forall_ne hfree]
    rfl
  have hen : s.enter l = { s with live := s.live ++ [l], liveHints := hints } := by
    rw [Store.enter, heq, hins]
  refine ⟨hints, hen, ?_, ?_⟩
  · refine Balanced.of_holds_eq (Balanced.insert h hfree) ?_ ?_
    · rw [hen, hins]
      rfl
    · rw [hen, hins]
  rw [hen]
  rw [hins] at hother
  exact hnames.enter h hother (hset (Balanced.nodup_hand h))

/-- What the commit of one outcome does. -/
structure Commits (detached : Bool) (out : PlacementOutcome) (l : Logical) (s t : Store) :
    Prop where
  logical : l = { out.logical with dapID := s.nextDAPID + 1 }
  nextDAPID : t.nextDAPID = s.nextDAPID + 1
  hintTokens : t.hintTokens = s.hintTokens
  cleanupOwners : t.cleanupOwners = s.cleanupOwners
  live : t.live = if out.logical.verified && !detached then s.live ++ [l] else s.live
  pending : ∀ x ∈ sites s.pending, x ∈ sites t.pending
  orphaned : ∀ x ∈ sites s.orphaned, x ∈ sites t.orphaned
  rolledBack : detached = false → ∀ p ∈ out.rollbackFailed, p.site ∈ sites t.orphaned

lemma commitOutcome_spec {out : PlacementOutcome} (detached : Bool)
    (h : Balanced m (out.records ++ hand) gone s) (hnames : s.Names [])
    (hver : out.logical.verified = true → out.rollbackFailed = [])
    (hunv : out.logical.verified = false → out.logical.physical = [])
    (hfree : ∀ k ∈ s.live, k.key ≠ out.logical.key) :
    Balanced m hand gone (s.commitOutcome out detached).1 ∧
      (s.commitOutcome out detached).1.Names [] ∧
      Commits detached out (s.commitOutcome out detached).2 s (s.commitOutcome out detached).1 := by
  have hb : Balanced m (out.records ++ hand) gone { s with nextDAPID := s.nextDAPID + 1 } :=
    h.of_holds_eq rfl rfl
  have hn : Store.Names { s with nextDAPID := s.nextDAPID + 1 } [] := hnames
  cases detached with
  | true =>
    -- a detach sends every record to the pending ones, verified or not
    have heq : s.commitOutcome out true =
        (out.records.foldl Store.appendPending { s with nextDAPID := s.nextDAPID + 1 },
          { out.logical with dapID := s.nextDAPID + 1 }) := by
      cases hv : out.logical.verified
      · simp [Store.commitOutcome, hv, PlacementOutcome.records, hunv hv]
      · simp [Store.commitOutcome, hv, PlacementOutcome.records, hver hv]
    have hsm := Store.SameLive.foldl Store.sameLive_pending out.records
      { s with nextDAPID := s.nextDAPID + 1 }
    obtain ⟨hnam, hpend, horph⟩ := foldl_appendPending_spec hb hn
    rw [heq]
    refine ⟨hb.foldl_appendPending, hnam, rfl, hsm.nextDAPID, hsm.hintTokens,
      hsm.cleanupOwners, by simpa using hsm.live, ?_, ?_, by simp⟩
    · intro x hx
      rw [hpend]
      exact Multiset.mem_add.mpr (.inl hx)
    intro x hx
    rw [horph]
    exact hx
  | false =>
    cases hv : out.logical.verified with
    | true =>
      have hrec : out.records = out.logical.physical := by
        rw [PlacementOutcome.records, hver hv, append_nil]
      have heq : s.commitOutcome out false = (Store.enter { s with nextDAPID := s.nextDAPID + 1 }
            { out.logical with dapID := s.nextDAPID + 1 },
            { out.logical with dapID := s.nextDAPID + 1 }) := by
        simp [Store.commitOutcome, hv, hver hv]
      rw [hrec] at hb
      obtain ⟨hints, hen, hbal, hnam⟩ := enter_spec
        (l := { out.logical with dapID := s.nextDAPID + 1 }) hb hfree hn
      rw [heq]
      refine ⟨hbal, hnam, ?_⟩
      rw [hen]
      exact ⟨rfl, rfl, rfl, rfl, by simp [hv], fun _ hx => hx, fun _ hx => hx, by simp [hver hv]⟩
    | false =>
      have hrec : out.records = out.rollbackFailed := by
        rw [PlacementOutcome.records, hunv hv, nil_append]
      have heq : s.commitOutcome out false =
          (out.rollbackFailed.foldl Store.appendOrphaned { s with nextDAPID := s.nextDAPID + 1 },
            { out.logical with dapID := s.nextDAPID + 1 }) := by
        simp [Store.commitOutcome, hv]
      rw [hrec] at hb
      have hsm := Store.SameLive.foldl Store.sameLive_orphaned out.rollbackFailed
        { s with nextDAPID := s.nextDAPID + 1 }
      obtain ⟨hnam, horph, hpend⟩ := foldl_appendOrphaned_spec hb hn
      rw [heq]
      refine ⟨hb.foldl_appendOrphaned, hnam, rfl, hsm.nextDAPID, hsm.hintTokens,
        hsm.cleanupOwners, by simpa [hv] using hsm.live, ?_, ?_, ?_⟩
      · intro x hx
        rw [hpend]
        exact hx
      · intro x hx
        rw [horph]
        exact Multiset.mem_add.mpr (.inl hx)
      intro _ p hp
      rw [horph]
      exact Multiset.mem_add.mpr (.inr (mem_sites hp))

/-! ### All requested lines -/

section Lines

variable {plan : Plan} {placed : Int → PlacementOutcome} {detached : Bool} {b : Store}
variable {ow : Owner} {src : Identity} {cores committed rest : List Int} {line : Int}
variable {res : ReplaceResult}

/-- The line has no live record that is kept. -/
def Plan.isNew (plan : Plan) (line : Int) : Bool := (plan.kept line).isNone

/-- Where the commit of the requested lines stands, having started with the store `b`. -/
structure Committing (m : Multiset Site) (gone : List Physical) (plan : Plan)
    (placed : Int → PlacementOutcome) (detached : Bool) (b : Store) (committed rest : List Int)
    (s : Store) (res : ReplaceResult) : Prop where
  balanced : Balanced m ((rest.filter plan.isNew).flatMap fun l => (placed l).records) gone s
  names : s.Names []
  cleanupOwners : s.cleanupOwners = b.cleanupOwners
  nextDAPID : b.nextDAPID ≤ s.nextDAPID
  lines : res.breakpoints.map (·.line) = committed
  /-- An entry is the kept record of its line, or its outcome under a new id. -/
  entries : ∀ l ∈ res.breakpoints, plan.kept l.line = some l ∨
    plan.kept l.line = none ∧ b.nextDAPID < l.dapID ∧ l.dapID ≤ s.nextDAPID ∧
      l = { (placed l.line).logical with dapID := l.dapID }
  fresh : ((res.breakpoints.filter fun l => plan.isNew l.line).map (·.dapID)).Pairwise (· < ·)
  live : s.live = b.live ++
    if detached then [] else res.breakpoints.filter fun l => plan.isNew l.line && l.verified
  pending : ∀ x ∈ sites b.pending, x ∈ sites s.pending
  orphaned : ∀ x ∈ sites b.orphaned, x ∈ sites s.orphaned
  rolledBack : detached = false → ∀ line ∈ committed, plan.kept line = none →
    ∀ p ∈ (placed line).rollbackFailed, p.site ∈ sites s.orphaned

lemma commitLine_kept (hkp : plan.kept line = some l) :
    commitLine plan placed detached (s, res) line =
      (s, { res with breakpoints := res.breakpoints ++ [l] }) := by
  simp only [commitLine, hkp]

lemma commitLine_new (hnew : plan.kept line = none) :
    commitLine plan placed detached (s, res) line =
      ((s.commitOutcome (placed line) detached).1,
        { breakpoints := res.breakpoints ++ [(s.commitOutcome (placed line) detached).2]
          orphans := res.orphans ++ if detached then [] else (placed line).rollbackFailed }) := by
  simp only [commitLine, hnew]

section

variable (h : Committing m gone plan placed detached b committed (line :: rest) s res)

include h

lemma Committing.kept (hkp : plan.kept line = some l) (hln : l.line = line) :
    Committing m gone plan placed detached b (committed ++ [line]) rest s
      { res with breakpoints := res.breakpoints ++ [l] } := by
  have hnew : plan.isNew line = false := by simp [Plan.isNew, hkp]
  have hlnew : plan.isNew l.line = false := by rw [hln, hnew]
  constructor
  case balanced => simpa [hnew] using h.balanced
  case names => exact h.names
  case cleanupOwners => exact h.cleanupOwners
  case nextDAPID => exact h.nextDAPID
  case lines => simp [h.lines, hln]
  case entries =>
    intro k hk
    rcases mem_append.mp hk with hk | hk
    · exact h.entries k hk
    · obtain rfl := mem_singleton.mp hk
      exact .inl (hln ▸ hkp)
  case fresh => simpa [hlnew] using h.fresh
  case live => simpa [hlnew] using h.live
  case pending => exact h.pending
  case orphaned => exact h.orphaned
  case rolledBack =>
    intro hd k hk hknew
    rcases mem_append.mp hk with hk | hk
    · exact h.rolledBack hd k hk hknew
    · rw [mem_singleton.mp hk, hkp] at hknew
      cases hknew

lemma Committing.new {seg : List Event}
    (hnew : plan.kept line = none) (hpl : Placed ow src line cores seg (placed line))
    (hfree : ∀ k ∈ b.live, k.key ≠ (src.key, line)) (hln : line ∉ committed) :
    Committing m gone plan placed detached b (committed ++ [line]) rest
      (commitLine plan placed detached (s, res) line).1
      (commitLine plan placed detached (s, res) line).2 := by
  have hisn : plan.isNew line = true := by simp [Plan.isNew, hnew]
  have hbal : Balanced m ((placed line).records ++
      (rest.filter plan.isNew).flatMap fun l => (placed l).records) gone s := by
    simpa [hisn] using h.balanced
  have hke : (placed line).logical.key = (src.key, line) := by
    simp [Logical.key, hpl.identity]
  -- the place is free: the lines committed before are other lines
  have hfree' : ∀ k ∈ s.live, k.key ≠ (placed line).logical.key := by
    intro k hk
    rw [h.live, mem_append] at hk
    rw [hke]
    rcases hk with hk | hk
    · exact hfree k hk
    rintro hkk
    apply hln
    have hme : k ∈ res.breakpoints := by
      split_ifs at hk
      · cases hk
      · exact mem_of_mem_filter hk
    rw [← h.lines]
    exact mem_map.mpr ⟨k, hme, congrArg snd hkk⟩
  obtain ⟨h₁, h₂, hc⟩ := commitOutcome_spec detached hbal h.names
    (fun hv => (hpl.verified hv).1) hpl.unverified hfree'
  rw [commitLine_new hnew]
  generalize (s.commitOutcome (placed line) detached).1 = t at h₁ h₂ hc ⊢
  generalize (s.commitOutcome (placed line) detached).2 = l at hc ⊢
  have hlli : l.line = line := by rw [hc.logical]; exact hpl.identity.2.2
  have hlver : l.verified = (placed line).logical.verified := by rw [hc.logical]
  have hlid : l.dapID = s.nextDAPID + 1 := by rw [hc.logical]
  have hlnew : plan.isNew l.line = true := by rw [hlli, hisn]
  have hnx := h.nextDAPID
  constructor
  case balanced => exact h₁
  case names => exact h₂
  case cleanupOwners => exact hc.cleanupOwners.trans h.cleanupOwners
  case nextDAPID =>
    rw [hc.nextDAPID]
    omega
  case lines => simp [h.lines, hlli]
  case entries =>
    intro k hk
    rw [hc.nextDAPID]
    rcases mem_append.mp hk with hk | hk
    · rcases h.entries k hk with hkn | ⟨hkn, hlo, hhi, heq⟩
      · exact .inl hkn
      · exact .inr ⟨hkn, hlo, by omega, heq⟩
    obtain rfl := mem_singleton.mp hk
    right
    refine ⟨by rw [hlli]; exact hnew, by omega, by omega, ?_⟩
    rw [hlli, hlid]
    exact hc.logical
  case fresh =>
    rw [filter_append, map_append, pairwise_append]
    refine ⟨h.fresh, by simp [hlnew], ?_⟩
    intro i hi j hj
    obtain ⟨k, hk, rfl⟩ := mem_map.mp hi
    obtain rfl : j = l.dapID := by simpa [hlnew] using hj
    rw [mem_filter] at hk
    rcases h.entries k hk.1 with hkp | ⟨-, -, hhi, -⟩
    · simp [Plan.isNew, hkp] at hk
    · omega
  case live =>
    rw [hc.live, h.live, ← hlver]
    cases detached <;> cases hv : l.verified <;> simp [hlnew, hv]
  case pending => exact fun x hx => hc.pending x (h.pending x hx)
  case orphaned => exact fun x hx => hc.orphaned x (h.orphaned x hx)
  case rolledBack =>
    intro hd k hk hknew p hp
    rcases mem_append.mp hk with hk | hk
    · exact hc.orphaned _ (h.rolledBack hd k hk hknew p hp)
    · rw [mem_singleton.mp hk] at hp
      exact hc.rolledBack hd p hp

end

/-- The records of the lines that are replaced. -/
def Plan.oldRecords (plan : Plan) : List Physical :=
  plan.oldLines.flatMap fun line => (plan.old line).physical

/-- What a plan has to do with the store the transaction began with. -/
structure Planned (owner : Owner) (src : Identity) (requested : List Int) (start : World)
    (plan : Plan) : Prop where
  nodup : requested.Nodup
  kept : ∀ line ∈ requested, ∀ l, plan.kept line = some l →
    l ∈ start.store.live ∧ l.owner = owner ∧ l.key = (src.key, line)
  add : plan.add = requested.filter plan.isNew
  free : ∀ l ∈ start.store.live, ∀ line ∈ plan.add, l.key ≠ (src.key, line)
  oldNodup : plan.oldLines.Nodup
  oldFresh : ∀ line ∈ plan.oldLines, line ∉ requested
  old : ∀ line ∈ plan.oldLines, plan.old line = {} ∨
    plan.old line ∈ start.store.live ∧ (plan.old line).owner = owner ∧
      (plan.old line).key = (src.key, line)
  complete : ∀ l ∈ start.store.live, l.owner = owner → l.source.key = src.key →
    l.line ∈ requested ∧ plan.kept l.line = some l ∨ l.line ∈ plan.oldLines ∧ plan.old l.line = l

variable {start : World} {requested : List Int}

lemma committing_start (hpl : Planned ow src requested start plan)
    (hb : Balanced m (plan.add.flatMap fun l => (placed l).records) gone b) (hnames : b.Names []) :
    Committing m gone plan placed detached b [] requested b {} where
  balanced := hpl.add ▸ hb
  names := hnames
  cleanupOwners := rfl
  nextDAPID := le_refl _
  lines := rfl
  entries := by simp
  fresh := by simp
  live := by simp
  pending := fun _ hx => hx
  orphaned := fun _ hx => hx
  rolledBack := by simp

lemma Committing.foldl {segs : Int → List Event} (hpl : Planned ow src requested start plan)
    (hal : ∀ line ∈ plan.add, Placed ow src line cores (segs line) (placed line))
    (hfree : ∀ l ∈ b.live, ∀ line ∈ plan.add, l.key ≠ (src.key, line))
    (hspl : committed ++ rest = requested)
    (h : Committing m gone plan placed detached b committed rest s res) :
    Committing m gone plan placed detached b requested []
      (rest.foldl (commitLine plan placed detached) (s, res)).1
      (rest.foldl (commitLine plan placed detached) (s, res)).2 := by
  induction rest generalizing committed s res with
  | nil =>
    rw [append_nil] at hspl
    exact hspl ▸ h
  | cons line rest ih =>
    have hme : line ∈ requested := by rw [← hspl]; simp
    have hln : line ∉ committed := by
      intro hin
      have hnd := hpl.nodup
      rw [← hspl, nodup_append] at hnd
      exact hnd.2.2 line hin line mem_cons_self rfl
    have hspl' : committed ++ [line] ++ rest = requested := by simpa using hspl
    rw [foldl_cons]
    cases hk : plan.kept line with
    | some l =>
      rw [commitLine_kept hk]
      exact ih hspl' (h.kept hk (congrArg snd (hpl.kept line hme l hk).2.2))
    | none =>
      have hadd : line ∈ plan.add := by simp [hpl.add, hme, Plan.isNew, hk]
      exact ih hspl' (h.new hk (hal line hadd) (fun l hl => hfree l hl line hadd) hln)

/-! ### The old lines -/

lemma foldl_commitOld_detached (clears : Clears) (acc : Store × ReplaceResult) :
    plan.oldLines.foldl (commitOld ow src plan clears true) acc =
      plan.oldRecords.foldl (commitCleared clears true) acc := by
  rw [Plan.oldRecords, foldl_flatMap]
  rfl

/-- The live records that are left when the owner's records on some lines are taken away. -/
def without (owner : Owner) (src : Identity) (lines : List Int) (ls : List Logical) :
    List Logical :=
  ls.filter fun l => ¬ (l.owner = owner ∧ l.source.key = src.key ∧ l.line ∈ lines)

variable {ls : List Logical} {lines : List Int}

lemma mem_without : l ∈ without ow src lines ls ↔
      l ∈ ls ∧ ¬ (l.owner = ow ∧ l.source.key = src.key ∧ l.line ∈ lines) := by
  rw [without, mem_filter, decide_eq_true_eq]

/-- Where the commit of the old lines stands when there was no detach. -/
structure Settling (m : Multiset Site) (owner : Owner) (src : Identity) (plan : Plan)
    (clears : Clears) (b : Store) (settled rest : List Int) (s : Store)
    (res res' : ReplaceResult) : Prop where
  balanced : Balanced m [] (clearedBy clears (rest.flatMap fun line => (plan.old line).physical)) s
  names : s.Names []
  live : s.live = without owner src settled b.live
  nextDAPID : s.nextDAPID = b.nextDAPID
  cleanupOwners : s.cleanupOwners = b.cleanupOwners
  breakpoints : res'.breakpoints = res.breakpoints
  orphaned : ∀ x ∈ sites b.orphaned, x.token ∉ tokens plan.oldRecords → x ∈ sites s.orphaned

lemma without_snoc_of_none (h : ∀ l ∈ ls, l.owner = ow → l.key ≠ (src.key, line)) :
    without ow src (lines ++ [line]) ls = without ow src lines ls := by
  refine filter_congr fun l hl => decide_eq_decide.mpr (not_congr ?_)
  refine and_congr_right fun hon => and_congr_right fun hke => ?_
  have hne : l.line ≠ line := fun hln => h l hl hon (Prod.ext hke hln)
  simp [hne]

lemma live_delete_without {t : Store}
    (ht : t.live = without ow src lines ls) (hks : (ls.map Logical.key).Nodup)
    (hl : l ∈ ls) (hon : l.owner = ow) (hke : l.key = (src.key, line)) :
    (t.delete l.source.key l.line).live = without ow src (lines ++ [line]) ls := by
  have hlkey : (l.source.key, l.line) = (src.key, line) := hke
  rw [Store.live_delete, ht, without, without, filter_filter, hlkey]
  refine filter_congr fun k hk => ?_
  rw [← Bool.decide_and, decide_eq_decide]
  constructor
  · rintro ⟨hne, hou⟩ ⟨ho, hke', hin⟩
    rcases mem_append.mp hin with hin | hin
    · exact hou ⟨ho, hke', hin⟩
    · exact hne (Prod.ext hke' (mem_singleton.mp hin))
  intro hou
  refine ⟨fun heq => ?_, fun ⟨ho, hke', hin⟩ => hou ⟨ho, hke', mem_append_left _ hin⟩⟩
  obtain rfl := inj_on_of_nodup_map hks hk hl (heq.trans hke.symm)
  have hln : k.line = line := congrArg snd heq
  exact hou ⟨hon, congrArg fst heq, by simp [hln]⟩

lemma Store.Names.delete (h : s.Names []) (hl : l ∈ s.live) (hks : (s.live.map Logical.key).Nodup) :
    (s.delete l.source.key l.line).Names (tokens l.physical) := by
  intro τ hτ tgt
  rw [show (s.delete l.source.key l.line).liveHints = s.liveHints from rfl, h τ (by simp)]
  refine or_congr (exists_congr fun k => ?_) Iff.rfl
  rw [Store.live_delete, mem_filter, decide_eq_true_eq]
  refine ⟨fun ⟨hk, hp⟩ => ⟨⟨hk, fun heq => ?_⟩, hp⟩, fun ⟨hk, hp⟩ => ⟨hk.1, hp⟩⟩
  obtain rfl := inj_on_of_nodup_map hks hk hl heq
  obtain ⟨p, hp, rfl, -⟩ := hp
  exact hτ (mem_tokens hp)

variable {res' : ReplaceResult} {settled : List Int}

lemma Settling.skip (h : Settling m ow src plan clears b settled (line :: rest) s res res')
    (hold : plan.old line = {}) (hnn : ∀ l ∈ b.live, l.owner = ow → l.key ≠ (src.key, line)) :
    Settling m ow src plan clears b (settled ++ [line]) rest
      (commitOld ow src plan clears false (s, res') line).1 res
      (commitOld ow src plan clears false (s, res') line).2 := by
  have hany : (s.lookup src.key line).any (·.owner == ow) = false := by
    cases hlook : s.lookup src.key line with
    | none => rfl
    | some k =>
      obtain ⟨hk, hke⟩ := Store.lookup_eq_some hlook
      rw [h.live, mem_without] at hk
      rw [Option.any_some, beq_eq_false_iff_ne]
      exact fun hon => hnn k hk.1 hon hke
  have heq : commitOld ow src plan clears false (s, res') line = (s, res') := by
    simp [commitOld, hany, hold]
  have hbal := h.balanced
  rw [flatMap_cons, hold] at hbal
  rw [heq]
  exact { h with balanced := hbal, live := by rw [without_snoc_of_none hnn, h.live] }

lemma Settling.remove (h : Settling m ow src plan clears b settled (line :: rest) s res res')
    (hks : (b.live.map Logical.key).Nodup) (hln : line ∉ settled)
    (hl : plan.old line ∈ b.live) (hon : (plan.old line).owner = ow)
    (hke : (plan.old line).key = (src.key, line))
    (htri : ∀ p ∈ (plan.old line).physical, clears p.hintToken ≠ none)
    (hin : ∀ p ∈ (plan.old line).physical, p ∈ plan.oldRecords) :
    Settling m ow src plan clears b (settled ++ [line]) rest
      (commitOld ow src plan clears false (s, res') line).1 res
      (commitOld ow src plan clears false (s, res') line).2 := by
  have hkeys' : (s.live.map Logical.key).Nodup := by
    rw [h.live]
    exact hks.sublist (filter_sublist.map _)
  have hke₁ : (plan.old line).source.key = src.key := congrArg fst hke
  have hke₂ : (plan.old line).line = line := congrArg snd hke
  have hls : plan.old line ∈ s.live := by
    rw [h.live, mem_without, hke₂]
    exact ⟨hl, fun hou => hln hou.2.2⟩
  have hlook : s.lookup src.key line = some (plan.old line) := by
    have := Store.lookup_of_mem hkeys' hls
    rwa [hke₁, hke₂] at this
  have heq : commitOld ow src plan clears false (s, res') line =
      (plan.old line).physical.foldl (commitCleared clears false)
        (s.delete (plan.old line).source.key (plan.old line).line, res') := by
    simp [commitOld, hlook, hon, hke₁, hke₂]
  have hbal := h.balanced
  rw [flatMap_cons] at hbal
  obtain ⟨h₁, h₂, h₃⟩ := foldl_commitCleared res' (hbal.delete hkeys' hls)
    (h.names.delete hls hkeys') htri
  rw [heq]
  exact
    { balanced := h₁
      names := h₂
      live := h₃.same.live.trans (live_delete_without h.live hks hl hon hke)
      nextDAPID := h₃.same.nextDAPID.trans h.nextDAPID
      cleanupOwners := h₃.same.cleanupOwners.trans h.cleanupOwners
      breakpoints := h₃.breakpoints.trans h.breakpoints
      orphaned := fun x hx hex => h₃.orphaned x (h.orphaned x hx hex) fun hme => by
        obtain ⟨p, hp, hto⟩ := mem_map.mp hme
        exact hex (hto ▸ mem_tokens (hin p hp)) }

lemma settling_start (res : ReplaceResult)
    (h : Balanced m [] (clearedBy clears plan.oldRecords) b) (hnames : b.Names []) :
    Settling m ow src plan clears b [] plan.oldLines b res res where
  balanced := h
  names := hnames
  live := by simp [without]
  nextDAPID := rfl
  cleanupOwners := rfl
  breakpoints := rfl
  orphaned := fun _ hx _ => hx

lemma Settling.foldl (hpl : Planned ow src requested start plan)
    (hks : (b.live.map Logical.key).Nodup)
    (hhas : ∀ line ∈ plan.oldLines, plan.old line ≠ {} → plan.old line ∈ b.live)
    (hnn : ∀ line ∈ plan.oldLines, plan.old line = {} →
      ∀ l ∈ b.live, l.owner = ow → l.key ≠ (src.key, line))
    (htri : ∀ p ∈ plan.oldRecords, clears p.hintToken ≠ none)
    (hspl : settled ++ rest = plan.oldLines)
    (h : Settling m ow src plan clears b settled rest s res res') :
    Settling m ow src plan clears b plan.oldLines []
      (rest.foldl (commitOld ow src plan clears false) (s, res')).1 res
      (rest.foldl (commitOld ow src plan clears false) (s, res')).2 := by
  induction rest generalizing settled s res' with
  | nil =>
    rw [append_nil] at hspl
    exact hspl ▸ h
  | cons line rest ih =>
    have hme : line ∈ plan.oldLines := by rw [← hspl]; simp
    have hln : line ∉ settled := by
      intro hin
      have hnd := hpl.oldNodup
      rw [← hspl, nodup_append] at hnd
      exact hnd.2.2 line hin line mem_cons_self rfl
    have hspl' : settled ++ [line] ++ rest = plan.oldLines := by simpa using hspl
    have hin : ∀ p ∈ (plan.old line).physical, p ∈ plan.oldRecords :=
      fun p hp => mem_flatMap.mpr ⟨line, hme, hp⟩
    rw [foldl_cons]
    by_cases hemp : plan.old line = {}
    · exact ih hspl' (h.skip hemp (hnn line hme hemp))
    obtain ⟨-, hon, hke⟩ := (hpl.old line hme).resolve_left hemp
    exact ih hspl' (h.remove hks hln (hhas line hme hemp) hon hke
      (fun p hp => htri p (hin p hp)) hin)

/-! ### The whole commit -/

/-- What the whole commit comes to, having started with the store `b`. -/
structure Committed (m : Multiset Site) (owner : Owner) (src : Identity) (requested : List Int)
    (plan : Plan) (placed : Int → PlacementOutcome) (b s : Store) (res : ReplaceResult) :
    Prop where
  balanced : Balanced m [] [] s
  names : s.Names []
  cleanupOwners : s.cleanupOwners = b.cleanupOwners
  nextDAPID : b.nextDAPID ≤ s.nextDAPID
  lines : res.breakpoints.map (·.line) = requested
  entries : ∀ l ∈ res.breakpoints, plan.kept l.line = some l ∨
    plan.kept l.line = none ∧ b.nextDAPID < l.dapID ∧ l.dapID ≤ s.nextDAPID ∧
      l = { (placed l.line).logical with dapID := l.dapID }
  fresh : ((res.breakpoints.filter fun l => plan.isNew l.line).map (·.dapID)).Pairwise (· < ·)
  keys : (s.live.map Logical.key).Nodup
  live : s.live = if b.cleanupOwners owner then b.live
    else without owner src plan.oldLines
      (b.live ++ res.breakpoints.filter fun l => plan.isNew l.line && l.verified)
  rolledBack : b.cleanupOwners owner = false → ∀ line ∈ requested, plan.kept line = none →
    ∀ p ∈ (placed line).rollbackFailed, p.site ∈ sites s.orphaned

section Whole

variable {segs : Int → List Event} {seg es : List Event} {w : World}

lemma new_entry {k : Int} (hpl : Planned ow src requested start plan)
    (hal : ∀ line ∈ plan.add, Placed ow src line cores (segs line) (placed line))
    (hlin : res.breakpoints.map (·.line) = requested)
    (hentr : ∀ l ∈ res.breakpoints, plan.kept l.line = some l ∨
      plan.kept l.line = none ∧ b.nextDAPID < l.dapID ∧ l.dapID ≤ k ∧
        l = { (placed l.line).logical with dapID := l.dapID })
    (hl : l ∈ res.breakpoints) (hnew : plan.isNew l.line = true) :
    l.line ∈ plan.add ∧ l.owner = ow ∧ l.source = src ∧
      l = { (placed l.line).logical with dapID := l.dapID } := by
  have hme : l.line ∈ requested := hlin ▸ mem_map_of_mem hl
  have hadd : l.line ∈ plan.add := by simp [hpl.add, hme, hnew]
  rcases hentr l hl with hkp | ⟨-, -, -, heq⟩
  · simp [Plan.isNew, hkp] at hnew
  obtain ⟨hon, hsrc, -⟩ := (hal _ hadd).identity
  exact ⟨hadd, (congrArg Logical.owner heq).trans hon,
    (congrArg Logical.source heq).trans hsrc, heq⟩

lemma Committing.keys (h : Committing m gone plan placed false b requested [] s res)
    (hpl : Planned ow src requested start plan)
    (hal : ∀ line ∈ plan.add, Placed ow src line cores (segs line) (placed line))
    (hfree : ∀ l ∈ b.live, ∀ line ∈ plan.add, l.key ≠ (src.key, line))
    (hks : (b.live.map Logical.key).Nodup) : (s.live.map Logical.key).Nodup := by
  rw [h.live, if_neg Bool.false_ne_true, map_append, nodup_append]
  refine ⟨hks, ?_, ?_⟩
  · refine List.Nodup.map_on ?_ ?_
    · intro l hl k hk heq
      have hnd : (res.breakpoints.map (·.line)).Nodup := h.lines ▸ hpl.nodup
      exact inj_on_of_nodup_map hnd (mem_of_mem_filter hl) (mem_of_mem_filter hk) (congrArg snd heq)
    · exact List.Nodup.filter _ (List.Nodup.of_map _ (h.lines ▸ hpl.nodup))
  intro x hx y hy hxy
  obtain ⟨l, hl, rfl⟩ := mem_map.mp hx
  obtain ⟨k, hk, rfl⟩ := mem_map.mp hy
  simp only [mem_filter, Bool.and_eq_true] at hk
  obtain ⟨hadd, -, hsrc, -⟩ := new_entry hpl hal h.lines h.entries hk.1 hk.2.1
  exact hfree l hl _ hadd (hxy.trans (Prod.ext (congrArg Identity.key hsrc) rfl))

section

variable (hpl : Planned ow src requested start plan)

include hpl

lemma Clearing.hand_notMem_old
    (h : Clearing ow start es hand plan.oldRecords clears seg w) (hp : p ∈ hand) :
    p.hintToken ∉ tokens plan.oldRecords := by
  intro hin
  obtain ⟨q, hq, hto⟩ := mem_map.mp hin
  obtain ⟨line, hln, hq⟩ := mem_flatMap.mp hq
  rcases hpl.old line hln with hemp | ⟨hl, hon, -⟩
  · simp [hemp] at hq
  have htr := token_mem_of_site_mem (h.flight.old_tracked hl hon hq)
  have hperm : (p :: hand.erase p).Perm hand := (perm_cons_erase hp).symm
  refine (Balanced.perm h.flight.held hperm).hand_notMem_tracked ?_
  rw [← hto]
  exact htr

section

variable (hal : ∀ line ∈ plan.add, Placed ow src line cores (segs line) (placed line))
variable (h : Clearing ow start es (plan.add.flatMap fun line => (placed line).records)
  plan.oldRecords clears seg w)

include hal h

lemma Clearing.committing (detached : Bool) :
    Committing (present w.log) (clearedBy clears plan.oldRecords) plan placed detached w.store
      requested [] (requested.foldl (commitLine plan placed detached) (w.store, {})).1
      (requested.foldl (commitLine plan placed detached) (w.store, {})).2 :=
  (committing_start hpl h.flight.held h.flight.sound.hints).foldl hpl hal
    (fun l hl => hpl.free l (h.flight.live l hl)) (nil_append _)

lemma commit_attached (hf : w.store.cleanupOwners ow = false) :
    Committed (present w.log) ow src requested plan placed w.store
      (w.store.commit ow src requested plan placed clears).1
      (w.store.commit ow src requested plan placed clears).2 := by
  have hso := h.flight.sound
  have hfree : ∀ l ∈ w.store.live, ∀ line ∈ plan.add, l.key ≠ (src.key, line) :=
    fun l hl => hpl.free l (h.flight.live l hl)
  have hre := h.committing hpl hal false
  simp only [Store.commit, hf]
  generalize requested.foldl (commitLine plan placed false) (w.store, {}) = acc at hre ⊢
  obtain ⟨s, res⟩ := acc
  have hlive : s.live = w.store.live ++
      res.breakpoints.filter fun l => plan.isNew l.line && l.verified := by
    simpa using hre.live
  have hhas : ∀ line ∈ plan.oldLines, plan.old line ≠ {} → plan.old line ∈ s.live := by
    intro line hln hne
    obtain ⟨hl, hon, -⟩ := (hpl.old line hln).resolve_left hne
    rw [hlive]
    exact mem_append_left _ (h.flight.steady hf _ hl hon)
  have hnn : ∀ line ∈ plan.oldLines, plan.old line = {} →
      ∀ l ∈ s.live, l.owner = ow → l.key ≠ (src.key, line) := by
    intro line hln hemp l hl hon hke
    obtain rfl : l.line = line := congrArg snd hke
    rw [hlive, mem_append, mem_filter] at hl
    have hre' : l.line ∉ requested := hpl.oldFresh _ hln
    rcases hl with hl | ⟨hl, -⟩
    · -- an old record of the owner is in the plan, and it is verified
      rcases hpl.complete l (h.flight.live l hl) hon (congrArg fst hke) with hk | ⟨-, hold⟩
      · exact hre' hk.1
      have hver := hso.verified l hl
      rw [← hold, hemp] at hver
      cases hver
    · exact hre' (hre.lines ▸ mem_map_of_mem hl)
  have hks := hre.keys hpl hal hfree hso.keys
  have hset := (settling_start res hre.balanced hre.names).foldl hpl hks hhas hnn
    (h.tried hf) (nil_append _)
  exact
    { balanced := hset.balanced
      names := hset.names
      cleanupOwners := hset.cleanupOwners.trans hre.cleanupOwners
      nextDAPID := by rw [hset.nextDAPID]; exact hre.nextDAPID
      lines := by rw [hset.breakpoints]; exact hre.lines
      entries := by rw [hset.breakpoints, hset.nextDAPID]; exact hre.entries
      fresh := by rw [hset.breakpoints]; exact hre.fresh
      keys := by rw [hset.live]; exact hks.sublist (filter_sublist.map _)
      live := by rw [hset.live, hset.breakpoints, hlive, hf, if_neg Bool.false_ne_true]
      rolledBack := fun _ line hln hkp p hp => by
        refine hset.orphaned _ (hre.rolledBack rfl line hln hkp p hp) ?_
        have hadd : line ∈ plan.add := by simp [hpl.add, hln, Plan.isNew, hkp]
        exact h.hand_notMem_old hpl (mem_flatMap.mpr ⟨line, hadd, mem_append_right _ hp⟩) }

lemma commit_detached (hnd : (tokens plan.oldRecords).Nodup)
    (hf : w.store.cleanupOwners ow = true) :
    Committed (present w.log) ow src requested plan placed w.store
      (w.store.commit ow src requested plan placed clears).1
      (w.store.commit ow src requested plan placed clears).2 := by
  have hso := h.flight.sound
  have hre := h.committing hpl hal true
  simp only [Store.commit, hf]
  generalize requested.foldl (commitLine plan placed true) (w.store, {}) = acc at hre ⊢
  obtain ⟨s, res⟩ := acc
  have hlive : s.live = w.store.live := by simpa using hre.live
  -- the old records were swept to the pending ones by the detach
  have hwait : ∀ p ∈ plan.oldRecords, p.site ∈ sites s.pending := by
    intro p hp
    obtain ⟨line, hln, hp⟩ := mem_flatMap.mp hp
    rcases hpl.old line hln with hemp | ⟨hl, hon, -⟩
    · simp [hemp] at hp
    · exact hre.pending _ (mem_sites (p := p.detached) (h.flight.swept hf _ hl hon p hp))
  have hbal : Balanced (present w.log) [] (clearedBy clears (plan.oldRecords ++ [])) s := by
    rw [append_nil]
    exact hre.balanced
  obtain ⟨h₁, h₂, h₃⟩ := foldl_commitCleared_detached res hbal hnd hwait hre.names
  rw [foldl_commitOld_detached]
  exact
    { balanced := h₁
      names := h₂
      cleanupOwners := h₃.same.cleanupOwners.trans hre.cleanupOwners
      nextDAPID := by rw [h₃.same.nextDAPID]; exact hre.nextDAPID
      lines := by rw [h₃.breakpoints]; exact hre.lines
      entries := by rw [h₃.breakpoints, h₃.same.nextDAPID]; exact hre.entries
      fresh := by rw [h₃.breakpoints]; exact hre.fresh
      keys := by rw [h₃.same.live, hlive]; exact hso.keys
      live := by rw [h₃.same.live, hlive, hf, if_pos rfl]
      rolledBack := fun hf' => by
        rw [hf] at hf'
        cases hf' }

lemma commit_spec (hnd : (tokens plan.oldRecords).Nodup) :
    Committed (present w.log) ow src requested plan placed w.store
      (w.store.commit ow src requested plan placed clears).1
      (w.store.commit ow src requested plan placed clears).2 := by
  cases hf : w.store.cleanupOwners ow with
  | true => exact commit_detached hpl hal h hnd hf
  | false => exact commit_attached hpl hal h hf

end

end

end Whole

end Lines

end MultiDap.Breakpoint
