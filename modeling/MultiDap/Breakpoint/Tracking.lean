import MultiDap.Breakpoint.Store

/-!
# What the store tracks

A physical breakpoint is known by its `Site`: the hint token under which it was placed, its core
and its line. The operations of the store move records between its three collections; the lemmas
here say which sites each of them keeps, adds or removes.
-/

namespace MultiDap.Breakpoint

open List Function Physical

/-- The identity of a physical breakpoint. The token alone is already unique. -/
structure Site where
  token : UInt32
  core : Int
  line : Int
  deriving DecidableEq

def Physical.site (p : Physical) : Site := ⟨p.hintToken, p.core, p.requestedLine⟩

/-- The sites of a list of records, each as often as it occurs. -/
def sites (ps : List Physical) : Multiset Site := ↑(ps.map Physical.site)

def tokens (ps : List Physical) : List UInt32 := ps.map (·.hintToken)

@[simp] lemma sites_nil : sites [] = 0 := rfl

@[simp] lemma sites_cons (p : Physical) (ps : List Physical) :
    sites (p :: ps) = p.site ::ₘ sites ps := rfl

@[simp] lemma sites_append (ps qs : List Physical) : sites (ps ++ qs) = sites ps + sites qs := by
  simp [sites]

lemma sites_perm {ps qs : List Physical} (h : ps.Perm qs) : sites ps = sites qs :=
  Multiset.coe_eq_coe.mpr (h.map _)

@[simp] lemma tokens_nil : tokens [] = [] := rfl

@[simp] lemma tokens_cons (p : Physical) (ps : List Physical) :
    tokens (p :: ps) = p.hintToken :: tokens ps := rfl

@[simp] lemma tokens_append (ps qs : List Physical) : tokens (ps ++ qs) = tokens ps ++ tokens qs :=
  map_append

variable {ps : List Physical} {p : Physical}

lemma mem_tokens (h : p ∈ ps) : p.hintToken ∈ tokens ps := mem_map_of_mem h

lemma mem_sites (h : p ∈ ps) : p.site ∈ sites ps :=
  Multiset.mem_coe.mpr (mem_map_of_mem h)

lemma of_mem_sites {x : Site} (h : x ∈ sites ps) :
    ∃ p ∈ ps, p.site = x := mem_map.mp (Multiset.mem_coe.mp h)

lemma token_mem_of_site_mem (h : p.site ∈ sites ps) : p.hintToken ∈ tokens ps := by
  obtain ⟨q, hq, hsite⟩ := of_mem_sites h
  have : q.hintToken = p.hintToken := congrArg Site.token hsite
  exact this ▸ mem_tokens hq

/-! ### Identity of records -/

lemma samePhysical_eq {a b : Physical} (h : b.hintToken ≠ 0) :
    samePhysical a b = (a.hintToken == b.hintToken) := by
  simp [samePhysical, h]

lemma hasPhysical_eq_true (h : p.hintToken ≠ 0) :
    hasPhysical ps p = true ↔ p.hintToken ∈ tokens ps := by
  simp [hasPhysical, tokens, samePhysical_eq h]

lemma hasPhysical_eq_false (h : p.hintToken ≠ 0) :
    hasPhysical ps p = false ↔ p.hintToken ∉ tokens ps := by
  rw [← hasPhysical_eq_true h, Bool.not_eq_true]

lemma removePhysical_of (h : p.hintToken ≠ 0)
    (hp : p.hintToken ∉ tokens ps) : removePhysical ps p = ps := by
  refine eraseP_of_forall_not fun q hq => ?_
  rw [samePhysical_eq h, beq_iff_eq]
  intro heq
  exact hp (heq ▸ mem_tokens hq)

lemma sites_removePhysical (h : p.hintToken ≠ 0)
    (hnd : (tokens ps).Nodup) (hp : p.site ∈ sites ps) :
    sites ps = p.site ::ₘ sites (removePhysical ps p) := by
  induction ps with
  | nil => simp at hp
  | cons q ps ih =>
    rw [tokens_cons, nodup_cons] at hnd
    rw [removePhysical, eraseP_cons]
    rw [sites_cons, Multiset.mem_cons] at hp
    rcases hp with heq | hme
    · have hto : q.hintToken = p.hintToken := (congrArg Site.token heq).symm
      rw [samePhysical_eq h, hto, sites_cons, ← heq]
      simp
    -- the record is further down, so the head has another token
    have hne : q.hintToken ≠ p.hintToken := by
      intro heq
      exact hnd.1 (heq ▸ token_mem_of_site_mem hme)
    rw [samePhysical_eq h, beq_eq_false_iff_ne.mpr hne, sites_cons]
    change q.site ::ₘ sites ps = p.site ::ₘ sites (q :: removePhysical ps p)
    rw [ih hnd.2 hme, sites_cons, Multiset.cons_swap]

/-! ### The collections of the store -/

namespace Store

def tracked (s : Store) : List Physical := s.live.flatMap (·.physical) ++ s.pending ++ s.orphaned

lemma dapOwnedCount_eq (s : Store) : s.dapOwnedCount = s.tracked.length := by
  simp only [dapOwnedCount, tracked, length_append, length_flatMap]
  omega

/-- Two stores that differ at most in the records that wait for cleanup and in the hint table. -/
structure SameLive (s t : Store) : Prop where
  live : t.live = s.live
  nextDAPID : t.nextDAPID = s.nextDAPID
  hintTokens : t.hintTokens = s.hintTokens
  cleanupOwners : t.cleanupOwners = s.cleanupOwners

namespace SameLive

lemma refl (s : Store) : SameLive s s := ⟨rfl, rfl, rfl, rfl⟩

lemma trans {s t u : Store} (h₁ : SameLive s t) (h₂ : SameLive t u) : SameLive s u :=
  ⟨h₂.live.trans h₁.live, h₂.nextDAPID.trans h₁.nextDAPID, h₂.hintTokens.trans h₁.hintTokens,
    h₂.cleanupOwners.trans h₁.cleanupOwners⟩

lemma foldl {α : Type} {f : Store → α → Store} (h : ∀ s a, SameLive s (f s a)) (xs : List α)
    (s : Store) : SameLive s (xs.foldl f s) := by
  induction xs generalizing s with
  | nil => exact refl s
  | cons a _ ih => exact (h s a).trans (ih (f s a))

end SameLive

section

variable (s : Store)

include s

lemma sameLive_wakeOnly (p : Physical) : SameLive s (s.wakeOnly p) := by
  unfold wakeOnly
  split_ifs
  · exact ⟨rfl, rfl, rfl, rfl⟩
  · exact .refl s

lemma sameLive_pending (p : Physical) : SameLive s (s.appendPending p) := by
  unfold appendPending
  split_ifs
  · exact .refl s
  · refine .trans ?_ (sameLive_wakeOnly _ p)
    exact ⟨rfl, rfl, rfl, rfl⟩

lemma sameLive_orphaned (p : Physical) : SameLive s (s.appendOrphaned p) := by
  unfold appendOrphaned
  split_ifs
  · exact .refl s
  · refine .trans ?_ (sameLive_wakeOnly _ p)
    exact ⟨rfl, rfl, rfl, rfl⟩

lemma sameLive_moved (p : Physical) : SameLive s (s.movePendingToOrphaned p) := by
  unfold movePendingToOrphaned
  split_ifs
  · exact .refl s
  · refine .trans ?_ (sameLive_orphaned _ p)
    exact ⟨rfl, rfl, rfl, rfl⟩
  · exact .refl s

lemma sameLive_remove (p : Physical) : SameLive s (s.removePhysicalEvidence p) := by
  simp only [removePhysicalEvidence]
  split_ifs <;> exact ⟨rfl, rfl, rfl, rfl⟩

lemma sameLive_withdraw (p : Physical) : SameLive s (s.withdraw p) :=
  (sameLive_pending s p).trans (sameLive_wakeOnly _ p)

@[simp] lemma wakeOnly_pending (p : Physical) : (s.wakeOnly p).pending = s.pending := by
  unfold wakeOnly
  split_ifs <;> rfl

@[simp] lemma wakeOnly_orphaned (p : Physical) : (s.wakeOnly p).orphaned = s.orphaned := by
  unfold wakeOnly
  split_ifs <;> rfl

end

lemma wakeOnly_liveHints {s : Store} (h : p.hintToken ≠ 0) : (s.wakeOnly p).liveHints =
      Function.update s.liveHints p.hintToken (some { core := p.core }) := by
  rw [wakeOnly, if_pos h]
  rfl

end Store

def Physical.detached (p : Physical) : Physical := { p with pending := true, orphaned := false }

def Physical.orphan (p : Physical) : Physical := { p with pending := false, orphaned := true }

@[simp] lemma Physical.site_detached (p : Physical) : p.detached.site = p.site := rfl

@[simp] lemma Physical.site_orphan (p : Physical) : p.orphan.site = p.site := rfl

lemma sites_map_detached (ps : List Physical) : sites (ps.map Physical.detached) = sites ps := by
  simp [sites, comp_def]

lemma tokens_map_detached (ps : List Physical) : tokens (ps.map Physical.detached) = tokens ps := by
  simp [tokens, comp_def, detached]

namespace Store

lemma appendPending_fresh {s : Store} (h : p.hintToken ≠ 0)
    (hp : p.hintToken ∉ tokens s.pending) (ho : p.hintToken ∉ tokens s.orphaned) :
    (s.appendPending p).pending = s.pending ++ [p.detached] ∧
      (s.appendPending p).orphaned = s.orphaned ∧ (s.appendPending p).liveHints =
        Function.update s.liveHints p.hintToken (some { core := p.core }) := by
  rw [appendPending, if_neg]
  · rw [wakeOnly_liveHints h]
    simp [detached]
  · simp [(hasPhysical_eq_false h).mpr hp, (hasPhysical_eq_false h).mpr ho]

lemma appendOrphaned_fresh {s : Store} (h : p.hintToken ≠ 0)
    (ho : p.hintToken ∉ tokens s.orphaned) :
    (s.appendOrphaned p).pending = removePhysical s.pending p ∧
      (s.appendOrphaned p).orphaned = s.orphaned ++ [p.orphan] ∧ (s.appendOrphaned p).liveHints =
        Function.update s.liveHints p.hintToken (some { core := p.core }) := by
  rw [appendOrphaned, if_neg]
  · rw [wakeOnly_liveHints h]
    simp [orphan]
  · simp [(hasPhysical_eq_false h).mpr ho]

lemma withdraw_fresh {s : Store} (h : p.hintToken ≠ 0)
    (hp : p.hintToken ∉ tokens s.pending) (ho : p.hintToken ∉ tokens s.orphaned) :
    (s.withdraw p).pending = s.pending ++ [p.detached] ∧ (s.withdraw p).orphaned = s.orphaned ∧
      (s.withdraw p).liveHints =
        Function.update s.liveHints p.hintToken (some { core := p.core }) := by
  obtain ⟨h₁, h₂, h₃⟩ := appendPending_fresh h hp ho
  rw [withdraw, wakeOnly_liveHints h, wakeOnly_pending, wakeOnly_orphaned, h₁, h₂, h₃]
  simp

lemma foldl_withdraw (ps : List Physical) (s : Store) (h : ∀ p ∈ ps, p.hintToken ≠ 0)
    (hnd : (tokens ps).Nodup) (hfr : ∀ p ∈ ps, p.hintToken ∉ tokens (s.pending ++ s.orphaned)) :
    (ps.foldl withdraw s).pending = s.pending ++ ps.map Physical.detached ∧
      (ps.foldl withdraw s).orphaned = s.orphaned ∧
      (∀ t ∉ tokens ps, (ps.foldl withdraw s).liveHints t = s.liveHints t) ∧
      ∀ p ∈ ps, (ps.foldl withdraw s).liveHints p.hintToken = some { core := p.core } := by
  induction ps generalizing s with
  | nil => simp
  | cons p ps ih =>
    have hp := hfr p mem_cons_self
    rw [tokens_append, mem_append, not_or] at hp
    rw [tokens_cons, nodup_cons] at hnd
    obtain ⟨h₁, h₂, h₃⟩ := withdraw_fresh (h p mem_cons_self) hp.1 hp.2
    -- the record just withdrawn has a token that no later one has
    have hfr' : ∀ q ∈ ps,
        q.hintToken ∉ tokens ((s.withdraw p).pending ++ (s.withdraw p).orphaned) := by
      intro q hq
      have hq' := hfr q (mem_cons_of_mem p hq)
      have hne : q.hintToken ≠ p.hintToken := fun heq => hnd.1 (heq ▸ mem_tokens hq)
      rw [h₁, h₂]
      simp only [tokens_append, mem_append, tokens_cons, tokens_nil, mem_singleton,
        detached, not_or] at hq' ⊢
      exact ⟨⟨hq'.1, hne⟩, hq'.2⟩
    obtain ⟨i₁, i₂, i₃, i₄⟩ := ih (s.withdraw p) (fun q hq => h q (mem_cons_of_mem p hq)) hnd.2 hfr'
    rw [foldl_cons]
    refine ⟨?_, ?_, ?_, ?_⟩
    · rw [i₁, h₁]
      simp
    · rw [i₂, h₂]
    · intro t ht
      rw [tokens_cons, mem_cons, not_or] at ht
      rw [i₃ t ht.2, h₃, update_of_ne ht.1]
    intro q hq
    rcases mem_cons.mp hq with rfl | hq
    · rw [i₃ _ hnd.1, h₃, update_self]
    · exact i₄ q hq

/-! ### Detach -/

/-- What a detach does to the store: the owner's live records move to the pending ones. -/
structure Withdrawn (owner : Owner) (s t : Store) (gone : List Physical) : Prop where
  perm : gone.Perm ((s.live.filter (·.owner == owner)).flatMap (·.physical))
  live : t.live = s.live.filter (·.owner != owner)
  pending : t.pending = s.pending ++ gone.map Physical.detached
  orphaned : t.orphaned = s.orphaned
  nextDAPID : t.nextDAPID = s.nextDAPID
  hintTokens : t.hintTokens = s.hintTokens
  cleanupOwners : t.cleanupOwners = Function.update s.cleanupOwners owner true
  otherHints : ∀ τ ∉ tokens gone, t.liveHints τ = s.liveHints τ
  hints : ∀ p ∈ gone, t.liveHints p.hintToken = some { core := p.core }

lemma requestCleanupSignal_empty (s : Store) (vis : Visit Logical) :
    (s.requestCleanupSignal "" vis).1 = s := by
  simp [requestCleanupSignal]

lemma perm_flatMap_physical (ls : List Logical) (ow : Owner) : (ls.flatMap (·.physical)).Perm
      ((ls.filter (·.owner == ow)).flatMap (·.physical) ++
        (ls.filter (·.owner != ow)).flatMap (·.physical)) := by
  rw [← flatMap_append]
  exact (filter_append_perm (·.owner == ow) ls).symm.flatMap_right _

variable {ow : Owner}

lemma withdrawn_requestCleanupSignal {s : Store} (ho : ow ≠ "")
    (vis : Visit Logical) (hnd : (tokens s.tracked).Nodup) (h : ∀ p ∈ s.tracked, p.hintToken ≠ 0) :
    ∃ gone, Withdrawn ow s (s.requestCleanupSignal ow vis).1 gone := by
  have hperm : ((vis.order s.live).filter (·.owner == ow)).flatMap (·.physical) |>.Perm
      ((s.live.filter (·.owner == ow)).flatMap (·.physical)) :=
    ((vis.perm s.live).filter _).flatMap_right _
  generalize hgone : ((vis.order s.live).filter (·.owner == ow)).flatMap (·.physical) = gone
    at hperm
  -- the withdrawn records are live ones, so their tokens are not among the waiting ones
  have hspl : (tokens s.tracked).Perm
      (tokens (gone ++ (s.live.filter (·.owner != ow)).flatMap (·.physical) ++
        (s.pending ++ s.orphaned))) := by
    refine List.Perm.map _ ?_
    rw [tracked, append_assoc]
    exact ((perm_flatMap_physical s.live ow).trans (hperm.symm.append_right _)).append_right _
  have hnd' := hspl.nodup_iff.mp hnd
  rw [tokens_append, tokens_append, nodup_append, nodup_append] at hnd'
  obtain ⟨⟨hgnd, -, -⟩, -, hdisj⟩ := hnd'
  have hme : ∀ p ∈ gone, p ∈ s.tracked := by
    intro p hp
    obtain ⟨l, hl, hpl⟩ := mem_flatMap.mp (hperm.subset hp)
    simp only [tracked, mem_append]
    exact .inl (.inl (mem_flatMap.mpr ⟨l, mem_of_mem_filter hl, hpl⟩))
  have hfold := foldl_withdraw gone
    { s with cleanupOwners := update s.cleanupOwners ow true }
    (fun p hp => h p (hme p hp)) hgnd (fun p hp hin =>
      hdisj _ (mem_append_left _ (mem_tokens hp)) _ hin rfl)
  have hsm := SameLive.foldl sameLive_withdraw gone
    { s with cleanupOwners := update s.cleanupOwners ow true }
  refine ⟨gone, ?_⟩
  simp only [requestCleanupSignal, if_neg ho, hgone]
  exact
    { perm := hperm
      live := by rw [hsm.live]
      pending := hfold.1
      orphaned := hfold.2.1
      nextDAPID := hsm.nextDAPID
      hintTokens := hsm.hintTokens
      cleanupOwners := hsm.cleanupOwners
      otherHints := hfold.2.2.1
      hints := hfold.2.2.2 }

lemma Withdrawn.sites_tracked {s t : Store} {gone : List Physical}
    (h : Withdrawn ow s t gone) : sites t.tracked = sites s.tracked := by
  have hlive := sites_perm (perm_flatMap_physical s.live ow)
  simp only [tracked, sites_append, h.live, h.pending, h.orphaned, sites_map_detached, hlive,
    sites_perm h.perm]
  abel

lemma Withdrawn.tokens_tracked {s t : Store} {gone : List Physical}
    (h : Withdrawn ow s t gone) : (tokens t.tracked).Perm (tokens s.tracked) := by
  have hsit := h.sites_tracked
  rw [sites, sites, Multiset.coe_eq_coe] at hsit
  simpa [tokens, comp_def, site] using hsit.map Site.token

end Store

end MultiDap.Breakpoint
