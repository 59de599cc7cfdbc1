import MultiDap.Breakpoint.Commit

/-!
# The records of other frontends

All frontends share the store, and the records of all of them may carry the same source and the
same cores. A commit for one owner moves, deletes and appends records of that owner only. `Mine` is
what it relies on: whatever waits under one of its tokens, and whatever is live under one of its
keys, belongs to the owner.
-/

namespace MultiDap.Breakpoint

open Source Machine World List Option

variable {ow : Owner} {src : Identity} {lines : List Int} {recs : List Physical}
variable {s t u : Store} {p : Physical} {l : Logical} {line : Int}

/-! ### The frame -/

/-- The records of everybody but `owner`, the fences and the issued tokens are the same. -/
structure Store.SameOthers (owner : Owner) (s t : Store) : Prop where
  live : t.live.filter (·.owner != owner) = s.live.filter (·.owner != owner)
  pending : t.pending.filter (·.owner != owner) = s.pending.filter (·.owner != owner)
  orphaned : t.orphaned.filter (·.owner != owner) = s.orphaned.filter (·.owner != owner)
  hintTokens : t.hintTokens = s.hintTokens
  cleanupOwners : t.cleanupOwners = s.cleanupOwners

namespace Store.SameOthers

lemma refl (ow : Owner) (s : Store) : SameOthers ow s s := ⟨rfl, rfl, rfl, rfl, rfl⟩

lemma trans (h₁ : SameOthers ow s t) (h₂ : SameOthers ow t u) : SameOthers ow s u where
  live := h₂.live.trans h₁.live
  pending := h₂.pending.trans h₁.pending
  orphaned := h₂.orphaned.trans h₁.orphaned
  hintTokens := h₂.hintTokens.trans h₁.hintTokens
  cleanupOwners := h₂.cleanupOwners.trans h₁.cleanupOwners

lemma of_sameLive (h : SameLive s t)
    (hpen : t.pending.filter (·.owner != ow) = s.pending.filter (·.owner != ow))
    (horp : t.orphaned.filter (·.owner != ow) = s.orphaned.filter (·.owner != ow)) :
    SameOthers ow s t :=
  ⟨by rw [h.live], hpen, horp, h.hintTokens, h.cleanupOwners⟩

lemma mem_waiting (h : SameOthers ow s t) {q : Physical} (hq : q ∈ t.pending ++ t.orphaned)
    (hon : q.owner ≠ ow) : q ∈ s.pending ++ s.orphaned := by
  have hkp : q ∈ (t.pending ++ t.orphaned).filter (·.owner != ow) :=
    mem_filter.mpr ⟨hq, bne_iff_ne.mpr hon⟩
  rw [filter_append, h.pending, h.orphaned, ← filter_append] at hkp
  exact mem_of_mem_filter hkp

lemma mem_live (h : SameOthers ow s t) (hl : l ∈ t.live) (hon : l.owner ≠ ow) : l ∈ s.live := by
  have hkp : l ∈ t.live.filter (·.owner != ow) :=
    mem_filter.mpr ⟨hl, bne_iff_ne.mpr hon⟩
  rw [h.live] at hkp
  exact mem_of_mem_filter hkp

end Store.SameOthers

/-- What the commit relies on: `lines` are the lines it enters, `records` those it handles. -/
structure Mine (owner : Owner) (src : Identity) (lines : List Int) (records : List Physical)
    (s : Store) : Prop where
  waiting : ∀ p ∈ records, ∀ q ∈ s.pending ++ s.orphaned, q.hintToken = p.hintToken →
    q.owner = owner
  entered : ∀ line ∈ lines, ∀ l ∈ s.live, l.key = (src.key, line) → l.owner = owner
  keys : ∀ l ∈ s.live, ∀ k ∈ s.live, l.key = k.key → l.owner = k.owner

/-- From one store to the next, nothing of others is touched. -/
def Spares (owner : Owner) (src : Identity) (lines : List Int) (records : List Physical)
    (s t : Store) : Prop :=
  Mine owner src lines records s → s.SameOthers owner t ∧ Mine owner src lines records t

lemma Mine.step (h : Mine ow src lines recs s) (hs : s.SameOthers ow t)
    (hks : ∀ l ∈ t.live, ∀ k ∈ t.live, l.key = k.key → l.owner = k.owner) :
    Mine ow src lines recs t where
  waiting := by
    intro p hp q hq hto
    by_contra hon
    exact hon (h.waiting p hp q (hs.mem_waiting hq hon) hto)
  entered := by
    intro line hln l hl hke
    by_contra hon
    exact hon (h.entered line hln l (hs.mem_live hl hon) hke)
  keys := hks

namespace Spares

lemma refl : Spares ow src lines recs s s := fun h => ⟨.refl ow s, h⟩

lemma trans (h₁ : Spares ow src lines recs s t) (h₂ : Spares ow src lines recs t u) :
    Spares ow src lines recs s u := fun h =>
  have ⟨hs, hm⟩ := h₁ h
  have ⟨hs', hm'⟩ := h₂ hm
  ⟨hs.trans hs', hm'⟩

lemma foldl {σ α : Type} {f : σ → α → σ} (store : σ → Store) {xs : List α}
    (h : ∀ acc, ∀ x ∈ xs, Spares ow src lines recs (store acc) (store (f acc x))) (acc : σ) :
    Spares ow src lines recs (store acc) (store (xs.foldl f acc)) := by
  induction xs generalizing acc with
  | nil => exact refl
  | cons x _ ih =>
    refine (h acc x mem_cons_self).trans (ih (fun acc y hy => ?_) _)
    exact h acc y (mem_cons_of_mem x hy)

lemma of_sameLive (h : Store.SameLive s t) (hother : Mine ow src lines recs s → s.SameOthers ow t) :
    Spares ow src lines recs s t := by
  intro hm
  refine ⟨hother hm, hm.step (hother hm) ?_⟩
  rw [h.live]
  exact hm.keys

end Spares

/-! ### Primitives -/

lemma filter_removePhysical {ps : List Physical} (h₀ : p.hintToken ≠ 0)
    (h : ∀ q ∈ ps, q.hintToken = p.hintToken → q.owner = ow) :
    (removePhysical ps p).filter (·.owner != ow) = ps.filter (·.owner != ow) := by
  induction ps with
  | nil => rfl
  | cons q _ ih =>
    have ih' := ih fun r hr => h r (mem_cons_of_mem q hr)
    rw [removePhysical] at ih' ⊢
    by_cases heq : q.hintToken = p.hintToken
    · rw [eraseP_cons_of_pos (by simp [samePhysical_eq h₀, heq])]
      simp [h q mem_cons_self heq]
    · rw [eraseP_cons_of_neg (by simp [samePhysical_eq h₀, heq]), filter_cons, filter_cons, ih']

lemma spares_appendPending (hon : p.owner = ow) :
    Spares ow src lines recs s (s.appendPending p) := by
  refine .of_sameLive (Store.sameLive_pending s p) fun _ => ?_
  refine .of_sameLive (Store.sameLive_pending s p) ?_ ?_
  all_goals
    unfold Store.appendPending
    split_ifs
    · rfl
    · simp [hon]

lemma spares_appendOrphaned (hp : p ∈ recs) (hon : p.owner = ow) (h₀ : p.hintToken ≠ 0) :
    Spares ow src lines recs s (s.appendOrphaned p) := by
  refine .of_sameLive (Store.sameLive_orphaned s p) fun hm => ?_
  have hpen : ∀ q ∈ s.pending, q.hintToken = p.hintToken → q.owner = ow :=
    fun q hq => hm.waiting p hp q (mem_append_left _ hq)
  refine .of_sameLive (Store.sameLive_orphaned s p) ?_ ?_
  all_goals
    unfold Store.appendOrphaned
    split_ifs
    · rfl
    · simp [hon, filter_removePhysical h₀ hpen]

lemma spares_removePhysicalEvidence (hp : p ∈ recs) (h₀ : p.hintToken ≠ 0) :
    Spares ow src lines recs s (s.removePhysicalEvidence p) := by
  refine .of_sameLive (Store.sameLive_remove s p) fun hm => ?_
  refine .of_sameLive (Store.sameLive_remove s p) ?_ ?_
  all_goals
    simp only [Store.removePhysicalEvidence, ne_eq, h₀, not_false_eq_true, if_true, Store.dropHint]
  · exact filter_removePhysical h₀ fun q hq => hm.waiting p hp q (mem_append_left _ hq)
  · exact filter_removePhysical h₀ fun q hq => hm.waiting p hp q (mem_append_right _ hq)

lemma sameOthers_delete {key : String} (h : ∀ l ∈ s.live, l.key = (key, line) → l.owner = ow) :
    s.SameOthers ow (s.delete key line) := by
  refine ⟨?_, rfl, rfl, rfl, rfl⟩
  rw [Store.live_delete, List.filter_filter]
  refine List.filter_congr fun l hl => ?_
  by_cases hke : l.key = (key, line)
  · simp [hke, h l hl hke]
  · simp [hke]

lemma mem_live_delete {key : String} (h : l ∈ (s.delete key line).live) : l ∈ s.live :=
  mem_of_mem_filter h

lemma spares_delete (hl : l ∈ s.live) (hon : l.owner = ow) (hke : l.key = (src.key, line)) :
    Spares ow src lines recs s (s.delete src.key line) := by
  intro hm
  have hother : s.SameOthers ow (s.delete src.key line) :=
    sameOthers_delete fun k hk hkk => (hm.keys k hk l hl (hkk.trans hke.symm)).trans hon
  refine ⟨hother, hm.step hother fun k hk k' hk' => ?_⟩
  exact hm.keys k (mem_live_delete hk) k' (mem_live_delete hk')

lemma spares_enter (hln : line ∈ lines) (hon : l.owner = ow)
    (hke : l.key = (src.key, line)) : Spares ow src lines recs s (s.enter l) := by
  intro hm
  obtain ⟨hints, heq, -⟩ := foldl_setHint l.physical l.dapID (s.insert l)
  have hlk : (l.source.key, l.line) = (src.key, line) := hke
  obtain ⟨hk₁, hk₂⟩ := Prod.mk.inj hlk
  have hdel : s.SameOthers ow (s.delete l.source.key l.line) := by
    rw [hk₁, hk₂]
    exact sameOthers_delete (hm.entered line hln)
  rw [Store.enter, heq]
  have hother : s.SameOthers ow { s.insert l with liveHints := hints } := by
    refine ⟨?_, rfl, rfl, rfl, rfl⟩
    change ((s.delete l.source.key l.line).live ++ [l]).filter _ = _
    rw [filter_append, hdel.live]
    simp [hon]
  refine ⟨hother, hm.step hother ?_⟩
  -- the place was cleared before, so the new record has its key to itself
  have hcas : ∀ k ∈ (s.insert l).live, k = l ∨ k ∈ s.live ∧ k.key ≠ l.key := by
    intro k hk
    rcases mem_append.mp hk with hk | hk
    · rw [Store.live_delete, mem_filter, decide_eq_true_eq] at hk
      exact .inr hk
    · exact .inl (mem_singleton.mp hk)
  intro k hk k' hk' hkk
  rcases hcas k hk with rfl | ⟨hk, hne⟩ <;> rcases hcas k' hk' with rfl | ⟨hk', hne'⟩
  · rfl
  · exact absurd hkk.symm hne'
  · exact absurd hkk hne
  · exact hm.keys k hk k' hk' hkk

/-! ### The commit -/

section Commit

variable {plan : Plan} {placed : Int → PlacementOutcome} {clears : Clears} {detached : Bool}

structure Handles (owner : Owner) (records ps : List Physical) : Prop where
  mem : ∀ p ∈ ps, p ∈ records
  own : ∀ p ∈ ps, p.owner = owner
  ne_zero : ∀ p ∈ ps, p.hintToken ≠ 0

lemma spares_commitOutcome {out : PlacementOutcome} (hln : line ∈ lines)
    (hon : out.logical.owner = ow) (hke : out.logical.key = (src.key, line))
    (hou : Handles ow recs out.records) :
    Spares ow src lines recs s (s.commitOutcome out detached).1 := by
  have hphys : ∀ p ∈ out.logical.physical, p.owner = ow :=
    fun p hp => hou.own p (mem_append_left _ hp)
  have hfai : ∀ p ∈ out.rollbackFailed, p ∈ out.records :=
    fun p hp => mem_append_right _ hp
  have hbump : Spares ow src lines recs s { s with nextDAPID := s.nextDAPID + 1 } :=
    fun hm => ⟨⟨rfl, rfl, rfl, rfl, rfl⟩, ⟨hm.waiting, hm.entered, hm.keys⟩⟩
  have hpend (t : Store) : Spares ow src lines recs t
      (out.rollbackFailed.foldl Store.appendPending t) :=
    Spares.foldl id (fun _ p hp => spares_appendPending (hou.own p (hfai p hp))) t
  have horph (t : Store) : Spares ow src lines recs t
      (out.rollbackFailed.foldl Store.appendOrphaned t) :=
    Spares.foldl id (fun _ p hp => spares_appendOrphaned (hou.mem p (hfai p hp))
      (hou.own p (hfai p hp)) (hou.ne_zero p (hfai p hp))) t
  have hver (t : Store) : Spares ow src lines recs t
      (out.logical.physical.foldl Store.appendPending t) :=
    Spares.foldl id (fun _ p hp => spares_appendPending (hphys p hp)) t
  refine hbump.trans ?_
  simp only [Store.commitOutcome]
  cases detached with
  | true =>
    refine Spares.trans ?_ (hpend _)
    split_ifs
    · exact spares_enter hln hon hke
    · exact hver _
    · exact .refl
  | false =>
    refine Spares.trans ?_ (horph _)
    split_ifs
    · exact spares_enter hln hon hke
    · exact hver _
    · exact .refl

variable {acc : Store × ReplaceResult}

lemma spares_commitCleared (hp : Handles ow recs [p]) :
    Spares ow src lines recs acc.1 (commitCleared clears detached acc p).1 := by
  have hme := hp.mem p mem_cons_self
  have h₀ := hp.ne_zero p mem_cons_self
  simp only [commitCleared]
  split
  · exact .refl
  · exact spares_removePhysicalEvidence hme h₀
  split_ifs
  · exact .refl
  · exact spares_appendOrphaned hme (hp.own p mem_cons_self) h₀

lemma spares_commitOld (hold : Handles ow recs (plan.old line).physical) :
    Spares ow src lines recs acc.1 (commitOld ow src plan clears detached acc line).1 := by
  simp only [commitOld]
  refine Spares.trans (t := _) ?_ (Spares.foldl Prod.fst (fun acc p hp => ?_) _)
  · split_ifs with hdel
    · cases hlook : acc.1.lookup src.key line with
      | none => simp [hlook] at hdel
      | some =>
        obtain ⟨hl, hke⟩ := Store.lookup_eq_some hlook
        simp only [hlook, any_some, Bool.and_eq_true, beq_iff_eq] at hdel
        exact spares_delete hl hdel.2 hke
    · exact .refl
  refine spares_commitCleared ⟨?_, ?_, ?_⟩ <;> intro q hq <;> rw [mem_singleton.mp hq]
  · exact hold.mem p hp
  · exact hold.own p hp
  · exact hold.ne_zero p hp

lemma spares_commit {requested : List Int} (hadd : ∀ line ∈ requested, plan.kept line = none →
      line ∈ lines ∧ (placed line).logical.owner = ow ∧
        (placed line).logical.key = (src.key, line) ∧ Handles ow recs (placed line).records)
    (hold : Handles ow recs plan.oldRecords) :
    Spares ow src lines recs s (s.commit ow src requested plan placed clears).1 := by
  have hre (acc : Store × ReplaceResult) : Spares ow src lines recs acc.1
      (requested.foldl (commitLine plan placed (s.cleanupOwners ow)) acc).1 := by
    refine Spares.foldl Prod.fst (fun acc line hln => ?_) acc
    cases hk : plan.kept line with
    | some =>
      rw [commitLine_kept hk]
      exact .refl
    | none =>
      obtain ⟨hin, hon, hke, hou⟩ := hadd line hln hk
      rw [commitLine_new hk]
      exact spares_commitOutcome hin hon hke hou
  simp only [Store.commit]
  refine (hre (s, {})).trans (Spares.foldl Prod.fst (fun acc line hln => ?_) _)
  have hsub : ∀ p ∈ (plan.old line).physical, p ∈ plan.oldRecords :=
    fun p hp => mem_flatMap.mpr ⟨line, hln, hp⟩
  exact spares_commitOld ⟨fun p hp => hold.mem p (hsub p hp), fun p hp => hold.own p (hsub p hp),
    fun p hp => hold.ne_zero p (hsub p hp)⟩

end Commit

/-! ### A commit in flight -/

section Flight

variable {start w : World} {requested cores : List Int} {plan : Plan} {hand : List Physical}
variable {placed : Int → PlacementOutcome} {segs : Int → List Event} {clears : Clears}
variable {seg es : List Event}

lemma Planned.old_live (hpl : Planned ow src requested start plan) (hp : p ∈ plan.oldRecords) :
    ∃ l ∈ start.store.live, l.owner = ow ∧ p ∈ l.physical := by
  obtain ⟨line, hln, hp⟩ := mem_flatMap.mp hp
  rcases hpl.old line hln with hemp | ⟨hl, hon, -⟩
  · simp [hemp] at hp
  · exact ⟨_, hl, hon, hp⟩

lemma Flight.old_waiting {gone : List Physical} (h : Flight ow start es hand gone w)
    (hst : start.Sound) (hl : l ∈ start.store.live) (hon : l.owner = ow)
    (hp : p ∈ l.physical) {q : Physical} (hq : q ∈ w.store.pending ++ w.store.orphaned)
    (hto : q.hintToken = p.hintToken) : q.owner = ow := by
  have hnd := h.held.nodup_tracked
  rw [Store.tracked, append_assoc, tokens_append, nodup_append] at hnd
  cases hf : w.store.cleanupOwners ow with
  | false =>
    have hlive := mem_flatMap.mpr ⟨l, h.steady hf l hl hon, hp⟩
    exact absurd hto.symm (hnd.2.2 _ (mem_tokens hlive) _ (mem_tokens hq))
  | true =>
    have hin := mem_append_left w.store.orphaned (h.swept hf l hl hon p hp)
    rw [inj_on_of_nodup_map hnd.2.1 hq hin hto]
    exact (hst.records l hl p hp).1.trans hon

lemma touches_commit (hplan : Planned ow src requested start plan)
    (hal : ∀ line ∈ plan.add, Placed ow src line cores (segs line) (placed line))
    (hst : start.Sound)
    (h : Clearing ow start es (plan.add.flatMap fun line => (placed line).records)
      plan.oldRecords clears seg w) :
    Touches ow w (w.commit ow src requested plan placed clears).1 := by
  have hfl := h.flight
  have hhand : ∀ p ∈ plan.add.flatMap fun line => (placed line).records,
      p.hintToken ≠ 0 ∧ p.hintToken ∉ tokens w.store.tracked := by
    intro p hp
    have hb := Balanced.perm hfl.held (perm_cons_erase hp).symm
    exact ⟨hb.token_ne_zero, hb.hand_notMem_tracked⟩
  have hmine : Mine ow src plan.add
      ((plan.add.flatMap fun line => (placed line).records) ++ plan.oldRecords) w.store := by
    constructor
    case waiting =>
      intro p hp q hq hto
      rcases mem_append.mp hp with hp | hp
      · -- a record in hand has its token to itself
        refine absurd ?_ (hhand p hp).2
        rw [Store.tracked, append_assoc, tokens_append, mem_append, ← hto]
        exact .inr (mem_tokens hq)
      · obtain ⟨l, hl, hon, hpl⟩ := hplan.old_live hp
        exact hfl.old_waiting hst hl hon hpl hq hto
    case entered =>
      exact fun line hln l hl hke => absurd hke (hplan.free l (hfl.live l hl) line hln)
    case keys =>
      intro l hl k hk hke
      rw [inj_on_of_nodup_map hfl.sound.keys hl hk hke]
  have hspa : Spares ow src plan.add
      ((plan.add.flatMap fun line => (placed line).records) ++ plan.oldRecords) w.store
      (w.store.commit ow src requested plan placed clears).1 := by
    refine spares_commit (fun line hln hkp => ?_) ⟨?_, ?_, ?_⟩
    · have hadd : line ∈ plan.add := by simp [hplan.add, hln, Plan.isNew, hkp]
      have hpl := hal line hadd
      have hme : ∀ p ∈ (placed line).records, p ∈ plan.add.flatMap fun l => (placed l).records :=
        fun p hp => mem_flatMap.mpr ⟨line, hadd, hp⟩
      refine ⟨hadd, hpl.identity.1, by simp [Logical.key, hpl.identity], ?_, ?_, ?_⟩
      · exact fun p hp => mem_append_left _ (hme p hp)
      · exact fun p hp => (hpl.segment.own p hp).1
      · exact fun p hp => (hhand p (hme p hp)).1
    · exact fun p hp => mem_append_right _ hp
    · intro p hp
      obtain ⟨l, hl, hon, hpl⟩ := hplan.old_live hp
      exact (hst.records l hl p hpl).1.trans hon
    intro p hp
    obtain ⟨l, hl, hon, hpl⟩ := hplan.old_live hp
    exact hfl.held.tracked_ne_zero (hfl.old_tracked hl hon hpl)
  obtain ⟨hother, -⟩ := hspa hmine
  exact
    { cleanupOwners := hother.cleanupOwners
      hintTokens := fun τ hτ => (congrFun hother.hintTokens τ).trans hτ
      live := hother.live
      pending := hother.pending
      orphaned := hother.orphaned
      log := ⟨[], (append_nil _).symm, by simp⟩
      issued := by
        refine ⟨_, rfl, fun i hi => ?_⟩
        obtain ⟨k, -, rfl⟩ := mem_map.mp hi
        rfl }

end Flight

end MultiDap.Breakpoint
