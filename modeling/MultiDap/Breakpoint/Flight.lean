import MultiDap.Breakpoint.Balance

/-!
# A transaction in flight

Detach requests arrive between the locked sections of a transaction. `Flight` is what a
replacement may rely on in spite of them: its own balance, and that the live records of its owner
are either untouched or have all been moved to the pending ones. `Sound` holds at every moment.
-/

namespace MultiDap.Breakpoint

open Source Machine List Store

namespace World

/-- `RequestCleanupSignal`, called beside a running transaction. -/
def detach (w : World) (owner : Owner) (visit : Visit Logical) : World :=
  { w with store := (w.store.requestCleanupSignal owner visit).1 }

/-- The interference a transaction has to expect. -/
def Detaches (w w' : World) : Prop := ∃ owner visit, w' = w.detach owner visit

/-- What holds whenever the state lock is free. -/
structure Sound (w : World) : Prop where
  keys : (w.store.live.map Logical.key).Nodup
  verified : ∀ l ∈ w.store.live, l.verified = true
  unfenced : ∀ l ∈ w.store.live, w.store.cleanupOwners l.owner = false
  records : ∀ l ∈ w.store.live, ∀ p ∈ l.physical, p.owner = l.owner ∧ p.requestedLine = l.line
  /-- A live breakpoint has an id that was issued to its owner. -/
  issuedTo : ∀ l ∈ w.store.live, (l.dapID, l.owner) ∈ w.issued
  liveIds : (w.store.live.map Logical.dapID).Nodup
  hints : w.store.Names []
  nonneg : 0 ≤ w.store.nextDAPID
  range : ∀ i ∈ w.issued, 0 < i.1 ∧ i.1 ≤ w.store.nextDAPID
  ids : (w.issued.map Prod.fst).Nodup

/-- What no transaction undoes: a fence stays up, and an issued token stays issued. -/
structure Advances (w w' : World) : Prop where
  cleanupOwners : w'.store.cleanupOwners = w.store.cleanupOwners
  hintTokens : ∀ τ, w.store.hintTokens τ = true → w'.store.hintTokens τ = true

/-- What a step of a replacement for `owner` may do. The records of everybody else stay as they are,
and nothing of theirs is cleared. -/
structure Touches (owner : Owner) (w w' : World) : Prop extends Advances w w' where
  live : w'.store.live.filter (·.owner != owner) = w.store.live.filter (·.owner != owner)
  pending : w'.store.pending.filter (·.owner != owner) = w.store.pending.filter (·.owner != owner)
  orphaned :
    w'.store.orphaned.filter (·.owner != owner) = w.store.orphaned.filter (·.owner != owner)
  log : ∃ events, w'.log = w.log ++ events ∧ ∀ p err, Event.clear p err ∈ events → p.owner = owner
  issued : ∃ ids, w'.issued = w.issued ++ ids ∧ ∀ i ∈ ids, i.2 = owner

structure Sweeps (w w' : World) : Prop extends Advances w w' where
  live : w'.store.live = w.store.live
  issued : w'.issued = w.issued

def Held (hand gone : List Physical) (w : World) : Prop :=
  Balanced (present w.log) hand gone w.store

lemma sound_init : Sound {} := by
  constructor
  case hints => simp [Store.Names, Store.Refers, waiting]
  all_goals simp

lemma held_init : Held [] [] {} := by
  constructor <;> simp [holds, tracked, present]

end World

variable {w : World} {ow : Owner} {hand gone : List Physical}

/-! ### A detach -/

lemma World.Held.detach_cases (h : w.Held hand gone) (ow : Owner) (vis : Visit Logical) :
    w.detach ow vis = w ∨ ∃ out, (w.store.Withdrawn ow (w.detach ow vis).store out) := by
  by_cases ho : ow = ""
  · left
    subst ho
    simp [World.detach, requestCleanupSignal_empty]
  right
  refine withdrawn_requestCleanupSignal ho vis h.nodup_tracked fun p hp => ?_
  exact h.tracked_ne_zero (mem_sites hp)

lemma World.Held.detach (h : w.Held hand gone) (ow : Owner) (vis : Visit Logical) :
    (w.detach ow vis).Held hand gone := by
  rcases h.detach_cases ow vis with heq | ⟨out, hw⟩
  · rwa [heq]
  · refine Balanced.of_holds_eq h ?_ hw.hintTokens
    simp only [holds, hw.sites_tracked]

lemma World.Sound.withdrawn {t : Store} {out : List Physical} (hs : w.Sound)
    (hnd : (tokens w.store.tracked).Nodup) (hw : w.store.Withdrawn ow t out) :
    World.Sound { w with store := t } := by
  have hsub : ∀ l ∈ t.live, l ∈ w.store.live ∧ l.owner ≠ ow := by
    intro l hl
    rw [hw.live, mem_filter] at hl
    simpa using hl
  constructor
  case keys =>
    rw [hw.live]
    exact hs.keys.sublist (filter_sublist.map _)
  case verified => exact fun l hl => hs.verified l (hsub l hl).1
  case unfenced =>
    intro l hl
    rw [hw.cleanupOwners, Function.update_of_ne (hsub l hl).2]
    exact hs.unfenced l (hsub l hl).1
  case records => exact fun l hl => hs.records l (hsub l hl).1
  case issuedTo => exact fun l hl => hs.issuedTo l (hsub l hl).1
  case liveIds =>
    rw [hw.live]
    exact hs.liveIds.sublist (filter_sublist.map _)
  case hints => exact hs.hints.withdrawn hnd hw
  case nonneg => rw [hw.nextDAPID]; exact hs.nonneg
  case range => rw [hw.nextDAPID]; exact hs.range
  case ids => exact hs.ids

lemma World.Sound.detach (hs : w.Sound) (h : w.Held hand gone) (ow : Owner)
    (vis : Visit Logical) : (w.detach ow vis).Sound := by
  rcases h.detach_cases ow vis with heq | ⟨out, hw⟩
  · rwa [heq]
  · exact hs.withdrawn h.nodup_tracked hw

/-! ### A replacement -/

/-- What a transaction of `owner` that began in `start` may rely on. Its own answers from the
placer so far are `events`. -/
structure Flight (owner : Owner) (start : World) (events : List Event)
    (hand gone : List Physical) (w : World) : Prop where
  sound : w.Sound
  held : w.Held hand gone
  log : w.log = start.log ++ events
  issued : w.issued = start.issued
  nextDAPID : w.store.nextDAPID = start.store.nextDAPID
  orphaned : w.store.orphaned = start.store.orphaned
  pending : ∀ p ∈ start.store.pending, p ∈ w.store.pending
  live : ∀ l ∈ w.store.live, l ∈ start.store.live
  /-- Unless it is fenced off, the owner still has all its live records. -/
  steady : w.store.cleanupOwners owner = false →
    ∀ l ∈ start.store.live, l.owner = owner → l ∈ w.store.live
  /-- Once it is fenced off, they are all waiting for cleanup. -/
  swept : w.store.cleanupOwners owner = true →
    ∀ l ∈ start.store.live, l.owner = owner → ∀ p ∈ l.physical, p.detached ∈ w.store.pending

lemma Flight.begin (hs : w.Sound) (h : w.Held [] []) : Flight ow w [] [] [] w where
  sound := hs
  held := h
  log := (append_nil _).symm
  issued := rfl
  nextDAPID := rfl
  orphaned := rfl
  pending := fun _ hp => hp
  live := fun _ hl => hl
  steady := fun _ _ hl _ => hl
  swept := by
    intro hf l hl hon
    have := hs.unfenced l hl
    rw [hon, hf] at this
    cases this

lemma Flight.detach {start : World} {es : List Event}
    (h : Flight ow start es hand gone w) (other : Owner) (vis : Visit Logical) :
    Flight ow start es hand gone (w.detach other vis) := by
  rcases h.held.detach_cases other vis with heq | ⟨out, hw⟩
  · rwa [heq]
  have hlive : ∀ l, l ∈ (w.detach other vis).store.live ↔ l ∈ w.store.live ∧ l.owner ≠ other := by
    intro l
    rw [hw.live, mem_filter]
    simp
  constructor
  case sound => exact h.sound.detach h.held other vis
  case held => exact h.held.detach other vis
  case log => exact h.log
  case issued => exact h.issued
  case nextDAPID => exact hw.nextDAPID.trans h.nextDAPID
  case orphaned => exact hw.orphaned.trans h.orphaned
  case pending =>
    intro p hp
    rw [hw.pending]
    exact mem_append_left _ (h.pending p hp)
  case live => exact fun l hl => h.live l ((hlive l).mp hl).1
  case steady =>
    intro hf l hl hon
    rw [hw.cleanupOwners] at hf
    by_cases hother : ow = other
    · simp [hother] at hf
    · rw [Function.update_of_ne hother] at hf
      exact (hlive l).mpr ⟨h.steady hf l hl hon, hon ▸ hother⟩
  case swept =>
    intro hfen l hl hon p hp
    rw [hw.pending, mem_append]
    cases hf : w.store.cleanupOwners ow with
    | true => exact .inl (h.swept hf l hl hon p hp)
    | false =>
      -- the fence is new, so this is the owner's own detach
      right
      have hother : ow = other := by
        by_contra hne
        rw [hw.cleanupOwners, Function.update_of_ne hne, hf] at hfen
        cases hfen
      refine mem_map_of_mem (hw.perm.symm.subset (mem_flatMap.mpr ⟨l, ?_, hp⟩))
      simp [h.steady hf l hl hon, hon, hother]

lemma Flight.holds {start : World} {es : List Event} :
    Prog.Holds World.Detaches World.Sound (Flight ow start es hand gone) where
  stable := by
    rintro s t ⟨other, visit, rfl⟩ h
    exact h.detach other visit
  now := fun _ h => h.sound

end MultiDap.Breakpoint
