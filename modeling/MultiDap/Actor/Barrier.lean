import MultiDap.Actor.Turn

/-!
# The configuration barrier

`ConfigurationDone` ends the barrier and publishes where the target stands. For a stopped target the
event repeats the stop that was published last, if that was the current one. A stop that is observed
behind the barrier is not published, and the actor does not remember it either: then the event names
no reason, no thread and no breakpoint. `initial_stop_details` is about the runs without such a
stop.
-/

namespace MultiDap.Actor

open Machine Inspection Stop Session Relation List Arbiter

/-- A stopped sample that is the first one or has a new stop stamp. -/
def Models.Stops (m : Models) (evidence : StateEvidence) : Prop :=
  Reducer.observedState evidence.state.status = .stopped ∧
    (m.reducer.hasStop = false ∨
      (sessionObservation evidence.state).stopStamp ≠ m.reducer.stopEpoch)

instance (m : Models) (evidence : StateEvidence) : Decidable (m.Stops evidence) :=
  inferInstanceAs (Decidable (_ ∧ _))

/-- No stop is observed behind the barrier. -/
def noHiddenStop : Guard where
  sample m evidence := m.reducer.configuring = true → ¬ m.Stops evidence

instance : noHiddenStop.Checkable where
  sample _ _ := inferInstanceAs (Decidable (_ → _))

lemma emitted_stop {a : Arbiter} {ob : Stop.Observation}
    (h : a.transition ob = .stop ∨ a.transition ob = .missedStop) :
    ∃ pre exec, a.emitted ob = pre ++ [Arbiter.stopEffect exec a.pending ob] ∧
      ∀ e ∈ pre, e.kind ≠ .stopped := by
  rcases h with h | h
  · exact ⟨[], a.exec, by simp only [emitted, h]; rfl, by simp⟩
  refine ⟨[invalidateAt (a.exec + 1) a.stopEpoch,
    continuedAt (a.exec + 1) a.stopEpoch], a.exec + 1,
    by simp only [emitted, h]; rfl, ?_⟩
  simp [invalidateAt, continuedAt]

section sample

variable {m : Models} {evidence : StateEvidence}

lemma Models.Stops.transition (h : m.Stops evidence) :
    m.reducer.transition (sessionObservation evidence.state) = .stop ∨
      m.reducer.transition (sessionObservation evidence.state) = .missedStop := by
  obtain ⟨hob, hnew⟩ := h
  simp only [Reducer.transition, sessionObservation] at hnew ⊢
  rw [hob]
  rcases hnew with hno | hne
  · cases m.reducer.state <;> simp [Transition.between, hno]
  · cases m.reducer.state <;> cases m.reducer.hasStop <;> simp [Transition.between, hne]

lemma Models.transition_repeated (hob : Reducer.observedState evidence.state.status = .stopped)
    (h : ¬ m.Stops evidence) (hwf : m.reducer.WellFormed) (hl : m.reducer.state ≠ .faulted)
    (hmov : m.reducer.transition (sessionObservation evidence.state) ≠ .unmoved) :
    m.reducer.transition (sessionObservation evidence.state) = .quiet ∧
      m.reducer.state = .stopped := by
  simp only [Models.Stops, hob, true_and, not_or, Bool.not_eq_false, not_not] at h
  have hkn := hwf.known_of_hasStop h.1
  simp only [Reducer.transition, sessionObservation] at h hmov ⊢
  rw [hob] at hmov ⊢
  cases hs : m.reducer.state <;> simp_all [Transition.between]

end sample

namespace Runtime

variable {r r' : Runtime}

/-- On a stopped target the last stop is remembered with everything that was found out about it. -/
def Remembers (r : Runtime) : Prop :=
  r.models.reducer.state = .stopped →
    ∃ effect, r.stops.getLast? = some effect ∧ r.lastStop = some effect ∧
      effect.stopEpoch = r.models.reducer.stopEpoch

lemma fed_configuring (hb : r.Base) (hlive : r.faulted = false) {evidence : StateEvidence}
    (hok : (r.fed evidence).failure = none) :
    (r.fed evidence).models.reducer.configuring = r.models.reducer.configuring := by
  have htak := hb.taken hlive hok
  generalize r.fed evidence = fed at htak ⊢
  cases htak with
  | unknown _ _ _ _ _ _ hr => rcases hr with rfl | rfl <;> rfl
  | moved => rfl

/-- An accepted sample that leaves the target stopped either repeats the stop that is known, or
brings exactly one new one. -/
lemma fed_stopped (hb : r.Base) (hlive : r.faulted = false) {evidence : StateEvidence}
    (hok : (r.fed evidence).failure = none)
    (hs : (r.fed evidence).models.reducer.state = .stopped) :
    ((r.fed evidence).effects = [] ∧ r.models.reducer.state = .stopped ∧
        (r.fed evidence).models.reducer.stopEpoch = r.models.reducer.stopEpoch) ∨
      r.models.Stops evidence ∧ ∃ eff, eff.kind = .stopped ∧
        (r.fed evidence).effects.filter (·.kind == .stopped) = [eff] ∧
        (∀ last, lastStopAfter (r.fed evidence).effects last = some eff) ∧
        eff.stopEpoch = (r.fed evidence).models.reducer.stopEpoch := by
  have htak := hb.taken hlive hok
  generalize r.fed evidence = fed at htak hs ⊢
  cases htak with
  | unknown _ _ _ _ _ _ hr =>
    left
    rcases hr with rfl | rfl <;> exact ⟨rfl, hs, rfl⟩
  | moved hints _ _ hl _ htr =>
    have htied := hb.tied hlive hl
    have hemit := htied.transition_eq evidence
    rw [← transition_withHints _ hints] at hemit
    by_cases hsto : r.models.Stops evidence
    · right
      obtain ⟨pre, exec, heq, hpre⟩ := emitted_stop (hemit ▸ hsto.transition)
      have hnn : pre.filter (·.kind == .stopped) = [] := by
        simpa [filter_eq_nil_iff] using hpre
      refine ⟨hsto, _, rfl, by rw [heq, filter_append, hnn]; rfl, ?_, ?_⟩
      · intro last
        simp only [heq, lastStopAfter, foldl_append]
        rfl
      · rcases hsto.transition with ht | ht <;>
          simp [Models.moved, Reducer.move, ht, Transition.stops, Transition.turns] <;> rfl
    · left
      obtain ⟨hqu, hst⟩ := Models.transition_repeated hs hsto htied.reducer hl.2 htr
      rw [hqu] at hemit
      refine ⟨by simp [emitted, hemit], hst, ?_⟩
      simp [Models.moved, Reducer.move, hqu, Transition.stops, Transition.turns]

lemma Remembers.absorb (h : r.Remembers) (hb : r.Base) (hlive : r.faulted = false)
    {evidence : StateEvidence} (hg : noHiddenStop.sample r.models evidence)
    (hok : (r.fed evidence).failure = none) : (r.absorb (r.fed evidence)).Remembers := by
  rw [absorb_eq]
  intro hs
  rcases fed_stopped hb hlive hok hs with ⟨heff, hst, hep⟩ | ⟨hsto, e, -, hone, hla, he⟩
  · obtain ⟨eff, hget, hla, heq⟩ := h hst
    refine ⟨eff, by simp [heff, hget], ?_, heq.trans hep.symm⟩
    simp [heff, passedOn, lastStopAfter, hla]
  -- the guard rules out the barrier, so that the stop is published and remembered
  have hop : (r.fed evidence).models.reducer.configuring = false := by
    rw [fed_configuring hb hlive hok]
    by_contra hc
    exact hg (by simpa using hc) hsto
  refine ⟨e, by simp [hone], ?_, he⟩
  simp only [passedOn, hop]
  exact hla _

theorem Remembers.move (hb : r.Base) (h : r.Remembers) (hm : Move noHiddenStop r r') :
    r'.Remembers := by
  cases hm with
  | sample _ _ hlive _ hg _ hfe => exact h.absorb hb hlive hg hfe
  | bootstrap _ _ hlive _ hg _ hfe => exact h.absorb hb hlive hg hfe
  | arbiterErr _ _ _ _ hfe =>
    unfold Remembers
    rw [fed_arbiterErr hfe]
    exact h
  | reducerErr _ _ _ _ _ hfe =>
    rw [actions_eq]
    intro hs
    cases (fed_reducerErr hfe).symm.trans hs
  | reducerFault _ _ _ _ hfe =>
    rw [actions_eq]
    intro hs
    cases (fed_reducerErr hfe).symm.trans hs
  | clash _ _ _ hlive _ hfe =>
    intro hs
    cases (hb.fed_clash hlive hfe).2.2.1.symm.trans hs
  | fault _ _ _ _ _ hlive hmod =>
    rcases hmod with rfl | ⟨evidence, err, hfe, rfl⟩
    · exact h
    · intro hs
      cases (hb.fed_clash hlive hfe).2.2.1.symm.trans hs
  | allocate => rw [withLedger_eq]; exact h
  | dispatch _ _ _ htn => cases htn <;> exact h
  | worker _ htn =>
    cases htn with
    | inspect => rw [withLedger_eq]; exact h
    | _ => exact h
  | _ => exact h

lemma published_configurationDone (hb : r.Base) {eff : Effect}
    (hla : r.lastStop = some eff) (hep : eff.stopEpoch = r.models.reducer.stopEpoch)
    (hs : r.models.reducer.state = .stopped) (hc : r.models.reducer.configuring = true)
    (rp : ReplyID) : (r.applyConfigurationDone rp).published = r.published ++
      [r.stoppedEvent eff { r.snapshot with configuring := false }] := by
  rw [configurationDone_ok (by simp [hs]) hc]
  simp only [initialActions, withReducer, hs, applyConfigurationActions, foldl_cons,
    foldl_nil, applyConfigurationAction, Reducer.suspendedAction, hla, snapshot,
    Reducer.snapshot, hep, if_true, applyStopEffect, hb.last eff hla]
  rfl

/-- The events `ConfigurationDone` publishes on a target that is not stopped. -/
lemma published_not_stopped (hs : r.models.reducer.state ≠ .stopped ∨
      r.models.reducer.configuring = false) (rp : ReplyID) {es : List Event}
    (h : (r.applyConfigurationDone rp).published = r.published ++ es) :
    ∀ evt ∈ es, evt.kind ≠ .stopped := by
  by_cases hrr : r.models.reducer.state = .faulted ∨ r.models.reducer.configuring = false
  · obtain ⟨err, heq⟩ := configurationDone_rejected hrr rp
    rw [heq] at h
    obtain rfl : es = [] := by simpa [respond] using h
    simp
  simp only [not_or, Bool.not_eq_false] at hrr
  rw [configurationDone_ok hrr.1 hrr.2] at h
  cases hst : r.models.reducer.state with
  | stopped => simp [hst, hrr.2] at hs
  | faulted => exact absurd hst hrr.1
  | unknown =>
    obtain rfl : es = [] := by
      simpa [initialActions, withReducer, hst, applyConfigurationActions, respond] using h
    simp
  | running =>
    simp only [initialActions, withReducer, hst, applyConfigurationActions, foldl_cons,
      foldl_nil, applyConfigurationAction, Reducer.resumedAction, respond, publish] at h
    rw [← append_cancel_left h]
    simp

/-- The initial stopped event has the reason, the thread and the breakpoints of the stop effect that
established the stop epoch, in every run in which no stop is observed behind the barrier. -/
theorem initial_stop_details {opts : Options} {inputs : List Input} (reply : ReplyID)
    {events : List Event} {event : Event} (hru : run step (new opts) inputs = some r)
    (hseen : Along step noHiddenStop.Admits (new opts) inputs)
    (hpub : (r.apply (.configurationDone reply)).published = r.published ++ events)
    (hme : event ∈ events) (hkd : event.kind = .stopped) :
    event.snapshot.stopEpoch = r.models.reducer.stopEpoch ∧
      ∃ effect, r.stops.getLast? = some effect ∧ effect.stopEpoch = r.models.reducer.stopEpoch ∧
        event.reason = effect.reason ∧
        event.threadID = (if effect.hasCore then r.threadIDForCore effect.core else 0) ∧
        event.hitBreakpointIDs = effect.hitBreakpointIDs := by
  have hinit : (new opts).Remembers := by simp [Remembers, new, Models.fresh, Reducer.new]
  obtain ⟨hb, hrem⟩ := moves_invariant (fun _ _ hb h => Remembers.move hb h) hinit hseen hru
  by_cases hs : r.models.reducer.state ≠ .stopped ∨ r.models.reducer.configuring = false
  · exact absurd hkd (published_not_stopped hs reply hpub event hme)
  simp only [not_or, not_not, Bool.not_eq_false] at hs
  obtain ⟨effect, hget, hla, hep⟩ := hrem hs.1
  have heq := hpub.symm.trans (published_configurationDone hb hla hep hs.1 hs.2 reply)
  obtain rfl : event = _ := by simpa [append_cancel_left heq] using hme
  exact ⟨rfl, effect, hget, hep, rfl, rfl, rfl⟩

/-- The barrier of a debugger that attaches to a target. -/
def configuring : List Input :=
  [.command (.attach "a" 1), .command (.acquire "a" 2), .command (.beginConfiguration 3)]

/-- A sample of a target that was halted by a request. -/
def haltedEvidence (stamp : UInt64) : StateEvidence :=
  { state :=
      { status := .stopped, processInfo := { stopStamp := some stamp, pendingHalt := true } } }

theorem initial_stop_details_before_barrier :
    ∃ r events event, run step (new {}) (bootstrap (haltedEvidence 1) ++ configuring) = some r ∧
      Along step noHiddenStop.Admits (new {}) (bootstrap (haltedEvidence 1) ++ configuring) ∧
      (r.apply (.configurationDone 4)).published = r.published ++ events ∧ event ∈ events ∧
      event.kind = .stopped ∧ event.snapshot.stopEpoch = r.models.reducer.stopEpoch ∧
      ∃ effect, r.stops.getLast? = some effect ∧ effect.stopEpoch = r.models.reducer.stopEpoch ∧
        event.reason = effect.reason ∧
        event.threadID = (if effect.hasCore then r.threadIDForCore effect.core else 0) ∧
        event.hitBreakpointIDs = effect.hitBreakpointIDs := by
  have hseen : Along step noHiddenStop.Admits (new {})
      (bootstrap (haltedEvidence 1) ++ configuring) := by
    decide +kernel
  exact ⟨_, _, _, rfl, hseen, rfl, mem_singleton_self _, rfl,
    initial_stop_details 4 rfl hseen rfl (mem_singleton_self _) rfl⟩

/-- A stop behind the barrier: the initial event has no reason, although the effect that established
the stop epoch says that the target was halted. -/
theorem initial_stop_without_reason : ∃ r event effect,
      run step (new {}) (bootstrap (stampedEvidence .running 1) ++ configuring ++ [.stateTick] ++
        perform 4 (.ok (.evidence (haltedEvidence 2)))) = some r ∧
      (r.apply (.configurationDone 4)).published = r.published ++ [event] ∧
      event.kind = .stopped ∧ event.snapshot.stopEpoch = r.models.reducer.stopEpoch ∧
      r.stops.getLast? = some effect ∧ effect.stopEpoch = r.models.reducer.stopEpoch ∧
      effect.reason = some .pause ∧ event.reason = none :=
  ⟨_, _, _, rfl, rfl, rfl, rfl, rfl, rfl, rfl, rfl⟩

end Runtime

end MultiDap.Actor
