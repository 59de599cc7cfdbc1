import MultiDap.Machine.Mealy
import MultiDap.Session.Observe
import MultiDap.Stop.Observe

/-!
# The actor's two models of the target

The actor keeps the reducer's state and publishes the arbiter's effects, and it fails closed when
their epochs disagree. `Models.feed` is the part of `runtime.observe` that touches the two models
and nothing else. `Tied` relates them along every run: they always see the same transition, but
they do not always make the same of it.
-/

namespace MultiDap.Actor

open Session Stop Machine Arbiter

/-- The hint table the arbiter asks, as it stands when the hint arrives. -/
abbrev Resolver := Option (UInt32 → Option HintTarget)

def stopObservation (state : MultiDap.State) (halt : HaltInfo) (hasHalt : Bool) :
    Stop.Observation where
  state :=
    if state.status.isStopped then .stopped
    else if state.status.isRunning then .running
    else .unknown
  stopStamp := state.processInfo.stopStamp.getD 0
  hasStopStamp := state.processInfo.stopStamp.isSome
  info :=
    { continuedFromBP := state.processInfo.contFromBp
      inStepMode := state.processInfo.inStepMode
      pendingHalt := state.processInfo.pendingHalt
      stoppedOnException := state.processInfo.stoppedOnException
      cause :=
        if hasHalt then
          match halt.reason with
          | .breakpoint => .breakpoint
          | .userRequest => .user
          | .notRunning => .notRunning
          | .unknown => .unknown
        else .unknown }

/-- The observation `runtime.observe` builds for the reducer. -/
def sessionObservation (state : MultiDap.State) : Session.Observation where
  status := state.status
  stopStamp := state.processInfo.stopStamp.getD 0
  hasStopStamp := state.processInfo.stopStamp.isSome

/-- The reducer and the arbiter of one session. -/
structure Models where
  reducer : Reducer
  stopper : Arbiter

inductive Failure where
  | arbiter (err : Error)
  | reducer (err : Error)
  | disagreement (err : Error)
  deriving DecidableEq

/-- What a sample leaves behind: the models, the arbiter's effects and the reducer's actions. The
effects of a sample that one of the models refuses are never looked at. -/
structure Fed where
  models : Models
  effects : List Effect := []
  actions : List Action := []
  failure : Option Failure := none

namespace Models

def fresh (requireResetAfterDownload : Bool) : Models :=
  ⟨.new requireResetAfterDownload, .new⟩

/-- The epochs of the two models have to agree. -/
def verifyArbiterSnapshot (m : Models) : Option Error :=
  let snapshot := m.reducer.snapshot
  let derived := m.stopper.snapshot
  if snapshot.stopEpoch ≠ derived.stopEpoch ∨ snapshot.executionEpoch ≠ derived.executionEpoch then
    some (.new (s!"actor: reducer/stop-arbiter epoch disagreement: reducer=(" ++
      s!"{snapshot.executionEpoch},{snapshot.stopEpoch}) arbiter=(" ++
      s!"{derived.executionEpoch},{derived.stopEpoch})"))
  else none

/-- The token of a halt report takes the same way as a hint datagram. -/
def noteHalt (m : Models) (resolver : Resolver) (evidence : StateEvidence) : Arbiter :=
  if evidence.hasHalt then
    match evidence.halt.hintToken with
    | some token => (m.stopper.noteHint resolver token).1
    | none => m.stopper
  else m.stopper

/-- The arbiter sees the sample first. If it refuses, the reducer never does. -/
def feed (m : Models) (resolver : Resolver) (evidence : StateEvidence) : Fed :=
  let stopper := m.noteHalt resolver evidence
  let out := stopper.observe (stopObservation evidence.state evidence.halt evidence.hasHalt)
  match out.err with
  | some err => { models := { m with stopper := out.arbiter }, failure := some (.arbiter err) }
  | none =>
    let result := m.reducer.observe (sessionObservation evidence.state)
    let m : Models := ⟨result.reducer, out.arbiter⟩
    match result.err with
    | some err => { models := m, actions := result.actions, failure := some (.reducer err) }
    | none =>
      { models := m, effects := out.effects, actions := result.actions
        failure := m.verifyArbiterSnapshot.map .disagreement }

/-- Neither of the two models has faulted. -/
def Live (m : Models) : Prop := m.stopper.faulted = false ∧ m.reducer.state ≠ .faulted

instance (m : Models) : Decidable m.Live := inferInstanceAs (Decidable (_ ∧ _))

/-- What the two models have in common, whatever their execution epochs are. -/
structure Tied (m : Models) : Prop where
  reducer : m.reducer.WellFormed
  stopper : m.stopper.WellFormed
  state : m.stopper.state.target = m.reducer.state
  hasStop : m.stopper.hasStop = m.reducer.hasStop
  stopEpoch : m.stopper.currentStopEpoch = m.reducer.stopEpoch
  lastStamp : m.reducer.hasStop = true → m.stopper.lastStamp ≤ m.reducer.lastStopStamp

lemma tied_fresh (b : Bool) : (fresh b).Tied where
  reducer := Reducer.wellFormed_new b
  stopper := wellFormed_new
  state := rfl
  hasStop := rfl
  stopEpoch := rfl
  lastStamp := by simp [fresh, Reducer.new]

lemma target_stopObservation (state : MultiDap.State) (halt : HaltInfo) (hasHalt : Bool) :
    (stopObservation state halt hasHalt).state.target =
      Reducer.observedState (sessionObservation state).status := by
  simp only [stopObservation, sessionObservation, Reducer.observedState]
  split_ifs <;> simp_all [State.target]

lemma unknown_stopObservation {state : MultiDap.State} {halt : HaltInfo} {hasHalt : Bool} :
    (stopObservation state halt hasHalt).state = .unknown ↔
      Reducer.observedState (sessionObservation state).status = .unknown := by
  rw [← target_stopObservation state halt hasHalt]
  cases (stopObservation state halt hasHalt).state <;> simp [State.target]

variable {m : Models}

lemma Tied.transition_eq (ht : m.Tied) (ev : StateEvidence) :
    m.stopper.transition (stopObservation ev.state ev.halt ev.hasHalt) =
      m.reducer.transition (sessionObservation ev.state) := by
  simp only [transition, Reducer.transition, ht.state, ht.hasStop, ht.stopEpoch,
    target_stopObservation]
  rfl

lemma noteHalt_eq (m : Models) (rs : Resolver) (ev : StateEvidence) :
    ∃ hints, m.noteHalt rs ev = m.stopper.withHints hints := by
  unfold noteHalt
  split_ifs
  · split
    · exact m.stopper.noteHint_eq rs _
    · exact ⟨_, rfl⟩
  · exact ⟨_, rfl⟩

lemma Tied.withHints (ht : m.Tied) (hints : List PendingHint) :
    Tied ⟨m.reducer, m.stopper.withHints hints⟩ where
  reducer := ht.reducer
  stopper := ht.stopper.withHints hints
  state := ht.state
  hasStop := ht.hasStop
  stopEpoch := ht.stopEpoch
  lastStamp := ht.lastStamp

/-- The models after both have accepted a sample of a known state. -/
def moved (m : Models) (hints : List PendingHint) (ev : StateEvidence) : Models where
  reducer := m.reducer.move (m.reducer.transition (sessionObservation ev.state))
    (Reducer.observedState ev.state.status) (sessionObservation ev.state).stopStamp
  stopper := (m.stopper.withHints hints).move (stopObservation ev.state ev.halt ev.hasHalt)

def Accepts (m : Models) (ev : StateEvidence) : Prop :=
  m.Live ∧ m.reducer.Admits (sessionObservation ev.state) ∧
    m.reducer.transition (sessionObservation ev.state) ≠ .unmoved

/-- Everything `feed` can do to tied models. -/
inductive Absorbed (m : Models) (ev : StateEvidence) : Fed → Prop where
  | refused (fed : Fed) (hdead : ¬ fed.models.Live) (heff : fed.effects = [])
      (hat : Session.turns fed.actions = [])
      (hfail : ∃ err, fed.failure = some (.arbiter err) ∨ fed.failure = some (.reducer err))
      (hwhy : ¬ m.Accepts ev) : Absorbed m ev fed
  | unknown (r : Reducer) (hints : List PendingHint) (hlive : m.Live)
      (hn : Reducer.observedState ev.state.status = .unknown)
      (hr : r = m.reducer ∨
        m.reducer.Admits (sessionObservation ev.state) ∧
          r = m.reducer.stamped (sessionObservation ev.state)) :
      Absorbed m ev
        { models := ⟨r, m.stopper.withHints hints⟩
          failure := (verifyArbiterSnapshot ⟨r, m.stopper.withHints hints⟩).map .disagreement }
  | moved (hints : List PendingHint) (hlive : m.Live)
      (hn : Reducer.observedState ev.state.status = .stopped ∨
        Reducer.observedState ev.state.status = .running)
      (had : m.reducer.Admits (sessionObservation ev.state))
      (ht : m.reducer.transition (sessionObservation ev.state) ≠ .unmoved) :
      Absorbed m ev
        { models := m.moved hints ev
          effects := (m.stopper.withHints hints).emitted
            (stopObservation ev.state ev.halt ev.hasHalt)
          actions := ((m.moved hints ev).reducer.publish
            ((m.reducer.transition (sessionObservation ev.state)).actions
              (m.moved hints ev).reducer)).actions
          failure := (m.moved hints ev).verifyArbiterSnapshot.map .disagreement }

variable {ev : StateEvidence} {err : Error}

lemma absorbed_of_reducer_err (ht : m.Tied) (a : Arbiter)
    (he : (m.reducer.observe (sessionObservation ev.state)).err = some err) : Absorbed m ev
      { models := ⟨(m.reducer.observe (sessionObservation ev.state)).reducer, a⟩
        actions := (m.reducer.observe (sessionObservation ev.state)).actions
        failure := some (.reducer err) } := by
  have hob := Reducer.observed ht.reducer (sessionObservation ev.state)
  generalize m.reducer.observe (sessionObservation ev.state) = out at hob he ⊢
  cases hob with
  | dead h => exact .refused _ (fun hl => hl.2 h) rfl rfl ⟨_, .inr rfl⟩ (fun ha => ha.1.2 h)
  | refused _ _ hs =>
    exact .refused _ (fun hl => hl.2 rfl) rfl rfl ⟨_, .inr rfl⟩
      (fun ha => Reducer.not_admits_of_error hs ha.2.1)
  | unmoved _ _ _ ht =>
    exact .refused _ (fun hl => hl.2 rfl) rfl rfl ⟨_, .inr rfl⟩ (fun ha => ha.2.2 ht)
  | unknown => cases he
  | moved =>
    simp at he

lemma reducer_accepts (ht : m.Tied) {o : Session.Observation}
    (he : (m.reducer.observe o).err = none) : m.reducer.state ≠ .faulted ∧
    ((Reducer.observedState o.status = .unknown ∧
        ∃ r, (r = m.reducer ∨ m.reducer.Admits o ∧ r = m.reducer.stamped o) ∧
          m.reducer.observe o = r.result []) ∨
      ((Reducer.observedState o.status = .stopped ∨ Reducer.observedState o.status = .running) ∧
        m.reducer.Admits o ∧ m.reducer.transition o ≠ .unmoved ∧ m.reducer.observe o =
          (m.reducer.move (m.reducer.transition o) (Reducer.observedState o.status)
            o.stopStamp).publish ((m.reducer.transition o).actions
              (m.reducer.move (m.reducer.transition o) (Reducer.observedState o.status)
                o.stopStamp)))) := by
  have hob := Reducer.observed ht.reducer o
  generalize m.reducer.observe o = out at hob he ⊢
  cases hob with
  | dead | refused | unmoved => cases he
  | unknown r h hn hs =>
    refine ⟨h, .inl ⟨hn, r, ?_, rfl⟩⟩
    rcases Reducer.acceptStopStamp_unknown hs with ⟨-, -, rfl⟩ | ⟨had, rfl⟩
    · exact .inl rfl
    · exact .inr ⟨had, rfl⟩
  | moved _ h hn hk hs ht =>
    subst hn
    exact ⟨h, .inr ⟨hk, hs, ht, rfl⟩⟩

section feed

variable {m : Models} {rs : Resolver} {ev : StateEvidence}

lemma feed_of_arbiter_err (he : ((m.noteHalt rs ev).observe
    (stopObservation ev.state ev.halt ev.hasHalt)).err = some err) : m.feed rs ev =
      { models := ⟨m.reducer, ((m.noteHalt rs ev).observe
          (stopObservation ev.state ev.halt ev.hasHalt)).arbiter⟩
        failure := some (.arbiter err) } := by
  simp only [feed, he]

lemma feed_of_arbiter_result {a : Arbiter} {es : List Effect}
    (ho : (m.noteHalt rs ev).observe (stopObservation ev.state ev.halt ev.hasHalt) = a.result es) :
    m.feed rs ev =
      match (m.reducer.observe (sessionObservation ev.state)).err with
      | some err =>
        { models := ⟨(m.reducer.observe (sessionObservation ev.state)).reducer, a⟩
          actions := (m.reducer.observe (sessionObservation ev.state)).actions
          failure := some (.reducer err) }
      | none =>
        { models := ⟨(m.reducer.observe (sessionObservation ev.state)).reducer, a⟩
          effects := es
          actions := (m.reducer.observe (sessionObservation ev.state)).actions
          failure := (verifyArbiterSnapshot
            ⟨(m.reducer.observe (sessionObservation ev.state)).reducer,
              a⟩).map .disagreement } := by
  simp only [feed, ho, result]

end feed

lemma absorbed_of_arbiter {rs : Resolver} {out : Stop.Outcome}
    (ho : (m.noteHalt rs ev).observe (stopObservation ev.state ev.halt ev.hasHalt) = out)
    (he : out.err = some err) (hf : out.arbiter.faulted = true) (hwhy : ¬ m.Accepts ev) :
    Absorbed m ev (m.feed rs ev) := by
  subst ho
  rw [feed_of_arbiter_err he]
  refine .refused _ (fun hl => ?_) rfl rfl ⟨_, .inl rfl⟩ hwhy
  simp [hf, Live] at hl

lemma Tied.admits (ht : m.Tied) (h : m.reducer.Admits (sessionObservation ev.state)) :
    m.stopper.Admits (stopObservation ev.state ev.halt ev.hasHalt) := by
  refine ⟨h.1, fun hsp => ?_⟩
  rw [ht.hasStop] at hsp
  exact UInt64.le_trans (ht.lastStamp hsp) (h.2 (ht.reducer.stamped_of_hasStop hsp))

lemma absorbed_of_dead (hd : ¬ m.Live) (rs : Resolver) (ev : StateEvidence) :
    Absorbed m ev (m.feed rs ev) := by
  obtain ⟨hints, ha⟩ := m.noteHalt_eq rs ev
  have hwhy : ¬ m.Accepts ev := fun hac => hd hac.1
  cases hf : m.stopper.faulted with
  | true =>
    have hf' : (m.noteHalt rs ev).faulted = true := by rw [ha]; exact hf
    exact absorbed_of_arbiter (observe_faulted hf' _) rfl hf' hwhy
  | false =>
    have hr : m.reducer.state = .faulted := by
      by_contra hne
      exact hd ⟨hf, hne⟩
    cases he : ((m.noteHalt rs ev).observe
        (stopObservation ev.state ev.halt ev.hasHalt)).err with
    | some err =>
      rw [feed_of_arbiter_err he]
      exact .refused _ (fun hl => hl.2 hr) rfl rfl ⟨_, .inl rfl⟩ hwhy
    | none =>
      simp only [feed, he, Reducer.observe_faulted hr]
      exact .refused _ (fun hl => hl.2 hr) rfl rfl ⟨_, .inr rfl⟩ hwhy

lemma absorbed_of_tied (ht : m.Tied) (rs : Resolver) (ev : StateEvidence) :
    Absorbed m ev (m.feed rs ev) := by
  obtain ⟨hints, ha⟩ := m.noteHalt_eq rs ev
  have hob := observed (ht.withHints hints).stopper
    (stopObservation ev.state ev.halt ev.hasHalt)
  generalize ho : observe _ _ = out at hob
  rw [← ha] at ho
  cases hob with
  | dead h =>
    refine absorbed_of_arbiter ho rfl h fun hac => ?_
    simp [hac.1.1] at h
  | refused _ _ _ hs =>
    exact absorbed_of_arbiter ho rfl rfl fun hac => hs (ht.admits hac.2.1)
  | unmoved _ _ _ htr =>
    refine absorbed_of_arbiter ho rfl rfl fun hac => hac.2.2 ?_
    rwa [transition_withHints, ht.transition_eq] at htr
  | unknown h hn =>
    rw [feed_of_arbiter_result ho]
    split
    · rename_i err he
      exact absorbed_of_reducer_err ht _ he
    rename_i he
    have hk := unknown_stopObservation.mp hn
    obtain ⟨hl, ⟨-, r, hr, hou⟩ | ⟨hbad, -⟩⟩ := reducer_accepts ht he
    · rw [hou]
      exact .unknown r hints ⟨h, hl⟩ hk hr
    · rw [hk] at hbad
      simp at hbad
  | moved h hn =>
    rw [feed_of_arbiter_result ho]
    split
    · rename_i err he
      exact absorbed_of_reducer_err ht _ he
    rename_i he
    obtain ⟨hl, ⟨hk, -⟩ | ⟨hk, had, htr', hou⟩⟩ := reducer_accepts ht he
    · exact absurd (unknown_stopObservation.mpr hk) hn
    · rw [hou, Reducer.publish_reducer]
      exact .moved hints ⟨h, hl⟩ hk had htr'

theorem absorbed (ht : m.Live → m.Tied) (rs : Resolver) (ev : StateEvidence) :
    Absorbed m ev (m.feed rs ev) := by
  by_cases hl : m.Live
  · exact absorbed_of_tied (ht hl) rs ev
  · exact absorbed_of_dead hl rs ev

lemma Tied.stamped (ht : m.Tied) (hints : List PendingHint) {o : Session.Observation}
    (had : m.reducer.Admits o) : Tied ⟨m.reducer.stamped o, m.stopper.withHints hints⟩ where
  reducer := ht.reducer.stamped had
  stopper := ht.stopper.withHints hints
  state := ht.state
  hasStop := ht.hasStop
  stopEpoch := ht.stopEpoch
  lastStamp := fun h =>
    UInt64.le_trans (ht.lastStamp h) (had.2 (ht.reducer.stamped_of_hasStop h))

lemma Tied.moved (ht : m.Tied) (hints : List PendingHint)
    (hn : Reducer.observedState ev.state.status = .stopped ∨
      Reducer.observedState ev.state.status = .running)
    (had : m.reducer.Admits (sessionObservation ev.state))
    (htr : m.reducer.transition (sessionObservation ev.state) ≠ .unmoved) :
    (m.moved hints ev).Tied where
  reducer := ht.reducer.move rfl hn had htr
  stopper := by
    refine wellFormed_move (fun hu => ?_) ?_
    · rw [unknown_stopObservation] at hu
      rcases hn with h | h <;> cases hu.symm.trans h
    · rwa [transition_withHints, ht.transition_eq]
  state := target_stopObservation ev.state ev.halt ev.hasHalt
  hasStop := by
    simp only [Models.moved, move, Reducer.move, transition_withHints,
      ht.transition_eq, ← ht.hasStop]
    rfl
  stopEpoch := by
    simp only [Models.moved, currentStopEpoch_move, transition_withHints,
      currentStopEpoch_withHints, ht.transition_eq, ht.stopEpoch]
    rfl
  lastStamp := fun _ => UInt64.le_refl _

/-- As long as neither model faults, they stay tied. -/
theorem tied_feed (ht : m.Live → m.Tied) (rs : Resolver) (ev : StateEvidence)
    (hlive : (m.feed rs ev).models.Live) : (m.feed rs ev).models.Tied := by
  have habs := absorbed ht rs ev
  generalize m.feed rs ev = fed at habs hlive ⊢
  cases habs with
  | refused _ hdead => exact absurd hlive hdead
  | unknown _ hints hl _ hr =>
    rcases hr with rfl | ⟨had, rfl⟩
    · exact (ht hl).withHints hints
    · exact (ht hl).stamped hints had
  | moved hints hl hn had htr => exact (ht hl).moved hints hn had htr

end Models

end MultiDap.Actor
