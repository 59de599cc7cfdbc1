import MultiDap.Session.Transition
import MultiDap.Stop.Arbiter

/-!
# What one observation does to the stop arbiter

The counterpart of `Session.Reducer.observed`. `Arbiter.observed` says once what `observe` can do
to a well-formed arbiter, with the transition read off by the same `Transition.between`. The two
models differ in what they make of a transition: see `Transition.bumps` and `Arbiter.emitted`.
-/

namespace MultiDap

open Stop

/-- How often the arbiter advances its execution epoch for a transition. -/
def Transition.bumps : Transition → Nat
  | .quiet => 0
  | .stop => 0
  | .resume => 1
  | .missedStop => 1
  | .missedResume => 2
  | .missedCycle => 2
  | .unmoved => 0

lemma Transition.bumps_eq_resumes {t : Transition} (h : t ≠ .missedCycle) :
    t.bumps = t.resumes := by
  cases t <;> simp_all [bumps, resumes, turns]

/-- The turns the arbiter reports for a transition. -/
def Transition.reported : Transition → List Turn
  | .missedResume => [.suspend, .resume]
  | t => t.turns

lemma Transition.reported_eq_turns {t : Transition} (h : t ≠ .missedResume) :
    t.reported = t.turns := by
  cases t <;> simp_all [reported]

namespace Stop

/-- The reducer's name for the state of a sample. -/
def State.target : State → TargetState
  | .unknown => .unknown
  | .stopped => .stopped
  | .running => .running

/-- The turn an effect reports, if it reports one. -/
def Effect.turn (e : Effect) : Option Turn :=
  match e.kind with
  | .stopped => some .suspend
  | .continued => some .resume
  | .invalidateSuspended => none

/-- The turns a list of effects reports, in order. -/
def turns (es : List Effect) : List Turn := es.filterMap Effect.turn

namespace Arbiter

/-- The facts every arbiter reached by observations and hints satisfies. -/
structure WellFormed (a : Arbiter) : Prop where
  hasStop_of_stopped : a.state = .stopped → a.hasStop = true
  known_of_hasStop : a.hasStop = true → a.state ≠ .unknown

lemma wellFormed_new : new.WellFormed := by
  constructor <;> simp [new]

/-- The transition a sample establishes for this arbiter. -/
def transition (a : Arbiter) (ob : Observation) : Transition :=
  .between a.state.target a.hasStop (ob.stopStamp != a.currentStopEpoch) ob.state.target

/-- A stamp the arbiter does not refuse. Before the first stop it refuses none. -/
def Admits (a : Arbiter) (ob : Observation) : Prop :=
  ob.hasStopStamp = true ∧ (a.hasStop = true → a.lastStamp ≤ ob.stopStamp)

/-- The stopped effect of a sample, given the execution epoch and the hints it may consume. -/
def stopEffect (exec : UInt64) (hints : List PendingHint) (ob : Observation) : Effect :=
  (stopped { exec := exec, pending := hints } ob).2

def invalidateAt (exec epoch : UInt64) : Effect :=
  { kind := .invalidateSuspended, executionEpoch := exec, stopEpoch := epoch }

def continuedAt (exec epoch : UInt64) : Effect :=
  { kind := .continued, executionEpoch := exec, stopEpoch := epoch }

/-- The hints that survive an accepted sample: only a repeated stopped sample keeps any. -/
def remaining (a : Arbiter) (ob : Observation) : List PendingHint :=
  if ob.state = .stopped ∧ a.transition ob = .quiet
  then a.pending.filter (·.base ≠ ob.stopStamp) else []

/-- The arbiter after an accepted sample of a known state. -/
def move (a : Arbiter) (ob : Observation) : Arbiter :=
  { a with
    state := ob.state
    lastStamp := ob.stopStamp
    exec := a.exec + UInt64.ofNat (a.transition ob).bumps
    hasStop := a.hasStop || (a.transition ob).stops
    stopEpoch := if (a.transition ob).stops then ob.stopStamp else a.stopEpoch
    pending := a.remaining ob }

/-- The effects of an accepted sample of a known state. -/
def emitted (a : Arbiter) (ob : Observation) : List Effect :=
  match a.transition ob with
  | .quiet => []
  | .unmoved => []
  | .stop => [stopEffect a.exec a.pending ob]
  | .resume => [invalidateAt (a.exec + 1) a.stopEpoch, continuedAt (a.exec + 1) a.stopEpoch]
  | .missedStop => [invalidateAt (a.exec + 1) a.stopEpoch, continuedAt (a.exec + 1) a.stopEpoch,
      stopEffect (a.exec + 1) a.pending ob]
  -- the resumption that left the last reported stop is counted but not reported
  | .missedResume | .missedCycle => [invalidateAt (a.exec + 2) ob.stopStamp,
      stopEffect (a.exec + 1) [] ob, continuedAt (a.exec + 2) ob.stopStamp]

lemma turns_emitted (a : Arbiter) (ob : Observation) :
    turns (a.emitted ob) = (a.transition ob).reported := by
  unfold emitted
  cases a.transition ob <;> rfl

/-- Everything `observe` can do. -/
inductive Observed (a : Arbiter) (ob : Observation) : Outcome → Prop where
  | dead (h : a.faulted = true) : Observed a ob ⟨a, [], some (.of .stopReconciliationRequired)⟩
  | unknown (h : a.faulted = false) (hn : ob.state = .unknown) : Observed a ob (a.result [])
  | refused (cause : String) (h : a.faulted = false) (hn : ob.state ≠ .unknown)
      (hs : ¬ a.Admits ob) : Observed a ob (a.fault cause)
  | unmoved (h : a.faulted = false) (hn : ob.state = .stopped) (hs : a.Admits ob)
      (ht : a.transition ob = .unmoved) :
      Observed a ob ({ a with lastStamp := ob.stopStamp, state := .stopped }.fault
        "running-to-stopped observation did not advance stop stamp")
  | moved (h : a.faulted = false) (hn : ob.state ≠ .unknown) (hs : a.Admits ob)
      (ht : a.transition ob ≠ .unmoved) : Observed a ob ((a.move ob).result (a.emitted ob))

variable {a : Arbiter} {ob : Observation}

lemma observeRunning_eq (hn : ob.state = .running) :
    observeRunning { a with lastStamp := ob.stopStamp } ob = (a.move ob).result (a.emitted ob) := by
  unfold move emitted remaining transition
  cases a.state <;> cases hst : a.hasStop <;> by_cases he : ob.stopStamp = a.stopEpoch <;>
    simp [hn, hst, he, observeRunning, missedRun, result, Transition.between, State.target,
      currentStopEpoch, Transition.bumps, Transition.stops, Transition.turns, invalidate,
      continued, invalidateAt, continuedAt, stopped, stopEffect, UInt64.add_assoc, pendingFor]

lemma observeStopped_unmoved (hn : ob.state = .stopped) (ht : a.transition ob = .unmoved) :
    observeStopped { a with lastStamp := ob.stopStamp } ob =
      { a with lastStamp := ob.stopStamp, state := .stopped }.fault
        "running-to-stopped observation did not advance stop stamp" := by
  simp only [transition, hn] at ht
  cases hs : a.state <;> cases hst : a.hasStop <;> by_cases he : ob.stopStamp = a.stopEpoch <;>
    simp_all [observeStopped, Transition.between, State.target, currentStopEpoch]

lemma observeStopped_moved (hwf : a.WellFormed)
    (hn : ob.state = .stopped) (ht : a.transition ob ≠ .unmoved) :
    observeStopped { a with lastStamp := ob.stopStamp } ob = (a.move ob).result (a.emitted ob) := by
  have hkn := hwf.known_of_hasStop
  unfold move emitted remaining
  simp only [transition, hn] at ht ⊢
  cases hs : a.state <;> cases hst : a.hasStop <;> by_cases he : ob.stopStamp = a.stopEpoch <;>
    simp_all [observeStopped, missedStop, result, Transition.between, State.target,
      currentStopEpoch, Transition.bumps, Transition.stops, Transition.turns, invalidate,
      continued, invalidateAt, continuedAt, stopped, stopEffect, pendingFor, discardHintsAt]

lemma transition_ne_unmoved (hn : ob.state = .running) : a.transition ob ≠ .unmoved := by
  simp only [transition, hn]
  cases a.state <;> cases a.hasStop <;> cases (ob.stopStamp != a.currentStopEpoch) <;>
    simp [Transition.between, State.target]

lemma observe_faulted (h : a.faulted = true) (ob : Observation) :
    a.observe ob = ⟨a, [], some (.of .stopReconciliationRequired)⟩ := by
  rw [observe, if_pos h]

theorem observed (hwf : a.WellFormed) (ob : Observation) : Observed a ob (a.observe ob) := by
  cases h : a.faulted with
  | true =>
    rw [observe_faulted h]
    exact .dead h
  | false =>
    rw [observe, if_neg (by simp [h])]
    by_cases hn : ob.state = .unknown
    · rw [if_pos hn]
      exact .unknown h hn
    rw [if_neg hn]
    split_ifs with hno hlow
    · refine .refused _ h hn fun had => ?_
      simp [had.1] at hno
    · refine .refused _ h hn fun had => ?_
      simp only [Bool.and_eq_true, decide_eq_true_eq] at hlow
      exact absurd (had.2 hlow.1) (UInt64.not_le.mpr hlow.2)
    have had : a.Admits ob := by
      simp only [Bool.and_eq_true, decide_eq_true_eq, not_and, UInt64.not_lt] at hlow
      exact ⟨by simpa using hno, hlow⟩
    cases hst : ob.state with
    | unknown => exact absurd hst hn
    | running =>
      change Observed a ob (observeRunning _ ob)
      rw [observeRunning_eq hst]
      exact .moved h hn had (transition_ne_unmoved hst)
    | stopped =>
      change Observed a ob (observeStopped _ ob)
      by_cases ht : a.transition ob = .unmoved
      · rw [observeStopped_unmoved hst ht]
        exact .unmoved h hst had ht
      · rw [observeStopped_moved hwf hst ht]
        exact .moved h hn had ht

lemma wellFormed_move
    (hn : ob.state ≠ .unknown) (ht : a.transition ob ≠ .unmoved) : (a.move ob).WellFormed where
  hasStop_of_stopped := fun h => by
    simp only [Arbiter.move, transition] at h ht ⊢
    rw [h] at ht ⊢
    exact Transition.hasStop_or_stops_of_stopped ht
  known_of_hasStop := fun _ => hn

lemma currentStopEpoch_move (a : Arbiter) (ob : Observation) : (a.move ob).currentStopEpoch =
      if (a.transition ob).stops then ob.stopStamp else a.currentStopEpoch := by
  cases hst : (a.transition ob).stops <;> simp [currentStopEpoch, move, hst]

lemma noteHint_cases (a : Arbiter) (rs : Option (UInt32 → Option HintTarget)) (tok : UInt32) :
    (a.noteHint rs tok).1 = a ∨ ∃ resolve tgt, rs = some resolve ∧ resolve tok = some tgt ∧
        (a.noteHint rs tok).1 = { a with pending := a.pending ++ [⟨tgt, a.currentStopEpoch⟩] } := by
  simp only [noteHint]
  split
  · exact .inl rfl
  rename_i resolve
  split_ifs
  · exact .inl rfl
  split
  · exact .inl rfl
  rename_i tgt ht
  split_ifs
  · exact .inl rfl
  · exact .inr ⟨resolve, tgt, rfl, ht, rfl⟩

/-- The arbiter with other hints waiting for a stop. -/
def withHints (a : Arbiter) (hints : List PendingHint) : Arbiter := { a with pending := hints }

@[simp] lemma withHints_faulted (a : Arbiter) (hs : List PendingHint) :
    (a.withHints hs).faulted = a.faulted := rfl

@[simp] lemma withHints_exec (a : Arbiter) (hs : List PendingHint) :
    (a.withHints hs).exec = a.exec := rfl

@[simp] lemma currentStopEpoch_withHints (a : Arbiter) (hs : List PendingHint) :
    (a.withHints hs).currentStopEpoch = a.currentStopEpoch := rfl

@[simp] lemma transition_withHints (a : Arbiter) (hs : List PendingHint) (ob : Observation) :
    (a.withHints hs).transition ob = a.transition ob := rfl

lemma WellFormed.withHints (hwf : a.WellFormed) (hs : List PendingHint) :
    (a.withHints hs).WellFormed :=
  ⟨hwf.hasStop_of_stopped, hwf.known_of_hasStop⟩

lemma noteHint_eq (a : Arbiter) (rs : Option (UInt32 → Option HintTarget)) (tok : UInt32) :
    ∃ hints, (a.noteHint rs tok).1 = a.withHints hints := by
  rcases a.noteHint_cases rs tok with h | ⟨_, _, -, -, h⟩
  · exact ⟨a.pending, h⟩
  · exact ⟨_, h⟩

end Arbiter

end Stop

end MultiDap
