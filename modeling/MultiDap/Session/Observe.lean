import MultiDap.Session.Transition

/-!
# What one observation does to the reducer

`Reducer.observed` says once, for every well-formed reducer, what `observe` can do: refuse, fault,
keep the last known state across an unknown sample, or carry out the transition that
`Transition.between` reads off the sample.
-/

namespace MultiDap

open Session

/-- The actions the reducer reports for a transition, with the epochs of the reducer after it. -/
def Transition.actions (t : Transition) (r : Reducer) : List Action :=
  match t with
  | .quiet => []
  | .stop => [r.suspendedAction]
  | .resume => [r.invalidateAction, r.resumedAction]
  | .missedStop => [r.invalidateAction, r.resumedAction, r.suspendedAction]
  | .missedResume => [r.invalidateAction, r.resumedAction, r.suspendedAction, r.resumedAction]
  | .missedCycle => [r.suspendedAction, r.resumedAction]
  | .unmoved => []

namespace Session

/-- The turn an action reports, if it reports one. -/
def Action.turn (a : Action) : Option Turn :=
  match a.kind with
  | .executionSuspended => some .suspend
  | .executionResumed => some .resume
  | _ => none

/-- The turns a list of actions reports, in order. -/
def turns (as : List Action) : List Turn := as.filterMap Action.turn

@[simp] lemma turns_nil : turns [] = [] := rfl

@[simp] lemma turns_actions (t : Transition) (r : Reducer) : turns (t.actions r) = t.turns := by
  cases t <;> rfl

namespace Reducer

/-- The facts every reducer reached by observations satisfies. -/
structure WellFormed (r : Reducer) : Prop where
  hasStop_of_stopped : r.state = .stopped → r.hasStop = true
  known_of_hasStop : r.hasStop = true → r.state ≠ .unknown
  stamped_of_hasStop : r.hasStop = true → r.hasStopStamp = true
  stopEpoch_le : r.hasStop = true → r.stopEpoch ≤ r.lastStopStamp
  stopEpoch_zero : r.hasStop = false → r.stopEpoch = 0

lemma wellFormed_new (b : Bool) : (new b).WellFormed := by
  constructor <;> simp [new]

/-- The transition a sample establishes for this reducer. -/
def transition (r : Reducer) (o : Observation) : Transition :=
  .between r.state r.hasStop (o.stopStamp != r.stopEpoch) (observedState o.status)

/-- The reducer once the stamp of a known sample is recorded. -/
def stamped (r : Reducer) (o : Observation) : Reducer :=
  { r with lastStopStamp := o.stopStamp, hasStopStamp := true }

def move (r : Reducer) (t : Transition) (next : TargetState) (stamp : UInt64) : Reducer :=
  { r with
    state := next
    executionEpoch := r.executionEpoch + UInt64.ofNat t.resumes
    stopEpoch := if t.stops then stamp else r.stopEpoch
    hasStop := r.hasStop || t.stops
    lastStopStamp := stamp
    hasStopStamp := true }

/-- A stamp the reducer does not refuse: present, and not below the last one. -/
def Admits (r : Reducer) (o : Observation) : Prop :=
  o.hasStopStamp = true ∧ (r.hasStopStamp = true → r.lastStopStamp ≤ o.stopStamp)

/-- Everything `observe` can do. -/
inductive Observed (r : Reducer) (o : Observation) : Outcome → Prop where
  | dead (h : r.state = .faulted) : Observed r o (r.reject .reconciliationRequired)
  | refused (err : Error) (h : r.state ≠ .faulted)
      (hs : r.acceptStopStamp (observedState o.status) o = .error err) : Observed r o (r.fault err)
  | unknown (r' : Reducer) (h : r.state ≠ .faulted) (hn : observedState o.status = .unknown)
      (hs : r.acceptStopStamp .unknown o = .ok r') : Observed r o (r'.result [])
  | unmoved (h : r.state ≠ .faulted) (hn : observedState o.status = .stopped)
      (hs : r.Admits o) (ht : r.transition o = .unmoved) :
      Observed r o ((r.stamped o).fault (.new "stopped observation did not advance stop stamp"))
  | moved (next : TargetState) (h : r.state ≠ .faulted) (hn : observedState o.status = next)
      (hk : next = .stopped ∨ next = .running) (hs : r.Admits o)
      (ht : r.transition o ≠ .unmoved) :
      Observed r o ((r.move (r.transition o) next o.stopStamp).publish
        ((r.transition o).actions (r.move (r.transition o) next o.stopStamp)))

lemma publish_nil (r : Reducer) : r.publish [] = r.result [] := by
  simp [publish]

variable {o : Observation} {next : TargetState}

lemma acceptStopStamp_known {r r' : Reducer}
    (hk : next ≠ .unknown) (h : r.acceptStopStamp next o = .ok r') :
    r.Admits o ∧ r' = r.stamped o := by
  simp only [acceptStopStamp] at h
  split at h
  · simp [hk] at h
  rename_i hsa
  split at h
  · cases h
  rename_i hle
  simp only [Bool.and_eq_true, decide_eq_true_eq, not_and, UInt64.not_lt] at hle
  exact ⟨⟨by simpa using hsa, hle⟩, by simpa [stamped] using h.symm⟩

variable {r : Reducer} {err : Error}

lemma not_admits_of_error (h : r.acceptStopStamp next o = .error err) : ¬ r.Admits o := by
  rintro ⟨hsa, hle⟩
  simp only [acceptStopStamp, hsa, Bool.not_true, Bool.false_eq_true, if_false] at h
  split at h
  · rename_i hlow
    simp only [Bool.and_eq_true, decide_eq_true_eq] at hlow
    exact absurd (hle hlow.1) (UInt64.not_le.mpr hlow.2)
  · cases h

lemma observeStopped_unmoved
    (hn : observedState o.status = .stopped) (ht : r.transition o = .unmoved) :
    (r.stamped o).observeStopped o.stopStamp = (r.stamped o).fault
      (.new "stopped observation did not advance stop stamp") := by
  simp only [transition, hn] at ht
  -- only a running reducer with a stop behind it and the same stamp is judged `unmoved`
  cases hs : r.state <;> cases hst : r.hasStop <;> by_cases he : o.stopStamp = r.stopEpoch <;>
    simp_all [Transition.between, observeStopped, stamped, fault, invalidateAction]

lemma observeStopped_moved
    (hn : observedState o.status = .stopped) (ht : r.transition o ≠ .unmoved) :
    (r.stamped o).observeStopped o.stopStamp =
      (r.move (r.transition o) .stopped o.stopStamp).publish
        ((r.transition o).actions (r.move (r.transition o) .stopped o.stopStamp)) := by
  simp only [transition, hn] at ht ⊢
  cases hs : r.state <;> cases hst : r.hasStop <;> by_cases he : o.stopStamp = r.stopEpoch <;>
    simp_all [Transition.between, observeStopped, move, stamped, Transition.actions, missedStop,
      Transition.stops, Transition.resumes, Transition.turns, publish_nil]

lemma observeRunning_moved (hwf : r.WellFormed) (hn : observedState o.status = .running) :
    (r.stamped o).observeRunning o.stopStamp =
      (r.move (r.transition o) .running o.stopStamp).publish
        ((r.transition o).actions (r.move (r.transition o) .running o.stopStamp)) := by
  have hsp := hwf.hasStop_of_stopped
  simp only [transition, hn]
  cases hs : r.state <;> cases hst : r.hasStop <;> by_cases he : o.stopStamp = r.stopEpoch <;>
    simp_all [Transition.between, observeRunning, move, stamped, Transition.actions,
      Transition.stops, Transition.resumes, Transition.turns, publish_nil]

/-- A running sample is never judged `unmoved`. -/
lemma transition_ne_unmoved
    (hn : observedState o.status = .running) : r.transition o ≠ .unmoved := by
  simp only [transition, hn]
  cases r.state <;> cases r.hasStop <;> cases (o.stopStamp != r.stopEpoch) <;>
    simp [Transition.between]

lemma observedState_ne_faulted (s : Status) : observedState s ≠ .faulted := by
  unfold observedState
  split_ifs <;> simp

lemma observe_faulted (h : r.state = .faulted) (o : Observation) :
    r.observe o = r.reject .reconciliationRequired := by
  rw [observe, if_pos h]

theorem observed (hwf : r.WellFormed) (o : Observation) : Observed r o (r.observe o) := by
  by_cases h : r.state = .faulted
  · rw [observe_faulted h]
    exact .dead h
  simp only [observe, if_neg h]
  cases hs : r.acceptStopStamp (observedState o.status) o with
  | error err => exact .refused err h hs
  | ok r' =>
    cases hn : observedState o.status with
    | faulted => exact absurd hn (observedState_ne_faulted _)
    | unknown => exact .unknown r' h hn (hn ▸ hs)
    | stopped =>
      obtain ⟨had, rfl⟩ := acceptStopStamp_known (by simp [hn]) hs
      change Observed r o ((r.stamped o).observeStopped o.stopStamp)
      by_cases ht : r.transition o = .unmoved
      · rw [observeStopped_unmoved hn ht]
        exact .unmoved h hn had ht
      · rw [observeStopped_moved hn ht]
        exact .moved _ h hn (.inl rfl) had ht
    | running =>
      obtain ⟨had, rfl⟩ := acceptStopStamp_known (by simp [hn]) hs
      change Observed r o ((r.stamped o).observeRunning o.stopStamp)
      rw [observeRunning_moved hwf hn]
      exact .moved _ h hn (.inr rfl) had (transition_ne_unmoved hn)

@[simp] lemma publish_reducer (r : Reducer) (as : List Action) : (r.publish as).reducer = r := by
  unfold publish
  split_ifs <;> rfl

@[simp] lemma publish_err (r : Reducer) (as : List Action) : (r.publish as).err = none := by
  unfold publish
  split_ifs <;> rfl

lemma publish_actions (h : r.configuring = false) (as : List Action) :
    (r.publish as).actions = as := by
  simp [publish, h, result]

lemma observe_leaseOwner (r : Reducer) (o : Observation) :
    (r.observe o).reducer.leaseOwner = r.leaseOwner := by
  by_cases hf : r.state = .faulted
  · rw [observe_faulted hf]
    rfl
  simp only [observe, if_neg hf]
  cases hs : r.acceptStopStamp (observedState o.status) o with
  | error => rfl
  | ok r' =>
    have hr' : r'.leaseOwner = r.leaseOwner := by
      simp only [acceptStopStamp] at hs
      split_ifs at hs <;> (obtain rfl := Except.ok.inj hs; rfl)
    rw [← hr']
    cases observedState o.status with
    | unknown => rfl
    | faulted => rfl
    | stopped =>
      simp only [observeStopped, missedStop]
      cases r'.hasStop <;> cases r'.state <;> by_cases he : o.stopStamp = r'.stopEpoch <;>
        simp [he, result, fault]
    | running =>
      simp only [observeRunning]
      split_ifs <;> simp [result]

lemma observe_err (h : (r.observe o).err = some err) :
    r.state = .faulted ∧ r.observe o = r.reject .reconciliationRequired ∨
      ∃ r' cause, r.observe o = Reducer.fault r' cause := by
  by_cases hf : r.state = .faulted
  · exact .inl ⟨hf, observe_faulted hf o⟩
  right
  simp only [observe, if_neg hf] at h ⊢
  cases hs : r.acceptStopStamp (observedState o.status) o with
  | error cause => exact ⟨r, cause, rfl⟩
  | ok r' =>
    simp only [hs] at h ⊢
    cases hn : observedState o.status with
    | unknown => simp [hn, result] at h
    | faulted => exact ⟨r', _, rfl⟩
    | stopped =>
      refine ⟨{ r' with state := .stopped }, .new "stopped observation did not advance stop stamp",
        ?_⟩
      simp only [hn, observeStopped, missedStop] at h ⊢
      cases hst : r'.hasStop <;> cases hp : r'.state <;>
        by_cases he : o.stopStamp = r'.stopEpoch <;>
        simp_all [result]
    | running =>
      simp only [hn, observeRunning] at h
      split_ifs at h <;> simp [result] at h

lemma faulted_of_err
    (h : (r.observe o).err = some err) : (r.observe o).reducer.state = .faulted := by
  rcases observe_err h with ⟨hf, heq⟩ | ⟨r', cause, heq⟩
  · rw [heq]
    exact hf
  · rw [heq]
    rfl

lemma invalidates_of_err (h : (r.observe o).err = some err) : r.state = .faulted ∨
      ∃ a ∈ (r.observe o).actions, a.kind = .invalidateSuspendedReferences := by
  rcases observe_err h with ⟨hf, -⟩ | ⟨r', cause, heq⟩
  · exact .inl hf
  · rw [heq]
    exact .inr ⟨_, List.mem_cons_self, rfl⟩

lemma acceptStopStamp_unknown {r r' : Reducer} (h : r.acceptStopStamp .unknown o = .ok r') :
    (o.hasStopStamp = false ∧ r.hasStopStamp = false ∧ r' = r) ∨
      (r.Admits o ∧ r' = r.stamped o) := by
  simp only [acceptStopStamp] at h
  split at h
  · rename_i hsa
    split at h
    · cases h
    · rename_i hno
      refine .inl ⟨by simpa using hsa, by simpa using hno, by simpa using h.symm⟩
  rename_i hsa
  split at h
  · cases h
  rename_i hle
  simp only [Bool.and_eq_true, decide_eq_true_eq, not_and, UInt64.not_lt] at hle
  exact .inr ⟨⟨by simpa using hsa, hle⟩, by simpa [stamped] using h.symm⟩

section

variable (hwf : r.WellFormed)

include hwf

lemma WellFormed.stamped (hs : r.Admits o) : (r.stamped o).WellFormed where
  hasStop_of_stopped := hwf.hasStop_of_stopped
  known_of_hasStop := hwf.known_of_hasStop
  stamped_of_hasStop := fun _ => rfl
  stopEpoch_le := fun h =>
    UInt64.le_trans (hwf.stopEpoch_le h) (hs.2 (hwf.stamped_of_hasStop h))
  stopEpoch_zero := hwf.stopEpoch_zero

lemma WellFormed.stopEpoch_le_stamp (hs : r.Admits o) : r.stopEpoch ≤ o.stopStamp := by
  cases hst : r.hasStop with
  | false =>
    rw [hwf.stopEpoch_zero hst]
    exact UInt64.zero_le
  | true => exact UInt64.le_trans (hwf.stopEpoch_le hst) (hs.2 (hwf.stamped_of_hasStop hst))

lemma WellFormed.stopEpoch_le_observe (o : Observation) :
    r.stopEpoch ≤ (r.observe o).reducer.stopEpoch := by
  have hob := observed hwf o
  generalize r.observe o = out at hob ⊢
  cases hob with
  | dead | refused | unmoved => exact UInt64.le_refl _
  | unknown _ _ _ hs =>
    rcases acceptStopStamp_unknown hs with ⟨-, -, rfl⟩ | ⟨-, rfl⟩ <;> exact UInt64.le_refl _
  | moved _ _ _ _ hs =>
    rw [publish_reducer]
    simp only [move]
    split_ifs
    · exact hwf.stopEpoch_le_stamp hs
    · exact UInt64.le_refl _

lemma WellFormed.fault (err : Error) : (r.fault err).reducer.WellFormed where
  hasStop_of_stopped := fun h => by cases h
  known_of_hasStop := fun _ => by simp [Reducer.fault]
  stamped_of_hasStop := hwf.stamped_of_hasStop
  stopEpoch_le := hwf.stopEpoch_le
  stopEpoch_zero := hwf.stopEpoch_zero

lemma WellFormed.move (hn : observedState o.status = next) (hk : next = .stopped ∨ next = .running)
    (hs : r.Admits o) (ht : r.transition o ≠ .unmoved) :
    (r.move (r.transition o) next o.stopStamp).WellFormed where
  hasStop_of_stopped := fun h => by
    subst hn
    simp only [Reducer.move, transition] at h ht ⊢
    rw [h] at ht ⊢
    exact Transition.hasStop_or_stops_of_stopped ht
  known_of_hasStop := fun _ => by rcases hk with rfl | rfl <;> simp [Reducer.move]
  stamped_of_hasStop := fun _ => rfl
  stopEpoch_le := fun h => by
    simp only [Reducer.move] at h ⊢
    split_ifs with hst
    · exact UInt64.le_refl _
    · have hseen : r.hasStop = true := by simpa [hst] using h
      exact UInt64.le_trans (hwf.stopEpoch_le hseen) (hs.2 (hwf.stamped_of_hasStop hseen))
  stopEpoch_zero := fun h => by
    simp only [Reducer.move, Bool.or_eq_false_iff] at h ⊢
    simp [h.2, hwf.stopEpoch_zero h.1]

lemma WellFormed.alternates (hlive : r.state ≠ .faulted)
    (hk : observedState o.status = .stopped ∨ observedState o.status = .running)
    (ht : r.transition o ≠ .unmoved) :
    Turn.Alternates (Transition.expected r.state) (r.transition o).turns ∧
      Turn.after (Transition.expected r.state) (r.transition o).turns =
        Transition.expected (observedState o.status) := by
  refine Transition.alternates_between hwf.hasStop_of_stopped (fun h => ?_) hk ht
  have hkn := hwf.known_of_hasStop h
  cases hst : r.state <;> simp_all

lemma WellFormed.observe (o : Observation) : (r.observe o).reducer.WellFormed := by
  have hob := observed hwf o
  generalize r.observe o = out at hob ⊢
  cases hob with
  | dead => exact hwf
  | refused err => exact hwf.fault err
  | unknown _ _ _ hs =>
    rcases acceptStopStamp_unknown hs with ⟨-, -, rfl⟩ | ⟨had, rfl⟩
    · exact hwf
    · exact hwf.stamped had
  | unmoved _ _ hs => exact (hwf.stamped hs).fault _
  | moved _ _ hn hk hs ht =>
    rw [publish_reducer]
    exact hwf.move hn hk hs ht

end

end Reducer

end Session

end MultiDap
