import MultiDap.Errors
import MultiDap.Target.Sample

/-!
# The session reducer

`session.Reducer` folds target observations into the canonical execution state of the session,
its two epochs, the configuration barrier, the control lease and the reset gate. Every operation
returns the reducer after it, the ordered actions for the actor, and the error value.
-/

namespace MultiDap

/-- A frontend or local controller. The empty identity never owns the lease. -/
abbrev ControllerID := String

/-- The execution state established by observation. -/
inductive TargetState where
  | unknown | stopped | running | faulted
  deriving DecidableEq

namespace Session

/-- The state evidence one sample gives to the reducer. -/
structure Observation where
  status : Status
  stopStamp : UInt64 := 0
  hasStopStamp : Bool := false
  deriving DecidableEq

inductive ActionKind where
  | invalidateSuspendedReferences
  | executionResumed
  | executionSuspended
  | reconciliationRequired
  deriving DecidableEq

/-- An ordered consequence, with the epochs that were current when it was produced. -/
structure Action where
  kind : ActionKind
  executionEpoch : UInt64
  stopEpoch : UInt64
  deriving DecidableEq

structure Snapshot where
  state : TargetState
  executionEpoch : UInt64
  stopEpoch : UInt64
  lastStopStamp : UInt64
  hasStopStamp : Bool
  configuring : Bool
  needsReset : Bool
  leaseOwner : ControllerID
  deriving DecidableEq

structure Reducer where
  requireResetAfterDownload : Bool := false
  state : TargetState := .unknown
  executionEpoch : UInt64 := 0
  stopEpoch : UInt64 := 0
  lastStopStamp : UInt64 := 0
  hasStopStamp : Bool := false
  hasStop : Bool := false
  configuring : Bool := false
  needsReset : Bool := false
  leaseOwner : ControllerID := ""
  deriving DecidableEq

/-- What an operation leaves behind: the reducer, the actions to apply, and the error. -/
structure Outcome where
  reducer : Reducer
  actions : List Action
  err : Option Error
  deriving DecidableEq

namespace Reducer

variable (r : Reducer)

/-- `session.New`. -/
def new (requireResetAfterDownload : Bool) : Reducer := { requireResetAfterDownload }

def snapshot : Snapshot where
  state := r.state
  executionEpoch := r.executionEpoch
  stopEpoch := r.stopEpoch
  lastStopStamp := r.lastStopStamp
  hasStopStamp := r.hasStopStamp
  configuring := r.configuring
  needsReset := r.needsReset
  leaseOwner := r.leaseOwner

def result (actions : List Action) : Outcome := ⟨r, actions, none⟩

/-- A refused operation: nothing happened, and the error says why. -/
def reject (s : Sentinel) : Outcome := ⟨r, [], some (.of s)⟩

def invalidateAction : Action :=
  ⟨.invalidateSuspendedReferences, r.executionEpoch, r.stopEpoch⟩

def resumedAction : Action := ⟨.executionResumed, r.executionEpoch, r.stopEpoch⟩

def suspendedAction : Action := ⟨.executionSuspended, r.executionEpoch, r.stopEpoch⟩

/-- Transition actions are held back while a configuration barrier is active. -/
def publish (actions : List Action) : Outcome :=
  if !r.configuring then r.result actions
  else r.result (actions.filter fun a => a.kind == .invalidateSuspendedReferences)

def fault (cause : Error) : Outcome :=
  let r := { r with state := .faulted }
  { reducer := r
    actions := [r.invalidateAction, ⟨.reconciliationRequired, r.executionEpoch, r.stopEpoch⟩]
    err := some ⟨Sentinel.reconciliationRequired.text ++ ": " ++ cause.text,
      [.reconciliationRequired]⟩ }

def beginConfiguration : Outcome :=
  if r.state = .faulted then r.reject .reconciliationRequired
  else if r.configuring then r.reject .configurationActive
  else { r with configuring := true }.result []

def configurationDone : Outcome :=
  if r.state = .faulted then r.reject .reconciliationRequired
  else if !r.configuring then r.reject .noConfiguration
  else
    let r := { r with configuring := false }
    match r.state with
    | .stopped => r.result [r.suspendedAction]
    | .running => r.result [r.resumedAction]
    | _ => r.result []

def cancelConfiguration : Outcome :=
  if !r.configuring then r.reject .noConfiguration
  else { r with configuring := false }.result []

/-- The state a status is evidence of. Lifecycle statuses leave it unknown. -/
def observedState (status : Status) : TargetState :=
  if status.isStopped then .stopped
  else if status.isRunning then .running
  else .unknown

def acceptStopStamp (next : TargetState) (o : Observation) : Except Error Reducer :=
  if !o.hasStopStamp then
    if r.hasStopStamp || next != .unknown then .error (.new "stop stamp is absent")
    else .ok r
  else if r.hasStopStamp && o.stopStamp < r.lastStopStamp then
    .error (.new s!"stop stamp regressed from {r.lastStopStamp} to {o.stopStamp}")
  else .ok { r with lastStopStamp := o.stopStamp, hasStopStamp := true }

/-- A new stop generation seen while the last known state was not running: one complete
run/stop cycle was missed, and the ordered pair is reported late. -/
def missedStop (stamp : UInt64) : Outcome :=
  let r := { r with executionEpoch := r.executionEpoch + 1, stopEpoch := stamp }
  r.publish [r.invalidateAction, r.resumedAction, r.suspendedAction]

def observeStopped (stamp : UInt64) : Outcome :=
  let previous := r.state
  let r := { r with state := .stopped }
  if !r.hasStop then
    let r := { r with hasStop := true, stopEpoch := stamp }
    r.publish [r.suspendedAction]
  else
    match previous with
    | .stopped =>
      if stamp = r.stopEpoch then r.result [] else r.missedStop stamp
    | .running =>
      if stamp = r.stopEpoch then
        r.fault (.new "stopped observation did not advance stop stamp")
      else
        let r := { r with stopEpoch := stamp }
        r.publish [r.suspendedAction]
    | _ =>
      if stamp = r.stopEpoch then r.result [] else r.missedStop stamp

def observeRunning (stamp : UInt64) : Outcome :=
  let previous := r.state
  let r := { r with state := .running }
  if previous = .stopped then
    if stamp = r.stopEpoch then
      let r := { r with executionEpoch := r.executionEpoch + 1 }
      r.publish [r.invalidateAction, r.resumedAction]
    else
      let r := { r with executionEpoch := r.executionEpoch + 2, stopEpoch := stamp }
      r.publish [r.invalidateAction, r.resumedAction, r.suspendedAction, r.resumedAction]
  else if previous = .running ∧ stamp ≠ r.stopEpoch ∧ r.hasStop then
    let r := { r with executionEpoch := r.executionEpoch + 1, stopEpoch := stamp }
    r.publish [r.suspendedAction, r.resumedAction]
  else r.result []

/-- The only operation that changes the execution state or the epochs. -/
def observe (o : Observation) : Outcome :=
  if r.state = .faulted then r.reject .reconciliationRequired
  else
    let next := observedState o.status
    match r.acceptStopStamp next o with
    | .error err => r.fault err
    | .ok r =>
      match next with
      | .unknown => r.result []
      | .stopped => r.observeStopped o.stopStamp
      | .running => r.observeRunning o.stopStamp
      -- `observedState` never answers `faulted`
      | .faulted => r.fault (.new "unrepresentable observed state 3")

/-- `owner %q: ` followed by the sentinel. -/
def ownerError (owner : ControllerID) (s : Sentinel) (rest : String := "") : Error :=
  ⟨"owner " ++ owner.quote ++ ": " ++ s.text ++ rest, [s]⟩

def acquireControl (owner : ControllerID) : Except Error Reducer :=
  if owner = "" then .error (.new "control lease owner is empty")
  else if r.leaseOwner ≠ "" ∧ r.leaseOwner ≠ owner then
    .error (ownerError owner .leaseHeld (" by " ++ r.leaseOwner.quote))
  else .ok { r with leaseOwner := owner }

def releaseControl (owner : ControllerID) : Except Error Reducer :=
  if r.leaseOwner ≠ owner ∨ owner = "" then .error (ownerError owner .notLeaseHolder)
  else .ok { r with leaseOwner := "" }

/-- Authorizes a mutating operation other than a resume. -/
def requireControl (owner : ControllerID) : Option Error :=
  if r.leaseOwner ≠ owner ∨ owner = "" then some (ownerError owner .notLeaseHolder)
  else none

def requireResume (owner : ControllerID) : Option Error :=
  match r.requireControl owner with
  | some err => some err
  | none => if r.needsReset then some (.of .resetRequired) else none

def noteDownload : Reducer :=
  if r.requireResetAfterDownload then { r with needsReset := true } else r

def noteReset : Reducer := { r with needsReset := false }

end Reducer

end Session

end MultiDap
