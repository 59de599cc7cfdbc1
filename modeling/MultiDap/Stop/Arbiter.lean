import MultiDap.Errors

/-!
# The stop arbiter

`stop.Arbiter` turns coherent state samples into the ordered effects frontends see, and credits
breakpoint hints to confirmed stops. A hint alone never produces an effect.
-/

namespace MultiDap.Stop

/-- The execution state of one coherent sample. -/
inductive State where
  | unknown | stopped | running
  deriving DecidableEq

inductive Reason where
  | unknown | breakpoint | step | exception | pause
  deriving DecidableEq

inductive HaltCause where
  | unknown | breakpoint | user | notRunning
  deriving DecidableEq

/-- The evidence a stop is classified by. -/
structure StopInfo where
  cause : HaltCause := .unknown
  continuedFromBP : Bool := false
  inStepMode : Bool := false
  pendingHalt : Bool := false
  stoppedOnException : Bool := false
  breakpointEvidence : Bool := false
  core : Int := 0
  hasCore : Bool := false
  deriving DecidableEq

structure Observation where
  state : State
  stopStamp : UInt64 := 0
  hasStopStamp : Bool := false
  info : StopInfo := {}
  deriving DecidableEq

/-- The identity behind a live hint token. `breakpointID` is zero for an unverified orphan. -/
structure HintTarget where
  breakpointID : Int
  core : Int
  deriving DecidableEq

inductive EffectKind where
  | invalidateSuspended | continued | stopped
  deriving DecidableEq

/-- An ordered consequence of an observation. Only a stopped effect carries a reason. -/
structure Effect where
  kind : EffectKind
  executionEpoch : UInt64
  stopEpoch : UInt64
  reason : Option Reason := none
  core : Int := 0
  hasCore : Bool := false
  hitBreakpointIDs : List Int := []
  deriving DecidableEq

/-- A hint that waits for a confirmed stop, with the stop epoch it was received in. -/
structure PendingHint where
  target : HintTarget
  base : UInt64
  deriving DecidableEq

structure Arbiter where
  state : State := .unknown
  hasStop : Bool := false
  lastStamp : UInt64 := 0
  stopEpoch : UInt64 := 0
  exec : UInt64 := 0
  pending : List PendingHint := []
  faulted : Bool := false
  deriving DecidableEq

structure Snapshot where
  state : State
  executionEpoch : UInt64
  stopEpoch : UInt64
  faulted : Bool
  deriving DecidableEq

/-- What an observation leaves behind. -/
structure Outcome where
  arbiter : Arbiter
  effects : List Effect
  err : Option Error
  deriving DecidableEq

/-- Drop every element equal to the one kept before it. -/
def compactInts : List Int → List Int
  | [] => []
  | [a] => [a]
  | a :: b :: cs => if a = b then compactInts (b :: cs) else a :: compactInts (b :: cs)

def classify (info : StopInfo) (hash : Bool) : Reason :=
  if info.stoppedOnException then .exception
  else if info.pendingHalt || info.cause == .user then .pause
  else if info.inStepMode && !info.continuedFromBP then .step
  else if info.breakpointEvidence then .breakpoint
  else if info.cause == .breakpoint && (info.continuedFromBP || hash) then .breakpoint
  else .unknown

namespace Arbiter

variable (a : Arbiter)

/-- `stop.New`. The resolver is an argument of `noteHint`, because it reads the live store. -/
def new : Arbiter := {}

def currentStopEpoch : UInt64 := if !a.hasStop then 0 else a.stopEpoch

def snapshot : Snapshot := ⟨a.state, a.exec, a.currentStopEpoch, a.faulted⟩

/-- Record one resolved hint. The answer says whether a state sample should follow at once. -/
def noteHint (resolver : Option (UInt32 → Option HintTarget)) (token : UInt32) : Arbiter × Bool :=
  match resolver with
  | none => (a, false)
  | some resolve =>
    if a.faulted || a.state == .unknown then (a, false)
    else
      match resolve token with
      | none => (a, false)
      | some target =>
        let hint : PendingHint := ⟨target, a.currentStopEpoch⟩
        if a.pending.contains hint then (a, true)
        else ({ a with pending := a.pending ++ [hint] }, true)

def result (effects : List Effect) : Outcome := ⟨a, effects, none⟩

def fault (cause : String) : Outcome :=
  { arbiter := { a with faulted := true }
    effects := []
    err := some ⟨Sentinel.stopReconciliationRequired.text ++ ": " ++
        Sentinel.invalidObservation.text ++ ": " ++ cause,
      [.stopReconciliationRequired, .invalidObservation]⟩ }

def invalidate : Effect :=
  { kind := .invalidateSuspended, executionEpoch := a.exec, stopEpoch := a.currentStopEpoch }

def continued (a : Arbiter) : Effect :=
  { kind := .continued, executionEpoch := a.exec, stopEpoch := a.currentStopEpoch }

/-- The hints received before the stop with this stamp. -/
def pendingFor (stamp : UInt64) : List PendingHint :=
  a.pending.filter (·.base < stamp)

def discardHintsAt (stamp : UInt64) : Arbiter :=
  { a with pending := a.pending.filter (·.base ≠ stamp) }

/-- The core a stop is attributed to: the observed one, else the first accepted hint's. -/
def stoppedCore (info : StopInfo) (targets : List PendingHint) : Int × Bool :=
  if info.hasCore then (info.core, true)
  else
    match targets with
    | [] => (info.core, false)
    | p :: _ => (p.target.core, true)

/-- Establish a new stop epoch and consume the pending hints. -/
def stopped (a : Arbiter) (ob : Observation) : Arbiter × Effect :=
  let targets := a.pendingFor ob.stopStamp
  let hits := compactInts
    (((targets.map (·.target.breakpointID)).filter (0 < ·)).insertionSort (· ≤ ·))
  let core := stoppedCore ob.info targets
  ({ a with hasStop := true, stopEpoch := ob.stopStamp, pending := [] },
    { kind := .stopped, executionEpoch := a.exec, stopEpoch := ob.stopStamp
      reason := some (classify ob.info (!hits.isEmpty)), core := core.1, hasCore := core.2
      hitBreakpointIDs := hits })

/-- A complete cycle ended in execution again before it was sampled. -/
def missedRun (ob : Observation) : Outcome :=
  let a := { a with exec := a.exec + 1 }
  let (a, stop) := a.stopped ob
  let a := { a with exec := a.exec + 1 }
  a.result [a.invalidate, stop, a.continued]

def observeRunning (ob : Observation) : Outcome :=
  let previous := a.state
  -- a hint that led to no stop before execution was seen again belongs to an old stop
  let a := { a with state := .running, pending := [] }
  if !a.hasStop then a.result []
  else if previous = .stopped then
    if ob.stopStamp = a.currentStopEpoch then
      let a := { a with exec := a.exec + 1 }
      a.result [a.invalidate, a.continued]
    else a.missedRun ob
  else if previous = .running ∧ ob.stopStamp ≠ a.currentStopEpoch then a.missedRun ob
  else a.result []

/-- A complete cycle ended in a stop before it was sampled. The first two effects still name the
stop epoch that was left. -/
def missedStop (ob : Observation) : Outcome :=
  let a := { a with exec := a.exec + 1 }
  let (a', stop) := a.stopped ob
  a'.result [a.invalidate, a.continued, stop]

def observeStopped (ob : Observation) : Outcome :=
  let previous := a.state
  let a := { a with state := .stopped }
  if !a.hasStop then
    let (a, stop) := { a with hasStop := true }.stopped ob
    a.result [stop]
  else if previous = .stopped then
    if ob.stopStamp = a.currentStopEpoch then (a.discardHintsAt ob.stopStamp).result []
    else a.missedStop ob
  else if previous = .running then
    if ob.stopStamp = a.currentStopEpoch then
      a.fault "running-to-stopped observation did not advance stop stamp"
    else
      let (a, stop) := a.stopped ob
      a.result [stop]
  else if ob.stopStamp = a.currentStopEpoch then a.result []
  else a.missedStop ob

/-- Apply one sample. Invalid stamp evidence fails closed. -/
def observe (ob : Observation) : Outcome :=
  if a.faulted then ⟨a, [], some (.of .stopReconciliationRequired)⟩
  else if ob.state = .unknown then a.result []
  else if !ob.hasStopStamp then a.fault "missing stop stamp"
  else if a.hasStop && ob.stopStamp < a.lastStamp then
    a.fault s!"stop stamp regressed from {a.lastStamp} to {ob.stopStamp}"
  else
    let a := { a with lastStamp := ob.stopStamp }
    match ob.state with
    | .running => a.observeRunning ob
    | .stopped => a.observeStopped ob
    | .unknown => a.fault "unknown execution state 0"

end Arbiter

end MultiDap.Stop
