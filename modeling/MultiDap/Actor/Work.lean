import MultiDap.Actor.Models
import MultiDap.Breakpoint.Transaction
import MultiDap.Inspection.Service

/-!
# The data of the session actor

Events and subscriptions, the bridge operations the actor queues, what travels between the actor,
the dispatch goroutines and the worker of the executor, and the state of all of them.
-/

namespace MultiDap.Actor

open Machine Inspection

inductive OpenMode where
  | cold | warm
  deriving DecidableEq

/-! ### Native trace -/

inductive TraceOperation where
  | open | status | read | start | stop | close
  deriving DecidableEq

def TraceOperation.text : TraceOperation → String
  | .open => "open"
  | .status => "status"
  | .read => "read"
  | .start => "start"
  | .stop => "stop"
  | .close => "close"

/-- A request to the trace service. `coreID` is the core that the source of an open request names,
and `verdict` what `ValidateRequest` says about the request. -/
structure TraceRequest where
  op : TraceOperation
  handle : UInt64 := 0
  coreID : Option Int := none
  verdict : Option Error := none
  deriving DecidableEq

structure TraceReceipt where
  operation : String := ""
  outcome : String := ""
  reason : String := ""
  nativeStateUncertain : Bool := false
  helperAbortRequested : Bool := false
  collectionMayContinue : Bool := false
  deriving DecidableEq

structure TraceStatus where
  handle : UInt64 := 0
  state : String := "idle"
  needsReconciliation : Bool := false
  lastReceipt : TraceReceipt := {}
  deriving DecidableEq

/-- `batch` says whether the result holds packets. -/
structure TraceResult where
  status : TraceStatus := {}
  batch : Bool := false
  receipt : TraceReceipt := {}
  deriving DecidableEq

/-- The configuration of a session. A flag says that the optional backend of that name is present;
`traceInvalidate` is what `Invalidate` does to the status the trace service reports. -/
structure Options where
  requireResetAfterDownload : Bool := false
  openMode : OpenMode := .cold
  eventBuffer : Nat := 32
  breakpointRunner : Bool := false
  sourceIndex : Bool := false
  sourceResolver : Bool := false
  inspection : Bool := false
  sourceMap : Option SourceMapper := none
  m5 : Bool := false
  consoleEnabled : Bool := false
  trace : Bool := false
  traceInvalidate : ControllerID → TraceStatus → TraceStatus := fun _ status => status

structure Thread where
  id : Int
  coreID : Int
  name : String
  deriving DecidableEq

/-! ### Events -/

inductive EventKind where
  | invalidated | resumed | stopped | reconciliationRequired | output
  deriving DecidableEq

structure ConsoleOutput where
  server : String := ""
  io : String := ""
  rawLossy : Bool := false
  truncated : Bool := false
  deriving DecidableEq

/-- The snapshot of an event that carries none. -/
def noSnapshot : Session.Snapshot := Session.Reducer.snapshot {}

structure Event where
  kind : EventKind
  snapshot : Session.Snapshot := noSnapshot
  threadID : Int := 0
  allThreadsContinued : Bool := false
  allThreadsStopped : Bool := false
  reason : Option Stop.Reason := none
  hitBreakpointIDs : List Int := []
  cause : Option Error := none
  generation : Nat := 0
  console : ConsoleOutput := {}
  consoleUnavailable : Bool := false
  deriving DecidableEq

/-- One subscription. `events` is what its channel holds and `received` what its frontend has taken
from it. The session's map holds the subscriptions that are not closed. -/
structure Subscriber where
  id : Nat
  owner : ControllerID
  generation : Nat
  events : List Event := []
  received : List Event := []
  closed : Bool := false
  deriving DecidableEq

/-- Send without blocking. A full channel is closed. -/
def Subscriber.offer (sub : Subscriber) (buffer : Nat) (event : Event) : Subscriber :=
  if sub.closed then sub
  else if sub.events.length < buffer then
    { sub with events := sub.events ++ [{ event with generation := sub.generation }] }
  else { sub with closed := true }

def Subscriber.close (sub : Subscriber) : Subscriber := { sub with closed := true }

/-! ### Bridge operations -/

/-- The category of a bridge operation, and of the fault it may cause. -/
inductive Operation where
  | open | cores | state | execution | breakpoints | breakpointCleanup | inspection
  | rollbackClose | console | trace
  deriving DecidableEq

structure Fault where
  operation : Operation
  cause : Error
  deriving DecidableEq

inductive ExecutionOperation where
  | continue | pause | stepIn | next
  | invalid (code : UInt8)
  deriving DecidableEq

structure ExecutionTruth where
  allThreadsContinued : Bool := false
  allThreadsStopped : Bool := false
  deriving DecidableEq

structure Instruction where
  address : UInt64
  bytes : List UInt8
  text : String
  deriving DecidableEq

/-- The channel on which one caller waits for its reply. -/
abbrev ReplyID := Nat

/-- A call of the inspection service. It decides the type of the reply. -/
inductive InspectionCall where
  | stack (core : Int) (page : Page)
  | scopes (frameID : Int)
  | variablePage (reference : Int) (page : Page) (format : Format)
  | evaluate (frameID : Int) (expression : Expression) (format : Format)
  deriving DecidableEq

/-- The operations the actor queues, with what their callbacks capture. No code reads the frontend
that asked for an execution, or the stop epoch that a cleanup was scheduled for. -/
inductive Work where
  | open (reply : ReplyID)
  | cores (reply : ReplyID)
  | state (reply : Option ReplyID)
  | console (targets : List (Nat × Nat))
  | resetConsole (reply : ReplyID)
  | singleCoreExecution (owner : ControllerID) (coreID : Int) (operation : ExecutionOperation)
      (reply : ReplyID)
  | executionDomain (owner : ControllerID) (operation : ExecutionOperation) (scope : List Int)
      (reply : ReplyID)
  | breakpoints (owner : ControllerID) (identity : Source.Identity) (lines cores : List Int)
      (reply : ReplyID)
  | sourceResolution (owner : ControllerID) (identity : Source.Identity) (lines : List Int)
      (coverage : List Source.Observation) (expected : List Int) (reply : ReplyID)
  | breakpointCleanup (stopEpoch : UInt64)
  | inspection (stop : StopContext) (call : InspectionCall) (reply : ReplyID)
  | readMemory (stopEpoch : UInt64) (core : Int) (address count : UInt64) (reply : ReplyID)
  | disassemble (stopEpoch : UInt64) (core : Int) (address : UInt64) (instructionOffset : Int)
      (instructionCount : UInt32) (reply : ReplyID)
  | rollbackClose (operation : Operation) (reply : Option ReplyID) (bootstrapErr : Error)
      (expectedGeneration : Nat)
  | trace (owner : ControllerID) (epoch : Nat) (request : TraceRequest) (expectedGeneration : Nat)
      (reply : ReplyID)
  deriving DecidableEq

namespace Work

def kind : Work → Operation
  | .open _ => .open
  | .cores _ => .cores
  | .state _ => .state
  | .console _ => .console
  | .resetConsole _ => .console
  | .singleCoreExecution .. => .execution
  | .executionDomain .. => .execution
  | .breakpoints .. => .breakpoints
  | .sourceResolution .. => .breakpoints
  | .breakpointCleanup _ => .breakpointCleanup
  | .inspection .. => .inspection
  | .readMemory .. => .inspection
  | .disassemble .. => .inspection
  | .rollbackClose .. => .rollbackClose
  | .trace .. => .trace

/-- Zero if the operation may run on any bridge generation. -/
def expectedGeneration : Work → Nat
  | .rollbackClose _ _ _ generation => generation
  | .trace _ _ _ generation _ => generation
  | _ => 0

/-- The operation runs outside the worker of the executor. -/
def isolated : Work → Bool
  | .trace .. => true
  | _ => false

/-- The stop epoch an inspection is bound to, checked right before it is submitted. -/
def boundTo : Work → Option UInt64
  | .inspection stop _ _ => some stop.stopEpoch
  | .readMemory stopEpoch _ _ _ _ => some stopEpoch
  | .disassemble stopEpoch _ _ _ _ _ => some stopEpoch
  | _ => none

end Work

/-- What `ResolveTopology` found. The two errors are those of binding the optional backends to the
topology and of building the execution domain. -/
structure Topology where
  cores : List Int
  bindErr : Option Error := none
  domainErr : Option Error := none
  deriving DecidableEq

inductive Value where
  | nothing
  | topology (topology : Topology)
  | evidence (evidence : StateEvidence)
  | console (output : ConsoleOutput)
  | execution (cores : List Int) (truth : ExecutionTruth)
  | replaced (result : Breakpoint.ReplaceResult)
  | cleaned (result : Breakpoint.CleanupResult)
  | stack (stack : Stack)
  | scopes (scopes : List Scope)
  | page (page : VariablePage)
  | var (value : Variable)
  | bytes (data : List UInt8)
  | instructions (instructions : List Instruction)
  | trace (result : TraceResult)

inductive Answer where
  | none
  | attachment (snapshot : Session.Snapshot) (generation : Nat)
  | threads (threads : List Thread)
  | snapshot (snapshot : Session.Snapshot)
  | counts (dapOwned pending orphaned : Nat)
  | handle (id : Int)
  | result (value : Value)
  | traceStatus (status : TraceStatus)

structure Reply where
  reply : ReplyID
  answer : Answer
  err : Option Error

/-! ### The other goroutines -/

structure Executor where
  generation : Nat := 1
  nextID : Nat := 0
  closed : Bool := false
  deriving DecidableEq

/-- The operation the actor waits for. -/
structure Inflight where
  token : Nat
  work : Work
  submitted : Bool := false
  generation : Nat := 0
  operation : Nat := 0

/-- A message on the actor's completion channel. A trace operation that fails may still have a
result. -/
structure Completion where
  token : Nat
  generation : Nat
  operation : Nat := 0
  accepted : Bool := false
  result : Except Error Value := .ok .nothing
  failed : TraceResult := {}

/-- `bridge.Completion`, on the channel of one operation. -/
structure Finished where
  generation : Nat
  operation : Nat
  result : Except Error Value

/-- How far a dispatch goroutine has come. -/
inductive Phase where
  | reading
  | submitting (generation : Nat)
  | waiting (generation operation : Nat) (finished : Option Finished)

structure Dispatcher where
  token : Nat
  work : Work
  phase : Phase

/-- An operation the executor has accepted. -/
structure Job where
  token : Nat
  generation : Nat
  operation : Nat
  work : Work

/-- What the worker executes: a plain exchange with the bridge, a breakpoint transaction, or an
inspection request. -/
inductive Task where
  | exchange
  | transact (program : Breakpoint.Transact (Except Error Value))
  | inspect (program : Prog (Handle.Ledger Payload) Query Query.Answer (Except Error Value))

structure Running where
  job : Job
  task : Task

structure Console where
  disabled : Bool := false
  failureReported : Bool := false
  failurePending : Bool := false
  failureTargets : List (Nat × Nat) := []
  deriving DecidableEq

/-- The trace service as the actor sees it: the reason for which it is blocked, the status it
reports, and the callers whose context has ended. -/
structure Tracing where
  blocked : Option String := none
  status : TraceStatus := {}
  ended : List (ReplyID × Sentinel) := []
  deriving DecidableEq

/-- The actor, the stores it shares with the worker, and what is under way on the other goroutines.
No code reads the last five fields: the canonical events published, the stop effects of accepted
samples, the handles minted in a stop before the session failed closed, those of them minted since
the last invalidation, and the cleanups scheduled, with their stop epoch and whether a detach asked
for them. -/
structure Runtime where
  opts : Options := {}
  models : Models := .fresh false
  threads : List Thread := []
  lastStop : Option Stop.Effect := none
  subs : List Subscriber := []
  nextSub : Nat := 0
  ledger : Handle.Ledger Payload := {}
  world : Breakpoint.World := {}
  pending : List Work := []
  inflight : Option Inflight := none
  nextToken : Nat := 0
  dispatchers : List Dispatcher := []
  jobs : List Job := []
  worker : Option Running := none
  complete : List Completion := []
  opened : Bool := false
  opening : Bool := false
  faulted : Bool := false
  closing : Bool := false
  executor : Executor := {}
  openSucceeded : Bool := false
  openGeneration : Nat := 0
  controlGeneration : Nat := 0
  cleanupNaturalEpoch : UInt64 := 0
  cleanupImmediateEpoch : UInt64 := 0
  console : Console := {}
  tracing : Tracing := {}
  faults : List Fault := []
  replies : List Reply := []
  published : List Event := []
  stops : List Stop.Effect := []
  counted : List (Handle Payload) := []
  valid : List (Handle Payload) := []
  scheduled : List (Bool × UInt64) := []

end MultiDap.Actor
