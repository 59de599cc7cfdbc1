import MultiDap.Actor.Work

/-!
# The actor goroutine

The methods of `runtime`, each a function from the state before to the state after. A callback may
fail the session closed, which runs the callbacks of all queued operations in turn. Those run in a
session that has already failed closed, so the recursion ends there: the callbacks take what
failing closed means as an argument.
-/

namespace MultiDap.Actor

open Machine Inspection Stop Session

def makeThreads (cores : List Int) : Except Error (List Thread) := do
  let threads ← cores.foldlM (fun (threads : List Thread) core =>
    if core < 0 ∨ core ≥ maxInt then .error (.new s!"actor: core id {core} exceeds thread id range")
    else if threads.any (·.coreID == core) then .error (.new s!"actor: duplicate core id {core}")
    else .ok (threads ++ [⟨core + 1, core, s!"core{core}"⟩])) []
  if threads.isEmpty then .error (.new "actor: topology has no configured cores")
  else return threads.insertionSort fun a b => a.coreID ≤ b.coreID

namespace Runtime

variable (r : Runtime)

/-- The actor `New` starts. -/
def new (opts : Options) : Runtime := { opts, models := .fresh opts.requireResetAfterDownload }

def snapshot (r : Runtime) : Session.Snapshot := r.models.reducer.snapshot

def resolver : Resolver :=
  some fun token => (r.world.store.lookupHint token).map fun t => ⟨t.dapID, t.core⟩

def respond (reply : ReplyID) (answer : Answer) (err : Option Error) : Runtime :=
  { r with replies := r.replies ++ [⟨reply, answer, err⟩] }

/-- The reply of an operation that nobody may be waiting for. -/
def respondTo (reply : Option ReplyID) (err : Option Error) : Runtime :=
  match reply with
  | some reply => r.respond reply .none err
  | none => r

def enqueue (work : Work) : Runtime := { r with pending := r.pending ++ [work] }

/-- The error a method gets on a session that is not open or has failed closed. -/
def notReady : Option Error :=
  if !r.opened then some (.of .notOpen)
  else if r.faulted then some (.of .reconciliationNeeded)
  else none

/-- The error of a context that has ended. -/
def contextErr (ended : Sentinel) : Error :=
  if ended = .canceled then .of .canceled else .of .deadlineExceeded

/-! ### Native trace -/

def blockTrace (tracing : Tracing) (reason : String) : Tracing :=
  if tracing.blocked.isSome then tracing else { tracing with blocked := some reason }

def traceOwnerCurrent (owner : ControllerID) (epoch : Nat) : Bool :=
  owner != "" && epoch == r.controlGeneration && r.snapshot.leaseOwner == owner

/-- A trace operation of this owner is in flight. The empty owner stands for all of them. -/
def tracesFor (owner : ControllerID) : Bool :=
  r.inflight.any fun inflight =>
    match inflight.work with
    | .trace isolatedOwner .. => owner == "" || isolatedOwner == owner
    | _ => false

/-- What `invalidateTraceOwner` leaves of the trace service. -/
def invalidatedTrace (owner : ControllerID) (reason : String) : Tracing :=
  if !r.opts.trace then r.tracing
  else
    let tracing := { r.tracing with status := r.opts.traceInvalidate owner r.tracing.status }
    let tracing := if r.tracesFor owner then blockTrace tracing reason else tracing
    if tracing.status.needsReconciliation then blockTrace tracing reason else tracing

def invalidateTraceOwner (owner : ControllerID) (reason : String) : Runtime :=
  { r with tracing := r.invalidatedTrace owner reason }

/-- The checks on a trace request, made when it is accepted and again before it is submitted. The
caller stands for its context. -/
def traceRequest (owner : ControllerID) (request : TraceRequest)
    (caller : ReplyID) : Tracing × Option Error :=
  match r.tracing.ended.find? (·.1 == caller) with
  | some (_, ended) => (r.tracing, some (contextErr ended))
  | none =>
    match r.notReady with
    | some err => (r.tracing, some err)
    | none =>
      if !r.opts.trace then (r.tracing, some (.of .traceUnavailable))
      else
        match r.models.reducer.requireControl owner with
        | some err => (r.tracing, some err)
        | none =>
          if r.snapshot.configuring then
            (r.tracing, some (.new "actor: native trace requires completed frontend configuration"))
          else if r.tracing.blocked.isSome then
            (r.tracing, some (.of .traceReconciliationRequired))
          else if r.tracing.status.needsReconciliation then
            (blockTrace r.tracing "actor_faulted", some (.of .traceReconciliationRequired))
          else if request.verdict.isSome then (r.tracing, request.verdict)
          else if request.op ≠ .open ∧ request.handle ≠ r.tracing.status.handle then
            (r.tracing, some (.of .traceStaleHandle))
          else if request.op = .open ∧
              request.coreID.any fun core => !r.threads.any (·.coreID == core) then
            (r.tracing,
              some (.new "actor: native trace declaration references an unconfigured core"))
          else (r.tracing, none)

/-- The status the actor reports. A latch that the service does not know of is shown as a fault. -/
def traceSnapshot : TraceStatus :=
  let status := r.tracing.status
  match r.tracing.blocked with
  | some reason =>
    if status.needsReconciliation then status
    else { status with
      state := "faulted", needsReconciliation := true
      lastReceipt :=
        { operation := "invalidate", outcome := "abandoned", reason := reason
          nativeStateUncertain := true, helperAbortRequested := true
          collectionMayContinue := true } }
  | none => status

/-! ### Publication -/

def publish (event : Event) : Runtime :=
  { r with
    subs := r.subs.map (·.offer r.opts.eventBuffer event)
    published := r.published ++ [event]
    valid := if event.kind = .invalidated then [] else r.valid }

def publishTo (event : Event) (targets : List (Nat × Nat)) : Runtime :=
  { r with
    subs := r.subs.map fun sub =>
      if targets.contains (sub.id, sub.generation) then sub.offer r.opts.eventBuffer event
      else sub }

def dropStopBound (r : Runtime) : Runtime := { r with ledger := r.ledger.dropStopBound }

def representativeThread : Int :=
  match r.threads with
  | [] => 0
  | t :: _ => t.id

def threadIDForCore (core : Int) : Int :=
  match r.threads.find? (·.coreID == core) with
  | some t => t.id
  | none => 0

def applyReducerAction (snapshot : Session.Snapshot) (cause : Option Error) (r : Runtime)
    (action : Action) : Runtime :=
  match action.kind with
  | .invalidateSuspendedReferences =>
    r.dropStopBound.publish { kind := .invalidated, snapshot, cause }
  | .executionResumed =>
    r.publish { kind := .resumed, snapshot, threadID := r.representativeThread, cause }
  | .executionSuspended => r.publish { kind := .stopped, snapshot, cause }
  | .reconciliationRequired => r.publish { kind := .reconciliationRequired, snapshot, cause }

def applyReducerActions (actions : List Action) (snapshot : Session.Snapshot)
    (cause : Option Error) : Runtime :=
  actions.foldl (applyReducerAction snapshot cause) r

/-- The event a stopped effect is published as. -/
def stoppedEvent (effect : Effect) (snapshot : Session.Snapshot) : Event where
  kind := .stopped
  snapshot := snapshot
  threadID := if effect.hasCore then r.threadIDForCore effect.core else 0
  reason := effect.reason
  hitBreakpointIDs := effect.hitBreakpointIDs

def applyStopEffect (snapshot : Session.Snapshot) (r : Runtime) (effect : Effect) : Runtime :=
  match effect.kind with
  | .invalidateSuspended => r.dropStopBound.publish { kind := .invalidated, snapshot }
  | .continued => r.publish { kind := .resumed, snapshot, threadID := r.representativeThread }
  | .stopped => { r with lastStop := some effect }.publish (r.stoppedEvent effect snapshot)

def applyConfigurationAction (snapshot : Session.Snapshot) (r : Runtime) (action : Action) :
    Runtime :=
  match action.kind with
  | .executionSuspended =>
    match r.lastStop with
    | some effect =>
      if effect.stopEpoch = snapshot.stopEpoch then r.applyStopEffect snapshot effect
      else r.publish { kind := .stopped, snapshot }
    | none => r.publish { kind := .stopped, snapshot }
  | .executionResumed =>
    r.publish { kind := .resumed, snapshot, threadID := r.representativeThread }
  | .invalidateSuspendedReferences => r.dropStopBound.publish { kind := .invalidated, snapshot }
  | .reconciliationRequired => r.publish { kind := .reconciliationRequired, snapshot }

def applyConfigurationActions (actions : List Action) (snapshot : Session.Snapshot) : Runtime :=
  actions.foldl (applyConfigurationAction snapshot) r

/-! ### Observation -/

/-- The target is stopped, and the stop epoch is still the given one. -/
def sameStoppedEpoch (stopEpoch : UInt64) : Bool :=
  r.snapshot.state == .stopped && r.snapshot.stopEpoch == stopEpoch

def maybeScheduleBreakpointCleanup (snapshot : Session.Snapshot) (immediate : Bool) : Runtime :=
  if snapshot.state ≠ .stopped ∨ r.opts.breakpointRunner = false then r
  else if immediate then
    if r.cleanupImmediateEpoch = snapshot.stopEpoch then r
    else
      { r with
        cleanupImmediateEpoch := snapshot.stopEpoch
        scheduled := r.scheduled ++ [(true, snapshot.stopEpoch)] }.enqueue
          (.breakpointCleanup snapshot.stopEpoch)
  else if r.cleanupNaturalEpoch = snapshot.stopEpoch ∨
      r.world.store.pendingCount + r.world.store.orphanCount = 0 then r
  else
    { r with
      cleanupNaturalEpoch := snapshot.stopEpoch
      scheduled := r.scheduled ++ [(false, snapshot.stopEpoch)] }.enqueue
        (.breakpointCleanup snapshot.stopEpoch)

/-- What failing closed does, as a callback sees it. -/
abbrev Fail := Runtime → Operation → Error → Runtime

/-- The effects of a sample that the session passes on. -/
def passedOn (configuring : Bool) (effects : List Effect) : List Effect :=
  if configuring then effects.filter (·.kind == .invalidateSuspended) else effects

def absorb (fed : Fed) : Runtime :=
  let snapshot := fed.models.reducer.snapshot
  (passedOn snapshot.configuring fed.effects).foldl (applyStopEffect snapshot)
    { r with
      models := fed.models
      stops := r.stops ++ fed.effects.filter (·.kind == .stopped) }

def observe (fail : Fail) (r : Runtime) (evidence : StateEvidence) : Runtime × Option Error :=
  let fed := r.models.feed r.resolver evidence
  match fed.failure with
  | some (.arbiter err) =>
    let r := { r with models := fed.models }
    (if r.opening then r else fail r .state err, some err)
  | some (.reducer err) =>
    let r := { r with models := fed.models }
    (r.applyReducerActions fed.actions fed.models.reducer.snapshot (some err), some err)
  | some (.disagreement err) =>
    let r := { r with models := fed.models }
    (if r.opening then r else fail r .state err, some err)
  | none => ((r.absorb fed).maybeScheduleBreakpointCleanup fed.models.reducer.snapshot false, none)

/-! ### Callbacks -/

def consoleFrontendActive : Bool :=
  r.opts.consoleEnabled && r.opened && !r.faulted && r.subs.any (!·.closed) &&
    !r.snapshot.configuring

def consoleActive : Bool := r.consoleFrontendActive && !r.console.disabled

def consoleSubscribers : List (Nat × Nat) :=
  (r.subs.filter (!·.closed)).map fun sub => (sub.id, sub.generation)

def noteConsoleFailure (targets : List (Nat × Nat)) : Runtime :=
  if r.console.failureReported then r
  else if r.consoleFrontendActive then
    { r with console := { r.console with failureReported := true } }.publishTo
      { kind := .output, consoleUnavailable := true } targets
  else
    { r with console := { r.console with failurePending := true, failureTargets := targets } }

def bootstrapFailed (fail : Fail) (r : Runtime) (operation : Operation) (reply : Option ReplyID)
    (bootstrapErr : Error) : Runtime :=
  if !r.opening || r.faulted then
    { r with opening := false }.respondTo reply (some bootstrapErr)
  else if r.openSucceeded && r.opts.openMode == .cold then
    if r.openGeneration = 0 ∨ r.executor.generation ≠ r.openGeneration then
      (fail { r with opening := false } operation (.of .bridgeStaleCompletion)).respondTo reply
        (some (.of .bridgeStaleCompletion))
    else r.enqueue (.rollbackClose operation reply bootstrapErr r.openGeneration)
  else
    (fail { r with opening := false } operation bootstrapErr).respondTo reply (some bootstrapErr)

def doneOpen (fail : Fail) (r : Runtime) (reply : ReplyID) (result : Except Error Value)
    (bootstrapErr : Option Error) : Runtime :=
  match result with
  | .error err => { r with opening := false }.respond reply .none (some err)
  | .ok _ =>
    let r := { r with openSucceeded := true }
    match bootstrapErr with
    | some err => r.bootstrapFailed fail .open (some reply) err
    | none => r.enqueue (.cores reply)

def doneCores (fail : Fail) (r : Runtime) (reply : ReplyID) (result : Except Error Value) :
    Runtime :=
  match result with
  | .error err => r.bootstrapFailed fail .cores (some reply) err
  | .ok (.topology topology) =>
    match makeThreads topology.cores, topology.bindErr, topology.domainErr with
    | .error err, _, _ => r.bootstrapFailed fail .cores (some reply) err
    | .ok _, some err, _ => r.bootstrapFailed fail .cores (some reply) err
    | .ok _, none, some err => r.bootstrapFailed fail .cores (some reply) err
    | .ok threads, none, none => { r with threads := threads }.enqueue (.state (some reply))
  | .ok _ =>
    r.bootstrapFailed fail .cores (some reply) (.new "actor: topology result has wrong type")

/-- The part of the state callback that looks at the result. -/
def sample (fail : Fail) (r : Runtime) (result : Except Error Value) : Runtime × Option Error :=
  match result with
  | .error err => (r, some err)
  | .ok (.evidence evidence) =>
    match r.observe fail evidence with
    | (r, some err) =>
      (if err.is .reconciliationRequired && !r.opening then fail r .state err else r, some err)
    | (r, none) => (r, none)
  | .ok _ => (r, some (.new "actor: state result has wrong type"))

def doneState (fail : Fail) (r : Runtime) (reply : Option ReplyID) (result : Except Error Value) :
    Runtime :=
  let (r, err) := r.sample fail result
  if r.opening then
    match err with
    | some err => r.bootstrapFailed fail .state reply err
    | none => { r with opening := false, opened := true }.respondTo reply none
  else r.respondTo reply err

def doneConsole (targets : List (Nat × Nat)) (result : Except Error Value) : Runtime :=
  match result with
  | .ok (.console output) =>
    if r.consoleActive && (output.server != "" || output.io != "" || output.rawLossy) then
      r.publishTo { kind := .output, console := output } targets
    else r
  | _ => { r with console := { r.console with disabled := true } }.noteConsoleFailure targets

def doneResetConsole (reply : ReplyID) (result : Except Error Value) : Runtime :=
  match result with
  | .ok _ => { r with console := {} }.respond reply .none none
  | .error err => r.respond reply .none (some err)

/-- The callbacks that only check the type of the result and reply. -/
def doneReply (reply : ReplyID) (result : Except Error Value)
    (read : Value → Except Error Answer) : Runtime :=
  match result.bind read with
  | .ok answer => r.respond reply answer none
  | .error err => r.respond reply .none (some err)

/-- The result of a domain execution, as the caller sees it. -/
def executionAnswer : Value → Except Error Answer
  | .execution cores truth =>
    match cores.find? (· < 0) with
    | some core => .error (.new s!"actor: execution domain returned negative core {core}")
    | none => .ok (.result (.execution cores truth))
  | _ => .error (.new "actor: execution domain returned an invalid result")

def breakpointAnswer : Value → Except Error Answer
  | .replaced result => .ok (.result (.replaced result))
  | _ => .error (.new "actor: breakpoint result has wrong type")

def inspectionAnswer (call : InspectionCall) (value : Value) : Except Error Answer :=
  match call, value with
  | .stack .., .stack _ => .ok (.result value)
  | .stack .., _ => .error (.new "actor: stack result has wrong type")
  | .scopes .., .scopes _ => .ok (.result value)
  | .scopes .., _ => .error (.new "actor: scopes result has wrong type")
  | .variablePage .., .page _ => .ok (.result value)
  | .variablePage .., _ => .error (.new "actor: variables result has wrong type")
  | .evaluate .., .var _ => .ok (.result value)
  | .evaluate .., _ => .error (.new "actor: evaluate result has wrong type")

/-- A result that arrives after its stop is replaced by the staleness error. -/
def ifCurrent (stopEpoch : UInt64) (result : Except Error Value) : Except Error Value :=
  if r.sameStoppedEpoch stopEpoch then result else .error (.of .inspectionStale)

def doneInspection (stop : StopContext) (call : InspectionCall) (reply : ReplyID)
    (result : Except Error Value) : Runtime :=
  let current := r.ifCurrent stop.stopEpoch result
  let r := if r.sameStoppedEpoch stop.stopEpoch then r else r.dropStopBound
  r.doneReply reply current (inspectionAnswer call)

def memoryAnswer : Value → Except Error Answer
  | .bytes data => .ok (.result (.bytes data))
  | _ => .error (.new "actor: memory read result has wrong type")

def disassemblyAnswer : Value → Except Error Answer
  | .instructions instructions => .ok (.result (.instructions instructions))
  | _ => .error (.new "actor: disassembly result has wrong type")

def doneRollbackClose (fail : Fail) (r : Runtime) (operation : Operation)
    (reply : Option ReplyID) (bootstrapErr : Error) (result : Except Error Value) : Runtime :=
  let r := { r with opening := false, openSucceeded := false, openGeneration := 0 }
  match result with
  | .error rollbackErr =>
    let combined := bootstrapErr.join (.under "actor: cold startup rollback close" rollbackErr)
    (fail r .rollbackClose combined).respondTo reply (some combined)
  | .ok _ => (fail r operation bootstrapErr).respondTo reply (some bootstrapErr)

/-- The latch that an operation of the trace service closes by the way it ended. -/
def traceLatch (owner : ControllerID) (err : Error) : Tracing :=
  let latch (reason : String) : Tracing :=
    { r with tracing := blockTrace r.tracing reason }.invalidatedTrace owner reason
  if err.is .deadlineExceeded then latch "trace_timeout"
  else if err.is .canceled then latch "trace_cancelled"
  else if err.is .bridgeStaleCompletion then latch "actor_faulted"
  else r.tracing

/-- The error of a trace operation keeps its cause, but not the text of it. -/
def traceOperationError (operation : TraceOperation) (cause : Error) : Error :=
  ⟨"actor: native trace " ++ operation.text ++ " failed", cause.wraps⟩

/-- The answer to a trace operation that failed, with what the service returned beside the error. -/
def respondTraceError (request : TraceRequest) (reply : ReplyID)
    (result : TraceResult) (err : Error) : Runtime :=
  let result := { result with batch := false }
  let result :=
    if r.tracing.blocked.isSome then
      { result with status := r.traceSnapshot, receipt := r.traceSnapshot.lastReceipt }
    else result
  r.respond reply (.result (.trace result)) (some (traceOperationError request.op err))

/-- The callback of a trace operation. `started` says that it was submitted. -/
def doneTrace (started : Bool) (owner : ControllerID) (epoch : Nat)
    (request : TraceRequest) (reply : ReplyID) (result : Except Error Value)
    (failed : TraceResult) : Runtime :=
  -- the same frontend may have given up control and taken it again
  if !r.traceOwnerCurrent owner epoch then
    r.respond reply .none (some (.of .traceStaleOperation))
  else
    let r :=
      match result with
      | .error err => if started then { r with tracing := r.traceLatch owner err } else r
      | .ok _ => r
    if r.faulted then r.respond reply .none (some (.of .reconciliationNeeded))
    else
      match result with
      | .ok (.trace result) => r.respond reply (.result (.trace result)) none
      | .ok _ =>
        { r with
          tracing := { r with tracing := blockTrace r.tracing "actor_faulted" }.invalidatedTrace
            owner "actor_faulted" }.respondTraceError request reply {}
              (.new "actor: native trace result has wrong type")
      | .error err => r.respondTraceError request reply failed err

/-- The callback of an operation. `bootstrapErr` is the error of the bootstrap context, which only
the callback of `Open` looks at. -/
def doneWith (fail : Fail) (r : Runtime) (work : Work) (result : Except Error Value)
    (bootstrapErr : Option Error) : Runtime :=
  match work with
  | .open reply => r.doneOpen fail reply result bootstrapErr
  | .cores reply => r.doneCores fail reply result
  | .state reply => r.doneState fail reply result
  | .console targets => r.doneConsole targets result
  | .resetConsole reply => r.doneResetConsole reply result
  | .singleCoreExecution _ coreID _ reply =>
    r.doneReply reply result fun _ => .ok (.result (.execution [coreID] {}))
  | .executionDomain _ _ _ reply => r.doneReply reply result executionAnswer
  | .breakpoints _ _ _ _ reply => r.doneReply reply result breakpointAnswer
  | .sourceResolution _ _ _ _ _ reply => r.doneReply reply result breakpointAnswer
  | .breakpointCleanup _ => r
  | .inspection stop call reply => r.doneInspection stop call reply result
  | .readMemory stopEpoch _ _ _ reply =>
    r.doneReply reply (r.ifCurrent stopEpoch result) memoryAnswer
  | .disassemble stopEpoch _ _ _ _ reply =>
    r.doneReply reply (r.ifCurrent stopEpoch result) disassemblyAnswer
  | .rollbackClose operation reply err _ => r.doneRollbackClose fail operation reply err result
  -- the operation was not submitted
  | .trace owner epoch request _ reply => r.doneTrace false owner epoch request reply result {}

/-! ### Failing closed -/

/-- The callback of an operation that was queued when the session failed closed. -/
def drainOne (work : Work) : Runtime :=
  r.doneWith (fun r _ _ => r) work (.error (.of .reconciliationNeeded)) none

/-- The first half of failing closed: nothing is queued or valid any more. -/
def fault (operation : Operation) (cause : Error) : Runtime :=
  { r with
    faulted := true
    tracing := r.invalidatedTrace "" "actor_faulted"
    faults := r.faults ++ [⟨operation, cause⟩]
    ledger := r.ledger.dropStopBound
    pending := []
    valid := [] }

def failClosed (operation : Operation) (cause : Error) : Runtime :=
  if r.faulted then r
  else
    let drained := r.pending.foldl drainOne (r.fault operation cause)
    if drained.snapshot.state = .faulted then drained
    else drained.publish
      { kind := .reconciliationRequired, snapshot := drained.snapshot, cause := some cause }

def done (work : Work) (result : Except Error Value) (bootstrapErr : Option Error) : Runtime :=
  r.doneWith failClosed work result bootstrapErr

/-! ### The work queue -/

/-- Why the head of the queue may not be submitted. The check of a trace request may close the
latch. -/
def refusal (work : Work) : Tracing × Option Error :=
  if work.expectedGeneration ≠ 0 ∧ r.executor.generation ≠ work.expectedGeneration then
    (r.tracing, some (.of .bridgeStaleCompletion))
  else
    match work with
    | .trace owner epoch request _ reply =>
      if r.traceOwnerCurrent owner epoch then r.traceRequest owner request reply
      else (r.tracing, some (.of .traceStaleOperation))
    | _ =>
      match work.boundTo with
      | some stopEpoch =>
        (r.tracing, if r.sameStoppedEpoch stopEpoch then none else some (.of .inspectionStale))
      | none => (r.tracing, none)

/-- Hand an operation to a dispatch goroutine. -/
def launch (work : Work) : Runtime :=
  { r with
    nextToken := r.nextToken + 1
    inflight := some
      { token := r.nextToken + 1
        work := work
        generation := if work.isolated then r.executor.generation else 0 }
    dispatchers := r.dispatchers ++ [⟨r.nextToken + 1, work, .reading⟩] }

/-- The loop of `startNext`. A refused operation is answered at once and the next one is tried;
every turn takes one operation off the queue. -/
def startNextLoop : Nat → Runtime → Runtime
  | 0, r => r
  | fuel + 1, r =>
    if r.inflight.isSome || r.closing || r.faulted then r
    else
      match r.pending with
      | [] => r
      | work :: pending =>
        let refusal := { r with pending := pending }.refusal work
        let r := { r with pending := pending, tracing := refusal.1 }
        match refusal.2 with
        | some err => startNextLoop fuel (r.done work (.error err) none)
        | none => r.launch work

def startNext : Runtime := startNextLoop r.pending.length r

def hasStateWork : Bool :=
  r.inflight.any (·.work.kind == .state) || r.pending.any (·.kind == .state)

def hasConsoleWork : Bool :=
  r.inflight.any (·.work.kind == .console) || r.pending.any (·.kind == .console)

/-! ### Completions -/

def completionFailureIsTerminal (err : Error) : Bool :=
  err.is .canceled || err.is .deadlineExceeded || err.is .poisoned || err.is .protocol

def defersBootstrapFault (kind : Operation) : Bool :=
  r.opening && r.openSucceeded && r.opts.openMode == .cold && (kind == .cores || kind == .state)

inductive Verdict where
  | ignored
  | admitted
  | unsubmitted
  | stale
  | finished
  /-- A trace operation is over. -/
  | isolated
  | isolatedStale
  deriving DecidableEq

/-- The generation of a completion is not the one it has to be. -/
def offGeneration (work : Work) (generation : Nat) : Bool :=
  generation == 0 || r.executor.generation != generation ||
    (work.expectedGeneration != 0 && generation != work.expectedGeneration)

def judge (inflight : Inflight) (c : Completion) : Verdict :=
  if inflight.token ≠ c.token then .ignored
  else if inflight.work.isolated then
    if c.accepted || c.generation != inflight.generation ||
        r.offGeneration inflight.work c.generation then .isolatedStale
    else .isolated
  else if c.accepted then
    if inflight.submitted || c.operation == 0 || r.offGeneration inflight.work c.generation then
      .stale
    else .admitted
  else if !inflight.submitted then .unsubmitted
  else if c.operation == 0 || c.operation != inflight.operation then .stale
  else if c.generation != inflight.generation || r.offGeneration inflight.work c.generation then
    .stale
  else .finished

/-- A completion that matches the operation in flight. -/
def finish (inflight : Inflight) (result : Except Error Value)
    (bootstrapErr : Option Error) : Runtime :=
  let r :=
    match inflight.work, result with
    | .open _, .ok _ => { r with openGeneration := inflight.generation }
    | _, _ => r
  let r :=
    match result with
    | .error err =>
      if completionFailureIsTerminal err && !r.defersBootstrapFault inflight.work.kind then
        r.failClosed inflight.work.kind err
      else r
    | .ok _ => r
  r.done inflight.work result bootstrapErr

/-- The callback of a trace operation that was submitted. -/
def doneIsolated (work : Work) (result : Except Error Value) (failed : TraceResult) : Runtime :=
  match work with
  | .trace owner epoch request _ reply => r.doneTrace true owner epoch request reply result failed
  | _ => r

def completeWork (c : Completion) (bootstrapErr : Option Error) : Runtime :=
  match r.inflight with
  | none => r
  | some inflight =>
    match r.judge inflight c with
    | .ignored => r
    | .admitted =>
      { r with
        inflight := some { inflight with
          submitted := true, operation := c.operation, generation := c.generation } }
    | .unsubmitted => { r with inflight := none }.done inflight.work c.result bootstrapErr
    | .stale =>
      ({ r with inflight := none }.failClosed inflight.work.kind
        (.of .bridgeStaleCompletion)).done inflight.work (.error (.of .bridgeStaleCompletion)) none
    | .finished => { r with inflight := none }.finish inflight c.result bootstrapErr
    | .isolated => { r with inflight := none }.doneIsolated inflight.work c.result c.failed
    | .isolatedStale =>
      { r with inflight := none }.doneIsolated inflight.work
        (.error (.of .bridgeStaleCompletion)) {}

end Runtime

end MultiDap.Actor
