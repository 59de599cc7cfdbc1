import MultiDap.Actor.Runtime

/-!
# Commands

What the public methods of the actor ask it to do. A command that a method only reaches through
another goroutine (the hint watcher, the close function of an attachment) is a command as well.
-/

namespace MultiDap.Actor

open Machine Inspection Stop Session

/-- The commands. Three of them carry what the world answers while they are applied: the order in
which a detach visits the breakpoint map, the scope the execution domain has for a core, and the
coverage the source index has for a source. -/
inductive Command where
  | open (reply : ReplyID)
  | attach (owner : ControllerID) (reply : ReplyID)
  | detach (owner : ControllerID) (visit : Breakpoint.Visit Breakpoint.Logical) (reply : ReplyID)
  | detachSubscription (id : Nat)
  | acquire (owner : ControllerID) (reply : ReplyID)
  | release (owner : ControllerID) (reply : ReplyID)
  | threads (reply : ReplyID)
  | snapshot (reply : ReplyID)
  | breakpointCounts (reply : ReplyID)
  | poll (reply : ReplyID)
  | execute (owner : ControllerID) (coreID : Int) (operation : ExecutionOperation)
      (scope : Except Error (List Int)) (reply : ReplyID)
  | beginConfiguration (reply : ReplyID)
  | configurationDone (reply : ReplyID)
  | cancelConfiguration (reply : ReplyID)
  | allocateHandle (kind : Handle.Kind) (core : Int) (value : Payload) (reply : ReplyID)
  | setBreakpoints (owner : ControllerID) (identity : Source.Identity) (lines : List Int)
      (coverage : List Source.Observation) (reply : ReplyID)
  | noteHint (token : UInt32) (reply : Option ReplyID)
  | stack (threadID : Int) (page : Page) (reply : ReplyID)
  | scopes (frameID : Int) (reply : ReplyID)
  | variablePage (reference : Int) (page : Page) (format : Format) (reply : ReplyID)
  | evaluate (frameID : Int) (expression : Expression) (format : Format) (reply : ReplyID)
  | readMemory (coreID : Int) (address count : UInt64) (expected : Option UInt64) (reply : ReplyID)
  | disassemble (coreID : Int) (address : UInt64) (instructionOffset : Int)
      (instructionCount : UInt32) (expected : Option UInt64) (reply : ReplyID)
  | resetConsole (reply : ReplyID)
  | trace (owner : ControllerID) (request : TraceRequest) (reply : ReplyID)
  | traceSnapshot (owner : ControllerID) (reply : ReplyID)
  | close (reply : ReplyID)

def ExecutionOperation.text : ExecutionOperation → String
  | .continue => "continue"
  | .pause => "pause"
  | .stepIn => "step_in"
  | .next => "next"
  | .invalid code => s!"unknown_execution_operation({code})"

namespace Runtime

variable (r : Runtime)

def applyOpen (reply : ReplyID) : Runtime :=
  if r.faulted then r.respond reply .none (some (.of .reconciliationNeeded))
  else if r.opened || r.opening then r.respond reply .none (some (.of .alreadyOpen))
  else { r with opening := true }.enqueue (.open reply)

def applyAttach (owner : ControllerID) (reply : ReplyID) : Runtime :=
  if r.faulted then r.respond reply .none (some (.of .reconciliationNeeded))
  else
    let id := r.nextSub + 1
    let sub : Subscriber := { id := id, owner := owner, generation := id }
    { r with nextSub := id, subs := r.subs ++ [sub] }.respond reply
      (.attachment r.snapshot id) none

/-- Close the channels of the subscriptions that satisfy `p`. -/
def closeSubs (p : Subscriber → Bool) : Runtime :=
  { r with subs := r.subs.map fun sub => if p sub then sub.close else sub }

def withReducer (reducer : Reducer) : Runtime :=
  { r with models := { r.models with reducer := reducer } }

/-- The part of a detach that gives the lease back. -/
def dropLease (owner : ControllerID) : Runtime :=
  if r.snapshot.leaseOwner = owner then
    let r :=
      match r.models.reducer.releaseControl owner with
      | .ok reducer => r.withReducer reducer
      | .error _ => r
    if owner ≠ "" then { r with controlGeneration := r.controlGeneration + 1 } else r
  else r

def detachOwner (owner : ControllerID) (visit : Breakpoint.Visit Breakpoint.Logical) : Runtime :=
  let r := if owner ≠ "" then r.invalidateTraceOwner owner "frontend_detached" else r
  let cleanup := r.world.store.requestCleanupSignal owner visit
  -- the breakpoints are withdrawn before the lease is free
  let r := { r.closeSubs (·.owner == owner) with world := { r.world with store := cleanup.1 } }
  let r := r.dropLease owner
  if cleanup.2.2 then r.maybeScheduleBreakpointCleanup r.snapshot true else r

def applyAcquire (owner : ControllerID) (reply : ReplyID) : Runtime :=
  if r.faulted then r.respond reply .none (some (.of .reconciliationNeeded))
  else
    match r.models.reducer.acquireControl owner with
    | .ok reducer =>
      { r.withReducer reducer with
        controlGeneration := if r.snapshot.leaseOwner ≠ owner then r.controlGeneration + 1
          else r.controlGeneration }.respond reply .none none
    | .error err => r.respond reply .none (some err)

def applyRelease (owner : ControllerID) (reply : ReplyID) : Runtime :=
  let r :=
    if owner ≠ "" ∧ r.snapshot.leaseOwner = owner then
      { r.invalidateTraceOwner owner "control_released" with
        controlGeneration := r.controlGeneration + 1 }
    else r
  match r.models.reducer.releaseControl owner with
  | .ok reducer => (r.withReducer reducer).respond reply .none none
  | .error err => r.respond reply .none (some err)

def applyPoll (reply : ReplyID) : Runtime :=
  match r.notReady with
  | some err => r.respond reply .none (some err)
  | none => r.enqueue (.state (some reply))

/-- Whether the lease and the reset gate let an execution operation through. -/
def admitsExecution (owner : ControllerID) (operation : ExecutionOperation) : Option Error :=
  if operation = .pause then r.models.reducer.requireControl owner
  else r.models.reducer.requireResume owner

def applyExecute (owner : ControllerID) (coreID : Int)
    (operation : ExecutionOperation) (scope : Except Error (List Int)) (reply : ReplyID) :
    Runtime :=
  match r.notReady with
  | some err => r.respond reply .none (some err)
  | none =>
    if !r.threads.any (·.coreID == coreID) then
      r.respond reply .none (some (.new s!"actor: unknown configured core {coreID}"))
    else if operation matches .invalid _ then
      r.respond reply .none (some (.new ("actor: invalid execution operation " ++ operation.text)))
    else
      match r.admitsExecution owner operation with
      | some err => r.respond reply .none (some err)
      | none =>
        if r.threads.length = 1 then r.enqueue (.singleCoreExecution owner coreID operation reply)
        else
          match scope with
          | .error err => r.respond reply .none (some err)
          | .ok scope => r.enqueue (.executionDomain owner operation scope reply)

def applyBeginConfiguration (reply : ReplyID) : Runtime :=
  let out := r.models.reducer.beginConfiguration
  ((r.withReducer out.reducer).applyReducerActions out.actions out.reducer.snapshot
    out.err).respond reply .none out.err

def applyConfigurationDone (reply : ReplyID) : Runtime :=
  let out := r.models.reducer.configurationDone
  let r := r.withReducer out.reducer
  (if out.err.isNone then r.applyConfigurationActions out.actions out.reducer.snapshot
   else r.applyReducerActions out.actions out.reducer.snapshot out.err).respond reply .none out.err

def applyCancelConfiguration (reply : ReplyID) : Runtime :=
  let out := r.models.reducer.cancelConfiguration
  ((r.withReducer out.reducer).applyReducerActions out.actions out.reducer.snapshot
    out.err).respond reply .none out.err

/-- Take over the handles. What was minted while the target is stopped, in a session that has not
failed closed, is counted and valid from now on. -/
def withLedger (ledger : Handle.Ledger Payload) : Runtime :=
  let minted := ledger.issued.drop r.ledger.issued.length
  if r.snapshot.state = .stopped ∧ r.faulted = false then
    { r with
      ledger := ledger
      counted := r.counted ++ minted
      valid := r.valid ++ minted }
  else { r with ledger := ledger }

def applyAllocateHandle (kind : Handle.Kind) (core : Int) (value : Payload)
    (reply : ReplyID) : Runtime :=
  if r.snapshot.state ≠ .stopped then r.respond reply (.handle 0) (some (.of .staleHandle))
  else
    let (ledger, result) := r.ledger.alloc kind core r.snapshot.stopEpoch value
    match result with
    | .ok id => (r.withLedger ledger).respond reply (.handle id) none
    | .error err => (r.withLedger ledger).respond reply (.handle 0) (some err)

def applySetBreakpoints (owner : ControllerID) (identity : Source.Identity)
    (lines : List Int) (coverage : List Source.Observation) (reply : ReplyID) : Runtime :=
  match r.notReady with
  | some err => r.respond reply .none (some err)
  | none =>
    match r.models.reducer.requireControl owner with
    | some err => r.respond reply .none (some err)
    | none =>
      if !r.opts.breakpointRunner then
        r.respond reply .none (some (.of .breakpointsUnavailable))
      -- an empty replacement only removes what the store already knows
      else if lines.isEmpty then r.enqueue (.breakpoints owner identity lines [] reply)
      else if !r.opts.sourceIndex then r.respond reply .none (some (.of .sourceUncertain))
      else
        match Source.coverageSet coverage with
        | .error err => r.respond reply .none (some err)
        | .ok expected =>
          if Source.coverageHasUnknown coverage then
            if !r.opts.sourceResolver then r.respond reply .none (some (.of .sourceUncertain))
            else r.enqueue (.sourceResolution owner identity lines coverage expected reply)
          else
            match Source.resolvedCores coverage with
            | .error err => r.respond reply .none (some err)
            | .ok cores => r.enqueue (.breakpoints owner identity lines cores reply)

def applyNoteHint (token : UInt32) (reply : Option ReplyID) : Runtime :=
  (if r.opened && !r.faulted then
    let (stopper, accepted) := r.models.stopper.noteHint r.resolver token
    let r := { r with models := { r.models with stopper := stopper } }
    if accepted && !r.hasStateWork then r.enqueue (.state none) else r
   else r).respondTo reply none

def inspectionStop : Except Error StopContext :=
  match r.notReady with
  | some err => .error err
  | none =>
    if !r.opts.inspection || r.opts.sourceMap.isNone then .error (.of .inspectionUnavailable)
    else .ok ⟨r.snapshot.state == .stopped, r.snapshot.stopEpoch⟩

def inspectionCore (threadID : Int) : Except Error (Int × StopContext) := do
  let stop ← r.inspectionStop
  match r.threads.find? (·.id == threadID) with
  | some thread => return (thread.coreID, stop)
  | none => throw (.new s!"actor: unknown thread {threadID}")

def applyInspection (stop : Except Error StopContext) (call : InspectionCall)
    (reply : ReplyID) : Runtime :=
  match stop with
  | .error err => r.respond reply .none (some err)
  | .ok stop => r.enqueue (.inspection stop call reply)

def applyStack (threadID : Int) (page : Page) (reply : ReplyID) : Runtime :=
  match r.inspectionCore threadID with
  | .error err => r.respond reply .none (some err)
  | .ok (core, stop) => r.applyInspection (.ok stop) (.stack core page) reply

def maxM5MemoryBytes : UInt64 := 64 * 1024

def maxM5DisassembleEntries : UInt32 := 8192

def m5Request (coreID : Int) (expected : Option UInt64) : Except Error UInt64 :=
  match r.notReady with
  | some err => .error err
  | none =>
    if !r.opts.m5 then .error (.of .m5Unavailable)
    else if r.snapshot.state ≠ .stopped then
      .error (.new "actor: target must be stopped for memory and disassembly inspection")
    else
      match expected.filter (· != r.snapshot.stopEpoch) with
      | some epoch =>
        .error (.new s!"actor: stale stop epoch {epoch} (current {r.snapshot.stopEpoch})")
      | none =>
        if r.threads.any (·.coreID == coreID) then .ok r.snapshot.stopEpoch
        else .error (.new s!"actor: unknown configured core {coreID}")

def applyReadMemory (coreID : Int) (address count : UInt64)
    (expected : Option UInt64) (reply : ReplyID) : Runtime :=
  match r.m5Request coreID expected with
  | .error err => r.respond reply .none (some err)
  | .ok stopEpoch =>
    if count = 0 ∨ count > maxM5MemoryBytes then
      r.respond reply .none
        (some (.new s!"actor: memory byte count must be in 1..{maxM5MemoryBytes}"))
    else r.enqueue (.readMemory stopEpoch coreID address count reply)

def applyDisassemble (coreID : Int) (address : UInt64) (instructionOffset : Int)
    (instructionCount : UInt32) (expected : Option UInt64) (reply : ReplyID) : Runtime :=
  match r.m5Request coreID expected with
  | .error err => r.respond reply .none (some err)
  | .ok stopEpoch =>
    if instructionCount = 0 ∨ instructionCount > maxM5DisassembleEntries then
      r.respond reply .none
        (some (.new
          s!"actor: disassembly instruction count must be in 1..{maxM5DisassembleEntries}"))
    else
      r.enqueue (.disassemble stopEpoch coreID address instructionOffset instructionCount reply)

def applyResetConsole (reply : ReplyID) : Runtime :=
  match r.notReady with
  | some err => r.respond reply .none (some err)
  | none =>
    if !r.opts.consoleEnabled then r.respond reply .none (some (.of .consoleUnavailable))
    else r.enqueue (.resetConsole reply)

def applyTrace (owner : ControllerID) (request : TraceRequest) (reply : ReplyID) : Runtime :=
  let checked := r.traceRequest owner request reply
  let r := { r with tracing := checked.1 }
  match checked.2 with
  | some err => r.respond reply .none (some err)
  | none =>
    r.enqueue (.trace owner r.controlGeneration request r.executor.generation reply)

/-- The owner of the lease may look at the service even in a session that has failed closed. -/
def applyTraceSnapshot (owner : ControllerID) (reply : ReplyID) : Runtime :=
  if !r.opts.trace then r.respond reply .none (some (.of .traceUnavailable))
  else
    match r.models.reducer.requireControl owner with
    | some err => r.respond reply .none (some err)
    | none => r.respond reply (.traceStatus r.traceSnapshot) none

/-- `Executor.Close`. -/
def closeExecutor : Runtime :=
  if r.executor.closed then r
  else { r with
    executor := { r.executor with closed := true, generation := r.executor.generation + 1 } }

def applyClose (reply : ReplyID) : Runtime :=
  let r := r.invalidateTraceOwner "" "daemon_closed"
  { ((r.closeSubs fun _ => true).dropStopBound.closeExecutor) with
    closing := true, valid := [] }.respond reply .none none

def apply : Command → Runtime
  | .open reply => r.applyOpen reply
  | .attach owner reply => r.applyAttach owner reply
  | .detach owner visit reply => (r.detachOwner owner visit).respond reply .none none
  | .detachSubscription id => r.closeSubs (·.id == id)
  | .acquire owner reply => r.applyAcquire owner reply
  | .release owner reply => r.applyRelease owner reply
  | .threads reply =>
    if !r.opened then r.respond reply .none (some (.of .notOpen))
    else r.respond reply (.threads r.threads) none
  | .snapshot reply =>
    r.respond reply (.snapshot r.snapshot)
      (if r.faulted then some (.of .reconciliationNeeded) else none)
  | .breakpointCounts reply =>
    r.respond reply (.counts r.world.store.dapOwnedCount r.world.store.pendingCount
      r.world.store.orphanCount) none
  | .poll reply => r.applyPoll reply
  | .execute owner coreID operation scope reply => r.applyExecute owner coreID operation scope reply
  | .beginConfiguration reply => r.applyBeginConfiguration reply
  | .configurationDone reply => r.applyConfigurationDone reply
  | .cancelConfiguration reply => r.applyCancelConfiguration reply
  | .allocateHandle kind core value reply => r.applyAllocateHandle kind core value reply
  | .setBreakpoints owner identity lines coverage reply =>
    r.applySetBreakpoints owner identity lines coverage reply
  | .noteHint token reply => r.applyNoteHint token reply
  | .stack threadID page reply => r.applyStack threadID page reply
  | .scopes frameID reply => r.applyInspection r.inspectionStop (.scopes frameID) reply
  | .variablePage reference page format reply =>
    r.applyInspection r.inspectionStop (.variablePage reference page format) reply
  | .evaluate frameID expression format reply =>
    r.applyInspection r.inspectionStop (.evaluate frameID expression format) reply
  | .readMemory coreID address count expected reply =>
    r.applyReadMemory coreID address count expected reply
  | .disassemble coreID address offset count expected reply =>
    r.applyDisassemble coreID address offset count expected reply
  | .resetConsole reply => r.applyResetConsole reply
  | .trace owner request reply => r.applyTrace owner request reply
  | .traceSnapshot owner reply => r.applyTraceSnapshot owner reply
  | .close reply => r.applyClose reply

def stateTick : Runtime :=
  if r.opened && !r.faulted && !r.hasStateWork then r.enqueue (.state none) else r

def consoleTick : Runtime :=
  let r :=
    if r.console.failurePending && r.consoleFrontendActive then
      { r.publishTo { kind := .output, consoleUnavailable := true } r.console.failureTargets with
        console := { r.console with
          failurePending := false, failureReported := true, failureTargets := [] } }
    else r
  if r.consoleActive && !r.hasConsoleWork then r.enqueue (.console r.consoleSubscribers) else r

end Runtime

end MultiDap.Actor
