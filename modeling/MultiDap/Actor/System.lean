import MultiDap.Actor.Command

/-!
# The actor among the other goroutines

The actor loop, the dispatch goroutines, the executor with its one worker, and the frontends that
read their event channels. A step is one turn of one of them; any order of steps is a run. The
worker gives up the processor between the locked sections and the calls of a program, and a dispatch
goroutine may give up on an operation that the worker is still executing.
-/

namespace MultiDap.Actor

open Machine Inspection

/-- The run of a source resolution: the resolver is asked for the uncertain cores, and the
replacement is made on the cores that remain. -/
def resolveAndReplace (owner : ControllerID) (identity : Source.Identity) (lines : List Int)
    (coverage : List Source.Observation) (expected : List Int) :
    Breakpoint.Transact (Except Error Breakpoint.ReplaceResult) := do
  let answer : Except Error (List Source.Observation) ←
    Prog.ask (Breakpoint.Request.resolve identity)
  match answer with
  | .error err => return .error (.both .sourceUncertain "" err)
  | .ok observations =>
    match Source.matchesCoverage expected observations with
    | .error err => return .error err
    | .ok _ =>
      match Source.resolvedCores (Source.mergeCoverage coverage observations) with
      | .error err => return .error err
      | .ok cores => Breakpoint.replaceForOwner owner identity lines cores

def inspect (mapper : SourceMapper) (stop : StopContext) : InspectionCall → Inspect Value
  | .stack core page => Value.stack <$> Inspection.stack mapper stop core page
  | .scopes frameID => Value.scopes <$> Inspection.scopes stop frameID
  | .variablePage reference page format =>
    Value.page <$> Inspection.variablePage stop reference page format
  | .evaluate frameID expression format =>
    Value.var <$> Inspection.evaluate stop frameID expression format

/-- The run of an operation on the worker. -/
def Work.task (opts : Options) : Work → Task
  | .breakpoints owner identity lines places _ =>
    .transact do
      let result ← Breakpoint.replaceForOwner owner identity lines places
      return result.map .replaced
  | .sourceResolution owner identity lines coverage expected _ =>
    .transact do
      let result ← resolveAndReplace owner identity lines coverage expected
      return result.map .replaced
  | .breakpointCleanup _ =>
    .transact do
      let result ← Breakpoint.cleanupPending
      return .ok (.cleaned result)
  | .inspection stop call _ =>
    match opts.sourceMap with
    | some mapper => .inspect (inspect mapper stop call).run
    | none => .inspect (.ret (.error (.new "inspection: source mapper is required")))
  | _ => .exchange

/-- What a plain exchange may return. Only a stopped sample comes with a halt report. -/
def Work.yields : Work → Value → Bool
  | .open _, .nothing => true
  | .cores _, .topology _ => true
  | .state _, .evidence evidence => evidence.state.status.isStopped || !evidence.hasHalt
  | .console _, .console _ => true
  | .resetConsole _, .nothing => true
  | .singleCoreExecution .., .nothing => true
  | .executionDomain .., .execution .. => true
  | .readMemory .., .bytes _ => true
  | .disassemble .., .instructions _ => true
  | .rollbackClose .., .nothing => true
  | _, _ => false

inductive DispatchTurn where
  | read
  /-- Submit, unless the context ends first. -/
  | submit (ended : Option Sentinel)
  | collect
  /-- The context ends before the operation completes. -/
  | expire (ended : Sentinel)
  /-- The trace service returns, or the context ends first. -/
  | isolated (result : Except Error Value) (failed : TraceResult)

inductive WorkerTurn where
  | take
  | exchange (result : Except Error Value)
  | transact (reply : Breakpoint.Reply)
  | inspect (reply : Inspection.Reply)
  | finish

inductive Input where
  | command (command : Command)
  | completion (bootstrapErr : Option Error)
  | stateTick
  | consoleTick
  | dispatch (token : Nat) (turn : DispatchTurn)
  | worker (turn : WorkerTurn)
  /-- `Executor.Replace`. -/
  | replace
  /-- A frontend takes an event from its channel. -/
  | receive (id : Nat)
  /-- The context of a caller ends. -/
  | cancel (caller : ReplyID) (ended : Sentinel)
  /-- The trace service changes the status it reports. -/
  | traceStatus (status : TraceStatus)

namespace Runtime

variable (r : Runtime)

def deliver (c : Completion) : Runtime := { r with complete := r.complete ++ [c] }

/-- The dispatch goroutine of a token ends. -/
def endDispatch (token : Nat) : Runtime :=
  { r with dispatchers := r.dispatchers.filter (·.token != token) }

def setPhase (token : Nat) (phase : Phase) : Runtime :=
  { r with
    dispatchers := r.dispatchers.map fun d => if d.token = token then { d with phase } else d }

/-- `Executor.Submit` without waiting: the id is drawn even if the context ends. -/
def submit (d : Dispatcher) (generation : Nat) (ended : Option Sentinel) : Runtime :=
  if r.executor.closed then
    (r.deliver ⟨d.token, generation, 0, false, .error (.of .executorClosed),
      {}⟩).endDispatch d.token
  else
    let operation := r.executor.nextID + 1
    let r := { r with executor := { r.executor with nextID := operation } }
    match ended with
    | some ended =>
      (r.deliver ⟨d.token, generation, 0, false, .error (contextErr ended), {}⟩).endDispatch d.token
    | none =>
      { (r.deliver ⟨d.token, generation, operation, true, .ok .nothing, {}⟩).setPhase d.token
          (.waiting generation operation none) with
        jobs := r.jobs ++ [⟨d.token, r.executor.generation, operation, d.work⟩] }

def dispatchTurn (d : Dispatcher) : DispatchTurn → Option Runtime
  | .read =>
    match d.phase with
    | .reading =>
      if d.work.expectedGeneration ≠ 0 ∧ r.executor.generation ≠ d.work.expectedGeneration then
        some ((r.deliver ⟨d.token, r.executor.generation, 0, false,
          .error (.of .bridgeStaleCompletion), {}⟩).endDispatch d.token)
      else some (r.setPhase d.token (.submitting r.executor.generation))
    | _ => none
  | .submit ended =>
    match d.phase with
    | .submitting generation => if d.work.isolated then none else some (r.submit d generation ended)
    | _ => none
  | .collect =>
    match d.phase with
    | .waiting _ _ (some finished) =>
      some ((r.deliver ⟨d.token, finished.generation, finished.operation, false,
        finished.result, {}⟩).endDispatch d.token)
    | _ => none
  | .expire ended =>
    match d.phase with
    | .waiting generation operation _ =>
      some ((r.deliver ⟨d.token, generation, operation, false,
        .error (contextErr ended), {}⟩).endDispatch d.token)
    | _ => none
  | .isolated result failed =>
    match d.phase with
    | .submitting generation =>
      if d.work.isolated then
        some ((r.deliver ⟨d.token, generation, 0, false, result, failed⟩).endDispatch d.token)
      else none
    | _ => none

/-- The worker reports the result of its job on the channel of that operation. -/
def report (job : Job) (result : Except Error Value) : Runtime :=
  { r with
    worker := none
    dispatchers := r.dispatchers.map fun d =>
      match d.phase with
      | .waiting generation operation _ =>
        let finished : Finished := ⟨job.generation, job.operation, result⟩
        if d.token = job.token then
          { d with phase := .waiting generation operation (some finished) }
        else d
      | _ => d }

def workerTurn : WorkerTurn → Option Runtime
  | .take =>
    match r.worker, r.jobs with
    | none, job :: jobs => some { r with jobs := jobs, worker := some ⟨job, job.work.task r.opts⟩ }
    | _, _ => none
  | .exchange result =>
    match r.worker with
    | some ⟨job, .exchange⟩ =>
      match result with
      | .ok value => if job.work.yields value then some (r.report job result) else none
      | .error _ => some (r.report job result)
    | _ => none
  | .transact reply =>
    match r.worker with
    | some ⟨job, .transact program⟩ =>
      (program.advance Breakpoint.World.env r.world reply).map fun next =>
        { r with world := next.1, worker := some ⟨job, .transact next.2⟩ }
    | _ => none
  | .inspect reply =>
    match r.worker with
    | some ⟨job, .inspect program⟩ =>
      (program.advance Inspection.env r.ledger reply).map fun next =>
        { r.withLedger next.1 with worker := some ⟨job, .inspect next.2⟩ }
    | _ => none
  | .finish =>
    match r.worker with
    | some ⟨job, .transact (.ret result)⟩ => some (r.report job result)
    | some ⟨job, .inspect (.ret result)⟩ => some (r.report job result)
    | _ => none

/-- `Executor.Replace`. -/
def replaceBridge : Runtime :=
  if r.executor.closed then r
  else { r with executor := { r.executor with generation := r.executor.generation + 1 } }

/-- Take the first event out of a channel. -/
def receive (id : Nat) : Runtime :=
  { r with
    subs := r.subs.map fun sub =>
      match sub.events with
      | event :: events =>
        if sub.id = id then { sub with events := events, received := sub.received ++ [event] }
        else sub
      | [] => sub }

/-- A turn of the actor loop, up to the point where it waits again. -/
def turn (f : Runtime → Runtime) : Option Runtime :=
  if r.closing then none else some (f r).startNext

def step : Input → Option Runtime
  | .command c => r.turn (·.apply c)
  | .completion bootstrapErr =>
    match r.complete with
    | [] => none
    | c :: complete => r.turn fun r => { r with complete := complete }.completeWork c bootstrapErr
  | .stateTick => r.turn stateTick
  | .consoleTick => r.turn consoleTick
  | .dispatch token turn =>
    match r.dispatchers.find? (·.token == token) with
    | none => none
    | some d => r.dispatchTurn d turn
  | .worker turn => r.workerTurn turn
  | .replace => some r.replaceBridge
  | .receive id => some (r.receive id)
  | .cancel caller ended =>
    some { r with tracing := { r.tracing with ended := r.tracing.ended ++ [(caller, ended)] } }
  | .traceStatus status => some { r with tracing := { r.tracing with status } }

end Runtime

end MultiDap.Actor
