import MultiDap.Trace.Controller

/-!
# The controller among the other goroutines

Calls of `Execute` and `Invalidate`, the helper processes, the goroutines that wait for them, and
those that shut the daemon down. A step is one locked section, or the return of a function that is
called without the lock; any order of steps is a run.
-/

namespace MultiDap.Trace

open Machine TimeMachine

inductive Effect where
  | acquireSource | factory | backend
  deriving DecidableEq

/-- Where a call of `Execute` stands. -/
inductive Phase where
  /-- Nothing is locked yet. -/
  | entering
  /-- `AcquireSource` runs. -/
  | acquire
  /-- The lease is acquired and not yet recorded. -/
  | hold (lease : Nat)
  /-- The lease is recorded, and the factory is not called yet. -/
  | fence
  /-- The factory runs, and may have started a process. -/
  | factory (lease : Option Nat) (helper : Option Nat)
  /-- The factory has returned. -/
  | built (lease : Option Nat) (helper : Option Nat) (failed : Bool)
  /-- Before `factoryFailed`. -/
  | failing (helper : Option Nat) (reason : String)
  /-- The helper is not recorded yet. -/
  | record (helper : Nat)
  /-- The helper executes the operation. -/
  | perform (helper : Nat)
  /-- The helper has returned. -/
  | commit (helper : Nat) (outcome : OperationResult) (err : Option Error)
  | returned (result : Option Result) (err : Option Error)

/-- A call of `Execute`, with what it remembers from its first section. -/
structure Call where
  owner : String
  request : Request
  epoch : Nat := 0
  source : Source := noSource
  /-- The handle of an open operation. -/
  handle : Option Nat := none
  phase : Phase := .entering

/-- The call was accepted, and has not returned. -/
def Call.inProgress (call : Call) : Bool :=
  match call.phase with
  | .entering | .returned .. => false
  | _ => true

/-- The helper that the call has started, or works with. -/
def Call.helper (call : Call) : Option Nat :=
  match call.phase with
  | .factory _ helper | .built _ helper _ | .failing helper _ => helper
  | .record helper | .perform helper | .commit helper _ _ => some helper
  | _ => none

/-- An open operation is in progress: it counts as a helper. -/
def Call.opening (call : Call) : Bool := call.inProgress && decide (call.request.op = .open)

/-- The call opens a helper that is not recorded yet. -/
def Call.unrecorded (call : Call) : Bool :=
  match call.phase with
  | .acquire | .hold _ | .fence | .factory .. | .built .. | .failing .. | .record _ => true
  | _ => false

structure Helper where
  /-- The lease under which the process was started. -/
  lease : Option Nat
  finished : Bool := false
  poisoned : Bool := false

/-- A goroutine that shuts the daemon down, after the invalidation. -/
inductive Closer where
  /-- It asks for the channel. -/
  | channel
  /-- It waits for the channel to be closed. -/
  | waiting
  | released
  deriving DecidableEq

structure World where
  c : Controller
  calls : List Call := []
  helpers : List Helper := []
  /-- Whether `Close` of a lease was called. -/
  leases : List Bool := []
  /-- The goroutines of `releaseAfterReap`. -/
  releases : List (Nat × Option Nat) := []
  /-- The goroutines that count a helper down. -/
  reapers : List Nat := []
  closers : List Closer := []
  probeReleased : Bool := false
  log : List (Nat × Effect) := []

inductive Turn where
  /-- The context may have ended. -/
  | enter (ended : Option Sentinel)
  | acquired (lease failed : Bool)
  /-- The next locked section; `Close` of a lease may fail. -/
  | locked (closeErr : Bool)
  /-- The factory starts a process. -/
  | spawn
  | built (failed : Bool)
  | performed (answers : Answers)
  /-- The last section; the context may have ended. -/
  | commit (ended : Option Sentinel) (closeErr : Bool)

inductive Event where
  | execute (owner : String) (request : Request)
  | call (k : Nat) (turn : Turn)
  | invalidate (owner reason : String)
  | snapshot
  /-- A helper process is reaped. -/
  | finish (helper : Nat)
  | poison (helper : Nat)
  | release (i : Nat)
  | reap (i : Nat)
  /-- The goroutine that waits for the helpers closes the channel. -/
  | waited
  /-- `ShutdownDone`, up to its second section. -/
  | shutdown
  | closer (i : Nat)

namespace World

variable (w : World)

def new (options : Options) : World := { c := { options := options } }

/-- The call `k` is in progress. -/
def Runs (k : Nat) (call : Call) : Prop :=
  w.calls[k]? = some call ∧ call.inProgress = true

def done (helper : Nat) : Bool := w.helpers[helper]?.any Helper.finished

def poisoned (w : World) (helper : Nat) : Bool := w.helpers[helper]?.any Helper.poisoned

def put (k : Nat) (call : Call) : World := { w with calls := w.calls.set k call }

def note (k : Nat) (effect : Effect) : World := { w with log := w.log ++ [(k, effect)] }

/-- `Abort`, if there is a helper. -/
def abort (helper : Option Nat) : World :=
  { w with
    helpers :=
      match helper with
      | none => w.helpers
      | some h => w.helpers.modify h fun helper => { helper with poisoned := true } }

/-- `Close` of a lease, if there is one. -/
def closeLease (lease : Option Nat) : World :=
  { w with
    leases :=
      match lease with
      | none => w.leases
      | some l => w.leases.set l true }

/-- `releaseAfterReap`. -/
def releaseAfterReap (lease helper : Option Nat) : World :=
  { w with releases := w.releases ++ (lease.map (·, helper)).toList }

/-- The call returns; an open operation then lets go of the helper that it has started. -/
def leave (k : Nat) (call : Call) (helper : Option Nat) (result : Option Result)
    (err : Option Error) : World :=
  { w with
    c := { w.c with
      helpers := w.c.helpers - if call.request.op = .open ∧ helper = none then 1 else 0 }
    reapers := w.reapers ++ if call.request.op = .open then helper.toList else []
    calls := w.calls.set k { call with phase := .returned result err } }

def leaveStale (k : Nat) (call : Call) (helper : Option Nat) : World :=
  w.leave k call helper none (some (.of .traceStaleOperation))

def turnAway (k : Nat) (call : Call) (result : Option Result) (err : Error) : World :=
  w.put k { call with phase := .returned result (some err) }

def accept (k : Nat) (call : Call) : World :=
  let acquires := w.c.options.acquiresSource
  { w with
    log := w.log ++ if call.request.op = .open then if acquires then [(k, .acquireSource)] else []
      else [(k, .backend)]
    calls := w.calls.set k { call with
      epoch := w.c.epoch
      source := w.c.source
      handle := if call.request.op = .open then some w.c.status.handle else none
      phase :=
        if call.request.op = .open then if acquires then .acquire else .fence
        else .perform (w.c.backend.getD 0) } }

/-- `Execute` up to the end of its first section. -/
def enter (k : Nat) (call : Call) (ended : Option Sentinel) : World :=
  if !w.c.options.enabled then w.turnAway k call none (.of .traceUnavailable)
  else
    match ended with
    | some ended => w.turnAway k call none (.of ended)
    | none =>
      match validateRequest call.request with
      | some err => w.turnAway k call none err
      | none =>
        if call.owner = "" then w.turnAway k call none (.of .traceNotOwner)
        else
          match w.c.admission w.done call.owner call.request with
          | (c, .rejected result err) => { w with c := c }.turnAway k call result err
          | (c, .accepted) => { w with c := c }.accept k call

/-- The section after the factory has returned. -/
def afterFactory (k : Nat) (call : Call) (lease helper : Option Nat) (failed : Bool) : World :=
  let stale := w.c.stale call.epoch call.owner
  let w := { w with c := { w.c with factoryActive := false } }
  if stale then
    (({ w with c := { w.c with lease := none } }.abort helper).releaseAfterReap lease
      helper).leaveStale
      k call helper
  else
    match helper, failed with
    | some h, false => w.put k { call with phase := .record h }
    | _, _ =>
      (w.abort helper).put k { call with phase := .failing helper "helper_start_failed" }

/-- The section of a call that needs the lock, apart from the first and the last one. -/
def locked (k : Nat) (call : Call) (closeErr : Bool) : Option World :=
  match call.phase with
  | .hold lease =>
    if w.c.stale call.epoch call.owner then
      some ((w.closeLease (some lease)).leaveStale k call none)
    else some ({ w with c := { w.c with lease := some lease } }.put k { call with phase := .fence })
  | .fence =>
    if w.c.stale call.epoch call.owner then some (w.leaveStale k call none)
    else
      some (({ w with c := { w.c with factoryActive := true } }.note k .factory).put k
        { call with phase := .factory w.c.lease none })
  | .built lease helper failed => some (w.afterFactory k call lease helper failed)
  | .failing helper reason =>
    if w.c.epoch ≠ call.epoch then some (w.leaveStale k call helper)
    else
      let (c, err) := w.c.factoryFailed reason closeErr
      some (({ w with c := c }.closeLease w.c.lease).leave k call helper (some c.report) (some err))
  | .record helper =>
    if w.c.stale call.epoch call.owner then
      some ((({ w with c := { w.c with lease := none } }.abort (some helper)).releaseAfterReap
        w.c.lease (some helper)).leaveStale k call (some helper))
    else
      some (({ w with c := { w.c with backend := some helper } }.note k .backend).put k
        { call with phase := .perform helper })
  | _ => none

def commitCall (k : Nat) (call : Call) (helper : Nat) (outcome : OperationResult)
    (err : Option Error) (ended : Option Sentinel) (closeErr : Bool) : World :=
  if w.c.stale call.epoch call.owner then w.leaveStale k call (some helper)
  else
    let r := w.c.commit call.request.op helper outcome err ended (w.poisoned helper) closeErr
    let w := ({ w with c := r.controller }.closeLease r.closes).releaseAfterReap r.release
      (some helper)
    (w.abort (if r.abort then some helper else none)).leave k call (some helper) (some r.result)
      r.err

def callTurn (k : Nat) (call : Call) : Turn → Option World
  | .enter ended =>
    match call.phase with
    | .entering => some (w.enter k call ended)
    | _ => none
  | .acquired lease failed =>
    match call.phase with
    | .acquire =>
      if lease ∧ !failed then
        some ({ w with leases := w.leases ++ [false] }.put k
          { call with phase := .hold w.leases.length })
      else
        -- a lease that comes with an error is closed at once
        some ({ w with leases := if lease then w.leases ++ [true] else w.leases }.put k
          { call with phase := .failing none "source_lease_unavailable" })
    | _ => none
  | .locked closeErr => w.locked k call closeErr
  | .spawn =>
    match call.phase with
    | .factory lease none =>
      some ({ w with helpers := w.helpers ++ [Helper.mk lease false false] }.put k
        { call with phase := .factory lease (some w.helpers.length) })
    | _ => none
  | .built failed =>
    match call.phase with
    | .factory lease helper => some (w.put k { call with phase := .built lease helper failed })
    | _ => none
  | .performed answers =>
    match call.phase with
    | .perform helper =>
      -- a helper is closed when its process is reaped
      if call.request.op = .close ∧ answers.closed = none ∧ w.done helper = false then none
      else
        let r := Trace.perform w.c.options.profile call.request call.source answers
        some (w.put k { call with phase := .commit helper r.1 r.2 })
    | _ => none
  | .commit ended closeErr =>
    match call.phase with
    | .commit helper outcome err => some (w.commitCall k call helper outcome err ended closeErr)
    | _ => none

/-- `Invalidate`. -/
def invalidate (w : World) (owner reason : String) : World :=
  let r := w.c.invalidate owner reason
  let w := { w with c := r.controller }.abort r.abort
  { w with releases := w.releases ++ r.release.toList }

def closerTurn (i : Nat) : Closer → Option World
  | .channel =>
    some { w with
      c := { w.c with shutdownDone := w.c.shutdownDone <|> some false }
      closers := w.closers.set i .waiting }
  | .waiting =>
    if w.c.shutdownDone = some true then
      some { w with probeReleased := true, closers := w.closers.set i .released }
    else none
  | .released => none

def step : Event → Option World
  | .execute owner request => some { w with calls := w.calls ++ [{ owner, request }] }
  | .call k turn =>
    match w.calls[k]? with
    | none => none
    | some call => w.callTurn k call turn
  | .invalidate owner reason => some (w.invalidate owner reason)
  | .snapshot => some { w with c := w.c.refreshDeath w.done }
  | .finish h =>
    some { w with helpers := w.helpers.modify h fun helper => { helper with finished := true } }
  | .poison h =>
    some { w with helpers := w.helpers.modify h fun helper => { helper with poisoned := true } }
  | .release i =>
    match w.releases[i]? with
    | none => none
    | some (lease, helper) =>
      if helper.all w.done then
        some { w.closeLease (some lease) with releases := w.releases.eraseIdx i }
      else none
  | .reap i =>
    match w.reapers[i]? with
    | none => none
    | some helper =>
      if w.done helper then
        some { w with
          c := { w.c with helpers := w.c.helpers - 1 }, reapers := w.reapers.eraseIdx i }
      else none
  | .waited =>
    if w.c.shutdownDone = some false ∧ w.c.helpers = 0 then
      some { w with c := { w.c with shutdownDone := some true } }
    else none
  | .shutdown => some { w.invalidate "" "daemon_closed" with closers := w.closers ++ [.channel] }
  | .closer i =>
    match w.closers[i]? with
    | none => none
    | some closer => w.closerTurn i closer

end World

end MultiDap.Trace
