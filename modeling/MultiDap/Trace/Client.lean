import MultiDap.Trace.Protocol

/-!
# The client of the trace helper

One process, whose frames a reader delivers to the one call that waits, and whose end a waiter
observes. The fields of a client are protected by its lock; a gate lets one call in at a time. Any
failure that leaves the state of the helper in doubt poisons the client for good. A step is one
locked section, or one communication; any order of steps is a run.
-/

namespace MultiDap.Trace

open HelperSession (Reply)

namespace Client

def maxSeq : Nat := 2 ^ 63 - 1

/-! ### Failures -/

inductive Cause where
  | protocol | transport | exited | poisoned | cleanupUnconfirmed
  | context (ended : Sentinel)
  deriving DecidableEq

inductive Fault where
  | error (code : String) (cause : Cause)
  | remote (code : String)
  deriving DecidableEq

/-- What a call may return. Without a known failure the fault is `ErrPoisoned`. -/
inductive Failure where
  | context (ended : Sentinel)
  | closed | alreadyOpen | notOpen | invalidArguments | staleGeneration | cleanupUnconfirmed
  | fault (fault : Option Fault)
  deriving DecidableEq

/-! ### Calls -/

/-- The frame with which a call has succeeded, and its generation. -/
structure Success where
  frame : Frame
  generation : Nat

abbrev Outcome := Except Failure Success

inductive Phase where
  | entering
  /-- It waits for the gate. -/
  | gating
  | gated
  | encoding (seq : Nat)
  /-- The request is handed to the writer. -/
  | writing
  /-- It waits for the response. -/
  | waiting
  | received (frame : Frame)
  | committing (frame : Frame) (generation : Nat)
  /-- Before `abortWith`; the flag says that the error of the context comes first. -/
  | aborting (fault : Fault) (context : Bool)
  | failing (context : Bool)
  /-- Before the pending call is taken back. -/
  | leaving (outcome : Outcome)
  /-- Before the gate is given back. -/
  | ungating (outcome : Outcome)
  | returned (outcome : Outcome)

/-- The goroutine that writes the request. -/
inductive Writer where
  | idle | running
  | wrote (ok : Bool)
  deriving DecidableEq

structure Call where
  op : Operation
  read : ReadArgs := ⟨0, 0, 0⟩
  /-- The context, once it has ended. -/
  ended : Option Sentinel := none
  writer : Writer := .idle
  /-- The number of the request, once it was handed to the writer. -/
  seq : Option Nat := none
  phase : Phase := .entering

/-! ### Fields -/

/-- The call that waits for a response; without an operation it is the start of the client. -/
structure Pending where
  seq : Nat := 0
  op : Option Operation := none
  delivered : Bool := false
  closeAck : Bool := false
  /-- The channel. -/
  response : Option Frame := none

end Client

structure Client where
  infoSize : Nat
  pointerBits : Nat
  /-- The token of the gate is there. -/
  gate : Bool := true
  pending : Option Client.Pending := some {}
  nextSeq : Nat := 0
  opened : Bool := false
  closing : Bool := false
  closed : Bool := false
  poisoned : Bool := false
  processEnded : Bool := false
  exitFailed : Bool := false
  lastGeneration : Nat := 0
  failure : Option Client.Fault := none
  cleanupFailure : Bool := false
  /-- The channel `aborted` is closed. -/
  aborted : Bool := false

namespace Client

/-! ### Locked sections -/

/-- The locked section of `abortWith`: only the first failure counts. -/
def abortWith (c : Client) (fault : Fault) : Client :=
  if c.poisoned then c else { c with poisoned := true, failure := some fault }

def abortError (c : Client) : Failure := .fault c.failure

inductive Admission where
  | refused (failure : Failure)
  | exhausted
  | admitted (seq : Nat)

def admission (c : Client) (op : Operation) : Admission :=
  if c.poisoned then .refused (.fault c.failure)
  else if c.closing || c.closed || c.processEnded then .refused .closed
  else if op = .open && c.opened then .refused .alreadyOpen
  else if op ≠ .open && !c.opened then .refused .notOpen
  else if c.nextSeq = maxSeq then .exhausted
  else .admitted (c.nextSeq + 1)

/-- The second locked section of a call, if the client is still good. -/
def hand (c : Client) (seq : Nat) (op : Operation) : Client :=
  { c with
    nextSeq := seq
    pending := some { seq := seq, op := some op }
    closing := c.closing || op = .close }

inductive Judgement where
  | stale
  | broken (fault : Fault)
  | valid (generation : Nat)

def judge (c : Client) (op : Operation) (read : ReadArgs) : Except String (Option Reply) → Judgement
  | .error code => if recoverable op code then .stale else .broken (.remote code)
  | .ok result =>
    match validate c.infoSize op read result with
    | none => .broken (.error "invalid_result" .protocol)
    | some generation => .valid generation

inductive Commit where
  | poisoned
  | cancelled (ended : Sentinel)
  | regressed
  | committed (c : Client)

/-- The result of an operation is recorded. -/
def record (c : Client) (op : Operation) (generation : Nat) : Client :=
  let c := if generation ≠ 0 then { c with lastGeneration := generation } else c
  match op with
  | .open => { c with opened := true }
  | .close => { c with closed := true, opened := false }
  | _ => c

def commit (c : Client) (op : Operation) (generation : Nat) (ended : Option Sentinel) : Commit :=
  if c.poisoned then .poisoned
  else
    match ended with
    | some ended => .cancelled ended
    | none =>
      if generation ≠ 0 ∧ generation < c.lastGeneration then .regressed
      else .committed (c.record op generation)

/-- The deferred section that takes the pending call back. -/
def retract (c : Client) (seq : Option Nat) : Client :=
  match c.pending with
  | some p => if p.op.isSome && seq == some p.seq then { c with pending := none } else c
  | none => c

inductive Delivery where
  | stopped
  | unexpected
  /-- The frame is delivered; the code of a failure of the helper comes with it. -/
  | delivered (c : Client) (failed : Option String)

/-- The locked section of the reader for a frame. -/
def deliver (c : Client) (frame : Frame) : Delivery :=
  if c.poisoned then .stopped
  else
    match c.pending with
    | none => .unexpected
    | some p =>
      if p.delivered then .unexpected
      else
        match p.op, frame with
        | none, .ready _ =>
          .delivered { c with
            pending := some { p with delivered := true, response := some frame } } none
        | some op, .response seq result =>
          if seq ≠ p.seq then .unexpected
          else
            let closeAck := op = .close && match result with
              | .ok result => decodeClose result
              | .error _ => false
            .delivered
              { c with
                pending := some { p with
                  delivered := true
                  closeAck := p.closeAck || closeAck
                  response := some frame } }
              (match result with
                | .ok _ => none
                | .error code => if recoverable op code then none else some code)
        | _, _ => .unexpected

/-- The locked section of the reader after a read has failed: the end of the stream is expected
after the helper has acknowledged a close. -/
def expectedEOF (c : Client) (eof : Bool) : Bool :=
  eof && (c.closing && c.pending.any (·.closeAck) || c.closed)

/-! ### Goroutines -/

/-- The goroutine that starts the client. -/
inductive Starter where
  | awaiting
  | received (frame : Frame)
  | aborting (fault : Fault)
  | started
  | failed

inductive Reader where
  | reading
  | aborting (fault : Fault)
  | ended

/-- The goroutine that waits for the process. -/
inductive Waiter where
  | running | aborting | releasing | draining | done
  deriving DecidableEq

inductive StartTurn where
  | response
  | cancelled (ended : Sentinel)
  | aborted
  /-- The greeting is checked; the context may have ended. -/
  | check (ended : Option Sentinel)
  | abort

inductive Turn where
  /-- The next section. -/
  | next
  /-- The request is encoded; it may be too large. -/
  | encode (tooLarge : Bool)
  /-- The channel of a select: the gate, the result of the writer, or the response. -/
  | ready
  | ended
  | aborted

inductive Line where
  | frame (frame : Frame)
  | invalid
  /-- The read fails: at the end of the stream, or because the line is too long, or otherwise. -/
  | failed (eof : Bool) (cause : Cause)

inductive Event where
  | start (turn : StartTurn)
  | begin (op : Operation) (read : ReadArgs)
  | call (k : Nat) (turn : Turn)
  /-- The context of a call ends. -/
  | cancel (k : Nat) (ended : Sentinel)
  /-- The write of a request returns. -/
  | wrote (k : Nat) (ok : Bool)
  | read (line : Line)
  | readerAbort
  /-- The process is reaped. -/
  | exit (failed : Bool)
  | waiterAbort
  /-- The ownership of the process is released. -/
  | release (ok : Bool)
  | drained
  /-- `Abort`. -/
  | abort
  /-- After `abortWith` the channel is closed. -/
  | closeAborted

/-- A client among its goroutines, with the frames that the reader has got so far. -/
structure Link where
  c : Client
  starter : Starter := .awaiting
  reader : Reader := .reading
  waiter : Waiter := .running
  calls : List Call := []
  frames : List Frame := []

namespace Link

def new (infoSize pointerBits : Nat) : Link := { c := { infoSize, pointerBits } }

def put (w : Link) (k : Nat) (call : Call) : Link := { w with calls := w.calls.set k call }

/-- A section of a call, which leaves the client like this and goes on like that. -/
def goto (w : Link) (k : Nat) (call : Call) (c : Client) (phase : Phase) : Link :=
  { w with c }.put k { call with phase }

/-- The select of a call that waits for a channel after its request was handed to the writer. -/
def awaitTurn (w : Link) (k : Nat) (call : Call) (ready : Option Link) : Turn → Option Link
  | .ready => ready
  | .ended =>
    call.ended.map fun ended =>
      w.goto k call w.c (.aborting (.error "rpc_cancelled" (.context ended)) true)
  | .aborted => if w.c.aborted then some (w.goto k call w.c (.failing true)) else none
  | _ => none

/-- The gate is taken, unless the context or the client has ended first. -/
def gateTurn (w : Link) (k : Nat) (call : Call) : Turn → Option Link
  | .ready => if w.c.gate then some (w.goto k call { w.c with gate := false } .gated) else none
  | .ended =>
    call.ended.map fun ended => w.goto k call w.c (.returned (.error (.context ended)))
  | .aborted =>
    if w.c.aborted then some (w.goto k call w.c (.returned (.error w.c.abortError))) else none
  | _ => none

def letIn (w : Link) (k : Nat) (call : Call) : Link :=
  match call.ended with
  | some ended => w.goto k call w.c (.ungating (.error (.context ended)))
  | none =>
    match w.c.admission call.op with
    | .refused err => w.goto k call w.c (.ungating (.error err))
    | .exhausted => w.goto k call w.c (.aborting (.error "sequence_exhausted" .protocol) false)
    | .admitted seq => w.goto k call w.c (.encoding seq)

/-- The request is encoded, and handed to the writer in the second locked section. -/
def hand (w : Link) (k : Nat) (call : Call) (seq : Nat) (tooLarge : Bool) : Link :=
  if tooLarge then w.goto k call w.c (.ungating (.error .invalidArguments))
  else
    match call.ended with
    | some ended => w.goto k call w.c (.ungating (.error (.context ended)))
    | none =>
      if w.c.poisoned then w.goto k call w.c (.failing false)
      else if w.c.processEnded then
        w.goto k call w.c (.aborting (.error "process_exited" .exited) false)
      else
        w.goto k { call with seq := some seq, writer := .running } (w.c.hand seq call.op) .writing

def inspect (w : Link) (k : Nat) (call : Call) (frame : Frame) : Link :=
  match call.ended with
  | some ended =>
    w.goto k call w.c (.aborting (.error "rpc_cancelled" (.context ended)) true)
  | none =>
    if w.c.poisoned then w.goto k call w.c (.failing false)
    else
      match w.c.judge call.op call.read frame.verdict with
      | .stale => w.goto k call w.c (.leaving (.error .staleGeneration))
      | .broken fault => w.goto k call w.c (.aborting fault false)
      | .valid generation => w.goto k call w.c (.committing frame generation)

def commit (w : Link) (k : Nat) (call : Call) (frame : Frame) (generation : Nat) : Link :=
  match w.c.commit call.op generation call.ended with
  | .poisoned => w.goto k call w.c (.failing false)
  | .cancelled ended =>
    w.goto k call w.c (.aborting (.error "rpc_cancelled" (.context ended)) true)
  | .regressed => w.goto k call w.c (.aborting (.error "generation_regressed" .protocol) false)
  | .committed c => w.goto k call c (.leaving (.ok ⟨frame, generation⟩))

/-- The error that a call returns which has failed. -/
def failureOf (c : Client) (call : Call) (context : Bool) : Failure :=
  match call.ended with
  | some ended =>
    if context then .fault (some (.error "rpc_cancelled" (.context ended))) else c.abortError
  | none => c.abortError

/-- The sections that end a call which was let in. -/
def leave (w : Link) (k : Nat) (call : Call) (outcome : Outcome) : Link :=
  if call.seq.isSome then w.goto k call w.c (.leaving outcome)
  else w.goto k call w.c (.ungating outcome)

def callTurn (w : Link) (k : Nat) (call : Call) (turn : Turn) : Option Link :=
  match call.phase, turn with
  | .entering, .next =>
    match call.ended with
    | some ended => some (w.goto k call w.c (.returned (.error (.context ended))))
    | none => some (w.goto k call w.c .gating)
  | .gating, turn => w.gateTurn k call turn
  | .gated, .next => some (w.letIn k call)
  | .encoding seq, .encode tooLarge => some (w.hand k call seq tooLarge)
  | .writing, turn =>
    w.awaitTurn k call
      (match call.writer with
        | .wrote true => some (w.goto k call w.c .waiting)
        | .wrote false =>
          some (w.goto k call w.c (.aborting (.error "write_failed" .transport) true))
        | _ => none)
      turn
  | .waiting, turn =>
    w.awaitTurn k call
      (match w.c.pending with
        | some p =>
          p.response.map fun frame =>
            w.goto k call { w.c with pending := some { p with response := none } } (.received frame)
        | none => none)
      turn
  | .received frame, .next => some (w.inspect k call frame)
  | .committing frame generation, .next => some (w.commit k call frame generation)
  | .aborting fault context, .next =>
    some (w.goto k call (w.c.abortWith fault) (.failing context))
  | .failing context, .next => some (w.leave k call (.error (failureOf w.c call context)))
  | .leaving outcome, .next => some (w.goto k call (w.c.retract call.seq) (.ungating outcome))
  | .ungating outcome, .next => some (w.goto k call { w.c with gate := true } (.returned outcome))
  | _, _ => none

/-- The start of the client waits for the greeting. -/
def startTurn (w : Link) : StartTurn → Option Link
  | .response =>
    match w.starter, w.c.pending with
    | .awaiting, some p =>
      p.response.map fun frame =>
        { w with
          c := { w.c with pending := some { p with response := none } }
          starter := .received frame }
    | _, _ => none
  | .cancelled ended =>
    match w.starter with
    | .awaiting =>
      some { w with starter := .aborting (.error "startup_cancelled" (.context ended)) }
    | _ => none
  | .aborted =>
    match w.starter with
    | .awaiting => if w.c.aborted then some { w with starter := .failed } else none
    | _ => none
  | .check ended =>
    match w.starter with
    | .received frame =>
      match frame with
      | .ready pointerBits =>
        if pointerBits ≠ w.c.pointerBits then
          some { w with starter := .aborting (.error "invalid_ready" .protocol) }
        else
          match ended with
          | some ended =>
            some { w with starter := .aborting (.error "startup_cancelled" (.context ended)) }
          | none =>
            if w.c.poisoned || w.c.processEnded then
              some { w with starter := .aborting (.error "aborted" .poisoned) }
            else some { w with c := { w.c with pending := none }, starter := .started }
      | _ => some { w with starter := .aborting (.error "invalid_ready" .protocol) }
    | _ => none
  | .abort =>
    match w.starter with
    | .aborting fault => some { w with c := w.c.abortWith fault, starter := .failed }
    | _ => none

def readTurn (w : Link) (line : Line) : Option Link :=
  match w.reader with
  | .reading =>
    match line with
    | .failed eof cause =>
      if w.c.expectedEOF eof || w.c.poisoned then some { w with reader := .ended }
      else some { w with reader := .aborting (.error "read_failed" cause) }
    | .invalid => some { w with reader := .aborting (.error "invalid_frame" .protocol) }
    | .frame frame =>
      let w := { w with frames := w.frames ++ [frame] }
      match frame with
      | .fatal code => some { w with reader := .aborting (.remote code) }
      | _ =>
        match w.c.deliver frame with
        | .stopped => some { w with reader := .ended }
        | .unexpected =>
          some { w with reader := .aborting (.error "unexpected_frame" .protocol) }
        | .delivered c none => some { w with c }
        | .delivered c (some code) => some { w with c, reader := .aborting (.remote code) }
  | _ => none

/-- The client was returned to its callers. -/
def available (w : Link) : Bool :=
  match w.starter with
  | .started | .failed => true
  | _ => false

def step (w : Link) : Event → Option Link
  | .start turn => w.startTurn turn
  | .begin op read =>
    if w.available then some { w with calls := w.calls ++ [{ op, read }] } else none
  | .call k turn => w.calls[k]?.bind fun call => w.callTurn k call turn
  | .cancel k ended =>
    w.calls[k]?.bind fun call =>
      if call.ended.isNone then some (w.put k { call with ended := some ended }) else none
  | .wrote k ok =>
    w.calls[k]?.bind fun call =>
      if call.writer = .running then some (w.put k { call with writer := .wrote ok }) else none
  | .read line => w.readTurn line
  | .readerAbort =>
    match w.reader with
    | .aborting fault => some { w with c := w.c.abortWith fault, reader := .ended }
    | _ => none
  | .exit failed =>
    if w.waiter = .running then
      some { w with
        c := { w.c with processEnded := true, exitFailed := failed }
        waiter := if failed || !w.c.closing then .aborting else .releasing }
    else none
  | .waiterAbort =>
    if w.waiter = .aborting then
      some { w with
        c := w.c.abortWith (.error "process_exited" .exited), waiter := .releasing }
    else none
  | .release ok =>
    if w.waiter = .releasing then
      some { w with
        c := { w.c with cleanupFailure := w.c.cleanupFailure || !ok }, waiter := .draining }
    else none
  | .drained =>
    match w.waiter, w.reader with
    | .draining, .ended =>
      if w.calls.all (·.writer ≠ .running) then some { w with waiter := .done } else none
    | _, _ => none
  | .abort => some { w with c := w.c.abortWith (.error "aborted" .poisoned) }
  | .closeAborted =>
    if w.c.poisoned then some { w with c := { w.c with aborted := true } } else none

end Link

end Client

end MultiDap.Trace
