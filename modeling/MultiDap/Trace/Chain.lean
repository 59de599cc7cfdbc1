import MultiDap.Trace.Agreement
import MultiDap.Trace.Client

/-!
# A controller, its client and the helper

The three components that a request of a frontend goes through, one request at a time: the
controller asks the client, which sends a request to the helper. The requests are those of the life
of a helper that has been opened.
-/

namespace MultiDap.Trace

open HelperSession

namespace Client

def settled (c : Client) (seq : Nat) (outcome : Except Failure (Option Reply)) :
    Client × Except Failure (Option Reply) :=
  (c.retract (some seq), outcome)

/-- The failure of a call that poisons the client. -/
def broken (c : Client) (seq : Nat) (fault : Fault) : Client × Except Failure (Option Reply) :=
  (c.abortWith fault).settled seq (.error (c.abortWith fault).abortError)

/-- What becomes of a call, after its request was handed over, that nothing else interferes with. -/
def settle (c : Client) (seq : Nat) (op : Operation) (read : ReadArgs)
    (verdict : Except String (Option Reply)) : Client × Except Failure (Option Reply) :=
  match c.judge op read verdict with
  | .stale => c.settled seq (.error .staleGeneration)
  | .broken fault => c.broken seq fault
  | .valid generation =>
    match c.commit op generation none with
    | .committed c => c.settled seq (verdict.mapError fun _ => .staleGeneration)
    | .regressed => c.broken seq (.error "generation_regressed" .protocol)
    | .poisoned | .cancelled _ => c.settled seq (.error c.abortError)

def Failure.error : Failure → Error
  | .context ended => .of ended
  | .closed => .of .helperClosed
  | .alreadyOpen => .of .helperAlreadyOpen
  | .notOpen => .of .helperNotOpen
  | .invalidArguments => .of .helperInvalidArguments
  | .staleGeneration => .of .helperStaleGeneration
  | .cleanupUnconfirmed => .of .helperCleanupUnconfirmed
  | .fault _ => .of .helperPoisoned

/-- What a call returns to the controller. -/
def answer : Except Failure (Option Reply) → Except Error Reply
  | .error err => .error err.error
  | .ok (some reply) => .ok reply
  | .ok none => .error (.of .helperProtocol)

end Client

namespace HelperSession

def Raised.code : Raised → String
  | .protocol code | .fatal code _ => code

def sent : Except Raised Reply → Except String (Option Reply)
  | .ok reply => .ok (some reply)
  | .error raised => .error raised.code

/-- The arguments of a request, on the wire. -/
def wire (op : Operation) (read : ReadArgs) : Args :=
  match op with
  | .read =>
    [("start", .str (toString read.start)), ("count", .int read.count),
      ("generation", .str (toString read.generation))]
  | .start | .stop => [("authorized", .bool true)]
  | _ => []

/-- The highest number that the helper takes. The client would go on to `Client.maxSeq`. -/
def maxRequestSeq : Nat := 2 ^ 31 - 1

/-- A field of a request. The arguments are the one that is an object. -/
inductive Field where
  | value (value : Json)
  | object (args : Args)

/-- `decode_request`, for a line that holds an object with these fields, or no such thing. -/
def decodeRequest (line : Option (List (String × Field))) (previousSeq : Nat) :
    Except Raised (Nat × String × Args) :=
  let invalid : Raised := .fatal "invalid_request" 1
  match line with
  | none => .error invalid
  | some fields =>
    if fields.all (["v", "seq", "op", "args"].contains ·.1) then
      match fields.lookup "v", fields.lookup "seq", fields.lookup "op", fields.lookup "args" with
      | some (.value (.int v)), some (.value (.int seq)), some (.value (.str op)),
          some (.object args) =>
        if v = 1 ∧ previousSeq < seq ∧ seq ≤ maxRequestSeq then .ok (seq.toNat, op, args)
        else .error invalid
      | _, _, _, _ => .error invalid
    else .error invalid

def requestLine (seq : Nat) (op : Operation) (args : Args) : List (String × Field) :=
  [("v", .value (.int 1)), ("seq", .value (.int seq)), ("op", .value (.str op.text)),
    ("args", .object args)]

def refreshed (s : Session) (polled : Polled) : Session := ((refresh polled).exec s).2

end HelperSession

structure Chain where
  controller : Controller
  client : Client
  session : Session
  /-- The number of the last request that the helper has decoded. -/
  lastSeq : Nat := 0

namespace Chain

def ask (isAbs : String → Bool) (chain : Chain) (op : Operation) (args : Args) (read : ReadArgs)
    (native : Native) : Chain × Except Error Reply :=
  match chain.client.admission op with
  | .refused failure => (chain, .error failure.error)
  | .exhausted =>
    ({ chain with client := chain.client.abortWith (.error "sequence_exhausted" .protocol) },
      .error (.of .helperPoisoned))
  | .admitted seq =>
    match decodeRequest (some (requestLine seq op args)) chain.lastSeq with
    | .error raised =>
      -- the helper ends with a fatal frame, and the reader of the client gives up
      let (client, result) := (chain.client.hand seq op).broken seq (.remote raised.code)
      ({ chain with client }, Client.answer result)
    | .ok (lastSeq, name, args) =>
      let (raised, session) := (dispatch isAbs name args native).exec chain.session
      let (client, result) := (chain.client.hand seq op).settle seq op read (sent raised)
      ({ chain with client, session, lastSeq }, Client.answer result)

/-- The helper refreshes between requests. If that fails it ends, with a fatal frame. -/
def pump (chain : Chain) (polled : Polled) : Chain :=
  let session := refreshed chain.session polled
  match ((refresh polled).exec chain.session).1 with
  | .ok _ => { chain with session }
  | .error raised =>
    { chain with session, client := chain.client.abortWith (.remote raised.code) }

def asStatus : Except Error Reply → Except Error HelperStatus
  | .ok (.status told) => .ok told
  | .ok _ => .error (.of .helperProtocol)
  | .error err => .error err

def asRead : Except Error Reply → Except Error ReadResult
  | .ok (.read told) => .ok told
  | .ok _ => .error (.of .helperProtocol)
  | .error err => .error err

def asControl : Except Error Reply → Except Error ControlResult
  | .ok (.control told) => .ok told
  | .ok _ => .error (.of .helperProtocol)
  | .error err => .error err

/-- The range of a request, as the client gets it. -/
def readArgs (request : Request) : ReadArgs :=
  ⟨request.read.start, request.read.count, request.read.generation⟩

/-- The calls that the controller makes for a request of an opened helper, and what they return. The
helper may refresh between the two calls of a read. -/
def answers (isAbs : String → Bool) (chain : Chain) (request : Request) (first : Native)
    (between : List Polled) (second : Native) : Chain × Answers :=
  match request.op with
  | .status =>
    let (chain, status) := chain.ask isAbs .status [] ⟨0, 0, 0⟩ first
    (chain, { status := asStatus status })
  | .read =>
    let (chain, status) := chain.ask isAbs .status [] ⟨0, 0, 0⟩ first
    match asStatus status with
    | .error err => (chain, { status := .error err })
    | .ok told =>
      if told.generation ≠ request.read.generation then (chain, { status := .ok told })
      else
        let read := readArgs request
        let (chain, batch) :=
          (between.foldl pump chain).ask isAbs .read (wire .read read) read second
        (chain, { status := .ok told, read := asRead batch })
  | op =>
    let (chain, control) := chain.ask isAbs op (wire op ⟨0, 0, 0⟩) ⟨0, 0, 0⟩ first
    (chain, { control := asControl control })

def conclude (chain : Chain) (request : Request) (outcome : OperationResult) (err : Option Error) :
    Chain × Option Committed :=
  let committed := chain.controller.commit request.op (chain.controller.backend.getD 0) outcome err
    none chain.client.poisoned false
  ({ chain with
    controller := committed.controller
    client :=
      if committed.abort then chain.client.abortWith (.error "aborted" .poisoned)
      else chain.client },
    some committed)

/-- `Execute`, for a request of an opened helper. What the last section leaves behind is returned if
the request was admitted. -/
def execute (isAbs : String → Bool) (chain : Chain) (owner : String) (request : Request)
    (first : Native) (between : List Polled) (second : Native) : Chain × Option Committed :=
  if (validateRequest request).isSome then (chain, none)
  else
    match chain.controller.admission (fun _ => false) owner request with
    | (controller, .rejected ..) => ({ chain with controller }, none)
    | (controller, .accepted) =>
      let (chain, answers) := { chain with controller }.answers isAbs request first between second
      let (outcome, err) :=
        perform controller.options.profile request controller.source answers
      chain.conclude request outcome err

/-- The arguments of an open request, on the wire. -/
def openArgs (installation version digest : String) (source : TimeMachine.Source) : Args :=
  [("installation", .str installation), ("multi_version", .str version),
    ("dll_sha256", .str digest), ("session_id", .int source.sessionID.toNat)]

/-- `Execute` of an open request, once there is a helper. A request whose paths are too long is not
sent; no other request can be too large. -/
def opening (isAbs : String → Bool) (started : Chain) (request : Request)
    (installation digest : String) (tooLarge : Bool) (native : Native) : Chain :=
  let profile := started.controller.options.profile
  let args := openArgs installation profile.version digest request.openRequest.source
  let asked :=
    if tooLarge then (started, .error (.of .helperInvalidArguments))
    else started.ask isAbs .open args ⟨0, 0, 0⟩ native
  let performed := perform profile request started.controller.source { opened := asStatus asked.2 }
  (asked.1.conclude request performed.1 performed.2).1

/-- `Execute`, for a request that opens a helper: the factory has started a new one. -/
def launch (isAbs : String → Bool) (controller : Controller) (pointerBits : Nat) (owner : String)
    (request : Request) (installation digest : String) (tooLarge : Bool) (native : Native) :
    Option Chain :=
  if (validateRequest request).isSome ∨ request.op ≠ .open then none
  else
    match controller.admission (fun _ => false) owner request with
    | (_, .rejected ..) => none
    | (controller, .accepted) =>
      let started : Chain :=
        { controller := { controller with backend := some controller.nextID }
          client :=
            { infoSize := controller.options.profile.abi.infoSize, pointerBits, pending := none }
          session := {} }
      some (started.opening isAbs request installation digest tooLarge native)

/-- A frontend is told to reconcile, or the client is no longer good. -/
def Latched (chain : Chain) : Prop :=
  chain.client.poisoned = true ∨ chain.controller.status.needsReconciliation = true

inductive Event where
  | pump (polled : Polled)
  /-- A request, with what the native library answers during the two calls that it may make, and to
  the pumps between them. -/
  | execute (owner : String) (request : Request) (first : Native) (between : List Polled)
      (second : Native)

def step (isAbs : String → Bool) (chain : Chain) : Event → Option Chain
  | .pump polled => some (chain.pump polled)
  | .execute owner request first between second =>
    if request.op = .open ∨ request.op = .close then none
    else some (chain.execute isAbs owner request first between second).1

end Chain

end MultiDap.Trace
