import MultiDap.TimeMachine.Capture

/-!
# The trace controller

The controller owns the helper process that reads a native trace. Its state is protected by a lock
that is never held while a helper is waited for, so that an operation consists of several locked
sections. Each section is a function of the state here; `World` has their interleavings. An
operation remembers the epoch in which it was accepted, and a section of an operation whose epoch is
over changes nothing but the lease.
-/

namespace MultiDap.Trace

open TimeMachine

/-! ### What a helper returns -/

inductive TraceState where
  | unknown | running | stopped | startRequested | stopRequested
  deriving DecidableEq

inductive Notification where
  | traceStart | traceStop | selectPacket | dataClear | newDataAvailable | packetCountRegressed
  | decoderReplacement
  deriving DecidableEq

structure Notifications where
  events : List Notification := []
  dropped : Nat := 0
  ignoredCallbacks : Nat := 0
  callbackFailed : Bool := false
  generationInvalidated : Bool := false
  deriving DecidableEq

structure HelperStatus where
  infoHex : List Char
  packetCount : Nat
  generation : Nat
  traceState : TraceState
  notifications : Notifications := {}
  deriving DecidableEq

structure ReadArgs where
  start : Nat
  count : Int
  generation : Nat
  deriving DecidableEq

structure ReadResult where
  generation : Nat
  start : Nat
  count : Int
  packetsHex : List (List Char)
  deriving DecidableEq

structure ControlResult where
  accepted : Bool
  confirmed : Bool
  generation : Nat
  traceState : TraceState
  deriving DecidableEq

/-! ### Requests -/

inductive Operation where
  | open | status | read | start | stop | close
  /-- Any other text. -/
  | other
  deriving DecidableEq

def Operation.text : Operation → String
  | .open => "open"
  | .status => "status"
  | .read => "read"
  | .start => "start"
  | .stop => "stop"
  | .close => "close"
  | .other => ""

def noSource : Source := { kind := .other, sessionID := 0, sourceID := "" }

structure OpenRequest where
  source : Source := noSource
  acknowledgeUnverifiedSource : Bool := false
  deriving DecidableEq

structure ReadRequest where
  start : Nat := 0
  generation : Nat := 0
  count : Int := 0
  deriving DecidableEq

structure Request where
  op : Operation
  handle : Nat := 0
  openRequest : OpenRequest := {}
  read : ReadRequest := {}
  authorized : Bool := false

/-- A document without packets, to have the declaration of a source checked. -/
def emptyCapture (profile : Profile) (source : Source) : Capture where
  schema := captureSchema
  multiVersion := profile.version
  abi := profile.abi
  source := source
  infoHex := encodeHex (List.replicate profile.abi.infoSize 0)
  generations := [⟨1, .initial, 0, some []⟩]

def validateSource (profile : Profile) (source : Source) : Option Error :=
  if source.sessionID = 0 ∨ source.sessionID > 0x7FFFFFFF then some (.of .traceInvalidRequest)
  else
    match validateCapture (emptyCapture profile source) with
    | .ok _ => none
    | .error _ => some (.of .traceInvalidRequest)

def validateRequest (request : Request) : Option Error :=
  if request.op = .open then
    if request.handle ≠ 0 ∨ request.read ≠ {} ∨ request.authorized then
      some (.of .traceInvalidRequest)
    else if !request.openRequest.acknowledgeUnverifiedSource then
      some (.of .traceUnverifiedSource)
    else if request.openRequest.source.kind ≠ .live ∧
        request.openRequest.source.kind ≠ .snapshot then
      some (.of .traceInvalidRequest)
    else if request.openRequest.source.initialContext.isSome then some (.of .traceInvalidRequest)
    else validateSource ⟨"8.1.4", baseABI 64 64, false, true, true⟩ request.openRequest.source
  else if request.handle = 0 ∨ request.handle > 0x7FFFFFFF ∨ request.openRequest ≠ {} then
    some (.of .traceInvalidRequest)
  else
    match request.op with
    | .status | .close =>
      if request.read ≠ {} ∨ request.authorized then some (.of .traceInvalidRequest) else none
    | .read =>
      if request.authorized ∨ request.read.generation = 0 ∨ request.read.count < 1 ∨
          request.read.count > 4096 ∨ request.read.start > 2 ^ 64 - 1 - request.read.count then
        some (.of .traceInvalidRequest)
      else none
    | .start | .stop =>
      if request.read ≠ {} ∨ !request.authorized then some (.of .traceInvalidRequest) else none
    | _ => some (.of .traceInvalidRequest)

/-! ### The state -/

structure Receipt where
  operation : String := ""
  outcome : String := ""
  reason : String := ""
  nativeStateUncertain : Bool := false
  helperAbortRequested : Bool := false
  nativeDisconnectConfirmed : Bool := false
  collectionMayContinue : Bool := false
  deriving DecidableEq

inductive Life where
  | idle | opening | open | closed | faulted
  deriving DecidableEq

structure Status where
  handle : Nat := 0
  state : Life := .idle
  busy : Bool := false
  nativeGeneration : Nat := 0
  packetCount : Nat := 0
  packetCountKnown : Bool := false
  timebase : TimeUnit := .unknown
  traceState : TraceState := .unknown
  needsReconciliation : Bool := false
  lastReceipt : Receipt := {}
  deriving DecidableEq

structure Result where
  status : Status
  batch : Option Capture := none
  receipt : Receipt

structure Options where
  /-- A factory for helpers is set. -/
  enabled : Bool := true
  /-- `AcquireSource` is set. -/
  acquiresSource : Bool := true
  profile : Profile

/-- Helpers and leases are known by numbers. -/
structure Controller where
  options : Options
  backend : Option Nat := none
  lease : Option Nat := none
  retired : Option Nat := none
  factoryActive : Bool := false
  owner : String := ""
  source : Source := noSource
  epoch : Nat := 0
  nextID : Nat := 0
  infoHex : List Char := []
  status : Status := {}
  closed : Bool := false
  /-- The wait group. -/
  helpers : Nat := 0
  /-- The channel, once it is made, and whether it is closed. -/
  shutdownDone : Option Bool := none

namespace Controller

variable (c : Controller)

/-! ### Locked sections -/

/-- `refreshDeathLocked`. -/
def refreshDeath (done : Nat → Bool) (c : Controller) : Controller :=
  match c.backend with
  | none => c
  | some helper =>
    if c.status.busy then c
    else if done helper then
      { c with
        retired := some helper
        backend := none
        status := { c.status with
          state := .faulted
          needsReconciliation := true
          lastReceipt :=
            { operation := "observe", outcome := "failed", reason := "helper_exited"
              nativeStateUncertain := true, collectionMayContinue := true } } }
    else c

/-- What becomes of a request under the lock. -/
inductive Admission where
  | rejected (result : Option Result) (err : Error)
  | accepted

/-- An open request takes the next handle. -/
def beginOpen (owner : String) (source : Source) : Controller :=
  { c with
    nextID := c.nextID + 1
    owner := owner
    source := source
    status := { handle := c.nextID + 1, state := .opening }
    infoHex := []
    helpers := c.helpers + 1 }

/-- The operation begins: its epoch is the one after this section. -/
def beginOperation : Controller :=
  { c with epoch := c.epoch + 1, status := { c.status with busy := true } }

/-- The first locked section of `Execute`. -/
def admission (done : Nat → Bool) (c : Controller) (owner : String) (request : Request) :
    Controller × Admission :=
  if c.closed then (c, .rejected none (.of .traceUnavailable))
  else
    let c := c.refreshDeath done
    if c.status.needsReconciliation then
      (c, .rejected (some { status := c.status, receipt := c.status.lastReceipt })
        (.of .traceReconciliationRequired))
    else if c.status.busy then (c, .rejected none (.of .traceBusy))
    else if request.op = .open then
      if c.backend.isSome ∨ c.owner ≠ "" ∨ c.nextID = 0x7FFFFFFF then
        (c, .rejected none (.of .traceBusy))
      else ((c.beginOpen owner request.openRequest.source).beginOperation, .accepted)
    else if c.owner ≠ owner then (c, .rejected none (.of .traceNotOwner))
    else if c.backend.isNone ∨ request.handle ≠ c.status.handle ∨ c.status.state ≠ .open then
      (c, .rejected none (.of .traceStaleHandle))
    else (c.beginOperation, .accepted)

def stale (epoch : Nat) (owner : String) : Bool :=
  c.epoch ≠ epoch || c.owner != owner

/-- The result that reports the state as it is now. -/
def report : Result := { status := c.status, receipt := c.status.lastReceipt }

/-- The rest of `factoryFailed`, in the epoch of the operation. The lease is closed if there is one,
and that may fail. -/
def factoryFailed (reason : String) (closeErr : Bool) : Controller × Error :=
  if c.lease.isSome && closeErr then
    ({ c with
      status := { c.status with
        state := .faulted, needsReconciliation := true, busy := false
        lastReceipt :=
          { operation := "open", outcome := "cleanup_failed"
            reason := "source_lease_release_failed" } } },
      .of .traceReconciliationRequired)
  else
    ({ c with
      lease := none
      owner := ""
      status := { c.status with
        busy := false, state := .idle
        lastReceipt :=
          { operation := "open", outcome := "failed_before_native_open", reason := reason } } },
      .of .traceUnavailable)

/-- `observe`. A status that contradicts an earlier one is refused. -/
def observe (status : HelperStatus) : Except Error Controller :=
  match decodeHex status.infoHex with
  | none => .error (.of .traceInvalidRequest)
  | some infoBytes =>
    if status.generation = 0 ∨ status.generation < c.status.nativeGeneration then
      .error (.of .traceInvalidRequest)
    else
      match decodeInfo c.options.profile infoBytes with
      | .error _ => .error (.of .traceInvalidRequest)
      | .ok info =>
        if status.generation = c.status.nativeGeneration ∧
            (c.infoHex ≠ [] ∧ c.infoHex ≠ status.infoHex ∨
              c.status.packetCountKnown ∧ status.packetCount < c.status.packetCount) then
          .error (.of .traceInvalidRequest)
        else
          .ok { c with
            infoHex := status.infoHex
            status := { c.status with
              nativeGeneration := status.generation
              packetCount := status.packetCount
              packetCountKnown := true
              timebase := info.timeUnit
              traceState := status.traceState } }

end Controller

/-! ### An operation on the helper -/

/-- What the calls of the helper return during one operation. -/
structure Answers where
  opened : Except Error HelperStatus := .error (.of .helperTransport)
  status : Except Error HelperStatus := .error (.of .helperTransport)
  read : Except Error ReadResult := .error (.of .helperTransport)
  control : Except Error ControlResult := .error (.of .helperTransport)
  closed : Option Error := some (.of .helperTransport)

structure OperationResult where
  status : Option HelperStatus := none
  control : Option ControlResult := none
  batch : Option Capture := none

/-- The document for the packets of a read. -/
def readCapture (profile : Profile) (source : Source) (status : HelperStatus)
    (batch : ReadResult) : Capture where
  schema := captureSchema
  multiVersion := profile.version
  abi := profile.abi
  source := source
  infoHex := status.infoHex
  generations := [⟨batch.generation.toUInt64, if batch.start ≠ 0 then .packetGap else .initial,
    batch.start.toUInt64, some batch.packetsHex⟩]

def performRead (profile : Profile) (read : ReadRequest) (source : Source)
    (status : HelperStatus) (batch : ReadResult) : OperationResult × Option Error :=
  if batch.generation ≠ status.generation ∨ batch.start ≠ read.start ∨ batch.count < 0 ∨
      batch.count > read.count ∨ batch.count ≠ batch.packetsHex.length then
    ({ status := some status }, some (.of .traceInvalidRequest))
  else
    let capture := readCapture profile source status batch
    match validateCapture capture with
    | .error _ => ({ status := some status }, some (.of .traceInvalidRequest))
    | .ok _ => ({ status := some status, batch := some capture }, none)

def perform (profile : Profile) (request : Request) (source : Source) (answers : Answers) :
    OperationResult × Option Error :=
  match request.op with
  | .open =>
    match answers.opened with
    | .error err => ({}, some err)
    | .ok status => ({ status := some status }, none)
  | .status =>
    match answers.status with
    | .error err => ({}, some err)
    | .ok status => ({ status := some status }, none)
  | .read =>
    match answers.status with
    | .error err => ({}, some err)
    | .ok status =>
      if status.generation ≠ request.read.generation then
        ({ status := some status }, some (.of .helperStaleGeneration))
      else
        match answers.read with
        | .error err => ({ status := some status }, some err)
        | .ok batch => performRead profile request.read source status batch
  | .start | .stop =>
    match answers.control with
    | .error err => ({}, some err)
    | .ok control =>
      if !control.accepted ∨ control.confirmed ∨ control.generation = 0 then
        ({}, some (.of .traceInvalidRequest))
      else ({ control := some control }, none)
  | .close => ({}, answers.closed)
  | .other => ({}, some (.of .traceInvalidRequest))

/-! ### The last section of an operation -/

/-- What the section leaves behind: the state, what `Execute` returns, and what is done with the
helper and the lease. -/
structure Committed where
  controller : Controller
  result : Result
  err : Option Error := none
  /-- The helper is aborted. -/
  abort : Bool := false
  /-- The lease that is closed once the helper is done. -/
  release : Option Nat := none
  /-- The lease that is closed under the lock. -/
  closes : Option Nat := none

namespace Controller

variable (c : Controller)

/-- Nothing is known to have gone wrong: only the receipt says what happened. -/
def withReceipt (receipt : Receipt) : Controller :=
  { c with status := { c.status with lastReceipt := receipt } }

def commitStaleGeneration (op : Operation) : Committed :=
  let c := c.withReceipt { operation := op.text, outcome := "rejected"
                           reason := "source_generation_changed", collectionMayContinue := true }
  { controller := c, result := c.report, err := some (.of .helperStaleGeneration) }

/-- The operation was cancelled before anything was sent. -/
def commitCancelled (op : Operation) (ended : Sentinel) : Committed :=
  let released :=
    if op = .open then
      { c with
        backend := none, owner := "", lease := none, status := { c.status with state := .idle } }
    else c
  let c' := released.withReceipt { operation := op.text, outcome := "cancelled_before_dispatch" }
  { controller := c'
    result := c'.report
    err := some (.of ended)
    abort := op = .open
    release := if op = .open then c.lease else none }

def commitFailed (op : Operation) (helper : Nat) : Committed :=
  let c : Controller := { c with
    retired := some helper
    backend := none
    status := { c.status with
      state := .faulted
      needsReconciliation := true
      lastReceipt :=
        { operation := op.text, outcome := "failed", reason := "helper_failure"
          nativeStateUncertain := true, helperAbortRequested := true
          collectionMayContinue := true } } }
  { controller := c
    result := c.report
    err := some (.of .traceReconciliationRequired)
    abort := true }

def commitClosed (closeErr : Bool) : Committed :=
  let receipt : Receipt :=
    { operation := "close", outcome := "closed", nativeDisconnectConfirmed := true
      collectionMayContinue := true }
  let c := { c with backend := none, owner := "", status := { c.status with state := .closed } }
  if c.lease.isSome && closeErr then
    let receipt := { receipt with
      outcome := "cleanup_failed", reason := "source_lease_release_failed" }
    let c' : Controller := { c with
      status := { c.status with
        state := .faulted, needsReconciliation := true, lastReceipt := receipt } }
    { controller := c'
      result := { status := c'.status, receipt := receipt }
      err := some (.of .traceReconciliationRequired)
      closes := c.lease }
  else
    let c' := { c with lease := none }.withReceipt receipt
    { controller := c', result := { status := c'.status, receipt := receipt }, closes := c.lease }

def commitSucceeded (op : Operation) (outcome : OperationResult) (closeErr : Bool) : Committed :=
  let succeed (c : Controller) (text : String) : Committed :=
    let receipt : Receipt :=
      { operation := op.text, outcome := text, collectionMayContinue := true }
    let c := c.withReceipt receipt
    { controller := c
      result := { status := c.status, batch := outcome.batch, receipt := receipt } }
  match op with
  | .open => succeed { c with status := { c.status with state := .open } } "observed"
  | .read => succeed c "read"
  | .start | .stop =>
    match outcome.control with
    | some control =>
      succeed
        { c with
          infoHex := []
          status := { c.status with
            nativeGeneration := control.generation
            traceState := control.traceState
            packetCountKnown := false
            packetCount := 0
            timebase := .unknown } }
        "requested"
    | none => succeed c "requested"
  | .close => c.commitClosed closeErr
  | _ => succeed c "observed"

/-- The status that came with the outcome is observed, which may turn it into an error. -/
def observed (outcome : OperationResult) (err : Option Error) : Controller × Option Error :=
  match outcome.status with
  | none => (c, err)
  | some status =>
    match c.observe status with
    | .error observedErr => (c, some observedErr)
    | .ok c' => (c', err)

/-- The last locked section of `Execute`, in the epoch of the operation. -/
def commit (op : Operation) (helper : Nat) (outcome : OperationResult)
    (err : Option Error) (ended : Option Sentinel) (poisoned closeErr : Bool) : Committed :=
  let (c, err) := { c with status := { c.status with busy := false } }.observed outcome err
  match err with
  | some err =>
    if err.is .helperStaleGeneration then c.commitStaleGeneration op
    else
      match ended with
      | some ended =>
        if !poisoned then c.commitCancelled op ended else c.commitFailed op helper
      | none => c.commitFailed op helper
  | none => c.commitSucceeded op outcome closeErr

/-! ### Invalidation -/

def invalidReason (reason : String) : String :=
  if ["frontend_detached", "daemon_closed", "actor_faulted", "trace_timeout", "trace_cancelled",
      "control_released"].contains reason then reason
  else "actor_invalidated"

/-- What an invalidation leaves to be done without the lock. -/
structure Invalidated where
  controller : Controller
  abort : Option Nat := none
  /-- A lease, and the helper that has to be done before it is closed. -/
  release : Option (Nat × Option Nat) := none

/-- The section of `Invalidate`, for an owner that matches. -/
def invalidateOwner (reason : String) : Invalidated :=
  let reason := invalidReason reason
  let closes := reason == "daemon_closed"
  let c := { c with closed := c.closed || closes }
  if c.backend.isNone ∧ !c.status.busy then
    if closes && !c.factoryActive then
      { controller := { c with lease := none }, release := c.lease.map (·, c.retired) }
    else { controller := c }
  else
    let takes := !c.factoryActive && (closes || c.backend.isNone)
    { controller := { c with
        epoch := c.epoch + 1
        retired := c.backend <|> c.retired
        backend := none
        lease := if takes then none else c.lease
        status := { c.status with
          busy := false
          needsReconciliation := true
          state := .faulted
          lastReceipt :=
            { operation := "invalidate", outcome := "abandoned", reason := reason
              nativeStateUncertain := true, helperAbortRequested := true
              collectionMayContinue := true } } }
      abort := c.backend
      release := if takes then c.lease.map (·, c.backend) else none }

def invalidate (owner reason : String) : Invalidated :=
  if owner ≠ "" ∧ owner ≠ c.owner then { controller := c } else c.invalidateOwner reason

end Controller

end MultiDap.Trace
