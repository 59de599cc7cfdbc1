import MultiDap.Trace.Controller
import MultiDap.Machine.Effect

/-!
# The trace helper

The worker process that owns the native library. It answers one request at a time, and refreshes
what it knows about the recording between requests. What the native library answers is an input; an
answer of the wrong type or shape is none at all. The packets of a generation only grow: whatever
else happens to the recording begins a new one.
-/

namespace MultiDap.Trace

namespace HelperSession

def maxPacketBatch : Nat := 4096
def maxUInt64 : Nat := 2 ^ 64 - 1
def notificationLimit : Nat := 128

inductive NativeError where
  | keyboardInterrupt | systemExit | other
  deriving DecidableEq

/-- What a request, or a refresh, may raise. -/
inductive Raised where
  | protocol (code : String)
  | fatal (code : String) (exitCode : Nat)
  deriving DecidableEq

def nativeFailure : NativeError → Raised
  | .keyboardInterrupt => .fatal "native_interrupted" 130
  | .systemExit => .fatal "native_interrupted" 1
  | .other => .fatal "native_failure" 1

inductive Json where
  | int (n : Int)
  | str (s : String)
  | bool (b : Bool)
  | other
  deriving DecidableEq

abbrev Args := List (String × Json)

/-- What the native library reports about its callbacks. A name that is not known is none. -/
structure Drained where
  events : List (Option Notification)
  dropped : Int
  ignoredCallbacks : Int
  callbackFailed : Bool
  generationInvalidated : Bool

/-- What the native library answers during one refresh. -/
structure Polled where
  pollEvents : Except NativeError Unit
  getInfo : Except NativeError (Option (List UInt8))
  packetCount : Except NativeError (Option Int)
  drainNotifications : Except NativeError (Option Drained)

/-- What the native library answers during one request. -/
structure Native where
  factory : Except NativeError Unit
  initialized : Except NativeError Unit
  connect : Except NativeError Unit
  close : Except NativeError Unit
  control : Except NativeError Unit
  getPackets : Except NativeError (Option (List UInt8 × Int))
  first : Polled
  second : Polled

/-- The fields of a `HelperSession`. -/
structure Session where
  opened : Bool := false
  terminal : Bool := false
  faulted : Bool := false
  generation : Nat := 1
  traceState : TraceState := .unknown
  info : List UInt8 := []
  infoSize : Nat := 0
  count : Nat := 0
  lastCount : Option Nat := none
  limit : Nat := notificationLimit
  events : List Notification := []
  dropped : Nat := 0
  ignored : Nat := 0
  callbackFailed : Bool := false
  invalidated : Bool := false

inductive Reply where
  | status (status : HelperStatus)
  | read (result : ReadResult)
  | control (result : ControlResult)
  | closed

abbrev Owner := Machine.Effect Raised Session

def fault {α : Type} (raised : Raised) : Owner α := do
  modify fun s => { s with faulted := true }
  throw raised

/-- Raise, without a fault, if something is wrong. -/
def raiseIf (wrong : Prop) [Decidable wrong] (raised : Raised) : Owner Unit :=
  if wrong then throw raised else pure ()

def call {α : Type} : Except NativeError α → Owner α
  | .ok value => pure value
  | .error err => fault (nativeFailure err)

def advance : Owner Unit := do
  if (← get).generation = maxUInt64 then fault (.fatal "generation_exhausted" 1)
  modify fun s => { s with generation := s.generation + 1, invalidated := true }

/-- The events that a report stands for, if it is well formed. -/
def Drained.known (drained : Drained) : Option (List Notification) :=
  if drained.events.length ≤ 4096 ∧ 0 ≤ drained.dropped ∧ drained.dropped ≤ maxUInt64 ∧
      0 ≤ drained.ignoredCallbacks ∧ drained.ignoredCallbacks ≤ maxUInt64 then
    drained.events.mapM id
  else none

/-- One round of the loop over the events; the second component says whether the generation is
over. -/
def note : Session × Bool → Notification → Session × Bool
  | (s, invalidate), event =>
    let (s, invalidate) : Session × Bool :=
      match event with
      | .traceStart => ({ s with traceState := .running }, true)
      | .traceStop => ({ s with traceState := .stopped }, invalidate)
      | .dataClear | .packetCountRegressed | .decoderReplacement =>
        ({ s with traceState := .unknown }, true)
      | _ => (s, invalidate)
    if s.events.length = s.limit then
      ({ s with dropped := min maxUInt64 (s.dropped + 1), traceState := .unknown }, true)
    else ({ s with events := s.events ++ [event] }, invalidate)

/-- The events with those that the refresh has found out itself. -/
def reported (events : List Notification) (countRegressed infoChanged : Bool) : List Notification :=
  let events :=
    if countRegressed ∧ .packetCountRegressed ∉ events then events ++ [.packetCountRegressed]
    else events
  if infoChanged ∧ .decoderReplacement ∉ events then events ++ [.decoderReplacement] else events

def collect (drained : Option Drained) (countRegressed infoChanged : Bool) : Owner Unit := do
  match drained with
  | none => fault (.fatal "native_failure" 1)
  | some drained =>
    match drained.known with
    | none => fault (.fatal "native_failure" 1)
    | some events =>
      let events := reported events countRegressed infoChanged
      let invalidate := drained.generationInvalidated || countRegressed || infoChanged
      let (s, invalidate) := events.foldl note (← get, invalidate)
      let lost := drained.dropped ≠ 0 ∨ drained.ignoredCallbacks ≠ 0 ∨ drained.callbackFailed
      set { s with
        dropped := min maxUInt64 (s.dropped + drained.dropped.toNat)
        ignored := min maxUInt64 (s.ignored + drained.ignoredCallbacks.toNat)
        callbackFailed := s.callbackFailed || drained.callbackFailed
        traceState := if lost then .unknown else s.traceState }
      if invalidate ∨ lost then advance

def refresh (polled : Polled) : Owner Unit := do
  let s ← get
  if !s.opened || s.faulted then return
  call polled.pollEvents
  match ← call polled.getInfo with
  | none => fault (.fatal "native_failure" 1)
  | some info =>
    if info.length ≠ s.infoSize then fault (.fatal "native_failure" 1)
    match ← call polled.packetCount with
    | none => fault (.fatal "native_failure" 1)
    | some count =>
      if count < 0 ∨ maxUInt64 ≤ count then fault (.fatal "native_failure" 1)
      let regressed := s.lastCount.any (count.toNat < ·)
      let changed := s.info ≠ [] ∧ s.info ≠ info
      modify fun s => { s with lastCount := some count.toNat, count := count.toNat, info }
      collect (← call polled.drainNotifications) regressed changed

/-! ### Requests -/

/-- `_exact`: the arguments have these names and no others. -/
def exact (args : Args) (fields : List String) : Owner Unit :=
  raiseIf (¬(args.all (fields.contains ·.1) && fields.all fun field => args.any (·.1 == field)))
    (.protocol "invalid_arguments")

/-- `_integer`. -/
def integer (value : Option Json) (minimum maximum : Int) : Owner Int :=
  match value with
  | some (.int n) =>
    if minimum ≤ n ∧ n ≤ maximum then return n else throw (.protocol "invalid_arguments")
  | _ => throw (.protocol "invalid_arguments")

/-- A number without leading zeros, of at most twenty digits. -/
def decimalText (text : List Char) : Option Nat :=
  match text with
  | ['0'] => some 0
  | first :: rest =>
    if '1' ≤ first ∧ first ≤ '9' ∧ rest.length ≤ 19 ∧ rest.all (fun c => '0' ≤ c && c ≤ '9') then
      some (text.foldl (fun n c => 10 * n + (c.toNat - '0'.toNat)) 0)
    else none
  | [] => none

/-- `_decimal`. -/
def decimal (value : Option Json) (minimum : Nat) : Owner Nat :=
  match value with
  | some (.str text) =>
    match decimalText text.toList with
    | some number =>
      if minimum ≤ number ∧ number ≤ maxUInt64 then return number
      else throw (.protocol "invalid_arguments")
    | none => throw (.protocol "invalid_arguments")
  | _ => throw (.protocol "invalid_arguments")

def notifications : Owner Notifications := do
  let s ← get
  set { s with
    events := [], dropped := 0, ignored := 0, callbackFailed := false, invalidated := false }
  return ⟨s.events, s.dropped, s.ignored, s.callbackFailed, s.invalidated⟩

def status : Owner HelperStatus := do
  let s ← get
  return ⟨TimeMachine.encodeHex s.info, s.count, s.generation, s.traceState, ← notifications⟩

/-- The checks on the texts of an open request. -/
def validOpen (isAbs : String → Bool) (args : Args) : Bool :=
  match args.lookup "installation", args.lookup "multi_version", args.lookup "dll_sha256" with
  | some (.str installation), some (.str version), some (.str digest) =>
    isAbs installation && !installation.toList.contains '\x00' && installation.length ≤ 4096 &&
      (version == "8.1.4" || version == "7.1.6d") && TimeMachine.validDigest digest.toList
  | _, _, _ => false

/-- The size of the information structure in the release that is asked for. -/
def infoSize (args : Args) : Nat :=
  if args.lookup "multi_version" = some (.str "8.1.4") then 64 else 60

/-- `dispatch` of an open request. -/
def dispatchOpen (isAbs : String → Bool) (args : Args) (native : Native) : Owner Reply := do
  exact args ["installation", "multi_version", "dll_sha256", "session_id"]
  raiseIf (!validOpen isAbs args) (.protocol "invalid_arguments")
  let _ ← integer (args.lookup "session_id") 1 (2 ^ 31 - 1)
  raiseIf (← get).opened (.protocol "already_open")
  modify fun s => { s with infoSize := infoSize args }
  call native.factory
  call native.initialized
  call native.connect
  modify fun s => { s with opened := true }
  refresh native.first
  return .status (← status)

def readArgs (args : Args) : Owner ReadArgs := do
  exact args ["start", "count", "generation"]
  let start ← decimal (args.lookup "start") 0
  let count ← integer (args.lookup "count") 1 maxPacketBatch
  let generation ← decimal (args.lookup "generation") 1
  raiseIf (start > maxUInt64 - count.toNat) (.protocol "invalid_arguments")
  return ⟨start, count, generation⟩

/-- The packets that the native library has returned, if they are well formed. -/
def packets (count : Int) (batch : Option (List UInt8 × Int)) : Option (List UInt8 × Nat) :=
  match batch with
  | some (data, actual) =>
    if 0 ≤ actual ∧ actual ≤ count ∧ (data.length : Int) = actual * 32 then
      some (data, actual.toNat)
    else none
  | none => none

def packetsHex (data : List UInt8) (actual : Nat) : List (List Char) :=
  (List.range actual).map fun i => TimeMachine.encodeHex ((data.drop (32 * i)).take 32)

/-- `dispatch` of a read request, after its arguments were checked. -/
def dispatchRead (read : ReadArgs) (native : Native) : Owner Reply := do
  refresh native.first
  let s ← get
  raiseIf (read.generation ≠ s.generation) (.protocol "stale_generation")
  raiseIf (read.start > s.count ∨ read.count > (s.count : Int) - read.start)
    (.protocol "invalid_range")
  match packets read.count (← call native.getPackets) with
  | none => fault (.fatal "native_failure" 1)
  | some (data, actual) =>
    refresh native.second
    let t ← get
    raiseIf (t.generation ≠ s.generation) (.protocol "stale_generation")
    return .read ⟨t.generation, read.start, actual, packetsHex data actual⟩

/-- `dispatch` of a start or stop request, after its arguments were checked. -/
def dispatchControl (requested : TraceState) (native : Native) : Owner Reply := do
  refresh native.first
  modify fun s => { s with traceState := requested }
  call native.control
  refresh native.second
  let s ← get
  return .control ⟨true, false, s.generation, s.traceState⟩

def requireOpen : Owner Unit := do
  raiseIf (!(← get).opened) (.protocol "not_open")

def authorized (args : Args) : Owner Unit := do
  exact args ["authorized"]
  raiseIf (args.lookup "authorized" ≠ some (.bool true)) (.protocol "invalid_arguments")

def dispatch (isAbs : String → Bool) (op : String) (args : Args) (native : Native) :
    Owner Reply := do
  let s ← get
  raiseIf (s.faulted || s.terminal) (.fatal "native_failure" 1)
  if op = "open" then dispatchOpen isAbs args native
  else if op = "status" then
    exact args []
    requireOpen
    refresh native.first
    return .status (← status)
  else if op = "close" then
    exact args []
    requireOpen
    call native.close
    modify fun s => { s with opened := false, terminal := true }
    return .closed
  else if op = "start" then
    authorized args
    requireOpen
    dispatchControl .startRequested native
  else if op = "stop" then
    authorized args
    requireOpen
    dispatchControl .stopRequested native
  else if op = "read" then
    let read ← readArgs args
    requireOpen
    dispatchRead read native
  else throw (.protocol "unsupported_operation")

/-! ### Serving -/

structure Serving where
  session : Session := {}
  /-- Nothing is answered any more. -/
  ended : Bool := false
  /-- The results and the codes of the errors that were sent. -/
  sent : List (Except String Reply) := []

inductive Event where
  /-- The pump that refreshes between requests. -/
  | pump (polled : Polled)
  | request (op : String) (args : Args) (native : Native)

/-- A round of the loop of `serve`, or of the loop that waits for the writer after it. -/
def Serving.step (isAbs : String → Bool) (serving : Serving) : Event → Option Serving
  | .pump polled =>
    match (refresh polled).exec serving.session with
    | (.ok _, session) => some { serving with session }
    | (.error _, session) => some { serving with session, ended := true }
  | .request op args native =>
    if serving.ended || serving.session.terminal then none
    else
      match (dispatch isAbs op args native).exec serving.session with
      | (.ok reply, session) =>
        some { serving with session, sent := serving.sent ++ [.ok reply] }
      | (.error (.protocol code), session) =>
        some { serving with session, sent := serving.sent ++ [.error code] }
      | (.error (.fatal code _), session) =>
        some { session, sent := serving.sent ++ [.error code], ended := true }

end HelperSession

end MultiDap.Trace
