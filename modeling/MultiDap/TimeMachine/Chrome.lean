import MultiDap.TimeMachine.Normalize

/-!
# The export for trace viewers

A report whose clock counts picoseconds is shown as a timeline. Every epoch of the clock of every
generation is a process of its own with its own origin, and every task is a thread in it. What the
viewer reads as a time is a decimal number of microseconds.
-/

namespace MultiDap.TimeMachine

/-- The report with what it says about its origin. -/
structure NormalizedReport extends Report where
  schema : String
  canonicalCaptureSHA256 : List Char
  source : Source
  multiVersion : String
  info : Info

def reportSchema : String := "multi-dap.native-report.v1"

/-- `Normalize`, for a hash function of captures. -/
def normalizeReport (sha256 : Capture → { digest : List UInt8 // digest.length = 32 })
    (capture : Capture) : Except Error NormalizedReport := do
  let (profile, info) ← validateCapture capture
  let report ← normalize capture
  return { report with
    schema := reportSchema
    canonicalCaptureSHA256 := encodeHex (sha256 capture).1
    source := capture.source
    multiVersion := profile.version
    info := info }

/-! ### Events -/

inductive Phase where
  /-- Names of processes and threads. -/
  | metadata
  | instant
  | complete
  deriving DecidableEq

structure TraceArgs where
  name : String := ""
  packetIndex : Option Nat := none
  address : String := ""
  rawTag : Option Int := none
  rawEnd : Option Int := none
  contextEvidence : List Evidence := []
  deriving DecidableEq

/-- A time that is not there is the empty text. -/
structure TraceEvent where
  name : String
  category : String := ""
  phase : Phase
  timestamp : List Char := []
  duration : List Char := []
  pid : Nat
  tid : Nat := 0
  scope : String := ""
  args : TraceArgs := {}
  deriving DecidableEq

/-- An epoch of the clock of a generation. -/
structure ClockDomain where
  generation : Nat
  epoch : Nat
  deriving DecidableEq

def Observation.domain (o : Observation) : ClockDomain := ⟨o.generation, o.clockEpoch⟩

def Span.domain (s : Span) : ClockDomain := ⟨s.generation, s.clockEpoch⟩

structure GenerationClock where
  domain : ClockDomain
  origin : Int
  deriving DecidableEq

structure TraceMetadata where
  canonicalCaptureSHA256 : List Char
  source : Source
  multiVersion : String
  generationClocks : List GenerationClock
  untimedDiscontinuities : List Discontinuity
  statistics : Statistics

structure Trace where
  traceEvents : List TraceEvent
  otherData : TraceMetadata

def maxTraceTracks : Nat := 4096

/-! ### Texts -/

def PacketKind.text : PacketKind → String
  | .unknown => "unknown"
  | .instruction => "instruction"
  | .data => "data"
  | .event => "event"
  | .rawData => "raw_data"
  | .rawDataStart => "raw_data_start"
  | .pid => "pid"
  | .extendedOpcode => "extended_opcode"
  | .register => "register"
  | .rawTrace => "raw_trace"
  | .function => "function"
  | .addressSync => "address_sync"
  | .wallClockSync => "wall_clock_sync"
  | .previousPid => "previous_pid"

/-- `0x%016x`. -/
def addressText (address : Nat) : String :=
  let digits := Nat.toDigits 16 address
  String.ofList ('0' :: 'x' :: (List.replicate (16 - digits.length) '0' ++ digits))

def signedText (value : Int) : List Char :=
  if value < 0 then '-' :: Nat.toDigits 10 value.natAbs else Nat.toDigits 10 value.natAbs

def panicNegativeRepeat : Error := .new "strings: negative Repeat count"

/-- The difference of two times in microseconds. The quotient is rounded towards zero. -/
def picosecondsToMicroseconds (value : Int) : Except Error (List Char) :=
  let quotient := value.tdiv 1000000
  let remainder := value.tmod 1000000
  if remainder = 0 then .ok (signedText quotient)
  else
    let fraction := signedText remainder
    if 6 < fraction.length then .error panicNegativeRepeat
    else
      let fraction := List.replicate (6 - fraction.length) '0' ++ fraction
      .ok (signedText quotient ++ '.' :: fraction.rdropWhile (· == '0'))

/-! ### Clocks -/

def physicalTimestamp (timestamp : Timestamp) : Except Error Int :=
  match timestamp.value with
  | none => .error (.new "timemachine: invalid physical timestamp")
  | some value =>
    if timestamp.timeUnit ≠ .picoseconds ∨ 21 < (signedText value).length then
      .error (.new "timemachine: invalid physical timestamp")
    else .ok value

/-- The domains in the order in which they are found, with the smallest time of each. -/
abbrev Clocks := List (ClockDomain × Option Int)

namespace Clocks

def visit (clocks : Clocks) (domain : ClockDomain) : Except Error Clocks :=
  if (clocks.lookup domain).isSome then .ok clocks
  else if clocks.length ≥ maxTraceTracks then
    .error (.new "timemachine: report clock-domain limit exceeded")
  else .ok (clocks ++ [(domain, none)])

/-- The origin of the domain is not later than this. -/
def lower (clocks : Clocks) (domain : ClockDomain) (value : Int) : Clocks :=
  clocks.map fun (id, origin) =>
    if id = domain then (id, some (origin.elim value (min value))) else (id, origin)

def collect : Clocks → List Observation → Except Error Clocks
  | clocks, [] => .ok clocks
  | clocks, o :: rest =>
    if o.generation = 0 ∨ o.clockEpoch = 0 then
      .error (.new "timemachine: invalid report generation")
    else do
      let clocks ← clocks.visit o.domain
      match o.timestamp with
      | none => collect clocks rest
      | some timestamp => do
        let value ← physicalTimestamp timestamp
        collect (clocks.lower o.domain value) rest

def origin (clocks : Clocks) (domain : ClockDomain) : Option Int := (clocks.lookup domain).join

def sorted (clocks : Clocks) : List ClockDomain :=
  (clocks.map Prod.fst).insertionSort fun a b =>
    a.generation < b.generation ∨ a.generation = b.generation ∧ a.epoch ≤ b.epoch

def pid (clocks : Clocks) (domain : ClockDomain) : Nat := clocks.sorted.idxOf domain + 1

def processEvents (clocks : Clocks) : List TraceEvent :=
  clocks.sorted.map fun domain =>
    { name := "process_name", phase := .metadata, pid := clocks.pid domain
      args := { name := "Trace generation " ++ toString domain.generation ++ " / clock epoch " ++
        toString domain.epoch ++ " (independent origin)" } }

def generationClocks (clocks : Clocks) : List GenerationClock :=
  clocks.sorted.filterMap fun domain => (clocks.origin domain).map fun origin => ⟨domain, origin⟩

end Clocks

/-! ### Threads -/

/-- A thread of a process; tasks that are not known share one. -/
structure Track where
  domain : ClockDomain
  context : Option Context
  deriving DecidableEq

/-- The events so far, and the threads with their numbers. -/
structure Timeline where
  events : List TraceEvent
  tracks : List (Track × Nat) := []

def trackName (source : Source) : Option Context → String
  | none => "Unknown task/address space (core unknown)"
  | some context =>
    "Task " ++ toString context.taskID ++ " / AS " ++ toString context.addressSpaceID ++
      match source.coreID with
      | none => " (core unknown)"
      | some core => " (declared core " ++ toString core.toNat ++ ")"

namespace Timeline

def emit (t : Timeline) (event : TraceEvent) : Timeline := { t with events := t.events ++ [event] }

/-- The thread of a context, which is named when it is used first. -/
def track (t : Timeline) (source : Source) (clocks : Clocks) (track : Track) :
    Except Error (Timeline × Nat) :=
  if track.context.any fun context => !validContext context || !knownContext context then
    .error (.new "timemachine: invalid normalized context")
  else
    match t.tracks.lookup track with
    | some tid => .ok (t, tid)
    | none =>
      if t.tracks.length ≥ maxTraceTracks then
        .error (.new "timemachine: Chrome track limit exceeded")
      else
        let tid := (t.tracks.filter (·.1.domain = track.domain)).length + 1
        .ok ({ t with tracks := t.tracks ++ [(track, tid)] }.emit
          { name := "thread_name", phase := .metadata, pid := clocks.pid track.domain, tid := tid
            args := { name := trackName source track.context } }, tid)

def packetAddress (packet : Packet) : String :=
  match packet.kind with
  | .instruction | .function | .addressSync => addressText packet.address
  | _ => ""

/-- The origin that is not set is a pointer that is not set. -/
def panicNilOrigin : Error :=
  .new "runtime error: invalid memory address or nil pointer dereference"

def instantEvent (clocks : Clocks) (o : Observation) (timestamp : Timestamp) (tid : Nat)
    (text : List Char) : TraceEvent where
  name := o.packet.kind.text
  category := "target.packet"
  phase := .instant
  scope := "t"
  timestamp := text
  pid := clocks.pid o.domain
  tid := tid
  args :=
    { packetIndex := some o.index, address := packetAddress o.packet,
      rawTag := some timestamp.rawTag, contextEvidence := [o.contextEvidence] }

def instant (t : Timeline) (source : Source) (clocks : Clocks) (o : Observation)
    (timestamp : Timestamp) : Except Error Timeline := do
  let value ← physicalTimestamp timestamp
  let (t, tid) ← t.track source clocks ⟨o.domain, o.context⟩
  match clocks.origin o.domain with
  | none => .error panicNilOrigin
  | some origin =>
    let text ← picosecondsToMicroseconds (value - origin)
    return t.emit (instantEvent clocks o timestamp tid text)

def lifetimeEvent (clocks : Clocks) (s : Span) (tid : Nat) (text duration : List Char) :
    TraceEvent where
  name := "Function event " ++ addressText s.address
  category := "target.function_lifetime"
  phase := .complete
  timestamp := text
  duration := duration
  pid := clocks.pid s.domain
  tid := tid
  args :=
    { address := addressText s.address, rawTag := s.rawStart, rawEnd := s.rawEnd,
      contextEvidence := s.contextEvidence }

/-- A function from its entry to its exit. -/
def lifetime (t : Timeline) (source : Source) (clocks : Clocks) (s : Span) :
    Except Error Timeline :=
  match clocks.origin s.domain with
  | none => .error (.new "timemachine: invalid normalized function span")
  | some origin =>
    if s.timeUnit ≠ some .picoseconds ∨ s.startTime < origin ∨ s.endTime < s.startTime ∨
        21 < (signedText s.startTime).length ∨ 21 < (signedText s.endTime).length then
      .error (.new "timemachine: invalid normalized function span")
    else do
      let (t, tid) ← t.track source clocks ⟨s.domain, some s.context⟩
      let text ← picosecondsToMicroseconds (s.startTime - origin)
      let duration ← picosecondsToMicroseconds (s.endTime - s.startTime)
      return t.emit (lifetimeEvent clocks s tid text duration)

def instants (source : Source) (clocks : Clocks) : Timeline → List Observation →
    Except Error Timeline
  | t, [] => .ok t
  | t, o :: rest =>
    match o.timestamp with
    | none => instants source clocks t rest
    | some timestamp => do
      let t ← t.instant source clocks o timestamp
      instants source clocks t rest

def lifetimes (source : Source) (clocks : Clocks) : Timeline → List Span → Except Error Timeline
  | t, [] => .ok t
  | t, s :: rest => do
    let t ← t.lifetime source clocks s
    lifetimes source clocks t rest

end Timeline

/-- Only a clock that counts picoseconds is shown: no frequency is invented. -/
def chromeTrace (report : NormalizedReport) : Except Error Trace := do
  if report.schema ≠ reportSchema ∨ !validDigest report.canonicalCaptureSHA256 ∨
      report.info.timebase ≠ 3 ∨ report.info.timeUnit ≠ .picoseconds then
    .error (.new "timemachine: Chrome export requires a normalized picosecond report")
  if report.observations.length > maxCapturePackets ∨ report.spans.length > maxCapturePackets ∨
      report.discontinuities.length > 2 * maxCapturePackets + 2 * maxGenerations then
    .error (.new "timemachine: normalized report exceeds limits")
  let clocks ← Clocks.collect [] report.observations
  let t ← Timeline.instants report.source clocks ⟨clocks.processEvents, []⟩ report.observations
  let t ← Timeline.lifetimes report.source clocks t report.spans
  return {
    traceEvents := t.events
    otherData := {
      canonicalCaptureSHA256 := report.canonicalCaptureSHA256
      source := report.source
      multiVersion := report.multiVersion
      generationClocks := clocks.generationClocks
      untimedDiscontinuities := report.discontinuities
      statistics := report.statistics } }

end MultiDap.TimeMachine
