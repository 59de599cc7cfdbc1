import MultiDap.TimeMachine.Capture

/-!
# Normalization

Every packet of a capture is kept as an observation, and function packets are paired to spans as far
as the capture shows that they belong together. A segment is bounded by the packets that name a
task; a packet may name the task of what follows, or of what came before. Whatever makes the order
of the packets doubtful is a barrier: it is recorded as a discontinuity and forgets all open frames.
-/

namespace MultiDap.TimeMachine

structure Timestamp where
  rawTag : Int
  /-- Missing if the unit is not known. -/
  value : Option Int
  timeUnit : TimeUnit
  deriving DecidableEq

/-- What the task of a packet is known from. -/
inductive Evidence where
  | unavailable
  | operatorDeclared
  | nativePid
  | nativePreviousPid
  | operatorDeclaredAndNativePreviousPid
  | nativePidAndNativePreviousPid
  | nativePidForFollowingPackets
  | nativePreviousPidForPrecedingPackets
  | conflictingNativeAttribution
  | conflictingDeclaredAndNativeAttribution
  deriving DecidableEq

def Evidence.text : Evidence → String
  | .unavailable => "unavailable"
  | .operatorDeclared => "operator_declared"
  | .nativePid => "native_pid"
  | .nativePreviousPid => "native_previous_pid"
  | .operatorDeclaredAndNativePreviousPid => "operator_declared_and_native_previous_pid"
  | .nativePidAndNativePreviousPid => "native_pid_and_native_previous_pid"
  | .nativePidForFollowingPackets => "native_pid_for_following_packets"
  | .nativePreviousPidForPrecedingPackets => "native_previous_pid_for_preceding_packets"
  | .conflictingNativeAttribution => "conflicting_native_attribution"
  | .conflictingDeclaredAndNativeAttribution => "conflicting_declared_and_native_attribution"

structure Observation where
  generation : Nat
  clockEpoch : Nat
  index : Nat
  packet : Packet
  timestamp : Option Timestamp
  context : Option Context
  contextEvidence : Evidence
  deriving DecidableEq

/-- The normalized time of an observation. -/
def Observation.value (o : Observation) : Option Int := o.timestamp.bind Timestamp.value

structure Span where
  generation : Nat
  clockEpoch : Nat
  entryIndex : Nat
  exitIndex : Nat
  address : Nat
  context : Context
  contextEvidence : List Evidence
  startTime : Int
  endTime : Int
  elapsed : Int
  timeUnit : Option TimeUnit
  rawStart : Option Int
  rawEnd : Option Int
  depth : Nat
  deriving DecidableEq

inductive Reason where
  | generation (reason : GenerationReason)
  | clockRegression
  | attributionConflict
  | unknownContext
  | unknownFunctionClock
  | unknownFunctionContext
  | functionExitMismatch
  | functionClockRegression
  | unknownPacket
  | unknownFunctionEvent
  | event (name : String)
  deriving DecidableEq

structure Discontinuity where
  generation : Nat
  clockEpoch : Nat
  index : Nat
  reason : Reason
  deriving DecidableEq

structure Statistics where
  packets : Nat := 0
  generations : Nat := 0
  unknownPackets : Nat := 0
  unknownEvents : Nat := 0
  unattributedPackets : Nat := 0
  attributionConflicts : Nat := 0
  clockRegressions : Nat := 0
  clockEpochs : Nat := 0
  unknownClockEvents : Nat := 0
  unknownFunctionEvents : Nat := 0
  unmatchedExits : Nat := 0
  mismatchedExits : Nat := 0
  invalidatedOpenFrames : Nat := 0
  unfinishedFrames : Nat := 0
  completedFunctionSpans : Nat := 0
  deriving DecidableEq

structure Report where
  observations : List Observation := []
  spans : List Span := []
  discontinuities : List Discontinuity := []
  statistics : Statistics := {}
  deriving DecidableEq

/-- The open frames of each context are kept with the innermost first. -/
structure Normalizer where
  report : Report := {}
  frameStacks : Context → List Observation := fun _ => []
  contexts : List Context := []
  openFrames : Nat := 0
  epoch : Nat := 0

/-! ### Observations -/

def normalizeTimestamp (tag : Int) (info : Info) : Timestamp where
  rawTag := tag
  value :=
    if info.timeUnit = .unknown then none
    else if info.timebase = 2 then some (tag >>> (8 : Nat))
    else some tag
  timeUnit := info.timeUnit

def clockRegressed (tag lastTag : Option Int) : Bool :=
  match tag, lastTag with
  | some raw, some last => raw < last
  | _, _ => false

/-- The observations of one generation, before they are attributed to a task. A tag that is smaller
than the last one starts another epoch of the clock. -/
def observePackets (profile : Profile) (info : Info) (generation : Generation)
    (statistics : Statistics)
    (index : Nat) (lastTag : Option Int) (clockEpoch : Nat) :
    List (List Char) → Except Error (List Observation × Statistics)
  | [] => .ok ([], statistics)
  | encoded :: rest => do
    let packet ← decodePacket profile ((decodeHex encoded).getD [])
    let regressed := clockRegressed packet.tag lastTag
    let clockEpoch := if regressed then clockEpoch + 1 else clockEpoch
    let statistics := { statistics with
      clockRegressions := statistics.clockRegressions + regressed.toNat
      clockEpochs := statistics.clockEpochs + regressed.toNat
      packets := statistics.packets + 1
      unknownPackets := statistics.unknownPackets + (packet.kind == .unknown).toNat
      unknownEvents := statistics.unknownEvents + (packet.event.any (!·.known)).toNat }
    let observation : Observation :=
      { generation := generation.id.toNat
        clockEpoch := clockEpoch
        index := (generation.firstIndex.toNat + index) % 2 ^ 64
        packet := packet
        timestamp := packet.tag.map (normalizeTimestamp · info)
        context := none
        contextEvidence := .unavailable }
    let (observations, statistics) ← observePackets profile info generation statistics (index + 1)
      (packet.tag <|> lastTag) clockEpoch rest
    return (observation :: observations, statistics)

namespace Normalizer

variable (n : Normalizer)

def count (f : Statistics → Statistics) : Normalizer :=
  { n with report := { n.report with statistics := f n.report.statistics } }

def keep (o : Observation) : Normalizer :=
  { n with report := { n.report with observations := n.report.observations ++ [o] } }

def barrier (generation index : Nat) (reason : Reason) : Normalizer :=
  { n with
    report := { n.report with
      discontinuities := n.report.discontinuities ++ [⟨generation, n.epoch, index, reason⟩]
      statistics := { n.report.statistics with
        invalidatedOpenFrames := n.report.statistics.invalidatedOpenFrames + n.openFrames } }
    openFrames := 0
    frameStacks := fun _ => [] }

def advanceClock (o : Observation) : Normalizer :=
  if o.clockEpoch ≠ n.epoch then
    { n with epoch := o.clockEpoch }.barrier o.generation o.index .clockRegression
  else n

/-! ### Frames -/

/-- The evidence for both ends of a span, in alphabetical order. -/
def spanEvidence (entry exit : Evidence) : List Evidence :=
  if exit = entry then [entry]
  else if exit.text < entry.text then [exit, entry]
  else [entry, exit]

def span (context : Context) (entry exit : Observation) (startTime endTime : Int) (depth : Nat) :
    Span where
  generation := exit.generation
  clockEpoch := exit.clockEpoch
  entryIndex := entry.index
  exitIndex := exit.index
  address := entry.packet.address
  context := context
  contextEvidence := spanEvidence entry.contextEvidence exit.contextEvidence
  startTime := startTime
  endTime := endTime
  elapsed := endTime - startTime
  timeUnit := entry.timestamp.map Timestamp.timeUnit
  rawStart := entry.timestamp.map Timestamp.rawTag
  rawEnd := exit.timestamp.map Timestamp.rawTag
  depth := depth

/-- A function packet with a known time, in a known context. -/
def function (n : Normalizer) (context : Context) (o : Observation) : Except Error Normalizer :=
  if o.packet.function = some .entry then
    if n.openFrames ≥ maxOpenFrames ∨ (n.frameStacks context).length ≥ maxContextDepth then
      .error (.new "timemachine: open function limit exceeded")
    else
      .ok { n with
        frameStacks := Function.update n.frameStacks context (o :: n.frameStacks context)
        openFrames := n.openFrames + 1 }
  else
    match n.frameStacks context with
    | [] => .ok (n.count fun s => { s with unmatchedExits := s.unmatchedExits + 1 })
    | entry :: below =>
      if entry.packet.address ≠ o.packet.address then
        .ok ((n.count fun s => { s with mismatchedExits := s.mismatchedExits + 1 }).barrier
          o.generation o.index .functionExitMismatch)
      else
        let startTime := entry.value.getD 0
        let endTime := o.value.getD 0
        if startTime > endTime then
          .ok ((n.count fun s => { s with clockRegressions := s.clockRegressions + 1 }).barrier
            o.generation o.index .functionClockRegression)
        else
          .ok { n with
            report := { n.report with
              spans := n.report.spans ++ [span context entry o startTime endTime below.length] }
            frameStacks := Function.update n.frameStacks context below
            openFrames := n.openFrames - 1 }

/-! ### Segments -/

/-- The task of a segment, from what precedes it and from what follows it. -/
def attribution (forward : Option Context) (evidence : Evidence) (backward : Option Context) :
    Option Context × Evidence :=
  let forward := forward.filter knownContext
  let evidence := if forward.isNone then .unavailable else evidence
  match backward with
  | none => (forward, evidence)
  | some backward =>
    if !knownContext backward then (none, .unavailable)
    else
      match forward with
      | none => (some backward, .nativePreviousPid)
      | some forward =>
        let declared := evidence == .operatorDeclared
        if forward ≠ backward then
          (none, if declared then .conflictingDeclaredAndNativeAttribution
            else .conflictingNativeAttribution)
        else
          (some backward, if declared then .operatorDeclaredAndNativePreviousPid
            else .nativePidAndNativePreviousPid)

def conflict (forward backward : Option Context) : Bool :=
  match forward.filter knownContext, backward with
  | some forward, some backward => knownContext backward && forward != backward
  | _, _ => false

/-- An observation of a segment, as it is reported. -/
def attributed (context : Option Context) (evidence : Evidence) (o : Observation) : Observation :=
  { o with
    context := context
    contextEvidence :=
      if context.isNone && evidence != .conflictingNativeAttribution &&
          evidence != .conflictingDeclaredAndNativeAttribution then .unavailable
      else evidence }

/-- What an observation of a segment does, apart from being reported. -/
def observe (context : Option Context) (o : Observation) : Except Error Normalizer :=
  let n := if context.isNone then
      n.count fun s => { s with unattributedPackets := s.unattributedPackets + 1 }
    else n
  let n := n.advanceClock o
  if o.packet.function.isNone then .ok n
  else if o.value.isNone then
    .ok ((n.count fun s => { s with unknownClockEvents := s.unknownClockEvents + 1 }).barrier
      o.generation o.index .unknownFunctionClock)
  else
    match context with
    -- equal addresses do not join two functions of tasks that are not known
    | none => .ok (n.barrier o.generation o.index .unknownFunctionContext)
    | some context => n.function context o

def segmentLoop (context : Option Context) (evidence : Evidence) :
    Normalizer → List Observation → Except Error Normalizer
  | n, [] => .ok n
  | n, o :: rest => do
    let o := attributed context evidence o
    let n ← n.observe context o
    segmentLoop context evidence (n.keep o) rest

def enter (context : Context) : Except Error Normalizer :=
  if n.contexts.contains context then .ok n
  else if n.contexts.length ≥ maxContexts then
    .error (.new "timemachine: context limit exceeded")
  else .ok { n with contexts := n.contexts ++ [context] }

def segment (observations : List Observation) (forward : Option Context)
    (evidence : Evidence) (backward : Option Context) : Except Error Normalizer :=
  match observations with
  | [] => .ok n
  | first :: _ => do
    let n := n.advanceClock first
    let n := if conflict forward backward then
        (n.count fun s => { s with attributionConflicts := s.attributionConflicts + 1 }).barrier
          first.generation first.index .attributionConflict
      else n
    let (context, evidence) := attribution forward evidence backward
    let n ← match context with
      | none =>
        .ok (if n.openFrames > 0 then n.barrier first.generation first.index .unknownContext else n)
      | some context => n.enter context
    segmentLoop context evidence n observations

/-! ### Generations -/

def packetBarrier (packet : Packet) : Bool :=
  packet.kind == .unknown || packet.event.any (·.discontinuity) || packet.function == some .unknown

/-- What a packet that is a barrier is recorded as. -/
def barrierReason (packet : Packet) : Reason :=
  match packet.event, packet.function with
  | some event, _ => .event event.name
  | none, some _ => .unknownFunctionEvent
  | none, none => .unknownPacket

/-- The packets since the last boundary are waiting for the next one. -/
def generationLoop (n : Normalizer) (waiting : List Observation) (current : Option Context)
    (evidence : Evidence) : List Observation → Except Error Normalizer
  | [] => n.segment waiting current evidence none
  | o :: rest =>
    match o.packet.kind with
    | .pid => do
      let n ← n.segment waiting current evidence none
      let n := (n.advanceClock o).keep { o with
        context := o.packet.context, contextEvidence := .nativePidForFollowingPackets }
      generationLoop n [] o.packet.context .nativePid rest
    | .previousPid => do
      let n ← n.segment waiting current evidence o.packet.context
      let n := (n.advanceClock o).keep { o with
        context := o.packet.context, contextEvidence := .nativePreviousPidForPrecedingPackets }
      generationLoop n [] none .unavailable rest
    | _ =>
      if packetBarrier o.packet then do
        let n ← n.segment waiting current evidence none
        let n := n.advanceClock o
        let n := n.count fun s => { s with
          unknownFunctionEvents := s.unknownFunctionEvents +
            (barrierReason o.packet == .unknownFunctionEvent).toNat }
        let n := (n.barrier o.generation o.index (barrierReason o.packet)).keep o
        generationLoop n [] none .unavailable rest
      else generationLoop n (waiting ++ [o]) current evidence rest

def generation (profile : Profile) (info : Info) (source : Source) (n : Normalizer) (first : Bool)
    (generation : Generation) : Except Error Normalizer := do
  let n := { n.count fun s => { s with
      generations := s.generations + 1, clockEpochs := s.clockEpochs + 1 } with epoch := 1 }
  let n := if !first || generation.reason != .initial || generation.firstIndex != 0 then
      n.barrier generation.id.toNat generation.firstIndex.toNat (.generation generation.reason)
    else n
  let (observations, statistics) ← observePackets profile info generation n.report.statistics 0 none
    1 (generation.packetsHex.getD [])
  -- a declaration is not valid any more after a replacement
  let declared := if first && generation.reason == .initial then source.initialContext else none
  let n ← (n.count fun _ => statistics).generationLoop [] declared .operatorDeclared observations
  return { n.count fun s => { s with unfinishedFrames := s.unfinishedFrames + n.openFrames } with
    frameStacks := fun _ => [], openFrames := 0 }

def generations (profile : Profile) (info : Info) (source : Source) (n : Normalizer)
    (first : Bool) :
    List Generation → Except Error Normalizer
  | [] => .ok n
  | generation :: rest => do
    let n ← n.generation profile info source first generation
    generations profile info source n false rest

end Normalizer

def normalize (capture : Capture) : Except Error Report := do
  let (profile, info) ← validateCapture capture
  let n ← Normalizer.generations profile info capture.source {} true capture.generations
  let spans := n.report.spans.length
  return (n.count fun s => { s with completedFunctionSpans := spans }).report

end MultiDap.TimeMachine
