import MultiDap.TimeMachine.Decoder

/-!
# Captures

The interchange document that holds the packets of a trace, and the checks that it has to pass
before it is normalized. A capture that is refused has no report.
-/

namespace MultiDap.TimeMachine

/-! ### Hexadecimal text -/

def hexDigit (c : Char) : Option UInt8 :=
  if '0' ≤ c ∧ c ≤ '9' then some (c.toNat - '0'.toNat).toUInt8
  else if 'a' ≤ c ∧ c ≤ 'f' then some (c.toNat - 'a'.toNat + 10).toUInt8
  else if 'A' ≤ c ∧ c ≤ 'F' then some (c.toNat - 'A'.toNat + 10).toUInt8
  else none

/-- `hex.DecodeString`. -/
def decodeHex : List Char → Option (List UInt8)
  | [] => some []
  | [_] => none
  | high :: low :: rest => do
    let high ← hexDigit high
    let low ← hexDigit low
    let rest ← decodeHex rest
    return (high * 16 + low) :: rest

def decodeFixedHex (value : List Char) (size : Nat) : Option (List UInt8) :=
  if value.length ≠ size * 2 then none else decodeHex value

/-- `hex.EncodeToString`. -/
def encodeHex (data : List UInt8) : List Char :=
  let digit (n : Nat) : Char := "0123456789abcdef".toList.getD n '0'
  data.flatMap fun byte => [digit (byte.toNat / 16), digit (byte.toNat % 16)]

lemma hexDigit_encoded : ∀ n < 16,
    hexDigit ("0123456789abcdef".toList.getD n '0') = some n.toUInt8 := by
  decide

lemma decodeHex_encodeHex (data : List UInt8) : decodeHex (encodeHex data) = some data := by
  induction data with
  | nil => rfl
  | cons byte data ih =>
    have hbyte := byte.toNat_lt
    have hdig : (byte.toNat / 16).toUInt8 * 16 + (byte.toNat % 16).toUInt8 = byte := by
      apply UInt8.toNat_inj.mp
      simp only [UInt8.toNat_add, UInt8.toNat_mul, Nat.toUInt8_eq, UInt8.toNat_ofNat',
        UInt8.reduceToNat]
      omega
    change decodeHex (_ :: _ :: encodeHex data) = _
    simp only [decodeHex, hexDigit_encoded _ (show byte.toNat / 16 < 16 by omega),
      hexDigit_encoded _ (Nat.mod_lt byte.toNat (show 16 > 0 by omega)), ih]
    simp [hdig]

/-- A packet of the newer format, with the number of its type and the bytes of its payload. -/
def packetHex (type address : Nat) (payload : List UInt8) : List Char :=
  encodeHex ([type.toUInt8, 0, 0, 0, 0, 0, 0, 0, address.toUInt8, 0, 0, 0, 0, 0, 0, 0] ++ payload)

/-! ### The document -/

inductive SourceKind where
  | live | snapshot | syntheticFixture
  /-- Any other text. -/
  | other
  deriving DecidableEq

structure Source where
  kind : SourceKind
  sessionID : UInt32
  sourceID : String
  coreID : Option UInt32 := none
  imageSHA256 : List Char := []
  snapshotSHA256 : List Char := []
  initialContext : Option Context := none
  deriving DecidableEq

inductive GenerationReason where
  | initial | traceStart | dataClear | countRegression | decoderReplacement | snapshotLoaded
  | packetGap
  /-- Any other text. -/
  | other
  deriving DecidableEq

/-- One contiguous interval of packets. The array may be missing. -/
structure Generation where
  id : UInt64
  reason : GenerationReason
  firstIndex : UInt64
  packetsHex : Option (List (List Char))

structure Capture where
  schema : String
  multiVersion : String
  abi : ABI
  source : Source
  infoHex : List Char
  generations : List Generation

def captureSchema : String := "multi-dap.native-capture.v1"
def maxCapturePackets : Nat := 100000
def maxGenerations : Nat := 1024
def maxContexts : Nat := 1024
def maxOpenFrames : Nat := 4096
def maxContextDepth : Nat := 1024
def maxIdentifierLength : Nat := 128

def fixtureCapture (unit : UInt8) (packets : List (List Char)) : Capture where
  schema := captureSchema
  multiVersion := "8.1.4"
  abi := baseABI 64 64
  source := { kind := .syntheticFixture, sessionID := 0, sourceID := "fixture" }
  infoHex := encodeHex ([0, 0, 0, 0, 0, 0, 0, 0, unit] ++ List.replicate 55 0)
  generations := [⟨1, .initial, 0, some packets⟩]

/-! ### Validation -/

def validDigest (value : List Char) : Bool := (decodeFixedHex value 32).isSome

def validContext (value : Context) : Bool :=
  value.taskID < 2 ^ 64 && value.addressSpaceID < 2 ^ 64

/-- Some numbers stand for a task or an address space that is not known. -/
def knownContext (value : Context) : Bool :=
  !([4294967295, 4294967293, 18446744073709551615, 18446744073709551613].contains value.taskID) &&
    !([4294967295, 18446744073709551615].contains value.addressSpaceID)

/-- `unicode.IsControl`. -/
def isControl (c : Char) : Bool := c.toNat < 0x20 || (0x7F ≤ c.toNat && c.toNat < 0xA0)

def boundedLabel (value : String) : Bool :=
  value != "" && value.utf8ByteSize ≤ maxIdentifierLength &&
    !(value.toList.head?.any isSpace || value.toList.getLast?.any isSpace) &&
    !value.toList.any isControl

def fail {α : Type} (reason : String) : Except Error α := .error (.new ("timemachine: " ++ reason))

/-- The checks on the origin of a capture. -/
def validateSource (source : Source) : Except Error Unit := do
  if source.sessionID > 0x7FFFFFFF then fail "session identity exceeds native integer range"
  if !boundedLabel source.sourceID then fail "source identity is required and must be bounded"
  match source.kind with
  | .live | .snapshot =>
    if source.sessionID = 0 then fail "source requires an explicit nonzero session identity"
  | .syntheticFixture => pure ()
  | .other => fail "unsupported source kind"
  if source.imageSHA256 ≠ [] ∧ !validDigest source.imageSHA256 then fail "invalid image digest"
  if source.kind = .snapshot then
    if !validDigest source.snapshotSHA256 then fail "snapshot source requires an explicit digest"
  else if source.snapshotSHA256 ≠ [] then fail "snapshot digest requires a snapshot source"
  if source.initialContext.any fun context => !validContext context then
    fail "invalid declared initial context"

def validatePacket (profile : Profile) (encoded : List Char) : Except Error Unit :=
  match decodeFixedHex encoded profile.abi.packetSize with
  | none => fail "invalid packet encoding"
  | some data => (decodePacket profile data).map fun _ => ()

def validateGeneration (profile : Profile) (previousID : UInt64) (total : Nat)
    (generation : Generation) : Except Error (List (List Char)) := do
  if generation.id = 0 ∨ generation.id ≤ previousID then fail "generation identities must increase"
  match generation.packetsHex with
  | none => fail "packet interval must be an explicit array"
  | some packets =>
    if generation.reason = .other then fail "unsupported generation reason"
    if packets.length > maxCapturePackets - total then fail "capture exceeds packet limit"
    if 0 < packets.length ∧ packets.length - 1 > 2 ^ 64 - 1 - generation.firstIndex.toNat then
      fail "packet index overflows"
    packets.forM (validatePacket profile)
    return packets

def validateGenerations (profile : Profile) : UInt64 → Nat → List Generation → Except Error Unit
  | _, _, [] => .ok ()
  | previousID, total, generation :: rest => do
    let packets ← validateGeneration profile previousID total generation
    validateGenerations profile generation.id (total + packets.length) rest

def validateCapture (capture : Capture) : Except Error (Profile × Info) := do
  if capture.schema ≠ captureSchema then fail "unsupported capture schema"
  let profile ← profileForVersion capture.multiVersion
  if capture.abi ≠ profile.abi then fail "capture ABI does not match exact release"
  match decodeFixedHex capture.infoHex profile.abi.infoSize with
  | none => fail "invalid information encoding"
  | some data =>
    let info ← decodeInfo profile data
    validateSource capture.source
    if capture.generations = [] ∨ capture.generations.length > maxGenerations then
      fail "invalid generation count"
    validateGenerations profile 0 0 capture.generations
    return (profile, info)

/-! ### What is checked -/

lemma validateGeneration_ok {pf : Profile} {previousID : UInt64} {total : Nat}
    {gen : Generation} {pkts : List (List Char)}
    (h : validateGeneration pf previousID total gen = .ok pkts) :
    previousID < gen.id ∧ gen.packetsHex = some pkts ∧
      (pkts ≠ [] → gen.firstIndex.toNat + pkts.length ≤ 2 ^ 64) ∧
      pkts.length ≤ maxCapturePackets - total := by
  unfold validateGeneration at h
  dsimp only at h
  split at h
  · cases h
  case isFalse hid =>
  split at h
  · cases h
  case h_2 packets' hpac =>
  split at h
  · cases h
  split at h
  · cases h
  case isFalse hlim =>
  split at h
  · cases h
  case isFalse hind =>
  obtain ⟨-, -, h⟩ := bind_eq_ok.mp h
  cases h
  refine ⟨?_, hpac, fun hne => ?_, Nat.le_of_not_lt hlim⟩
  · exact UInt64.not_le.mp fun hle => hid (.inr hle)
  have := List.length_pos_iff.mpr hne
  have := gen.firstIndex.toNat_lt
  omega

/-- The number of packets of a generation. -/
def Generation.size (generation : Generation) : Nat := (generation.packetsHex.getD []).length

/-- A generation whose packets can be numbered. -/
def Generation.Numberable (generation : Generation) : Prop :=
  0 < generation.id.toNat ∧
    (generation.size ≠ 0 → generation.firstIndex.toNat + generation.size ≤ 2 ^ 64)

lemma validateGenerations_ok {pf : Profile} {previousID : UInt64} {total : Nat}
    {gens : List Generation} (htot : total ≤ maxCapturePackets)
    (h : validateGenerations pf previousID total gens = .ok ()) : (∀ gen ∈ gens, gen.Numberable) ∧
      total + (gens.map Generation.size).sum ≤ maxCapturePackets := by
  induction gens generalizing previousID total with
  | nil => simpa using htot
  | cons gen _ ih =>
    obtain ⟨pkts, hge, h⟩ := bind_eq_ok.mp h
    obtain ⟨hid, hpac, hind, hlim⟩ := validateGeneration_ok hge
    have hsize : gen.size = pkts.length := by
      rw [Generation.size, hpac, Option.getD_some]
    obtain ⟨hrs, hsum⟩ := ih (by omega) h
    refine ⟨fun g hg => ?_, by rw [List.map_cons, List.sum_cons, hsize]; omega⟩
    rcases List.mem_cons.mp hg with rfl | hg
    · refine ⟨Nat.lt_of_le_of_lt (Nat.zero_le _) (UInt64.lt_iff_toNat_lt.mp hid), ?_⟩
      rw [hsize]
      exact fun hne => hind (by simpa using hne)
    · exact hrs g hg

structure Capture.Accepted (capture : Capture) (profile : Profile) (info : Info) : Prop where
  version : profileForVersion capture.multiVersion = .ok profile
  decoded : ∃ data, decodeInfo profile data = .ok info
  source : validateSource capture.source = .ok ()
  count : capture.generations.length ≤ maxGenerations
  generations : validateGenerations profile 0 0 capture.generations = .ok ()

lemma validateCapture_ok {cap : Capture} {pf : Profile} {info : Info}
    (h : validateCapture cap = .ok (pf, info)) : cap.Accepted pf info := by
  unfold validateCapture at h
  dsimp only at h
  split at h
  · cases h
  obtain ⟨pf', hpr, h⟩ := bind_eq_ok.mp h
  split at h
  · cases h
  split at h
  · cases h
  obtain ⟨info', hin, h⟩ := bind_eq_ok.mp h
  obtain ⟨⟨⟩, hso, h⟩ := bind_eq_ok.mp h
  split at h
  · cases h
  case isFalse hco =>
  obtain ⟨⟨⟩, hva, h⟩ := bind_eq_ok.mp h
  obtain ⟨rfl, rfl⟩ := Prod.mk.inj (Except.ok.inj h)
  exact ⟨hpr, ⟨_, hin⟩, hso, Nat.le_of_not_lt fun hlt => hco (.inr hlt), hva⟩

end MultiDap.TimeMachine
