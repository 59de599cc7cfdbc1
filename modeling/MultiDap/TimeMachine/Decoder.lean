import MultiDap.Errors
import MultiDap.Machine.Run

/-!
# Native packets

The two versions of the native packet format that are supported, and the part of a packet that the
normalization looks at. Numbers that are carried as decimal text are kept as numbers here, and the
time tag of the older format is signed.
-/

namespace MultiDap.TimeMachine

structure ABI where
  bigEndian : Bool
  pointerBits : Nat
  infoSize : Nat
  packetSize : Nat
  packetAlignment : Nat
  typeOffset : Nat
  reconstructedOffset : Nat
  addressOffset : Nat
  payloadOffset : Nat
  deriving DecidableEq

structure Profile where
  version : String
  abi : ABI
  signedTimetags : Bool
  hasNewPackets : Bool
  hasAddressFlag : Bool
  deriving DecidableEq

def baseABI (pointerBits infoSize : Nat) : ABI where
  bigEndian := false
  pointerBits := pointerBits
  infoSize := infoSize
  packetSize := 32
  packetAlignment := 8
  typeOffset := 0
  reconstructedOffset := 1
  addressOffset := 8
  payloadOffset := 16

def profileForVersion (version : String) : Except Error Profile :=
  if version = "8.1.4" then .ok ⟨version, baseABI 64 64, false, true, true⟩
  else if version = "7.1.6d" then .ok ⟨version, baseABI 32 60, true, false, false⟩
  else .error (.new "timemachine: unsupported exact release")

def validateProfile (profile : Profile) : Option Error :=
  match profileForVersion profile.version with
  | .ok expected =>
    if profile = expected then none
    else some (.new "timemachine: profile does not match the versioned ABI")
  | .error _ => some (.new "timemachine: profile does not match the versioned ABI")

/-- The number in a few bytes, the lowest byte first. -/
def littleEndian (data : List UInt8) (offset size : Nat) : Nat :=
  ((data.drop offset).take size).foldr (fun byte number => byte.toNat + 256 * number) 0

def signed64 (word : Nat) : Int := if word < 2 ^ 63 then word else (word : Int) - 2 ^ 64

/-! ### The information structure -/

inductive TimeUnit where
  | instructions | cycles | picoseconds | unknown
  deriving DecidableEq

structure Info where
  timebase : Nat
  timeUnit : TimeUnit
  deriving DecidableEq

def decodeInfo (profile : Profile) (data : List UInt8) : Except Error Info :=
  match validateProfile profile with
  | some err => .error err
  | none =>
    if data.length ≠ profile.abi.infoSize then
      .error (.new "timemachine: information size does not match ABI")
    else
      let timebase := littleEndian data 8 4
      .ok ⟨timebase, if timebase = 1 then .instructions
        else if timebase = 2 then .cycles
        else if timebase = 3 then .picoseconds
        else .unknown⟩

/-! ### Packets -/

structure Context where
  taskID : Nat
  addressSpaceID : Nat
  deriving DecidableEq

inductive FunctionKind where
  | unknown | entry | exit
  deriving DecidableEq

structure NativeEvent where
  code : Nat
  name : String
  known : Bool
  discontinuity : Bool
  deriving DecidableEq

inductive PacketKind where
  | unknown | instruction | data | event | rawData | rawDataStart | pid | extendedOpcode | register
  | rawTrace | function | addressSync | wallClockSync | previousPid
  deriving DecidableEq

structure Packet where
  kind : PacketKind := .unknown
  address : Nat
  /-- The time tag as the format reads it. -/
  tag : Option Int := none
  event : Option NativeEvent := none
  context : Option Context := none
  function : Option FunctionKind := none
  deriving DecidableEq

def eventNames : List (Nat × String) :=
  [(0, "trigger"), (1, "trace_disabled"), (2, "fifo_overflow"), (3, "debug_mode"), (4, "reset"),
    (28, "pc_changed"), (30, "context_trace_disabled"), (31, "out_of_sync"),
    (32, "unknown_address_space"), (50, "untraced_functions"), (51, "untraced_callback"),
    (63, "error"), (64, "warning"), (65, "return_from_exception")]

def newEventNames : List (Nat × String) :=
  [(66, "data_overflow_start"), (67, "data_overflow_end"), (68, "memory_from_target"),
    (69, "protocol_error"), (70, "sleep"), (71, "task_started"), (72, "marker"),
    (73, "overlap_failed"), (74, "undecodable_data")]

def decodeEvent (profile : Profile) (code : Nat) : NativeEvent :=
  let names := if profile.hasNewPackets then eventNames ++ newEventNames else eventNames
  -- only markers that are known to be harmless keep a function interval
  let discontinuity := !(code == 0 || (profile.hasNewPackets && code == 72))
  match names.lookup code with
  | some name => ⟨code, name, true, discontinuity⟩
  | none => ⟨code, "unknown_event", false, discontinuity⟩

def decodeFunction (word : Nat) : FunctionKind :=
  if word = 0 then .entry else if word = 1 then .exit else .unknown

def decodePacket (profile : Profile) (data : List UInt8) : Except Error Packet :=
  match validateProfile profile with
  | some err => .error err
  | none =>
    if data.length ≠ profile.abi.packetSize then
      .error (.new "timemachine: packet size does not match ABI")
    else if littleEndian data 1 1 > 1 then .error (.new "timemachine: invalid reconstructed flag")
    else
      let payload := data.drop 16
      let word (offset : Nat) := littleEndian payload offset 4
      let wide (offset : Nat) := littleEndian payload offset 8
      let tag (value : Nat) : Int := if profile.signedTimetags then signed64 value else value
      let packet : Packet := { address := littleEndian data 8 8 }
      match littleEndian data 0 1 with
      | 0 => .ok { packet with kind := .instruction, tag := some (tag (wide 0)) }
      | 1 => .ok { packet with kind := .data }
      | 2 => .ok { packet with kind := .event, event := some (decodeEvent profile (word 0)) }
      | 3 => .ok { packet with kind := .rawData }
      | 4 => .ok { packet with kind := .rawDataStart }
      | 5 => .ok { packet with kind := .pid, context := some ⟨wide 0, wide 8⟩ }
      | 6 =>
        if word 0 > 12 then .error (.new "timemachine: extended opcode exceeds payload")
        else .ok { packet with kind := .extendedOpcode }
      | 8 => .ok { packet with kind := .register }
      | 9 =>
        if littleEndian payload 8 1 % 64 > 7 then
          .error (.new "timemachine: raw trace size exceeds payload")
        else .ok { packet with kind := .rawTrace, tag := some (tag (wide 0)) }
      | 10 =>
        .ok { packet with
          kind := .function, tag := some (tag (wide 8))
          function := some (decodeFunction (word 0)) }
      | 11 => .ok { packet with kind := .addressSync, tag := some (tag (wide 0)) }
      | 12 =>
        if profile.hasNewPackets then
          .ok { packet with kind := .wallClockSync, tag := some (tag (wide 0)) }
        else .ok packet
      | 13 =>
        if profile.hasNewPackets then
          .ok { packet with kind := .previousPid, context := some ⟨wide 0, wide 8⟩ }
        else .ok packet
      | _ => .ok packet

end MultiDap.TimeMachine
