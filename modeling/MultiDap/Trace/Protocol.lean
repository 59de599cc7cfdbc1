import MultiDap.Trace.Helper

/-!
# Frames of the trace helper

What the client reads from a helper, after it was decoded, and the checks on the result of a
response. Texts that are not a frame, and results that have the shape of none, are left to the
decoder: the one is an invalid line, the other is `none`.
-/

namespace MultiDap.Trace.Client

open HelperSession (Reply)

def maxNotifications : Nat := 4096

inductive Frame where
  | ready (pointerBits : Nat)
  | fatal (code : String)
  /-- The result, or the code of an error. -/
  | response (seq : Nat) (result : Except String (Option Reply))

/-- The frame is a response to the request with this number. -/
def Frame.carries (seq : Nat) : Frame → Bool
  | .response n _ => n == seq
  | _ => false

/-- The fields `ok`, `result` and `code`. -/
def Frame.verdict : Frame → Except String (Option Reply)
  | .response _ result => result
  | .fatal code => .error code
  | .ready _ => .error ""

def fixedHex (value : List Char) (count : Nat) : Bool :=
  (TimeMachine.decodeFixedHex value count).isSome

def decodeStatus (infoSize : Nat) : Option Reply → Option HelperStatus
  | some (.status told) =>
    if fixedHex told.infoHex infoSize ∧ told.packetCount < 2 ^ 64 - 1 ∧ told.generation ≠ 0 ∧
        told.notifications.events.length ≤ maxNotifications then
      some told
    else none
  | _ => none

def decodeRead (request : ReadArgs) : Option Reply → Option ReadResult
  | some (.read told) =>
    if told.generation = request.generation ∧ told.start = request.start ∧ 0 ≤ told.count ∧
        told.count ≤ request.count ∧ told.count = told.packetsHex.length ∧
        told.packetsHex.length ≤ HelperSession.maxPacketBatch ∧
        told.packetsHex.all (fixedHex · 32) then
      some told
    else none
  | _ => none

def decodeControl : Option Reply → Option ControlResult
  | some (.control told) =>
    if told.accepted ∧ !told.confirmed ∧ told.generation ≠ 0 then some told else none
  | _ => none

def decodeClose : Option Reply → Bool
  | some .closed => true
  | _ => false

/-- The generation of a result that passes the check of its operation. A close has none. -/
def validate (infoSize : Nat) (op : Operation) (read : ReadArgs) (result : Option Reply) :
    Option Nat :=
  match op with
  | .open | .status => (decodeStatus infoSize result).map (·.generation)
  | .read => (decodeRead read result).map (·.generation)
  | .start | .stop => (decodeControl result).map (·.generation)
  | .close => if decodeClose result then some 0 else none
  | .other => none

/-- The one error after which the helper is still good. -/
def recoverable (op : Operation) (code : String) : Bool := op = .read && code == "stale_generation"

/-- The checks of `Read` on its arguments. -/
def validRead (read : ReadArgs) : Bool :=
  read.generation ≠ 0 && 1 ≤ read.count && read.count ≤ HelperSession.maxPacketBatch &&
    read.count ≤ 2 ^ 64 - 1 - (read.start : Int)

end MultiDap.Trace.Client
