import Mathlib

/-!
# Target samples

One state sample of the target as the MULTI driver hands it to the session actor: the status,
the fields of the process dictionary the core reads, and the optional halt report.
-/

namespace MultiDap

/-- `GetStatus()`: the raw integer of MULTI's `$_STATE`. -/
structure Status where
  code : Int
  deriving DecidableEq

namespace Status

def nil : Status := ⟨0⟩
def noProcess : Status := ⟨1⟩
def stopped : Status := ⟨2⟩
def running : Status := ⟨3⟩
def dying : Status := ⟨4⟩
def forking : Status := ⟨5⟩
def executing : Status := ⟨6⟩
def continuing : Status := ⟨7⟩
def zombie : Status := ⟨8⟩

/-- The target is suspended. `stopped` is the only such status. -/
def isStopped (s : Status) : Bool := s == stopped

/-- The target executes, in any of the senses the state machine cares about. -/
def isRunning (s : Status) : Bool := s == running || s == executing || s == continuing

end Status

/-- The accessors of the process dictionary that the core reads. -/
structure ProcessInfo where
  stopStamp : Option UInt64 := none
  contFromBp : Bool := false
  inStepMode : Bool := false
  pendingHalt : Bool := false
  stoppedOnException : Bool := false
  deriving DecidableEq

/-- The answer of the `state` request. -/
structure State where
  status : Status
  processInfo : ProcessInfo := {}
  deriving DecidableEq

inductive HaltReason where
  | unknown | userRequest | breakpoint | notRunning
  deriving DecidableEq

/-- The parsed `H` report. -/
structure HaltInfo where
  reason : HaltReason
  commandToken : String := ""
  hasCommand : Bool := false
  deriving DecidableEq

/-- The value of an upper-case hexadecimal digit. -/
def hexDigit (c : Char) : Option Nat :=
  if '0' ≤ c ∧ c ≤ '9' then some (c.toNat - '0'.toNat)
  else if 'A' ≤ c ∧ c ≤ 'F' then some (c.toNat - 'A'.toNat + 10)
  else none

/-- The number a list of upper-case hexadecimal digits denotes. -/
def hexValue (acc : Nat) : List Char → Option Nat
  | [] => some acc
  | c :: cs => (hexDigit c).bind fun d => hexValue (16 * acc + d) cs

/-- `placerHintCommand`: the eight digits of a command list in the placer's own spelling. -/
def placerHintCommand (command : String) : Option (List Char) :=
  let opening := "mprintf(\"HIT 0x".toList
  let closing := "\\n\")".toList
  let text := command.toList
  let digits := (text.drop opening.length).take 8
  if text = opening ++ digits ++ closing ∧ digits.length = 8 ∧ digits.all (hexDigit · |>.isSome)
  then some digits else none

/-- The breakpoint hint token of a halt report. Zero is never issued and so never read. -/
def HaltInfo.hintToken (info : HaltInfo) : Option UInt32 :=
  if !info.hasCommand then none
  else
    match (placerHintCommand info.commandToken).bind (hexValue 0) with
    | some value => if value = 0 then none else some (UInt32.ofNat value)
    | none => none

/-- A state sample with its optional supporting halt report. -/
structure StateEvidence where
  state : State
  halt : HaltInfo := { reason := .unknown }
  hasHalt : Bool := false
  deriving DecidableEq

example : HaltInfo.hintToken ⟨.breakpoint, "mprintf(\"HIT 0x0000002A\\n\")", true⟩ = some 42 := by
  decide

end MultiDap
