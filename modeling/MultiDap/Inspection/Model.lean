import MultiDap.Handle.Store
import MultiDap.Source.Coverage

/-!
# The suspended-state model

Frames, scopes and variables as frontends see them, the raw values a backend answers with, and the
expression paths behind variable references. A path is only ever built by the functions here.
-/

namespace MultiDap.Inspection

open Source

/-- The suspended world a request was accepted in. -/
structure StopContext where
  stopped : Bool
  stopEpoch : UInt64
  deriving DecidableEq

structure Page where
  start : Int
  count : Int
  deriving DecidableEq

inductive Format where
  | default | hexa | decimal | binary
  /-- A value outside the declared constants. -/
  | invalid (code : UInt8)
  deriving DecidableEq

/-- A source location in the canonical identity model. -/
structure Location where
  identity : Identity
  line : Int
  column : Int
  deriving DecidableEq

structure AddressReference where
  address : UInt64
  core : Int
  stopEpoch : UInt64
  deriving DecidableEq

structure Frame where
  id : Int := 0
  name : String
  source : Option Location := none
  backendIndex : UInt64
  instructionAddress : Option AddressReference := none
  deriving DecidableEq

structure Stack where
  frames : List Frame := []
  total : Int := 0
  deriving DecidableEq

inductive ScopeKind where
  | locals | globals | registers
  | invalid (code : UInt8)
  deriving DecidableEq

structure Scope where
  name : String
  kind : ScopeKind
  variablesReference : Int
  expensive : Bool
  deriving DecidableEq

inductive Availability where
  | available | notInitialized | dead | unknown
  | invalid (code : UInt8)
  deriving DecidableEq

inductive ChildKind where
  | named | indexed
  deriving DecidableEq

structure Variable where
  name : String := ""
  evaluateName : String := ""
  value : String := ""
  type : String := ""
  variablesReference : Int := 0
  namedChildren : Int := 0
  indexedChildren : Int := 0
  childKind : ChildKind := .named
  availability : Availability := .available
  hidden : Bool := false
  deriving DecidableEq

structure VariablePage where
  vars : List Variable := []
  total : Int := 0
  deriving DecidableEq

abbrev ScopeLocator := String

/-- An expression path of the debugger. -/
structure ValueLocator where
  expression : String
  deriving DecidableEq

structure Expression where
  text : String
  deriving DecidableEq

inductive AccessKind where
  | root | member | pointerMember | index | dereference
  | invalid (code : UInt8)
  deriving DecidableEq

structure Access where
  kind : AccessKind
  name : String := ""
  index : UInt64 := 0
  hasIndex : Bool := false
  deriving DecidableEq

structure RawFrame where
  index : UInt64
  name : String
  debugPath : String := ""
  line : Int := 0
  column : Int := 0
  instructionAddress : Option UInt64 := none
  deriving DecidableEq

structure RawScope where
  name : String
  kind : ScopeKind
  locator : ScopeLocator
  expensive : Bool := false
  deriving DecidableEq

structure RawValue where
  name : String
  value : String := ""
  type : String := ""
  access : Access
  hasChildren : Bool := false
  namedChildren : Int := 0
  indexedChildren : Int := 0
  availability : Availability := .available
  hidden : Bool := false
  deriving DecidableEq

structure RawValuePage where
  values : List RawValue
  total : Int
  deriving DecidableEq

/-- What a handle stands for. A caller of `AllocateHandle` may bind any other value. -/
inductive Payload where
  | frame (index : UInt64)
  | scope (locator : ScopeLocator)
  | var (locator : ValueLocator)
  | other (tag : Nat)
  deriving DecidableEq

/-! ### Expression paths -/

def isASCIILetter (c : Char) : Bool := ('A' ≤ c && c ≤ 'Z') || ('a' ≤ c && c ≤ 'z')

def isASCIIDigit (c : Char) : Bool := '0' ≤ c && c ≤ '9'

def isIdentifier : List Char → Bool
  | [] => false
  | c :: cs =>
    (c == '_' || c == '$' || isASCIILetter c) &&
      cs.all fun c => c == '_' || c == '$' || isASCIILetter c || isASCIIDigit c

/-- The number a list of decimal digits denotes. -/
def decimalValue (digits : List Char) : Nat :=
  digits.foldl (fun n c => 10 * n + (c.toNat - '0'.toNat)) 0

/-- An identifier, or an identifier with one 64-bit index in brackets. -/
def isRootName (name : String) : Bool :=
  isIdentifier name.toList || let base := name.toList.takeWhile (· != '[')
    match name.toList.drop base.length with
    | [] => false
    | _ :: tail =>
      let index := tail.dropLast
      tail.getLast? == some ']' && isIdentifier base && !index.isEmpty && index.all isASCIIDigit &&
        decide (decimalValue index < 2 ^ 64)

def contract (text : String) : Error := .wrap .backendContract (": " ++ text)

def rootLocator (name : String) : Except Error ValueLocator :=
  if !isRootName name then .error (contract s!"invalid root identifier {name.quote}")
  else .ok ⟨name⟩

def evaluatedLocator (expression : Expression) : ValueLocator := ⟨expression.text⟩

/-- The two member accesses differ in their operator and in the noun of their complaints. -/
def memberLocator (parenthesized noun operator : String) (access : Access) :
    Except Error ValueLocator :=
  if !isIdentifier access.name.toList then
    .error (contract s!"invalid {noun} identifier {access.name.quote}")
  else if !access.hasIndex && access.index != 0 then
    .error (contract s!"{noun} index requires HasIndex")
  else if access.hasIndex then
    .ok ⟨parenthesized ++ operator ++ access.name ++ s!"[{access.index}]"⟩
  else .ok ⟨parenthesized ++ operator ++ access.name⟩

def childLocator (parent : ValueLocator) (access : Access) : Except Error ValueLocator :=
  if parent.expression = "" then .error (contract "empty parent locator")
  else
    let parenthesized := "(" ++ parent.expression ++ ")"
    match access.kind with
    | .member => memberLocator parenthesized "member" "." access
    | .pointerMember => memberLocator parenthesized "pointer-member" "->" access
    | .index =>
      if access.name ≠ "" || access.hasIndex then
        .error (contract "index access contains extra data")
      else .ok ⟨parenthesized ++ s!"[{access.index}]"⟩
    | .dereference =>
      if access.name ≠ "" || access.index != 0 || access.hasIndex then
        .error (contract "dereference contains extra data")
      else .ok ⟨"*" ++ parenthesized⟩
    | _ => .error (contract "invalid child access")

end MultiDap.Inspection
