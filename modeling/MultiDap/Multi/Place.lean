import MultiDap.Breakpoint.Transaction
import MultiDap.Multi.Clear

/-!
# Placing a breakpoint

Once the reply to the command is there, whatever goes wrong is reported with a record that asks for
recovery. A command that took effect is reported as a plain failure if its reply is lost or lossy.
-/

namespace MultiDap.Multi

open MultiDap.Breakpoint (PlacementRequest Physical)

/-- What MULTI does during one call of `Set`. -/
structure Placing where
  before : Except Error (List Breakpoint)
  /-- The reply to `b`: an error, or whether its text is lossy. -/
  reply : Except Error Bool
  /-- The command takes effect on the target if it is sent. -/
  effect : Bool
  after : Except Error (List Breakpoint)

section

variable (canonicalize : String → String) (m : Placing) (request : PlacementRequest)

def validatePlacement : Except Error Unit :=
  if request.line ≤ 0 then .error (.new "multi: breakpoint line must be positive")
  else if request.hintToken = 0 then .error (.new "multi: breakpoint hint token is required")
  else if request.source.key = "" ∨ request.source.debugPath = "" then
    .error (.new "multi: breakpoint source identity: source identity requires key and debug path")
  else if canonicalize request.source.debugPath ≠ request.source.key then
    .error (.new "multi: breakpoint source identity: source identity key and debug path differ")
  else if ¬ request.source.debugPath.toList.all fun c =>
      c.isAlphanum || ['_', '.', '/', ':', '\\', '-'].contains c then
    .error (.new "multi: source path cannot be represented by verified breakpoint syntax")
  else .ok ()

def newlyPlaced (before after : List Breakpoint) (token : String) : Except Error Breakpoint :=
  match after.filter fun value =>
    before.all (·.index ≠ value.index) && breakpointHasToken value token with
  | [value] => .ok value
  | values => .error (.new
      s!"multi: expected exactly one newly listed breakpoint for hint token, found {values.length}")

/-- The number behind the last `#`. -/
def breakpointLineNumber (location : String) : Except Error Int :=
  let text := (location.toList.dropWhile isSpace).rdropWhile isSpace
  let digits := text.rtakeWhile (· ≠ '#')
  let front := text.rdropWhile (· ≠ '#')
  let number : Int := digits.foldl (fun n c => 10 * n + (c.toNat - 48)) 0
  if front.length ≤ 1 ∨ '\n' ∈ front ∨ digits.headD '0' = '0' ∨ ¬ digits.all Char.isDigit then
    .error (.new s!"multi: breakpoint location {location.quote} has no verified source line")
  else if number > 2 ^ 63 - 1 then
    .error (.new s!"multi: breakpoint location {location.quote} has invalid source line")
  else .ok number

/-- What follows the reply to `b`. -/
def confirm (before : List Breakpoint) : Physical × Option Error :=
  let intent : Physical :=
    { core := request.core, requestedLine := request.line, hintToken := request.hintToken
      possiblyCommitted := true }
  match m.after with
  | .error err => (intent, some (.under "multi: list breakpoints after placement" err))
  | .ok after =>
    match newlyPlaced before after (commandToken request.hintToken) with
    | .error err => (intent, some err)
    | .ok placed =>
      let intent := { intent with multiHandle := toString placed.index }
      match breakpointLineNumber placed.location with
      | .error err => (intent, some err)
      | .ok line => ({ intent with actualLine := line, possiblyCommitted := false }, none)

def set : Physical × Option Error :=
  match validatePlacement canonicalize request with
  | .error err => ({}, some err)
  | .ok () =>
    match m.before with
    | .error err => ({}, some (.under "multi: list breakpoints before placement" err))
    | .ok before =>
      if breakpointsWithToken before (commandToken request.hintToken) ≠ [] then
        ({}, some (.new "multi: requested hint token is already present"))
      else
        match m.reply with
        | .error err => ({}, some (.under "multi: set breakpoint" err))
        | .ok true => ({}, some (.under "multi: set breakpoint" (.wrap .protocol
            ": routed breakpoint command result: MULTI command output is lossy")))
        | .ok false => confirm m request before

def Sends : Prop :=
  validatePlacement canonicalize request = .ok () ∧
    ∃ before, m.before = .ok before ∧
      breakpointsWithToken before (commandToken request.hintToken) = []

/-- A success that names the new breakpoint with the token, or an error with a record that asks for
recovery. -/
def Accounts (out : Physical × Option Error) : Prop :=
  out.1.core = request.core ∧ out.1.hintToken = request.hintToken ∧
    match out.2 with
    | none => ∃ before after placed, m.before = .ok before ∧ m.after = .ok after ∧
        newlyPlaced before after (commandToken request.hintToken) = .ok placed ∧
        out.1.multiHandle = toString placed.index
    | some _ => out.1.possiblyCommitted = true

end

variable {m : Placing} {request : PlacementRequest}

lemma accounts_confirm {before : List Breakpoint} (h : m.before = .ok before) :
    Accounts m request (confirm m request before) := by
  unfold confirm
  dsimp only
  split
  · exact ⟨rfl, rfl, rfl⟩
  next after hafter =>
  split
  · exact ⟨rfl, rfl, rfl⟩
  next placed hplaced =>
  split
  · exact ⟨rfl, rfl, rfl⟩
  · exact ⟨rfl, rfl, before, after, placed, h, hafter, hplaced, rfl⟩

/-- A command that took effect is accounted for exactly if its reply arrived and is not lossy. -/
theorem set_accounts_iff (canonicalize : String → String) (m : Placing)
    (request : PlacementRequest) : (Sends canonicalize m request → m.effect = true →
      Accounts m request (set canonicalize m request)) ↔
    (Sends canonicalize m request → m.effect = true → m.reply = .ok false) := by
  refine forall_congr' fun hsends => imp_congr_right fun _ => ?_
  obtain ⟨hvalid, before, hbefore, habsent⟩ := hsends
  have htoken : request.hintToken ≠ 0 := by
    intro hzero
    unfold validatePlacement at hvalid
    split_ifs at hvalid
  unfold set
  rw [hvalid, hbefore]
  dsimp only
  rw [if_neg (not_not.mpr habsent)]
  constructor
  · intro h
    cases hreply : m.reply with
    | error => exact absurd (hreply ▸ h).2.1.symm htoken
    | ok lossy =>
      cases lossy with
      | false => rfl
      | true => exact absurd (hreply ▸ h).2.1.symm htoken
  intro hreply
  rw [hreply]
  exact accounts_confirm hbefore

def asked : PlacementRequest := ⟨{ debugPath := "a", key := "a" }, 10, 0, 7⟩

def lossy : Placing := ⟨.ok [], .ok true, true, .ok [⟨1, "a#10", commandToken 7, true⟩]⟩

/-- The breakpoint is there, but the text of the reply is lossy. -/
theorem set_loses_breakpoint :
    ¬ (Sends id lossy asked → lossy.effect = true → Accounts lossy asked (set id lossy asked)) := by
  intro h
  obtain ⟨-, htoken, -⟩ := h ⟨rfl, [], rfl, rfl⟩ rfl
  exact absurd htoken (by decide)

end MultiDap.Multi
