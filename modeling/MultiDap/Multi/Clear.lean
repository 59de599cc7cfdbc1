import MultiDap.Breakpoint.Store

/-!
# Clearing a breakpoint

An index of MULTI can be used again once its breakpoint is gone, so that an index alone does not say
whose breakpoint it is. `clear` deletes what carries the command token it owns, and looks at a new
listing before every deletion.
-/

namespace MultiDap.Multi

structure Breakpoint where
  index : UInt64
  location : String
  commandToken : String
  hasCommand : Bool
  deriving DecidableEq

/-- What MULTI answers, after it was told to delete some indices, to `B` and to one more `d`. -/
structure Debugger where
  list : List UInt64 → Except Error (List Breakpoint)
  delete : List UInt64 → UInt64 → Option Error

/-- The commands sent to MULTI, a listing with what it shows. -/
inductive Event where
  | listed (answer : Except Error (List Breakpoint))
  | delete (index : UInt64)

/-- `%08X`. -/
def hexadecimal (token : UInt32) : String :=
  .ofList ((List.range 8).reverse.map fun i => (token.toNat / 16 ^ i % 16).digitChar.toUpper)

def commandToken (token : UInt32) : String := "mprintf(\"HIT 0x" ++ hexadecimal token ++ "\\n\")"

def breakpointHasToken (value : Breakpoint) (token : String) : Bool :=
  value.hasCommand && value.commandToken == token

def breakpointsWithToken (values : List Breakpoint) (token : String) : List Breakpoint :=
  values.filter (breakpointHasToken · token)

def breakpointByIndex (values : List Breakpoint) (index : UInt64) : Option Breakpoint :=
  values.find? (·.index == index)

def parseBreakpointHandle (value : String) : Except Error UInt64 :=
  let number := value.toList.foldl (fun n c => 10 * n + (c.toNat - 48)) 0
  if value ≠ "" ∧ value.toList.all Char.isDigit ∧ number < 2 ^ 64 then .ok (.ofNat number)
  else .error (.new s!"multi: invalid breakpoint handle {value.quote}")

/-- The listing shows the index with the token. -/
def Owns (token : String) (listed : List Breakpoint) (index : UInt64) : Prop :=
  ∃ value, breakpointByIndex listed index = some value ∧ breakpointHasToken value token = true

instance (token : String) (listed : List Breakpoint) (index : UInt64) :
    Decidable (Owns token listed index) :=
  inferInstanceAs (Decidable (∃ value, _ = some value ∧ _))

section

variable (m : Debugger) (token : String)

/-- The commands of `deleteExact`, and the listing after the deletion. -/
def deleteExact (gone : List UInt64) (before : List Breakpoint) (index : UInt64) :
    Except Error (List Breakpoint) × List Event :=
  if ¬ Owns token before index then
    (.error (.new s!"multi: breakpoint {index} no longer has the owned command token"), [])
  else
    match m.delete gone index with
    | some err => (.error (.under "multi: clear breakpoint" err), [.delete index])
    | none =>
      match m.list (gone ++ [index]) with
      | .error err => (.error (.under "multi: list breakpoints after clear" err),
          [.delete index, .listed (.error err)])
      | .ok after =>
        (if Owns token after index then
          .error (.new s!"multi: breakpoint {index} with owned command token remains after clear")
         else .ok after, [.delete index, .listed (.ok after)])

def clearExactToken : Nat → List UInt64 → List Breakpoint → Option (Except Error Unit) × List Event
  | 0, _, _ => (none, [])
  | fuel + 1, gone, listed =>
    match breakpointsWithToken listed token with
    | [] => (some (.ok ()), [])
    | first :: _ =>
      match deleteExact m token gone listed first.index with
      | (.error err, log) => (some (.error err), log)
      | (.ok after, log) =>
        let (result, log') := clearExactToken fuel (gone ++ [first.index]) after
        (result, log ++ log')

end

/-- The rest of `Clear`, after its first listing. -/
def clearListed (m : Debugger) (fuel : Nat) (physical : MultiDap.Breakpoint.Physical)
    (before : List Breakpoint) : Option (Except Error Unit) × List Event :=
  let token := commandToken physical.hintToken
  if physical.hintToken = 0 then
    (some (.error (.new "multi: breakpoint recovery requires a hint token")), [])
  else if physical.multiHandle = "" then clearExactToken m token fuel [] before
  else
    match parseBreakpointHandle physical.multiHandle with
    | .error err => (some (.error err), [])
    | .ok index =>
      match breakpointByIndex before index with
      | none => clearExactToken m token fuel [] before
      | some located =>
        if !breakpointHasToken located token then
          (some (.error (.new
            s!"multi: recorded breakpoint {index} has been reused by another command token")), [])
        else
          match deleteExact m token [] before index with
          | (.error err, log) => (some (.error err), log)
          | (.ok after, log) =>
            if breakpointsWithToken after token ≠ [] then
              let (result, log') := clearExactToken m token fuel [index] after
              (result, log ++ log')
            else (some (.ok ()), log)

def clear (m : Debugger) (fuel : Nat) (physical : MultiDap.Breakpoint.Physical) :
    Option (Except Error Unit) × List Event :=
  match m.list [] with
  | .error err => (some (.error (.under "multi: list breakpoints before clear" err)),
      [.listed (.error err)])
  | .ok before =>
    let (result, log) := clearListed m fuel physical before
    (result, .listed (.ok before) :: log)

/-! ### What is deleted -/

/-- Every deletion comes right after a listing that shows the index with the token. -/
def Guarded (token : String) : Option (List Breakpoint) → List Event → Prop
  | _, [] => True
  | _, .listed answer :: log => Guarded token answer.toOption log
  | latest, .delete index :: log =>
    (∃ listed, latest = some listed ∧ Owns token listed index) ∧ Guarded token none log

/-- A deletion leaves no more breakpoints with the token than those of other indices. -/
def Removes (m : Debugger) (token : String) : Prop :=
  ∀ gone index before after, m.list gone = .ok before → m.list (gone ++ [index]) = .ok after →
    (breakpointsWithToken after token).length ≤
      ((breakpointsWithToken before token).filter (·.index ≠ index)).length

/-- The commands after a listing, and their result. -/
structure Sound (m : Debugger) (token : String) (fuel : Nat) (gone : List UInt64)
    (listed : List Breakpoint) (out : Option (Except Error Unit) × List Event) : Prop where
  guarded : Guarded token (some listed) out.2
  cleared : out.1 = some (.ok ()) → ∃ log last, .listed (.ok listed) :: out.2 =
    log ++ [.listed (.ok last)] ∧ breakpointsWithToken last token = []
  returns : Removes m token → m.list gone = .ok listed →
    (breakpointsWithToken listed token).length < fuel → out.1.isSome

variable {m : Debugger} {token : String} {gone : List UInt64} {before listed : List Breakpoint}
  {index : UInt64} {fuel : Nat}

lemma Sound.refused {err : Error} {log : List Event} (h : Guarded token (some listed) log) :
    Sound m token fuel gone listed (some (.error err), log) :=
  ⟨h, nofun, fun _ _ _ => rfl⟩

lemma Sound.absent (h : breakpointsWithToken listed token = []) :
    Sound m token fuel gone listed (some (.ok ()), []) :=
  ⟨trivial, fun _ => ⟨[], listed, rfl, h⟩, fun _ _ _ => rfl⟩

lemma deleteExact_cases (m : Debugger) (token : String) (gone : List UInt64)
    (before : List Breakpoint) (index : UInt64) :
    (∃ err log, deleteExact m token gone before index = (.error err, log) ∧
      Guarded token (some before) log) ∨ ∃ after, deleteExact m token gone before index =
        (.ok after, [.delete index, .listed (.ok after)]) ∧
      m.list (gone ++ [index]) = .ok after ∧ Owns token before index := by
  unfold deleteExact
  split_ifs with hon
  · split
    · exact .inl ⟨_, _, rfl, ⟨before, rfl, hon⟩, trivial⟩
    split
    · exact .inl ⟨_, _, rfl, ⟨before, rfl, hon⟩, trivial⟩
    next after hafter =>
    split_ifs
    · exact .inl ⟨_, _, rfl, ⟨before, rfl, hon⟩, trivial⟩
    · exact .inr ⟨after, rfl, hafter, hon⟩
  · exact .inl ⟨_, _, rfl, trivial⟩

lemma Owns.filter_length (h : Owns token before index) :
    ((breakpointsWithToken before token).filter (·.index ≠ index)).length <
      (breakpointsWithToken before token).length := by
  obtain ⟨val, hvalue, htoken⟩ := h
  have hme : val ∈ breakpointsWithToken before token :=
    List.mem_filter.mpr ⟨List.mem_of_find?_eq_some hvalue, htoken⟩
  unfold breakpointByIndex at hvalue
  have hindex := List.find?_some hvalue
  exact List.length_filter_lt_length_iff_exists.mpr ⟨val, hme, by simpa using hindex⟩

lemma Sound.deleted {after : List Breakpoint} {res : Option (Except Error Unit)}
    {log : List Event} (hon : Owns token before index)
    (hafter : m.list (gone ++ [index]) = .ok after) {fuel' : Nat} (hfuel : fuel' ≤ fuel + 1)
    (h : Sound m token fuel (gone ++ [index]) after (res, log)) :
    Sound m token fuel' gone before (res, .delete index :: .listed (.ok after) :: log) := by
  refine ⟨⟨⟨before, rfl, hon⟩, h.guarded⟩, fun hok => ?_, fun hrem hlist hlt => ?_⟩
  · obtain ⟨log', last, heq, hla⟩ := h.cleared hok
    exact ⟨.listed (.ok before) :: .delete index :: log', last,
      congrArg (.listed (.ok before) :: .delete index :: ·) heq, hla⟩
  have hle := hrem gone index before after hlist hafter
  have hfewer := hon.filter_length
  exact h.returns hrem hafter (by omega)

lemma sound_clearExactToken (fuel : Nat) (gone : List UInt64) (listed : List Breakpoint) :
    Sound m token fuel gone listed (clearExactToken m token fuel gone listed) := by
  induction fuel generalizing gone listed with
  | zero => exact ⟨trivial, nofun, fun _ _ h => absurd h (Nat.not_lt_zero _)⟩
  | succ fuel ih =>
    unfold clearExactToken
    split
    · next hnn => exact .absent hnn
    next first _ _ =>
    rcases deleteExact_cases m token gone listed first.index with
      ⟨err, log, heq, hlog⟩ | ⟨after, heq, hafter, hon⟩
    · rw [heq]
      exact .refused hlog
    · rw [heq]
      exact .deleted hon hafter le_rfl (ih _ _)

lemma sound_clearListed (m : Debugger) (fuel : Nat) (p : MultiDap.Breakpoint.Physical)
    (before : List Breakpoint) :
    Sound m (commandToken p.hintToken) fuel [] before (clearListed m fuel p before) := by
  unfold clearListed
  dsimp only
  split_ifs
  · exact .refused trivial
  · exact sound_clearExactToken _ _ _
  split
  · exact .refused trivial
  next index _ =>
  split
  · exact sound_clearExactToken _ _ _
  split_ifs
  · exact .refused trivial
  rcases deleteExact_cases m (commandToken p.hintToken) [] before index with
    ⟨err, log, heq, hlog⟩ | ⟨after, heq, hafter, hon⟩
  · rw [heq]
    exact .refused hlog
  rw [heq]
  dsimp only
  split_ifs with hnn
  · exact .deleted hon hafter (Nat.le_succ _) (sound_clearExactToken _ _ _)
  · exact .deleted hon hafter (Nat.le_succ _) (.absent (not_not.mp hnn))

/-- `clear` deletes an index only right after a listing that shows it with the owned token. Where it
succeeds, its last listing has no breakpoint with the token. It returns if every deletion leaves
fewer breakpoints with the token. -/
theorem clear_deletes_owned (m : Debugger) (physical : MultiDap.Breakpoint.Physical) :
    (∀ fuel, Guarded (commandToken physical.hintToken) none (clear m fuel physical).2 ∧
      ((clear m fuel physical).1 = some (.ok ()) →
        ∃ log last, (clear m fuel physical).2 = log ++ [.listed (.ok last)] ∧
          ∀ value ∈ last, breakpointHasToken value (commandToken physical.hintToken) = false)) ∧
    (Removes m (commandToken physical.hintToken) → ∃ fuel, (clear m fuel physical).1.isSome) := by
  unfold clear
  cases hlist : m.list [] with
  | error err => exact ⟨fun _ => ⟨trivial, nofun⟩, fun _ => ⟨0, rfl⟩⟩
  | ok before =>
    refine ⟨fun fuel => ?_, fun hrem => ?_⟩
    · obtain ⟨hlog, hclear, -⟩ := sound_clearListed m fuel physical before
      refine ⟨hlog, fun hok => ?_⟩
      obtain ⟨log, last, heq, hla⟩ := hclear hok
      refine ⟨log, last, heq, fun value hvalue => ?_⟩
      simpa using List.filter_eq_nil_iff.mp hla value hvalue
    · exact ⟨_, (sound_clearListed m _ physical before).returns hrem hlist (Nat.lt_succ_self _)⟩

/-- A debugger that lists what was not deleted. -/
def listing (all : List Breakpoint) : Debugger where
  list gone := .ok (all.filter (·.index ∉ gone))
  delete _ _ := none

lemma removes_listing (all : List Breakpoint) (token : String) : Removes (listing all) token := by
  rintro gone index _ _ ⟨⟩ ⟨⟩
  refine le_of_eq (congrArg List.length ?_)
  simp only [breakpointsWithToken, List.filter_filter]
  refine List.filter_congr fun b _ => ?_
  simp [Bool.and_comm, Bool.and_assoc]

theorem clear_deletes_owned_twice : ∃ fuel, (clear
    (listing [⟨1, "main.c#10", commandToken 7, true⟩, ⟨2, "main.c#10", commandToken 7, true⟩]) fuel
    { hintToken := 7 }).1.isSome :=
  (clear_deletes_owned _ { hintToken := 7 }).2 (removes_listing _ _)

end MultiDap.Multi
