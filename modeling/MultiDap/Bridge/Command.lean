import MultiDap.Errors

/-!
# Inspection commands of the bridge

`$` of the pattern for component ids also matches before a line feed at the end, so that this line
feed gets into the command.
-/

namespace MultiDap.Bridge

open List

/-- A value of the request, as far as the checks distinguish it. -/
inductive Value where
  | text (value : String)
  | int (value : Int)
  | other
  deriving DecidableEq

inductive Method where
  | memoryRead | disassemble
  deriving DecidableEq

def Method.maximum : Method → Int
  | .memoryRead => 64 * 1024
  | .disassemble => 48 * 1024 + 6

def word (c : Char) : Bool := c.isAlphanum || c = '_' || c = '.' || c = '-'

def isComponent (s : List Char) : Bool :=
  let front := s.rdropWhile Char.isDigit
  s.rtakeWhile Char.isDigit ≠ [] && front.getLast? = some '.' &&
    match front.dropLast with
    | [] => false
    | c :: body => (c.isAlpha || c = '_') && body.all word

/-- `COMPONENT_ID_PATTERN.match`. -/
def matchesComponent (s : List Char) : Bool :=
  isComponent s || s.getLast? = some '\n' && isComponent s.dropLast

abbrev refuse {α : Type} (message : String) : Except BridgeError α :=
  .error ⟨"invalid_params", message⟩

/-- A number that is not negative, and within the limit. -/
def natural (label : String) (limit : Option Int) : Option Value → Except BridgeError Nat
  | some (.int value) =>
    if value < 0 then refuse (label ++ " must be a non-negative integer")
    else if limit.any fun limit => value = 0 || limit < value then
      refuse (label ++ " is out of range")
    else .ok value.toNat
  | _ => refuse (label ++ " must be a non-negative integer")

/-- The component, the address and the count of a request; no object gives no parameters. -/
def inspectionParams (method : Method) (params : Option (List (String × Value))) :
    Except BridgeError (String × Nat × Nat) :=
  match params with
  | none => refuse "inspection request has invalid parameters"
  | some params =>
    if ¬ params.map Prod.fst ~ ["component", "address", "byte_count"] then
      refuse "inspection request has invalid parameters"
    else
      match params.lookup "component" with
      | some (.text component) =>
        if ¬ matchesComponent component.toList then refuse "component is invalid"
        else do
          let address ← natural "address" none (params.lookup "address")
          let count ← natural "byte_count" (some method.maximum) (params.lookup "byte_count")
          if address > 0xffffffffffffffff then refuse "address is out of range"
          else return (component, address, count)
      | _ => refuse "component is invalid"

/-- The path of the snapshot: whether its directory exists, and whether it lies in it. -/
def inspectionFile (isDir inside : Bool) (path : String) : Except BridgeError String :=
  if !isDir then .error ⟨"memory_unavailable", "memory workspace is unavailable"⟩
  else if !inside || path.toList.any ['"', '\r', '\n', ';'].contains then
    .error ⟨"memory_unavailable", "memory workspace path is unsafe"⟩
  else .ok path

def commandText (component path : String) (address count : Nat) : Method → String
  | .memoryRead => "route " ++ component ++ " memdump -noprogress raw \"" ++ path ++ "\" 0x" ++
      String.ofList (Nat.toDigits 16 address) ++ " " ++ toString count
  | .disassemble => "route " ++ component ++ " disassemble 0x" ++
      String.ofList (Nat.toDigits 16 address) ++ " " ++ toString count

def command (method : Method) (params : Option (List (String × Value))) (isDir inside : Bool)
    (path : String) : Except BridgeError String := do
  let (component, address, count) ← inspectionParams method params
  match method with
  | .memoryRead =>
    return commandText component (← inspectionFile isDir inside path) address count method
  | .disassemble => return commandText component path address count method

/-- The characters that do not end a command. -/
def plain (c : Char) : Bool := c ≠ '\n' && c ≠ '\r' && c ≠ ';'

/-- One line made of the fixed words, a component id, an address, a count and the path. -/
def Single (method : Method) (path text : String) : Prop :=
  (∃ component address count, isComponent component.toList = true ∧
    text = commandText component path address count method) ∧ text.toList.all plain = true

lemma all_toDigits {p : Char → Bool} {b n : Nat} (hdigit : ∀ d < 16, p d.digitChar = true)
    (hb : 1 < b) (hle : b ≤ 16) : ∀ c ∈ Nat.toDigits b n, p c = true := by
  induction n using Nat.strongRecOn with
  | ind n ih =>
    by_cases hn : n < b
    · rw [Nat.toDigits_of_lt_base hn]
      intro c hc
      rw [mem_singleton.mp hc]
      exact hdigit n (by omega)
    rw [Nat.toDigits_of_base_le hb (by omega)]
    intro c hc
    rcases mem_append.mp hc with hc | hc
    · exact ih _ (Nat.div_lt_self (by omega) hb) c hc
    · rw [mem_singleton.mp hc]
      exact hdigit _ (Nat.lt_of_lt_of_le (Nat.mod_lt _ (by omega)) hle)

lemma plain_of_word {c : Char} (h : word c = true) : plain c = true := by
  by_contra hp
  have hc : (c = '\n' ∨ c = '\r') ∨ c = ';' := by simpa [plain, imp_iff_not_or] using hp
  rcases hc with (rfl | rfl) | rfl <;> exact absurd h (by decide)

lemma word_isComponent {s : List Char} (h : isComponent s = true) : ∀ c ∈ s, word c = true := by
  intro c hc
  simp only [isComponent, Bool.and_eq_true, decide_eq_true_eq] at h
  obtain ⟨⟨-, hpoint⟩, hname⟩ := h
  obtain ⟨name, hfront⟩ := getLast?_eq_some_iff.mp hpoint
  rw [hfront, dropLast_concat] at hname
  rw [← mem_reverse, ← takeWhile_append_dropWhile (p := Char.isDigit) (l := s.reverse),
    mem_append] at hc
  rcases hc with hc | hc
  · have := mem_takeWhile_imp hc
    simp_all [word, Char.isAlphanum]
  rw [← mem_reverse, ← rdropWhile, hfront, mem_append, mem_singleton] at hc
  rcases hc with hc | rfl
  · cases name with
    | nil => cases hc
    | cons first body =>
      simp only [Bool.and_eq_true, all_eq_true] at hname
      rcases mem_cons.mp hc with rfl | hc
      · have := hname.1
        simp_all [word, Char.isAlphanum]
        tauto
      · exact hname.2 c hc
  · rfl

lemma inspectionParams_ok {method : Method} {params : Option (List (String × Value))}
    {component : String} {address count : Nat}
    (h : inspectionParams method params = .ok (component, address, count)) :
    params.bind (·.lookup "component") = some (.text component) ∧
      matchesComponent component.toList = true := by
  unfold inspectionParams at h
  split at h
  · cases h
  next entries =>
  split_ifs at h
  split at h
  · next value hlookup =>
    split_ifs at h with hmatch
    obtain ⟨a, -, h⟩ := bind_eq_ok.mp h
    obtain ⟨n, -, h⟩ := bind_eq_ok.mp h
    split_ifs at h
    cases h
    exact ⟨hlookup, hmatch⟩
  · cases h

/-- An accepted request gives one command on one line exactly if its component does not end with a
line feed. -/
theorem command_single_iff {method : Method} {params : Option (List (String × Value))}
    {isDir inside : Bool} {path text : String}
    (h : command method params isDir inside path = .ok text) :
    Single method path text ↔ ∀ component, params.bind (·.lookup "component") =
      some (.text component) → component.toList.getLast? ≠ some '\n' := by
  obtain ⟨⟨component, address, count⟩, hparams, h⟩ := bind_eq_ok.mp h
  obtain ⟨hcomponent, hmatch⟩ := inspectionParams_ok hparams
  have htext : text = commandText component path address count method ∧
      (method = .memoryRead → path.toList.all plain = true) := by
    cases method with
    | disassemble =>
      cases h
      exact ⟨rfl, nofun⟩
    | memoryRead =>
      obtain ⟨file, hfile, h⟩ := bind_eq_ok.mp h
      cases h
      unfold inspectionFile at hfile
      split_ifs at hfile with _ hsafe
      cases hfile
      refine ⟨rfl, fun _ => all_eq_true.mpr fun c hc => ?_⟩
      simp only [Bool.or_eq_true, any_eq_true, not_or, not_exists, not_and] at hsafe
      have := hsafe.2 c hc
      simp_all [plain]
  obtain ⟨rfl, hpath⟩ := htext
  constructor
  · rintro ⟨-, hplain⟩ c hc hlast
    cases hcomponent.symm.trans hc
    have hmem : '\n' ∈ (commandText component path address count method).toList := by
      have := mem_of_getLast? hlast
      cases method <;> simp [commandText, this]
    cases all_eq_true.mp hplain _ hmem
  intro hlast
  have hid : isComponent component.toList = true := by
    have := hlast component hcomponent
    simpa [matchesComponent, this] using hmatch
  have hword : component.toList.all plain = true :=
    all_eq_true.mpr fun c hc => plain_of_word (word_isComponent hid c hc)
  have hdigit : ∀ d < 16, plain d.digitChar = true := by decide
  have hhex := all_eq_true.mpr (all_toDigits (b := 16) (n := address) hdigit (by decide) le_rfl)
  have hdec := all_eq_true.mpr (all_toDigits (b := 10) (n := count) hdigit (by decide) (by decide))
  refine ⟨⟨component, address, count, hid, rfl⟩, ?_⟩
  cases method with
  | disassemble =>
    simp only [commandText, String.toList_append, String.toList_ofList, all_append, hword, hhex,
      Nat.toString_eq_ofList_toDigits, hdec]
    decide
  | memoryRead =>
    simp only [commandText, String.toList_append, String.toList_ofList, all_append, hword, hhex,
      Nat.toString_eq_ofList_toDigits, hdec, hpath rfl]
    decide

def oneByte (component : String) : Option (List (String × Value)) :=
  some [("component", .text component), ("address", .int 16), ("byte_count", .int 1)]

theorem command_single_plain : command .disassemble (oneByte "cpu.1") true true "" =
      .ok "route cpu.1 disassemble 0x10 1" ∧
    Single .disassemble "" "route cpu.1 disassemble 0x10 1" := by
  have h : command .disassemble (oneByte "cpu.1") true true "" =
      .ok "route cpu.1 disassemble 0x10 1" := by decide +kernel
  refine ⟨h, (command_single_iff h).mpr fun component hc => ?_⟩
  cases hc
  decide

/-- The component ends with a line feed. -/
theorem command_two_lines : command .disassemble (oneByte "cpu.1\n") true true "" =
      .ok "route cpu.1\n disassemble 0x10 1" ∧
    ¬ Single .disassemble "" "route cpu.1\n disassemble 0x10 1" :=
  ⟨by decide +kernel, fun h => absurd h.2 (by decide +kernel)⟩

end MultiDap.Bridge
