import MultiDap.Inspection.Model
import MultiDap.Machine.Prog

/-!
# The inspection service

The four requests as programs over the handle store. A request that fails after it has minted some
references leaves them behind; the session decides what becomes of them.
-/

namespace MultiDap.Inspection

open Source Machine Handle Prog

inductive Query where
  | stack (core : Int)
  | scopes (core : Int) (frame : UInt64)
  | locals (core : Int) (locator : ScopeLocator) (page : Page) (format : Format)
  | children (core : Int) (locator : ValueLocator) (page : Page) (format : Format)
  | evaluate (core : Int) (frame : UInt64) (expression : Expression) (format : Format)

def Query.Answer : Query → Type
  | .stack _ => Except Error (List RawFrame)
  | .scopes _ _ => Except Error (List RawScope)
  | .locals _ _ _ _ => Except Error RawValuePage
  | .children _ _ _ _ => Except Error RawValuePage
  | .evaluate _ _ _ _ => Except Error RawValue

inductive Reply where
  | frames (answer : Except Error (List RawFrame))
  | scopes (answer : Except Error (List RawScope))
  | page (answer : Except Error RawValuePage)
  | value (answer : Except Error RawValue)

/-- Any answer is possible. The backend does not touch the handles. -/
def env : Env (Ledger Payload) Query Reply Query.Answer where
  perform l query reply :=
    match query, reply with
    | .stack _, .frames answer => some (l, answer)
    | .scopes _ _, .scopes answer => some (l, answer)
    | .locals _ _ _ _, .page answer => some (l, answer)
    | .children _ _ _ _, .page answer => some (l, answer)
    | .evaluate _ _ _ _, .value answer => some (l, answer)
    | _, _ => none

/-- Programs over the handle store that may fail. -/
abbrev Inspect := ExceptT Error (Prog (Ledger Payload) Query Query.Answer)

def liftExcept {α : Type} (r : Except Error α) : Inspect α := ExceptT.mk (.ret r)

def alloc (kind : Kind) (core : Int) (stop : StopContext) (value : Payload) (noun : String) :
    Inspect Int :=
  ExceptT.mk (Prog.modify fun l =>
    let (l', result) := l.alloc kind core stop.stopEpoch value
    (l', result.mapError (.under s!"inspection: allocate {noun}")))

def resolveHandle (id : Int) (stop : StopContext) : Inspect (Handle Payload) :=
  ExceptT.mk (Prog.modify fun l =>
    (l, (l.store.resolve id stop.stopEpoch stop.stopped).mapError
      (.both .invalidReference s!": reference {id}")))

/-- Ask the backend. `context` names the request in the error. -/
def query (q : Query) {α : Type} (hq : q.Answer = Except Error α) (context : String) : Inspect α :=
  ExceptT.mk (.call q fun answer => .ret ((cast hq answer).mapError (.under context)))

/-! ### Checks -/

def validateStopped (stop : StopContext) : Except Error Unit :=
  if !stop.stopped then .error (.wrap .invalidReference ": target is running") else .ok ()

def maxInt : Int := 2 ^ 63 - 1

def validatePage (page : Page) : Except Error Unit :=
  if page.start < 0 ∨ page.count < 0 ∨ page.count > maxInt - page.start then
    .error (.wrap .invalidPage s!": start={page.start} count={page.count}")
  else .ok ()

def validateFormat (format : Format) : Except Error Unit :=
  match format with
  | .invalid code => .error (contract s!"unsupported format {code}")
  | _ => .ok ()

def validateRequest (stop : StopContext) (page : Page) (format : Format) : Except Error Unit := do
  validateStopped stop
  validatePage page
  validateFormat format

def validateRawFrame (raw : RawFrame) : Except Error Unit :=
  if raw.name = "" then .error (contract "frame name is empty") else .ok ()

def validateRawScope (raw : RawScope) : Except Error Unit :=
  if raw.name = "" ∨ raw.locator = "" then .error (contract "scope requires name and locator")
  else
    match raw.kind with
    | .invalid code => .error (contract s!"unknown scope kind {code}")
    | _ => .ok ()

def validateRawPage (raw : RawValuePage) : Except Error Unit :=
  if raw.total < -1 then .error (contract s!"invalid total {raw.total}")
  else if raw.total = -1 ∧ raw.values.length ≠ 0 then
    .error (contract "unknown total with non-empty snapshot")
  else if 0 ≤ raw.total ∧ (raw.values.length : Int) ≠ raw.total then
    .error (contract s!"snapshot contains {raw.values.length} values, total is {raw.total}")
  else .ok ()

def validateAccess (access : Access) : Except Error Unit :=
  match access.kind with
  | .root | .dereference =>
    if access.name ≠ "" ∨ access.index ≠ 0 ∨ access.hasIndex then
      .error (contract "access contains extra data")
    else .ok ()
  | .member | .pointerMember =>
    if access.name = "" then .error (contract "member access requires a name")
    else if !access.hasIndex ∧ access.index ≠ 0 then
      .error (contract "member index requires HasIndex")
    else .ok ()
  | .index =>
    if access.name ≠ "" ∨ access.hasIndex then .error (contract "index access contains a name")
    else .ok ()
  | .invalid _ => .error (contract "unknown access kind")

def validateRawValue (raw : RawValue) : Except Error Unit :=
  if raw.name = "" then .error (contract "variable name is empty")
  else if raw.namedChildren < -1 ∨ raw.indexedChildren < -1 then
    .error (contract "invalid child count")
  else if raw.availability matches .invalid _ then .error (contract "invalid availability")
  else if !raw.hasChildren ∧ (raw.namedChildren ≠ 0 ∨ raw.indexedChildren ≠ 0) then
    .error (contract "scalar child counts must be zero")
  else if raw.hasChildren ∧ raw.namedChildren = 0 ∧ raw.indexedChildren = 0 then
    .error (contract "expandable value has no children")
  else validateAccess raw.access

def locatorFor (kind : Kind) (payload : Payload) (name : String) (access : Access) :
    Except Error ValueLocator :=
  match kind, payload with
  | .scope, _ =>
    if access.kind ≠ .root then .error (contract "scope value is not a root access")
    else rootLocator name
  | .var, .var parent => childLocator parent access
  | .var, _ => .error (contract "variable handle payload")
  | _, _ => .error (contract "non-variable handle")

/-- The part of a complete snapshot that a page shows. -/
def Page.slice {α : Type} (page : Page) (values : List α) : List α :=
  if page.start ≥ values.length then []
  else (values.drop page.start.toNat).take (min page.count.toNat (values.length - page.start.toNat))

/-! ### Requests -/

/-- How debug paths are mapped to source identities. -/
abbrev SourceMapper := String → Except Error Identity

def makeFrame (mapper : SourceMapper) (stop : StopContext) (core : Int) (raw : RawFrame) :
    Inspect Frame := do
  liftExcept (validateRawFrame raw)
  let source ← liftExcept (if raw.debugPath = "" then .ok none
     else
      match mapper raw.debugPath with
      | .ok identity => .ok (some ⟨identity, raw.line, raw.column⟩)
      | .error err => .error (.under s!"inspection: map source {raw.debugPath.quote}" err))
  let id ← alloc .frame core stop (.frame raw.index) "frame"
  return {
    id := id, name := raw.name, source := source, backendIndex := raw.index
    instructionAddress := raw.instructionAddress.map fun a => ⟨a, core, stop.stopEpoch⟩ }

def makeFrames (mapper : SourceMapper) (stop : StopContext) (core : Int) :
    List RawFrame → Inspect (List Frame)
  | [] => return []
  | raw :: raws => do
    let frame ← makeFrame mapper stop core raw
    let frames ← makeFrames mapper stop core raws
    return frame :: frames

def stack (mapper : SourceMapper) (stop : StopContext) (core : Int) (page : Page) :
    Inspect Stack := do
  liftExcept (validateRequest stop page .default)
  let raws ← query (.stack core) rfl s!"inspection: stack core={core}"
  liftExcept (raws.forM validateRawFrame)
  let frames ← makeFrames mapper stop core (page.slice raws)
  return ⟨frames, raws.length⟩

/-- A frame reference, and the backend index behind it. -/
def resolveFrame (id : Int) (stop : StopContext) : Inspect (Handle Payload × UInt64) := do
  let h ← resolveHandle id stop
  liftExcept
    (if h.kind ≠ .frame then
      .error (.wrap .invalidReference s!": reference {id} has kind {h.kind.code}")
     else
      match h.value with
      | .frame index => .ok (h, index)
      | _ => .error (contract "frame handle payload"))

def makeScopes (stop : StopContext) (core : Int) : List RawScope → Inspect (List Scope)
  | [] => return []
  | raw :: raws => do
    let id ← alloc .scope core stop (.scope raw.locator) "scope"
    let scopes ← makeScopes stop core raws
    return ⟨raw.name, raw.kind, id, raw.expensive⟩ :: scopes

def scopes (stop : StopContext) (frameID : Int) : Inspect (List Scope) := do
  let (h, frame) ← resolveFrame frameID stop
  let raws ← query (.scopes h.core frame) rfl s!"inspection: scopes core={h.core} frame={frame}"
  liftExcept (raws.forM validateRawScope)
  makeScopes stop h.core raws

def childKind (access : Access) : ChildKind := if access.kind = .index then .indexed else .named

def makeVariable (stop : StopContext) (core : Int) (raw : RawValue) (locator : ValueLocator) :
    Inspect Variable := do
  liftExcept (validateRawValue raw)
  let result : Variable :=
    { name := raw.name, evaluateName := locator.expression, value := raw.value, type := raw.type
      namedChildren := raw.namedChildren, indexedChildren := raw.indexedChildren
      childKind := childKind raw.access, availability := raw.availability, hidden := raw.hidden }
  if !raw.hasChildren then return result
  else
    let id ← alloc .var core stop (.var locator) "variable"
    return { result with variablesReference := id }

def makeVariables (stop : StopContext) (h : Handle Payload) : List RawValue →
    Inspect (List Variable)
  | [] => return []
  | raw :: raws => do
    let locator ← liftExcept (locatorFor h.kind h.value raw.name raw.access)
    let value ← makeVariable stop h.core raw locator
    let values ← makeVariables stop h raws
    return value :: values

def rawValues (h : Handle Payload) (page : Page) (format : Format) (context : String) :
    Inspect RawValuePage :=
  match h.kind, h.value with
  | .scope, .scope locator => query (.locals h.core locator page format) rfl context
  | .scope, _ => liftExcept (.error (contract "scope handle payload"))
  | _, .var locator => query (.children h.core locator page format) rfl context
  | _, _ => liftExcept (.error (contract "variable handle payload"))

def variablePage (stop : StopContext) (reference : Int) (page : Page) (format : Format) :
    Inspect VariablePage := do
  liftExcept (validatePage page)
  liftExcept (validateFormat format)
  let h ← resolveHandle reference stop
  if h.kind ≠ .scope ∧ h.kind ≠ .var then
    liftExcept (.error (.wrap .invalidReference s!": reference {reference} is not a variable root"))
  else if page.count = 0 then return { total := -1 }
  else
    let raw ← rawValues h page format s!"inspection: variables core={h.core} reference={reference}"
    liftExcept (validateRawPage raw)
    -- a malformed value outside the page refuses the whole request
    liftExcept (raw.values.forM fun value => do
      validateRawValue value
      let _ ← locatorFor h.kind h.value value.name value.access)
    let vars ← makeVariables stop h (page.slice raw.values)
    return ⟨vars, raw.total⟩

def evaluate (stop : StopContext) (frameID : Int) (expression : Expression) (format : Format) :
    Inspect Variable := do
  if expression.text = "" then
    liftExcept (.error (.wrap .invalidExpression ": expression was not constructed"))
  else
    liftExcept (validateFormat format)
    let (h, frame) ← resolveFrame frameID stop
    let raw ← query (.evaluate h.core frame expression format) rfl
      s!"inspection: evaluate core={h.core} frame={frame}"
    makeVariable stop h.core raw (evaluatedLocator expression)

/-! ### What a request does to the handles -/

/-- Every step mints at most one handle, bound to the stop epoch the request was accepted in. -/
def Mints (stopEpoch : UInt64) (l l' : Ledger Payload) : Prop :=
  l.Balanced → Ledger.Minted stopEpoch l l'

/-- The request changes the handles only by minting. -/
def MintsOnly (stopEpoch : UInt64) {α : Type} (p : Inspect α) : Prop :=
  Prog.Within env (Mints stopEpoch) (fun _ => True) p.run

namespace MintsOnly

variable {stop : StopContext} {stopEpoch : UInt64} {α β : Type}

lemma mints_refl (l : Ledger Payload) : Mints stopEpoch l l := fun _ => .refused

lemma bind {p : Inspect α} {q : α → Inspect β} (h : MintsOnly stopEpoch p)
    (hq : ∀ a, MintsOnly stopEpoch (q a)) : MintsOnly stopEpoch (p >>= q) := by
  refine within_bind h fun r _ => ?_
  cases r with
  | ok a => exact hq a
  | error => exact trivial

lemma map (f : α → β) {p : Inspect α} (h : MintsOnly stopEpoch p) :
    MintsOnly stopEpoch (f <$> p) := by
  refine within_bind h fun r _ => ?_
  cases r with
  | ok | error => exact trivial

lemma pure (a : α) : MintsOnly stopEpoch (Pure.pure a : Inspect α) := trivial

lemma liftExcept (r : Except Error α) : MintsOnly stopEpoch (Inspection.liftExcept r) := trivial

lemma alloc (kind : Kind) (core : Int) (val : Payload) (noun : String) :
    MintsOnly stop.stopEpoch (Inspection.alloc kind core stop val noun) :=
  within_modify fun _ => ⟨fun hb => hb.alloc kind core stop.stopEpoch val, trivial⟩

lemma resolveHandle (id : Int) : MintsOnly stopEpoch (Inspection.resolveHandle id stop) :=
  within_modify fun l => ⟨mints_refl l, trivial⟩

lemma query (q : Query) (hq : q.Answer = Except Error α) (ctx : String) :
    MintsOnly stopEpoch (Inspection.query q hq ctx) := by
  intro l rp l' o h
  -- no answer of the backend changes the handles
  have hl : l' = l := by
    cases q <;> cases rp <;> simp [env] at h <;> exact (congrArg Prod.fst h).symm
  subst hl
  exact ⟨mints_refl l', trivial⟩

lemma makeFrame (mapper : SourceMapper) (core : Int) (raw : RawFrame) :
    MintsOnly stop.stopEpoch (Inspection.makeFrame mapper stop core raw) :=
  (liftExcept _).bind fun _ => (liftExcept _).bind fun _ => (alloc _ _ _ _).bind fun _ => pure _

lemma makeFrames (mapper : SourceMapper) (core : Int) (raws : List RawFrame) :
    MintsOnly stop.stopEpoch (Inspection.makeFrames mapper stop core raws) := by
  induction raws with
  | nil => exact pure _
  | cons raw _ ih => exact (makeFrame mapper core raw).bind fun _ => ih.bind fun _ => pure _

lemma stack (mapper : SourceMapper) (core : Int) (page : Page) :
    MintsOnly stop.stopEpoch (Inspection.stack mapper stop core page) :=
  (liftExcept _).bind fun _ => (query _ _ _).bind fun _ => (liftExcept _).bind fun _ =>
    (makeFrames _ _ _).bind fun _ => pure _

lemma resolveFrame (id : Int) : MintsOnly stopEpoch (Inspection.resolveFrame id stop) :=
  (resolveHandle id).bind fun _ => liftExcept _

lemma makeScopes (core : Int) (raws : List RawScope) :
    MintsOnly stop.stopEpoch (Inspection.makeScopes stop core raws) := by
  induction raws with
  | nil => exact pure _
  | cons _ _ ih => exact (alloc _ _ _ _).bind fun _ => ih.bind fun _ => pure _

lemma scopes (frameID : Int) : MintsOnly stop.stopEpoch (Inspection.scopes stop frameID) :=
  (resolveFrame frameID).bind fun _ => (query _ _ _).bind fun _ => (liftExcept _).bind fun _ =>
    makeScopes _ _

lemma makeVariable (core : Int) (raw : RawValue) (locator : ValueLocator) :
    MintsOnly stop.stopEpoch (Inspection.makeVariable stop core raw locator) := by
  refine (liftExcept _).bind fun _ => ?_
  split_ifs
  · exact pure _
  · exact (alloc _ _ _ _).bind fun _ => pure _

lemma makeVariables (h : Handle Payload) (raws : List RawValue) :
    MintsOnly stop.stopEpoch (Inspection.makeVariables stop h raws) := by
  induction raws with
  | nil => exact pure _
  | cons _ _ ih =>
    exact (liftExcept _).bind fun _ => (makeVariable _ _ _).bind fun _ => ih.bind fun _ => pure _

lemma rawValues (h : Handle Payload) (page : Page) (format : Format) (ctx : String) :
    MintsOnly stopEpoch (Inspection.rawValues h page format ctx) := by
  unfold Inspection.rawValues
  split
  · exact query _ _ _
  · exact liftExcept _
  · exact query _ _ _
  · exact liftExcept _

lemma variablePage (ref : Int) (page : Page) (format : Format) :
    MintsOnly stop.stopEpoch (Inspection.variablePage stop ref page format) := by
  refine (liftExcept _).bind fun _ => (liftExcept _).bind fun _ =>
    (resolveHandle _).bind fun h => ?_
  split_ifs
  · exact liftExcept _
  · exact pure _
  · exact (rawValues _ _ _ _).bind fun _ => (liftExcept _).bind fun _ =>
      (liftExcept _).bind fun _ => (makeVariables _ _).bind fun _ => pure _

lemma evaluate (frameID : Int) (expression : Expression) (format : Format) :
    MintsOnly stop.stopEpoch (Inspection.evaluate stop frameID expression format) := by
  unfold Inspection.evaluate
  split_ifs
  · exact liftExcept _
  · exact (liftExcept _).bind fun _ => (resolveFrame _).bind fun _ => (query _ _ _).bind fun _ =>
      makeVariable _ _ _

end MintsOnly

/-! ### Requests for a target that is not stopped -/

/-- However the backend answers, the request fails. -/
def Fails {α : Type} (p : Inspect α) : Prop :=
  Prog.Within env (fun _ _ => True) (fun result => ∃ err, result = .error err) p.run

namespace Fails

variable {stop : StopContext} {α β : Type}

lemma bind {p : Inspect α} (h : Fails p) (q : α → Inspect β) : Fails (p >>= q) := by
  refine within_bind h ?_
  rintro _ ⟨err, rfl⟩
  exact ⟨err, rfl⟩

lemma after (p : Inspect α) {q : α → Inspect β} (h : ∀ a, Fails (q a)) : Fails (p >>= q) := by
  refine within_bind (within_trivial p.run) fun res _ => ?_
  cases res with
  | ok a => exact h a
  | error err => exact ⟨err, rfl⟩

lemma map (f : α → β) {p : Inspect α} (h : Fails p) : Fails (f <$> p) := by
  refine within_bind h ?_
  rintro _ ⟨err, rfl⟩
  exact ⟨err, rfl⟩

lemma liftExcept (err : Error) : Fails (Inspection.liftExcept (α := α) (.error err)) := ⟨err, rfl⟩

section

variable (hsp : stop.stopped = false)

include hsp

lemma resolveHandle (id : Int) : Fails (Inspection.resolveHandle id stop) := by
  refine within_modify fun l => ⟨trivial, ?_⟩
  dsimp only [Store.resolve]
  split <;> simp [hsp, Except.mapError]

lemma resolveFrame (id : Int) : Fails (Inspection.resolveFrame id stop) :=
  (resolveHandle hsp id).bind _

lemma stack (mapper : SourceMapper) (core : Int) (page : Page) :
    Fails (Inspection.stack mapper stop core page) := by
  have hre : validateRequest stop page .default =
      .error (.wrap .invalidReference ": target is running") := by
    simp only [validateRequest, validateStopped, hsp]
    rfl
  unfold Inspection.stack
  rw [hre]
  exact (liftExcept _).bind _

lemma scopes (frameID : Int) : Fails (Inspection.scopes stop frameID) :=
  (resolveFrame hsp frameID).bind _

lemma variablePage (ref : Int) (page : Page)
    (format : Format) : Fails (Inspection.variablePage stop ref page format) :=
  after _ fun _ => after _ fun _ => (resolveHandle hsp ref).bind _

lemma evaluate (frameID : Int) (expression : Expression)
    (format : Format) : Fails (Inspection.evaluate stop frameID expression format) := by
  unfold Inspection.evaluate
  split_ifs
  · exact liftExcept _
  · exact after _ fun _ => (resolveFrame hsp frameID).bind _

end

end Fails

end MultiDap.Inspection
