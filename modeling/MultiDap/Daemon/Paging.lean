import MultiDap.Inspection.Atomic

/-!
# Pages of a snapshot

A client asks for frames and variables in pages. The daemon turns a page into an inspection page,
the service slices the complete snapshot, and a filter is applied to the complete snapshot before
the daemon slices it. Whatever consecutive pages the client asks for, it gets the snapshot.
-/

namespace MultiDap.Daemon

open Inspection Handle List Prod

/-! ### The daemon -/

/-- A page of the protocol. A count of zero asks for the rest. -/
def dapPage (maxInt : Int) (start count : UInt32) : Except Error Page :=
  if (start.toNat : Int) > maxInt ∨ (count.toNat : Int) > maxInt then
    .error (.new "page is outside the platform range")
  else
    let page : Page := ⟨start.toNat, if count = 0 then maxInt - start.toNat else count.toNat⟩
    if page.count < 0 ∨ page.count > maxInt - page.start then .error (.new "page overflows")
    else .ok page

def filteredVariables (values : List Variable) (filter : String) : Except Error (List Variable) :=
  if filter = "" then .ok values
  else if filter = "named" then .ok (values.filter (·.childKind = .named))
  else if filter = "indexed" then .ok (values.filter (·.childKind = .indexed))
  else .error (.new s!"daemon: variables filter {filter.quote} is unsupported")

/-- `values[start:end]`. -/
def variablePage {α : Type} (values : List α) (page : Page) : List α :=
  if page.start ≥ values.length then []
  else
    let stop : Int := if page.start + page.count > values.length then values.length
      else page.start + page.count
    (values.drop page.start.toNat).take (stop - page.start).toNat

/-- The request of a client, before its answer is written. `core` is the session. -/
def Backend.variables (maxInt : Int) (core : Page → Except Error VariablePage)
    (start count : UInt32) (filter : String) : Except Error (List Variable) := do
  let page ← (dapPage maxInt start count).mapError (.under "daemon: variables")
  let result ← (core (if filter ≠ "" then ⟨0, maxInt⟩ else page)).mapError
    (.under "daemon: variables")
  let values ← filteredVariables result.vars filter
  return if filter ≠ "" then variablePage values page else values

def Backend.stack (maxInt : Int) (core : Page → Except Error Stack) (start count : UInt32) :
    Except Error (List Frame) := do
  let page ← (dapPage maxInt start count).mapError (.under "daemon: stackTrace")
  let result ← (core page).mapError (.under "daemon: stack trace")
  return result.frames

/-! ### The arithmetic of a page -/

/-- The page and its end fit the integers of the platform. -/
structure Fits (maxInt : Int) (page : Page) : Prop where
  start : 0 ≤ page.start
  count : 0 ≤ page.count
  sum : page.start + page.count ≤ maxInt

variable {maxInt : Int} {start count : UInt32} {page : Page} {α β γ : Type}

lemma dapPage_ok (h : dapPage maxInt start count = .ok page) :
    Fits maxInt page ∧ page.start = start.toNat ∧
      page.count = if count = 0 then maxInt - start.toNat else count.toNat := by
  unfold dapPage at h
  dsimp only at h
  split_ifs at h <;> cases h <;> refine ⟨⟨?_, ?_, ?_⟩, rfl, ?_⟩ <;> dsimp only <;> grind

lemma dapPage_accepts (maxInt : Int) (start count : UInt32) :
    (∃ page, dapPage maxInt start count = .ok page) ↔
      (start.toNat : Int) + count.toNat ≤ maxInt := by
  have hzero : count = 0 → count.toNat = 0 := fun h => h ▸ rfl
  unfold dapPage
  dsimp only
  split_ifs <;> simp <;> grind

/-- What the service computes from a page. -/
def pageBounds (page : Page) (total : Nat) : Int × Int :=
  if page.start ≥ total then (total, total)
  else (page.start, if page.start + page.count > total then total else page.start + page.count)

namespace Fits

lemma bounds (h : Fits maxInt page) (total : Nat) :
    0 ≤ (pageBounds page total).1 ∧ (pageBounds page total).1 ≤ (pageBounds page total).2 ∧
      (pageBounds page total).2 ≤ total := by
  obtain ⟨hstart, hcount, -⟩ := h
  unfold pageBounds
  split_ifs <;> dsimp only <;> omega

lemma slice_eq (h : Fits maxInt page) (vs : List α) : page.slice vs =
    (vs.take (pageBounds page vs.length).2.toNat).drop (pageBounds page vs.length).1.toNat := by
  obtain ⟨hstart, hcount, -⟩ := h
  unfold Page.slice pageBounds
  split_ifs <;> simp [drop_take, take_eq_take_iff] <;> omega

lemma slices (h : Fits maxInt page) (vs : List α) :
    page.slice vs = (vs.drop page.start.toNat).take page.count.toNat ∧
      variablePage vs page = page.slice vs := by
  obtain ⟨hstart, hcount, -⟩ := h
  unfold Page.slice variablePage
  by_cases hover : page.start ≥ vs.length
  · rw [if_pos hover, if_pos hover, drop_eq_nil_of_le (by omega)]
    simp
  rw [if_neg hover, if_neg hover]
  simp only [take_eq_take_iff, length_drop]
  constructor
  · omega
  · split_ifs <;> omega

lemma map_slice (h : Fits maxInt page) (f : α → β) (vs : List α) :
    (page.slice vs).map f = page.slice (vs.map f) := by
  rw [(h.slices vs).1, (h.slices (vs.map f)).1, map_take, map_drop]

end Fits

/-- The pages of the requests that the daemon accepts, and the widest one, for which it asks the
session when the request has a filter. -/
def Asks (maxInt : Int) (page : Page) : Prop :=
  ∃ start count own, dapPage maxInt start count = .ok own ∧ (page = own ∨ page = ⟨0, maxInt⟩)

lemma Asks.fits (h : Asks maxInt page) : Fits maxInt page := by
  obtain ⟨start, count, own, hown, rfl | rfl⟩ := h
  · exact (dapPage_ok hown).1
  obtain ⟨⟨hstart, hcount, hsum⟩, -⟩ := dapPage_ok hown
  exact ⟨le_rfl, by dsimp only; omega, by dsimp only; omega⟩

/-! ### Pages that cover a list -/

/-- Consecutive pages from a start on, to the end of the list. -/
inductive Covers (length : Nat) : Nat → List (UInt32 × UInt32) → Prop where
  | done {start : Nat} (h : length ≤ start) : Covers length start []
  | rest (start : UInt32) : Covers length start.toNat [(start, 0)]
  | next {start count : UInt32} {pages : List (UInt32 × UInt32)} (hcount : count ≠ 0)
      (h : Covers length (start.toNat + count.toNat) pages) :
      Covers length start.toNat ((start, count) :: pages)

/-- The answer to a request is its part of the values. -/
def Shows (maxInt : Int) (values : List α) (request : UInt32 × UInt32) (part : List α) : Prop :=
  ∃ page, dapPage maxInt request.1 request.2 = .ok page ∧ part = page.slice values

lemma Covers.flatten {vs : List α} (hlength : vs.length ≤ maxInt) {first : Nat}
    {pages : List (UInt32 × UInt32)} (h : Covers vs.length first pages)
    {parts : List (List α)} (hparts : List.Forall₂ (Shows maxInt vs) pages parts) :
    parts.flatten = vs.drop first := by
  induction h generalizing parts with
  | done h =>
    cases hparts
    rw [drop_eq_nil_of_le h, flatten_nil]
  | rest start =>
    cases hparts with
    | cons hpart hrs =>
      obtain ⟨page, hpage, rfl⟩ := hpart
      obtain ⟨hfits, hstart, hcount⟩ := dapPage_ok hpage
      cases hrs
      rw [(hfits.slices vs).1, hstart, hcount, if_pos rfl, flatten_singleton,
        Int.toNat_natCast, take_of_length_le]
      rw [length_drop]
      omega
  | next hzero h ih =>
    cases hparts with
    | cons hpart hrs =>
      obtain ⟨page, hpage, rfl⟩ := hpart
      obtain ⟨hfits, hstart, hcount⟩ := dapPage_ok hpage
      rw [if_neg hzero] at hcount
      rw [flatten_cons, ih hrs, (hfits.slices vs).1, hstart, hcount, Int.toNat_natCast,
        Int.toNat_natCast, ← drop_drop, take_append_drop]

/-! ### The session behind the daemon -/

/-- The session answers a page with its part of one complete snapshot. -/
def Serves (maxInt : Int) (core : Page → Except Error β) (shows : β → List γ)
    (snapshot : List γ) : Prop :=
  ∀ page result, Fits maxInt page → core page = .ok result → shows result = page.slice snapshot

/-- A frame without its reference, which is a new one in each answer. -/
def frameLabel (frame : Frame) : Frame := { frame with id := 0 }

def rawFrameLabel (mapper : SourceMapper) (stop : StopContext) (core : Int) (raw : RawFrame) :
    Frame where
  name := raw.name
  source := if raw.debugPath = "" then none
    else (mapper raw.debugPath).toOption.map (⟨·, raw.line, raw.column⟩)
  backendIndex := raw.index
  instructionAddress := raw.instructionAddress.map (⟨·, core, stop.stopEpoch⟩)

/-- A variable without its reference and the expression that names it. -/
def variableLabel (value : Variable) : Variable :=
  { value with variablesReference := 0, evaluateName := "" }

def rawLabel (raw : RawValue) : Variable where
  name := raw.name
  value := raw.value
  type := raw.type
  namedChildren := raw.namedChildren
  indexedChildren := raw.indexedChildren
  childKind := childKind raw.access
  availability := raw.availability
  hidden := raw.hidden

def selected (filter : String) (values : List Variable) : List Variable :=
  if filter = "named" then values.filter (·.childKind = .named)
  else if filter = "indexed" then values.filter (·.childKind = .indexed)
  else values

variable {vs : List Variable}

lemma filteredVariables_ok {kept : List Variable} {filter : String}
    (h : filteredVariables vs filter = .ok kept) :
    kept.map variableLabel = selected filter (vs.map variableLabel) := by
  unfold filteredVariables at h
  unfold selected
  split_ifs at h with hempty hnamed hindexed <;> cases h
  · subst hempty
    rfl
  · rw [if_pos hnamed, filter_map]
    rfl
  · rw [if_neg hnamed, if_pos hindexed, filter_map]
    rfl

lemma Backend.stack_shows {core : Page → Except Error Stack} {snap : List Frame}
    {frames : List Frame} (hcore : Serves maxInt core (·.frames.map frameLabel) snap)
    (h : Backend.stack maxInt core start count = .ok frames) :
    Shows maxInt snap (start, count) (frames.map frameLabel) := by
  obtain ⟨page, hpage, h⟩ := bind_eq_ok.mp h
  obtain ⟨res, hresult, h⟩ := bind_eq_ok.mp h
  cases h
  have hpage := mapError_eq_ok.mp hpage
  exact ⟨page, hpage, hcore page res (dapPage_ok hpage).1 (mapError_eq_ok.mp hresult)⟩

lemma Backend.variables_shows {core : Page → Except Error VariablePage} {filter : String}
    {snap : List Variable} (hlength : snap.length ≤ maxInt)
    (hcore : Serves maxInt core (·.vars.map variableLabel) snap)
    (h : Backend.variables maxInt core start count filter = .ok vs) :
    Shows maxInt (selected filter snap) (start, count) (vs.map variableLabel) := by
  obtain ⟨page, hpage, h⟩ := bind_eq_ok.mp h
  obtain ⟨res, hresult, h⟩ := bind_eq_ok.mp h
  obtain ⟨kept, hkp, h⟩ := bind_eq_ok.mp h
  have hpage := mapError_eq_ok.mp hpage
  have hresult := mapError_eq_ok.mp hresult
  have hfits := (dapPage_ok hpage).1
  have hshown := filteredVariables_ok hkp
  refine ⟨page, hpage, ?_⟩
  cases h
  by_cases hfilter : filter = ""
  · subst hfilter
    exact hshown.trans (hcore page res hfits hresult)
  rw [if_pos hfilter] at hresult ⊢
  -- the widest page shows the complete snapshot
  have hwide : Fits maxInt ⟨0, maxInt⟩ := Asks.fits ⟨start, count, page, hpage, .inr rfl⟩
  have hal : res.vars.map variableLabel = _ := hcore _ res hwide hresult
  rw [(hwide.slices snap).1, Int.toNat_zero, drop_zero,
    take_of_length_le (by dsimp only; omega)] at hal
  rw [(hfits.slices kept).2, hfits.map_slice, hshown, hal]

/-! ### The inspection service -/

variable {backend : Inspection.Backend} {stop : StopContext} {core : Int} {l : Ledger Payload}

lemma serve_ok {p : Inspect α} {q : α → Inspect β} {b : β}
    (h : (serve backend (p >>= q) l).2 = .ok b) :
    ∃ l' a, serve backend p l = (l', .ok a) ∧ (serve backend (q a) l').2 = .ok b := by
  rw [serve_bind] at h
  generalize serve backend p l = answer at h ⊢
  obtain ⟨l', r⟩ := answer
  cases r with
  | ok a => exact ⟨l', a, rfl, h⟩
  | error => cases h

variable {mapper : SourceMapper} {raws : List RawFrame}

lemma frameLabel_makeFrames {frames : List Frame}
    (h : (serve backend (makeFrames mapper stop core raws) l).2 = .ok frames) :
    frames.map frameLabel = raws.map (rawFrameLabel mapper stop core) := by
  induction raws generalizing l frames with
  | nil =>
    cases h
    rfl
  | cons raw raws ih =>
    obtain ⟨l₁, frame, hframe, h⟩ := serve_ok h
    obtain ⟨l₂, rest, hrs, h⟩ := serve_ok h
    have hframe := congrArg snd hframe
    obtain ⟨_, _, _, hframe⟩ := serve_ok hframe
    obtain ⟨_, src, hsource, hframe⟩ := serve_ok hframe
    obtain ⟨_, id, _, hframe⟩ := serve_ok hframe
    cases h
    cases hframe
    have hsource : (if raw.debugPath = "" then _ else _) = Except.ok src := congrArg snd hsource
    rw [map_cons, map_cons, ih (congrArg snd hrs)]
    unfold frameLabel rawFrameLabel
    congr
    split_ifs at hsource ⊢ with hpath
    · cases hsource
      rfl
    · cases hmap : mapper raw.debugPath with
      | error => simp [hmap] at hsource
      | ok => simpa [hmap, Except.toOption] using hsource.symm

lemma variableLabel_makeVariable {raw : RawValue} {locator : ValueLocator} {val : Variable}
    (h : (serve backend (makeVariable stop core raw locator) l).2 = .ok val) :
    variableLabel val = rawLabel raw := by
  obtain ⟨_, _, _, h⟩ := serve_ok h
  dsimp only at h
  split at h
  · cases h
    rfl
  obtain ⟨_, id, _, h⟩ := serve_ok h
  cases h
  rfl

lemma variableLabel_makeVariables {h : Handle Payload} {raws : List RawValue}
    (hok : (serve backend (makeVariables stop h raws) l).2 = .ok vs) :
    vs.map variableLabel = raws.map rawLabel := by
  induction raws generalizing l vs with
  | nil =>
    cases hok
    rfl
  | cons raw raws ih =>
    obtain ⟨_, locator, _, hok⟩ := serve_ok hok
    obtain ⟨_, val, hvalue, hok⟩ := serve_ok hok
    obtain ⟨_, rest, hrs, hok⟩ := serve_ok hok
    cases hok
    rw [map_cons, map_cons, ih (congrArg snd hrs),
      variableLabel_makeVariable (congrArg snd hvalue)]

/-- The debugger answers with the same values whatever page it is asked for. -/
def Complete (backend : Inspection.Backend) (h : Handle Payload) (format : Format)
    (values : List RawValue) : Prop :=
  ∀ page text l raw, (serve backend (rawValues h page format text) l).2 = .ok raw →
    raw.values = values

def stackPage (backend : Inspection.Backend) (mapper : SourceMapper) (stop : StopContext)
    (core : Int) (l : Ledger Payload) (page : Page) : Except Error Stack :=
  (serve backend (stack mapper stop core page) l).2

def valuePage (backend : Inspection.Backend) (stop : StopContext) (reference : Int)
    (format : Format) (l : Ledger Payload) (page : Page) : Except Error VariablePage :=
  (serve backend (Inspection.variablePage stop reference page format) l).2

lemma serves_stack (hraws : backend (.stack core) = .ok raws) :
    Serves maxInt (stackPage backend mapper stop core l) (·.frames.map frameLabel)
      (raws.map (rawFrameLabel mapper stop core)) := by
  intro page res hfits h
  obtain ⟨_, _, _, h⟩ := serve_ok h
  obtain ⟨_, ans, hanswer, h⟩ := serve_ok h
  obtain ⟨_, _, _, h⟩ := serve_ok h
  obtain ⟨_, frames, hframes, h⟩ := serve_ok h
  cases h
  have hanswer : (backend (.stack core)).mapError _ = .ok ans := congrArg snd hanswer
  obtain rfl : raws = ans := Except.ok.inj (hraws.symm.trans (mapError_eq_ok.mp hanswer))
  exact (frameLabel_makeFrames (congrArg snd hframes)).trans (hfits.map_slice _ _)

lemma serves_variablePage {h : Handle Payload} {ref : Int} {format : Format}
    {vs : List RawValue} (hh : (serve backend (resolveHandle ref stop) l).2 = .ok h)
    (hvalues : Complete backend h format vs) :
    Serves maxInt (valuePage backend stop ref format l) (·.vars.map variableLabel)
      (vs.map rawLabel) := by
  intro page res hfits hok
  obtain ⟨l₁, _, hpage, hok⟩ := serve_ok hok
  obtain ⟨l₂, _, hformat, hok⟩ := serve_ok hok
  obtain rfl : l = l₁ := congrArg fst hpage
  obtain rfl : l = l₂ := congrArg fst hformat
  obtain ⟨_, h', hh', hok⟩ := serve_ok hok
  obtain rfl : h = h' := Except.ok.inj (hh.symm.trans (congrArg snd hh'))
  split_ifs at hok with hkd hcount
  · cases hok
  · cases hok
    rw [(hfits.slices _).1, hcount, Int.toNat_zero, take_zero]
    rfl
  obtain ⟨_, raw, hraw, hok⟩ := serve_ok hok
  obtain ⟨_, _, _, hok⟩ := serve_ok hok
  obtain ⟨_, _, _, hok⟩ := serve_ok hok
  obtain ⟨_, vars, hvars, hok⟩ := serve_ok hok
  cases hok
  rw [← hvalues _ _ _ _ (congrArg snd hraw)]
  exact (variableLabel_makeVariables (congrArg snd hvars)).trans (hfits.map_slice _ _)

/-- Pages that cover a snapshot show it in order, and those of a filtered request show the filtered
snapshot, for every size of the platform's integers. The pages the daemon asks for and the bounds of
their slices stay in range. The sessions that answer may differ from page to page; the inspection
service is such a session. -/
theorem pages_cover_snapshot (maxInt : Int) :
    (∀ start count, (∃ page, dapPage maxInt start count = .ok page) ↔
      (start.toNat : Int) + count.toNat ≤ maxInt) ∧ (∀ page, Asks maxInt page → Fits maxInt page ∧
      (∀ total, 0 ≤ (pageBounds page total).1 ∧
        (pageBounds page total).1 ≤ (pageBounds page total).2 ∧ (pageBounds page total).2 ≤ total) ∧
      ∀ {α : Type} (values : List α), page.slice values =
        (values.take (pageBounds page values.length).2.toNat).drop
          (pageBounds page values.length).1.toNat) ∧
    (∀ (snapshot : List Frame) pages answers, snapshot.length ≤ maxInt →
      Covers snapshot.length 0 pages → List.Forall₂ (fun request part => ∃ core,
        Serves maxInt core (·.frames.map frameLabel) snapshot ∧
        Backend.stack maxInt core request.1 request.2 = .ok part) pages answers →
      answers.flatten.map frameLabel = snapshot) ∧
    (∀ (snapshot : List Variable) filter pages answers,
      snapshot.length ≤ maxInt → Covers (selected filter snapshot).length 0 pages →
      List.Forall₂ (fun request part => ∃ core,
        Serves maxInt core (·.vars.map variableLabel) snapshot ∧
        Backend.variables maxInt core request.1 request.2 filter = .ok part) pages answers →
      answers.flatten.map variableLabel = selected filter snapshot) ∧
    (∀ backend mapper stop core l raws, backend (.stack core) = .ok raws →
      Serves maxInt (stackPage backend mapper stop core l) (·.frames.map frameLabel)
        (raws.map (rawFrameLabel mapper stop core))) ∧ (∀ backend stop reference format l h values,
      (serve backend (resolveHandle reference stop) l).2 = .ok h →
      Complete backend h format values → Serves maxInt (valuePage backend stop reference format l)
        (·.vars.map variableLabel) (values.map rawLabel)) := by
  refine ⟨dapPage_accepts maxInt, ?_, ?_, ?_, fun _ _ _ _ _ _ h => serves_stack h,
    fun _ _ _ _ _ _ _ hh h => serves_variablePage hh h⟩
  · intro page hasks
    exact ⟨hasks.fits, hasks.fits.bounds, hasks.fits.slice_eq⟩
  · intro snapshot pages answers hlength hcovers hanswers
    rw [map_flatten]
    refine hcovers.flatten hlength (forall₂_map_right_iff.mpr (hanswers.imp ?_))
    rintro request part ⟨core, hcore, hpart⟩
    exact Backend.stack_shows hcore hpart
  intro snapshot filter pages answers hlength hcovers hanswers
  have hkp : ((selected filter snapshot).length : Int) ≤ maxInt := by
    refine le_trans (Int.ofNat_le.mpr ?_) hlength
    unfold selected
    split_ifs
    · exact length_filter_le _ _
    · exact length_filter_le _ _
    · exact le_rfl
  rw [map_flatten]
  refine hcovers.flatten hkp (forall₂_map_right_iff.mpr (hanswers.imp ?_))
  rintro request part ⟨core, hcore, hpart⟩
  exact Backend.variables_shows hlength hcore hpart

theorem pages_cover_snapshot_two : ∃ first second,
    Backend.stack 100 (stackPage twoFrames (.ok { key := · }) ⟨true, 1⟩ 0 {}) 0 1 = .ok first ∧
    Backend.stack 100 (stackPage twoFrames (.ok { key := · }) ⟨true, 1⟩ 0 {}) 1 0 = .ok second ∧
    ([first, second].flatten.map frameLabel).map (·.name) = ["main", "start"] := by
  have h := pages_cover_snapshot 100
  have hserves := h.2.2.2.2.1 twoFrames (.ok { key := · }) ⟨true, 1⟩ 0 {} _ rfl
  refine ⟨_, _, rfl, rfl, ?_⟩
  rw [h.2.2.1 _ [(0, 1), (1, 0)] _ (by decide) (@Covers.next _ 0 1 _ (by decide) (.rest 1))
    (.cons ⟨_, hserves, rfl⟩ (.cons ⟨_, hserves, rfl⟩ .nil))]
  rfl

end MultiDap.Daemon
