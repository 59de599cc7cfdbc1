import MultiDap.Inspection.Service

/-!
# Requests that fail

A request that fails, and not for want of handles, leaves the handle store as it was, with one
exception. The frames of a stack are mapped to their sources one by one, each right before its
handle is minted: when a later frame of the page cannot be mapped, the handles of the frames before
it stay behind.
-/

namespace MultiDap.Inspection

open Machine Handle Source List

/-- What the backend answers to every query. -/
abbrev Backend := (query : Query) → query.Answer

variable {α β : Type} {backend : Backend} {mapper : SourceMapper} {stop : StopContext} {core : Int}
  {l : Ledger Payload}

def serve (backend : Backend) (p : Inspect α) (l : Ledger Payload) :
    Ledger Payload × Except Error α :=
  p.run.eval backend l

/-- A request that fails, and not for want of handles, leaves the store as it was. -/
def Intact (backend : Backend) (p : Inspect α) (l : Ledger Payload) : Prop :=
  ∀ err, (serve backend p l).2 = .error err → err.is .handlesExhausted = false →
    (serve backend p l).1.store = l.store

lemma serve_bind (p : Inspect α) (q : α → Inspect β) (l : Ledger Payload) :
    serve backend (p >>= q) l =
      match serve backend p l with
      | (l', .ok a) => serve backend (q a) l'
      | (l', .error err) => (l', .error err) := by
  change Prog.eval backend (p.run >>= ExceptT.bindCont fun a => (q a).run) l = _
  rw [Prog.eval_bind]
  unfold serve
  obtain ⟨l', r⟩ := Prog.eval backend p.run l
  cases r with
  | ok => rfl
  | error => rfl

/-! ### Parts that only look -/

def Looks (p : Inspect α) : Prop := ∀ backend l, (serve backend p l).1 = l

@[simp] lemma serve_liftExcept (r : Except Error α) : serve backend (liftExcept r) l = (l, r) := rfl

lemma looks_liftExcept (r : Except Error α) : Looks (liftExcept r) := fun _ _ => rfl

lemma looks_resolveHandle (id : Int) : Looks (resolveHandle id stop) := fun _ _ => rfl

lemma looks_query (q : Query) (hq : q.Answer = Except Error α) (ctx : String) :
    Looks (query q hq ctx) := fun _ _ => rfl

variable {p : Inspect α} {q : α → Inspect β}

lemma Looks.bind (h : Looks p) (hq : ∀ a, Looks (q a)) : Looks (p >>= q) := by
  intro backend l
  have hp := h backend l
  rw [serve_bind]
  generalize serve backend p l = answer at hp
  obtain ⟨l', r⟩ := answer
  obtain rfl : l' = l := hp
  cases r with
  | ok a => exact hq a backend l'
  | error => rfl

lemma looks_resolveFrame (id : Int) : Looks (resolveFrame id stop) :=
  (looks_resolveHandle id).bind fun _ => looks_liftExcept _

lemma looks_rawValues (h : Handle Payload) (page : Page) (format : Format) (ctx : String) :
    Looks (rawValues h page format ctx) := by
  unfold rawValues
  split
  · exact looks_query _ _ _
  · exact looks_liftExcept _
  · exact looks_query _ _ _
  · exact looks_liftExcept _

lemma intact_bind (h : Looks p) (hq : ∀ a, (serve backend p l).2 = .ok a → Intact backend (q a) l) :
    Intact backend (p >>= q) l := by
  have hp := h backend l
  intro err
  rw [serve_bind]
  generalize serve backend p l = answer at hp hq
  obtain ⟨l', r⟩ := answer
  obtain rfl : l' = l := hp
  cases r with
  | ok a => exact hq a rfl err
  | error => exact fun _ _ => rfl

/-! ### Parts that only fail for want of handles -/

def Spends (p : Inspect α) : Prop :=
  ∀ backend l err, (serve backend p l).2 = .error err → err.is .handlesExhausted = true

lemma Spends.intact (h : Spends p) : Intact backend p l := by
  intro err hrr hno
  rw [h backend l err hrr] at hno
  cases hno

lemma spends_pure (a : α) : Spends (pure a : Inspect α) := nofun

lemma Spends.bind (h : Spends p) (hq : ∀ a, Spends (q a)) : Spends (p >>= q) := by
  intro backend l err
  have hp := h backend l
  rw [serve_bind]
  generalize serve backend p l = answer at hp
  obtain ⟨l', r⟩ := answer
  cases r with
  | ok a => exact hq a backend l' err
  | error =>
    intro hrr
    cases hrr
    exact hp err rfl

/-- What minting a handle does to the store. -/
inductive Mint (s : Store Payload) : Store Payload → Except Error α → Prop where
  | minted {t : Store Payload} (a : α) (hop : 0 < s.next)
      (hnx : t.next = if s.next = maxID then 0 else s.next + 1) : Mint s t (.ok a)
  | refused {t : Store Payload} (err : Error) (hexh : err.is .handlesExhausted = true)
      (hfull : s.next ≤ 0) : Mint s t (.error err)

lemma mint_alloc (backend : Backend) (stop : StopContext) (core : Int) (l : Ledger Payload)
    (kind : Kind) (val : Payload) (noun : String) :
    Mint l.store (serve backend (alloc kind core stop val noun) l).1.store
      (serve backend (alloc kind core stop val noun) l).2 := by
  have hser : serve backend (alloc kind core stop val noun) l =
      ((l.alloc kind core stop.stopEpoch val).1,
        (l.alloc kind core stop.stopEpoch val).2.mapError
          (.under s!"inspection: allocate {noun}")) :=
    rfl
  rw [hser, Ledger.alloc, Store.alloc]
  by_cases hnx : l.store.next ≤ 0
  · simp only [if_pos hnx]
    exact .refused _ rfl hnx
  · simp only [if_neg hnx]
    exact .minted _ (Int.not_le.mp hnx) rfl

lemma spends_alloc (kind : Kind) (val : Payload) (noun : String) :
    Spends (alloc kind core stop val noun) := by
  intro backend l err hrr
  cases hrr ▸ mint_alloc backend stop core l kind val noun with
  | refused _ hexh => exact hexh

lemma spends_makeScopes (raws : List RawScope) : Spends (makeScopes stop core raws) := by
  induction raws with
  | nil => exact spends_pure _
  | cons _ _ ih => exact (spends_alloc _ _ _).bind fun _ => ih.bind fun _ => spends_pure _

lemma intact_makeVariable (raw : RawValue) (locator : ValueLocator) :
    Intact backend (makeVariable stop core raw locator) l := by
  refine intact_bind (looks_liftExcept _) fun _ _ => Spends.intact ?_
  split_ifs
  · exact spends_pure _
  · exact (spends_alloc _ _ _).bind fun _ => spends_pure _

lemma spends_liftExcept_ok (a : α) : Spends (liftExcept (.ok a)) := nofun

lemma spends_makeVariable {raw : RawValue} (hva : validateRawValue raw = .ok ())
    (locator : ValueLocator) : Spends (makeVariable stop core raw locator) := by
  unfold makeVariable
  rw [hva]
  refine (spends_liftExcept_ok ()).bind fun _ => ?_
  split_ifs
  · exact spends_pure _
  · exact (spends_alloc _ _ _).bind fun _ => spends_pure _

lemma spends_makeVariables {h : Handle Payload} {raws : List RawValue}
    (hva : ∀ raw ∈ raws, validateRawValue raw = .ok () ∧
      ∃ locator, locatorFor h.kind h.value raw.name raw.access = .ok locator) :
    Spends (makeVariables stop h raws) := by
  induction raws with
  | nil => exact spends_pure _
  | cons raw _ ih =>
    obtain ⟨hraw, locator, hloc⟩ := hva raw mem_cons_self
    unfold makeVariables
    rw [hloc]
    exact (spends_liftExcept_ok locator).bind fun _ => (spends_makeVariable hraw _).bind fun _ =>
      (ih fun raw hraw => hva raw (mem_cons_of_mem _ hraw)).bind fun _ => spends_pure _

lemma forM_ok {check : α → Except Error Unit} {vs : List α}
    (h : vs.forM check = .ok ()) : ∀ a ∈ vs, check a = .ok () := by
  induction vs with
  | nil => simp
  | cons _ _ ih =>
    obtain ⟨_, ha, hrs⟩ := bind_eq_ok.mp h
    exact forall_mem_cons.mpr ⟨ha, ih hrs⟩

variable {page : Page}

lemma mem_slice {vs : List α} {a : α} (h : a ∈ page.slice vs) : a ∈ vs := by
  unfold Page.slice at h
  split_ifs at h
  · cases h
  · exact mem_of_mem_drop (mem_of_mem_take h)

lemma intact_scopes (frameID : Int) : Intact backend (scopes stop frameID) l :=
  intact_bind (looks_resolveFrame _) fun _ _ => intact_bind (looks_query _ _ _) fun _ _ =>
    intact_bind (looks_liftExcept _) fun _ _ => (spends_makeScopes _).intact

lemma intact_evaluate (frameID : Int) (expression : Expression) (format : Format) :
    Intact backend (evaluate stop frameID expression format) l := by
  unfold evaluate
  split_ifs
  · exact fun _ _ _ => rfl
  · exact intact_bind (looks_liftExcept _) fun _ _ => intact_bind (looks_resolveFrame _) fun _ _ =>
      intact_bind (looks_query _ _ _) fun _ _ => intact_makeVariable _ _

lemma intact_variablePage (ref : Int) (page : Page) (format : Format) :
    Intact backend (variablePage stop ref page format) l := by
  refine intact_bind (looks_liftExcept _) fun _ _ => intact_bind (looks_liftExcept _) fun _ _ =>
    intact_bind (looks_resolveHandle _) fun h _ => ?_
  split_ifs
  · exact fun _ _ _ => rfl
  · exact fun _ _ _ => rfl
  refine intact_bind (looks_rawValues _ _ _ _) fun raw _ => intact_bind (looks_liftExcept _)
    fun _ _ => intact_bind (looks_liftExcept _) fun _ hche => Spends.intact ?_
  refine (spends_makeVariables fun val hvalue => ?_).bind fun _ => spends_pure _
  obtain ⟨_, hva, hloc⟩ := bind_eq_ok.mp (forM_ok hche val (mem_slice hvalue))
  obtain ⟨locator, hloc, -⟩ := bind_eq_ok.mp hloc
  exact ⟨hva, locator, hloc⟩

/-! ### The frames of a stack -/

def Mapped (mapper : SourceMapper) (raw : RawFrame) : Prop :=
  raw.debugPath = "" ∨ ∃ identity, mapper raw.debugPath = .ok identity

/-- That many handles can still be minted. -/
def Room (s : Store Payload) (n : Nat) : Prop :=
  0 < n → 0 < s.next ∧ (s.next ≤ maxID → s.next + n ≤ maxID + 1)

/-- The first frame that cannot be mapped, with the frames before it, for which there is room. -/
structure Unmapped (mapper : SourceMapper) (s : Store Payload) (shown front : List RawFrame)
    (err : Error) : Prop where
  split : ∃ raw rest, shown = front ++ raw :: rest ∧ raw.debugPath ≠ "" ∧
    mapper raw.debugPath = .error err
  mapped : ∀ raw ∈ front, Mapped mapper raw
  room : Room s front.length

/-- Handles are minted for some frames of the page, and then one cannot be mapped. -/
def Strands (mapper : SourceMapper) (s : Store Payload) (shown : List RawFrame) : Prop :=
  ∃ front err, Unmapped mapper s shown front err ∧ front ≠ [] ∧ err.is .handlesExhausted = false

lemma mint_named (kind : Kind) (val : Payload) (noun : String) (f : Int → α) :
    Mint l.store (serve backend (alloc kind core stop val noun >>= fun id => pure (f id)) l).1.store
      (serve backend (alloc kind core stop val noun >>= fun id => pure (f id)) l).2 := by
  have hmint := mint_alloc backend stop core l kind val noun
  rw [serve_bind]
  generalize serve backend (alloc kind core stop val noun) l = answer at hmint ⊢
  obtain ⟨l', r⟩ := answer
  cases hmint with
  | minted _ hop hnx => exact .minted _ hop hnx
  | refused err hexh hfull => exact .refused err hexh hfull

lemma makeFrame_mapped {raw : RawFrame} (hname : raw.name ≠ "") (h : Mapped mapper raw) :
    Mint l.store (serve backend (makeFrame mapper stop core raw) l).1.store
      (serve backend (makeFrame mapper stop core raw) l).2 := by
  have hva : validateRawFrame raw = .ok () := if_neg hname
  unfold makeFrame
  rw [hva]
  by_cases hpath : raw.debugPath = ""
  · rw [if_pos hpath]
    exact mint_named _ _ _ _
  obtain ⟨identity, hmap⟩ := h.resolve_left hpath
  rw [if_neg hpath, hmap]
  exact mint_named _ _ _ _

variable {err : Error}

lemma makeFrame_unmapped {raw : RawFrame} (hname : raw.name ≠ "")
    (hpath : raw.debugPath ≠ "") (hmap : mapper raw.debugPath = .error err) :
    serve backend (makeFrame mapper stop core raw) l =
      (l, .error (.under s!"inspection: map source {raw.debugPath.quote}" err)) := by
  have hva : validateRawFrame raw = .ok () := if_neg hname
  unfold makeFrame
  rw [hva, if_neg hpath, hmap]
  rfl

lemma mapped_or (mapper : SourceMapper) (raw : RawFrame) :
    Mapped mapper raw ∨ raw.debugPath ≠ "" ∧ ∃ err, mapper raw.debugPath = .error err := by
  unfold Mapped
  by_cases hpath : raw.debugPath = ""
  · exact .inl (.inl hpath)
  cases hmap : mapper raw.debugPath with
  | ok identity => exact .inl (.inr ⟨identity, rfl⟩)
  | error err => exact .inr ⟨hpath, err, rfl⟩

lemma Room.minted {s t : Store Payload} {n : Nat} (hop : 0 < s.next)
    (hnx : t.next = if s.next = maxID then 0 else s.next + 1) : Room t n ↔ Room s (n + 1) := by
  unfold Room
  rw [hnx]
  have hmax : (0 : Int) < maxID := by decide
  split_ifs <;> omega

lemma serve_makeFrames_cons (raw : RawFrame) (raws : List RawFrame) :
    serve backend (makeFrames mapper stop core (raw :: raws)) l =
      match serve backend (makeFrame mapper stop core raw) l with
      | (l', .ok frame) =>
        let (l'', result) := serve backend (makeFrames mapper stop core raws) l'
        (l'', result.map (frame :: ·))
      | (l', .error err) => (l', .error err) := by
  rw [makeFrames, serve_bind]
  obtain ⟨l', r⟩ := serve backend (makeFrame mapper stop core raw) l
  cases r with
  | error => rfl
  | ok =>
    dsimp only
    rw [serve_bind]
    obtain ⟨l'', r⟩ := serve backend (makeFrames mapper stop core raws) l'
    cases r with
    | error => rfl
    | ok => rfl

lemma makeFrames_unmapped {shown front : List RawFrame}
    (hnam : ∀ raw ∈ shown, raw.name ≠ "") (h : Unmapped mapper l.store shown front err) :
    ∃ l' text, serve backend (makeFrames mapper stop core shown) l =
      (l', .error (.under text err)) ∧
      (front ≠ [] → l'.store.next = 0 ∨ l.store.next < l'.store.next) ∧ (front = [] → l' = l) := by
  induction front generalizing shown l with
  | nil =>
    obtain ⟨raw, rest, rfl, hpath, hmap⟩ := h.split
    refine ⟨l, s!"inspection: map source {raw.debugPath.quote}", ?_, fun hne => absurd rfl hne,
      fun _ => rfl⟩
    rw [nil_append, serve_makeFrames_cons, makeFrame_unmapped (hnam raw mem_cons_self) hpath hmap]
  | cons first front ih =>
    obtain ⟨raw, rest, rfl, hpath, hmap⟩ := h.split
    obtain ⟨hop, -⟩ := h.room (Nat.succ_pos _)
    have hmint : Mint l.store (serve backend (makeFrame mapper stop core first) l).1.store
        (serve backend (makeFrame mapper stop core first) l).2 :=
      makeFrame_mapped (hnam first mem_cons_self) (h.mapped first mem_cons_self)
    rw [cons_append, serve_makeFrames_cons]
    generalize serve backend (makeFrame mapper stop core first) l = answer at hmint
    obtain ⟨l₁, r⟩ := answer
    cases hmint with
    | refused _ _ hfull => exact absurd hop (Int.not_lt.mpr hfull)
    | minted _ _ hnx =>
      have hrs : Unmapped mapper l₁.store (front ++ raw :: rest) front err :=
        ⟨⟨raw, rest, rfl, hpath, hmap⟩, fun f hf => h.mapped f (mem_cons_of_mem _ hf),
          (Room.minted hop hnx).mpr h.room⟩
      have hnamed : ∀ f ∈ front ++ raw :: rest, f.name ≠ "" :=
        fun f hf => hnam f (mem_cons_of_mem _ hf)
      obtain ⟨l', text, hser, hne, heq⟩ := ih hnamed hrs
      refine ⟨l', text, ?_, fun _ => ?_, nofun⟩
      · dsimp only
        rw [hser]
        rfl
      -- the allocator only moves forward, until it is closed
      by_cases hfro : front = []
      · rw [heq hfro, hnx]
        split_ifs <;> omega
      have := (hrs.room (length_pos_iff.mpr hfro)).1
      rw [hnx] at this hne
      split_ifs at this hne <;> have := hne hfro <;> omega

lemma unmapped_of_makeFrames {shown : List RawFrame} (hnam : ∀ raw ∈ shown, raw.name ≠ "")
    (h : (serve backend (makeFrames mapper stop core shown) l).2 = .error err)
    (hno : err.is .handlesExhausted = false) :
    ∃ front cause, Unmapped mapper l.store shown front cause := by
  induction shown generalizing l with
  | nil => cases h
  | cons raw raws ih =>
    rcases mapped_or mapper raw with hmapp | ⟨hpath, cause, hmap⟩
    · have hmint : Mint l.store (serve backend (makeFrame mapper stop core raw) l).1.store
          (serve backend (makeFrame mapper stop core raw) l).2 :=
        makeFrame_mapped (hnam raw mem_cons_self) hmapp
      rw [serve_makeFrames_cons] at h
      generalize serve backend (makeFrame mapper stop core raw) l = answer at hmint h
      obtain ⟨l₁, r⟩ := answer
      cases hmint with
      | refused _ hexh =>
        cases h
        simp [hexh] at hno
      | minted _ hop hnx =>
        have hrr : (serve backend (makeFrames mapper stop core raws) l₁).2 = .error err := by
          dsimp only at h
          generalize (serve backend (makeFrames mapper stop core raws) l₁).2 = r at h ⊢
          cases r with
          | error => cases h; rfl
          | ok => cases h
        obtain ⟨front, cause, ⟨raw', rest, rfl, hpath, hmap⟩, hfro, hroom⟩ :=
          ih (fun f hf => hnam f (mem_cons_of_mem _ hf)) hrr
        exact ⟨raw :: front, cause, ⟨raw', rest, rfl, hpath, hmap⟩,
          forall_mem_cons.mpr ⟨hmapp, hfro⟩, (Room.minted hop hnx).mp hroom⟩
    · exact ⟨[], cause, ⟨raw, raws, rfl, hpath, hmap⟩, by simp, fun hlt => absurd hlt (by simp)⟩

/-- The frames that a stack request makes handles for. -/
structure Shows (backend : Backend) (stop : StopContext) (core : Int) (page : Page)
    (raws : List RawFrame) : Prop where
  request : validateRequest stop page .default = .ok ()
  answer : backend (.stack core) = .ok raws
  frames : raws.forM validateRawFrame = .ok ()

lemma Shows.names {raws : List RawFrame} (h : Shows backend stop core page raws) :
    ∀ raw ∈ page.slice raws, raw.name ≠ "" := by
  intro raw hraw hname
  have hva := forM_ok h.frames raw (mem_slice hraw)
  rw [validateRawFrame, if_pos hname] at hva
  cases hva

lemma serve_stack (mapper : SourceMapper) (l : Ledger Payload) {raws : List RawFrame}
    (h : Shows backend stop core page raws) : serve backend (stack mapper stop core page) l =
      let (l', result) := serve backend (makeFrames mapper stop core (page.slice raws)) l
      (l', result.map fun frames => ⟨frames, raws.length⟩) := by
  unfold stack
  have hque : serve backend (query (.stack core) rfl s!"inspection: stack core={core}") l =
      (l, .ok raws) := by
    change (l, Except.mapError _ (backend (.stack core))) = _
    rw [h.answer]
    rfl
  rw [h.request, serve_bind]
  dsimp only [serve_liftExcept]
  rw [serve_bind, hque]
  dsimp only
  rw [h.frames, serve_bind]
  dsimp only [serve_liftExcept]
  rw [serve_bind]
  obtain ⟨l', r⟩ := serve backend (makeFrames mapper stop core (page.slice raws)) l
  cases r with
  | ok => rfl
  | error => rfl

lemma intact_stack_of_not_shows (h : ∀ raws, ¬ Shows backend stop core page raws) :
    Intact backend (stack mapper stop core page) l := by
  refine intact_bind (looks_liftExcept _) fun _ hre => intact_bind (looks_query _ _ _)
    fun raws hans => intact_bind (looks_liftExcept _) fun _ hfra => ?_
  refine absurd ⟨hre, ?_, hfra⟩ (h raws)
  change Except.mapError _ (backend (.stack core)) = _ at hans
  cases hba : backend (.stack core) with
  | ok =>
    rw [hba] at hans
    exact hans
  | error =>
    rw [hba] at hans
    cases hans

theorem requests_leave_handles (backend : Backend) (mapper : SourceMapper) (stop : StopContext)
    (l : Ledger Payload) : (∀ core page, Intact backend (stack mapper stop core page) l ↔
      ¬ ∃ raws, Shows backend stop core page raws ∧ Strands mapper l.store (page.slice raws)) ∧
    (∀ frameID, Intact backend (scopes stop frameID) l) ∧
    (∀ reference page format, Intact backend (variablePage stop reference page format) l) ∧
    ∀ frameID expression format, Intact backend (evaluate stop frameID expression format) l := by
  refine ⟨fun core page => ⟨?_, fun hno => ?_⟩, intact_scopes, intact_variablePage, intact_evaluate⟩
  · rintro hint ⟨raws, hsho, front, err, hunm, hfro, hno⟩
    obtain ⟨l', text, hser, hmov, -⟩ := makeFrames_unmapped hsho.names hunm
    have hst := serve_stack mapper l hsho
    rw [hser] at hst
    have hsto : (serve backend (stack mapper stop core page) l).1.store = l.store :=
      hint (.under text err) (congrArg Prod.snd hst) hno
    rw [hst] at hsto
    have hnx : l'.store.next = l.store.next := congrArg Store.next hsto
    have hop := (hunm.room (length_pos_iff.mpr hfro)).1
    have := hmov hfro
    omega
  · by_cases hsho : ∃ raws, Shows backend stop core page raws
    · obtain ⟨raws, hsho⟩ := hsho
      intro err hrr hexh
      have hst := serve_stack mapper l hsho
      rw [hst] at hrr ⊢
      dsimp only at hrr ⊢
      have hfra : (serve backend (makeFrames mapper stop core (page.slice raws)) l).2 =
          .error err := by
        generalize (serve backend (makeFrames mapper stop core (page.slice raws)) l).2 = r at hrr ⊢
        cases r with
        | error => cases hrr; rfl
        | ok => cases hrr
      obtain ⟨front, cause, hunm⟩ := unmapped_of_makeFrames hsho.names hfra hexh
      obtain ⟨l', text, hser, -, hsm⟩ := makeFrames_unmapped hsho.names hunm
      rw [hser] at hfra ⊢
      obtain rfl : Error.under text cause = err := Except.error.inj hfra
      have hfro : front = [] :=
        by_contra fun hne => hno ⟨raws, hsho, front, cause, hunm, hne, hexh⟩
      rw [hsm hfro]
    · exact intact_stack_of_not_shows (not_exists.mp hsho)

/-- Two frames, of which the second was compiled from a file that is not in the source map. -/
def twoFrames : Backend
  | .stack _ => .ok [{ index := 0, name := "main", debugPath := "main.c", line := 10 },
      { index := 1, name := "start", debugPath := "crt0.s" }]
  | .scopes _ _ => .ok []
  | .locals _ _ _ _ => .ok ⟨[], 0⟩
  | .children _ _ _ _ => .ok ⟨[], 0⟩
  | .evaluate _ _ _ _ => .error (.new "unsupported")

def mainOnly : SourceMapper := fun path =>
  if path = "main.c" then .ok { key := path } else .error (.new s!"unmapped {path}")

theorem stack_strands_frame : ¬ Intact twoFrames (stack mainOnly ⟨true, 1⟩ 0 ⟨0, 2⟩) {} := by
  intro h
  have hsto := congrArg Store.next (h _ rfl rfl)
  exact absurd hsto (by decide)

end MultiDap.Inspection
