import MultiDap.Breakpoint.Run

/-!
# The answer to a setBreakpoints request

The store sorts the requested lines and drops duplicates. The daemon looks each requested line up in
its result, and answers in the client's own order and numbering.
-/

namespace MultiDap.Daemon

open Machine Breakpoint Source List Function

structure DapBreakpoint (σ : Type) where
  id : Int := 0
  verified : Bool
  message : String
  source : σ
  line : Int

section

variable {σ : Type} (maxInt : Int) (linesStartAt1 : Bool) (dapSource : Identity → Except Error σ)

def canonicalLine (line : Int) : Except Error Int :=
  if !linesStartAt1 ∧ line = 2 ^ 63 - 1 then .error (.new "line overflows canonical numbering")
  else
    let line := if linesStartAt1 then line else line + 1
    if line ≤ 0 ∨ line > maxInt then .error (.new s!"line {line} is outside the canonical range")
    else .ok line

def dapLine (line : Int) : Int := if !linesStartAt1 ∧ 0 < line then line - 1 else line

/-- One round of the loop over the result of the store. -/
def byLine (table : Int → Option (DapBreakpoint σ)) (candidate : Logical) :
    Except Error (Int → Option (DapBreakpoint σ)) :=
  if candidate.dapID ≤ 0 ∨ candidate.dapID > 2 ^ 31 - 1 then
    .error (.new s!"daemon: breakpoint ID {candidate.dapID} cannot be represented by DAP")
  else if (table candidate.line).isSome then
    .error (.new s!"daemon: actor returned duplicate result for source line {candidate.line}")
  else
    match dapSource candidate.source with
    | .error err => .error (.under "daemon: map breakpoint source" err)
    | .ok source => .ok (Function.update table candidate.line (some
        { id := candidate.dapID, verified := candidate.verified, message := candidate.message
          source, line := dapLine linesStartAt1 candidate.line }))

def lookup (table : Int → Option (DapBreakpoint σ)) (line : Int) : Except Error (DapBreakpoint σ) :=
  match table line with
  | none =>
    .error (.new s!"daemon: actor did not return a breakpoint result for source line {line}")
  | some candidate => .ok candidate

def dapBreakpoints (logical : List Logical) (requested : List Int) :
    Except Error (List (DapBreakpoint σ)) := do
  let table ← logical.foldlM (byLine linesStartAt1 dapSource) fun _ => none
  requested.mapM (lookup table)

def unverifiedBreakpoints (identity : Identity) (requested : List Int) (message : String) :
    Except Error (List (DapBreakpoint σ)) := do
  let source ← (dapSource identity).mapError (.under "daemon: map unverified breakpoint source")
  return requested.map fun line =>
    { verified := false, message, source, line := dapLine linesStartAt1 line }

def canonicalLines (asked : List Int) : Except Error (List Int) :=
  asked.zipIdx.mapM fun (line, index) =>
    (canonicalLine maxInt linesStartAt1 line).mapError (.under s!"daemon: breakpoint {index}")

/-- `core` is the session. -/
def setBreakpoints (core : List Int → Except Error ReplaceResult) (identity : Identity)
    (asked : List Int) : Except Error (List (DapBreakpoint σ)) := do
  let lines ← canonicalLines maxInt linesStartAt1 asked
  match core lines with
  | .ok result => dapBreakpoints linesStartAt1 dapSource result.breakpoints lines
  | .error err =>
    if err.is .sourceUnavailable then
      unverifiedBreakpoints linesStartAt1 dapSource identity lines err.text
    else .error (.under "daemon: set breakpoints" err)

end

variable {σ α β : Type} {maxInt : Int} {linesStartAt1 : Bool}
  {dapSource : Identity → Except Error σ} {logical : List Logical}

lemma dapLine_canonicalLine {line canonical : Int}
    (h : canonicalLine maxInt linesStartAt1 line = .ok canonical) :
    0 < canonical ∧ dapLine linesStartAt1 canonical = line := by
  unfold canonicalLine at h
  unfold dapLine
  cases linesStartAt1 <;> simp at h ⊢ <;> grind

lemma mapM_eq_ok {f : α → Except Error β} {xs : List α} {ys : List β} :
    xs.mapM f = .ok ys ↔ Forall₂ (fun x y => f x = .ok y) xs ys := by
  induction xs generalizing ys with
  | nil => simp [pure, Except.pure, eq_comm]
  | cons x xs ih =>
    rw [mapM_cons, bind_eq_ok, forall₂_cons_left_iff]
    refine exists_congr fun y => ?_
    rw [bind_eq_ok]
    constructor
    · rintro ⟨hy, rest, hrs, ⟨⟩⟩
      exact ⟨rest, hy, ih.mp hrs, rfl⟩
    · rintro ⟨rest, hy, hrs, rfl⟩
      exact ⟨hy, rest, ih.mpr hrs, rfl⟩

lemma exists_mapM {f : α → Except Error β} {xs : List α} (h : ∀ x ∈ xs, ∃ y, f x = .ok y) :
    ∃ ys, xs.mapM f = .ok ys := by
  induction xs with
  | nil => exact ⟨[], rfl⟩
  | cons x xs ih =>
    obtain ⟨y, hy⟩ := h x mem_cons_self
    obtain ⟨ys, hys⟩ := ih fun x hx => h x (mem_cons_of_mem _ hx)
    exact ⟨y :: ys, mapM_eq_ok.mpr (.cons hy (mapM_eq_ok.mp hys))⟩

lemma canonicalLines_ok {asked lines : List Int}
    (h : canonicalLines maxInt linesStartAt1 asked = .ok lines) :
    (∀ line ∈ lines, 0 < line) ∧ lines.map (dapLine linesStartAt1) = asked := by
  have hpair : Forall₂ (fun y x => 0 < y ∧ dapLine linesStartAt1 y = Prod.fst x)
      lines asked.zipIdx := by
    refine ((mapM_eq_ok.mp h).imp fun x y hxy => ?_).flip
    cases hln : canonicalLine maxInt linesStartAt1 x.1 with
    | error => simp [hln, Except.mapError] at hxy
    | ok =>
      simp only [hln, Except.mapError, Except.ok.injEq] at hxy
      exact dapLine_canonicalLine (hxy ▸ hln)
  obtain ⟨hpos, hpair⟩ := (forall₂_and_left _ _).mp hpair
  refine ⟨hpos, Eq.trans ?_ (zipIdx_map_fst 0 asked)⟩
  rwa [← forall₂_eq_eq_eq, forall₂_map_left_iff, forall₂_map_right_iff]

/-- The protocol cannot show the breakpoint: its id is out of range, or its source has no name. -/
inductive Refused (dapSource : Identity → Except Error σ) (l : Logical) : Error → Prop where
  | id (h : l.dapID ≤ 0 ∨ l.dapID > 2 ^ 31 - 1) : Refused dapSource l
      (.new s!"daemon: breakpoint ID {l.dapID} cannot be represented by DAP")
  | source {err : Error} (h : dapSource l.source = .error err) :
      Refused dapSource l (.under "daemon: map breakpoint source" err)

def Entry (linesStartAt1 : Bool) (l : Logical) (entry : DapBreakpoint σ) : Prop :=
  entry.id = l.dapID ∧ entry.line = dapLine linesStartAt1 l.line

lemma foldlM_byLine (linesStartAt1 : Bool) {t : Int → Option (DapBreakpoint σ)}
    (hnd : (logical.map (·.line)).Nodup) (hfree : ∀ l ∈ logical, t l.line = none) :
    (∃ l ∈ logical, ∃ err, Refused dapSource l err ∧
      logical.foldlM (byLine linesStartAt1 dapSource) t = .error err) ∨
    ∃ full, logical.foldlM (byLine linesStartAt1 dapSource) t = .ok full ∧
      (∀ line, (∀ l ∈ logical, l.line ≠ line) → full line = t line) ∧
      ∀ l ∈ logical, ∃ ent, full l.line = some ent ∧ Entry linesStartAt1 l ent := by
  induction logical generalizing t with
  | nil => exact .inr ⟨t, rfl, fun _ _ => rfl, nofun⟩
  | cons l rest ih =>
    obtain ⟨hno, hnd⟩ := nodup_cons.mp hnd
    have hnew : ¬ (t l.line).isSome = true := by simp [hfree l mem_cons_self]
    rw [foldlM_cons]
    by_cases hid : l.dapID ≤ 0 ∨ l.dapID > 2 ^ 31 - 1
    · refine .inl ⟨l, mem_cons_self, _, .id hid, ?_⟩
      rw [byLine, if_pos hid]
      rfl
    cases hsource : dapSource l.source with
    | error err =>
      refine .inl ⟨l, mem_cons_self, _, .source hsource, ?_⟩
      rw [byLine, if_neg hid, if_neg hnew, hsource]
      rfl
    | ok src =>
      have hother {k : Logical} (hk : k ∈ rest) : k.line ≠ l.line :=
        fun heq => hno (mem_map.mpr ⟨k, hk, heq⟩)
      have hround : byLine linesStartAt1 dapSource t l = .ok (update t l.line
          (some ⟨l.dapID, l.verified, l.message, src, dapLine linesStartAt1 l.line⟩)) := by
        rw [byLine, if_neg hid, if_neg hnew, hsource]
      rw [hround]
      rcases ih hnd fun k hk =>
        (update_of_ne (hother hk) _ _).trans (hfree k (mem_cons_of_mem _ hk)) with
        ⟨k, hk, hrefused⟩ | ⟨full, hfull, hsm, hentry⟩
      · exact .inl ⟨k, mem_cons_of_mem _ hk, hrefused⟩
      refine .inr ⟨full, hfull, fun line hln => ?_, fun k hk => ?_⟩
      · rw [hsm line fun k hk => hln k (mem_cons_of_mem _ hk),
          update_of_ne (hln l mem_cons_self).symm]
      rcases mem_cons.mp hk with rfl | hk
      · exact ⟨_, (hsm _ fun _ => hother).trans (update_self ..), rfl, rfl⟩
      · exact hentry k hk

lemma dapBreakpoints_ok (linesStartAt1 : Bool) {lines : List Int}
    (hnd : (logical.map (·.line)).Nodup) (hme : ∀ line ∈ lines, ∃ l ∈ logical, l.line = line) :
    (∃ l ∈ logical, ∃ err, Refused dapSource l err ∧
      dapBreakpoints linesStartAt1 dapSource logical lines = .error err) ∨
    ∃ ans, dapBreakpoints linesStartAt1 dapSource logical lines = .ok ans ∧
      Forall₂ (fun ent line => ∃ l ∈ logical, l.line = line ∧ Entry linesStartAt1 l ent)
        ans lines := by
  unfold dapBreakpoints
  rcases foldlM_byLine linesStartAt1 (t := fun _ => none) hnd fun _ _ => rfl with
    ⟨l, hl, err, hrefused, herr⟩ | ⟨full, hfull, hsm, hentry⟩
  · exact .inl ⟨l, hl, err, hrefused, by rw [herr]; rfl⟩
  rw [hfull]
  obtain ⟨ans, hanswer⟩ := exists_mapM fun line (hln : line ∈ lines) => by
    obtain ⟨l, hl, rfl⟩ := hme line hln
    obtain ⟨ent, heq, -⟩ := hentry l hl
    exact ⟨ent, show lookup full _ = _ by rw [lookup, heq]⟩
  refine .inr ⟨ans, hanswer, ((mapM_eq_ok.mp hanswer).imp fun line ent hln => ?_).flip⟩
  unfold lookup at hln
  by_cases hex : ∃ l ∈ logical, l.line = line
  · obtain ⟨l, hl, rfl⟩ := hex
    obtain ⟨ent', heq, hshow⟩ := hentry l hl
    rw [heq] at hln
    cases hln
    exact ⟨l, hl, rfl, hshow⟩
  · rw [hsm line fun l hl heq => hex ⟨l, hl, heq⟩] at hln
    cases hln

/-- The answer to lines that the store replaced has an entry for each line of the request, in its
order and its numbering; entries have one id exactly where they have one line. Only an id or a
source that the protocol cannot show makes the daemon refuse, with the error that says so. -/
theorem setBreakpoints_answers (inputs : List Input) {c : Config} {owner : Owner}
    {src identity : Identity} {asked lines cores : List Int} {start : World}
    {result : ReplaceResult} {core : List Int → Except Error ReplaceResult}
    (maxInt : Int) (linesStartAt1 : Bool)
    (dapSource : Identity → Except Error σ)
    (hlines : canonicalLines maxInt linesStartAt1 asked = .ok lines)
    (hru : run Config.step {} inputs = some c)
    (hjo : c.job = some ⟨.replace owner src lines cores, start, .ret (.replaced (.ok result))⟩)
    (hcore : core lines = .ok result) : (∃ l ∈ result.breakpoints, ∃ err, Refused dapSource l err ∧
      setBreakpoints maxInt linesStartAt1 dapSource core identity asked = .error err) ∨
      ∃ answer, setBreakpoints maxInt linesStartAt1 dapSource core identity asked = .ok answer ∧
        answer.map (·.line) = asked ∧
        ∀ a ∈ answer, ∀ b ∈ answer, a.id = b.id ↔ a.line = b.line := by
  obtain ⟨w, job⟩ := c
  cases hjo
  obtain ⟨r, ⟨⟩, hfin⟩ := (Config.inv_run hru).post
  obtain ⟨hlists, hids⟩ := hfin.shaped result rfl
  obtain ⟨hpos, hasked⟩ := canonicalLines_ok hlines
  have hset : setBreakpoints maxInt linesStartAt1 dapSource core identity asked =
      dapBreakpoints linesStartAt1 dapSource result.breakpoints lines := by
    rw [setBreakpoints, hlines]
    change (match core lines with | .ok result => _ | .error err => _) = _
    rw [hcore]
  rw [hset]
  refine (dapBreakpoints_ok linesStartAt1 hlists.nodup fun line hln =>
    mem_map.mp ((hlists.2 line).mpr hln)).imp_right ?_
  rintro ⟨answer, hok, hanswer⟩
  refine ⟨answer, hok, ?_, ?_⟩
  · rw [← hasked, ← forall₂_eq_eq_eq, forall₂_map_left_iff, forall₂_map_right_iff]
    exact hanswer.imp fun entry line h => by
      obtain ⟨l, -, rfl, -, hln⟩ := h
      exact hln
  have hentry : ∀ a ∈ answer, ∃ l ∈ result.breakpoints, Entry linesStartAt1 l a :=
    ((forall₂_and_left _ _).mp (hanswer.imp fun entry line h => by
      obtain ⟨l, hl, -, hshow⟩ := h
      exact And.intro ⟨l, hl, hshow⟩ trivial)).1
  intro a ha b hb
  obtain ⟨l, hl, hid, hln⟩ := hentry a ha
  obtain ⟨k, hk, hid', hln'⟩ := hentry b hb
  have hlpos := hpos _ ((hlists.2 _).mp (mem_map_of_mem hl))
  have hkpos := hpos _ ((hlists.2 _).mp (mem_map_of_mem hk))
  rw [hid, hid', hln, hln']
  constructor
  · intro heq
    rw [inj_on_of_nodup_map hids hl hk heq]
  intro heq
  have hsm : l.line = k.line := by
    unfold dapLine at heq
    grind
  rw [inj_on_of_nodup_map hlists.nodup hl hk hsm]

/-- A placement on two lines, of which one was asked for twice, up to its commit. -/
def askedTwice : List Input :=
  [.begin (.replace "a" { key := "main.c" } [10, 12, 10] [0]), .move (.token 0), .move (.token 7),
    .move (.set { actualLine := 10 } none), .move (.token 8),
    .move (.set { actualLine := 12 } none), .move (.token 0)]

theorem setBreakpoints_askedTwice :
    ∃ c result, run Config.step {} askedTwice = some c ∧ c.job = some
        ⟨.replace "a" { key := "main.c" } [10, 12, 10] [0], {}, .ret (.replaced (.ok result))⟩ ∧
      ∃ answer, setBreakpoints 100 false (fun _ => .ok ()) (fun _ => .ok result) {} [9, 11, 9] =
          .ok answer ∧ answer.map (·.line) = [9, 11, 9] ∧
        ∀ a ∈ answer, ∀ b ∈ answer, a.id = b.id ↔ a.line = b.line := by
  refine ⟨_, _, rfl, rfl, (setBreakpoints_answers askedTwice 100 false _
    (show canonicalLines 100 false [9, 11, 9] = .ok [10, 12, 10] from rfl) rfl rfl rfl).resolve_left
      ?_⟩
  rintro ⟨l, -, err, -, herr⟩
  cases herr

end MultiDap.Daemon
