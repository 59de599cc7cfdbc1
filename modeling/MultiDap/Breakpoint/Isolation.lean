import MultiDap.Breakpoint.Run

/-!
# Frontends are kept apart

What runs of the store guarantee each frontend, whatever the others do: a frontend that has detached
never gets a breakpoint back, a replacement of one frontend does not touch the breakpoints of
another, and the hint table names exactly the breakpoints that are live.
-/

namespace MultiDap.Breakpoint

open Source Machine Prog World List Option

namespace Config

variable {c c' : Config} {i : Input} {inputs : List Input}

/-! ### What a run does not undo -/

lemma cleanupOwners_detach (w : World) (owner : Owner) (vis : Visit Logical) :
    (w.detach owner vis).store.cleanupOwners = if owner = "" then w.store.cleanupOwners
      else Function.update w.store.cleanupOwners owner true := by
  simp only [World.detach, Store.requestCleanupSignal]
  split_ifs
  · rfl
  · exact (Store.SameLive.foldl Store.sameLive_withdraw _ _).cleanupOwners

lemma hintTokens_detach (w : World) (owner : Owner) (vis : Visit Logical) :
    (w.detach owner vis).store.hintTokens = w.store.hintTokens := by
  simp only [World.detach, Store.requestCleanupSignal]
  split_ifs
  · rfl
  · exact (Store.SameLive.foldl Store.sameLive_withdraw _ _).hintTokens

lemma Inv.guarantee {w w' : World} {job : Job} {prog : Transact Outcome} (rp : Reply)
    (h : Inv { world := w, job := some job })
    (hst : job.program.advance World.env w rp = some (w', prog)) : job.transaction.Guarantee w w' :=
  (Safe.advance h hst).1

lemma Inv.grows (h : c.Inv) (hst : c.step i = some c') :
    (∀ owner, c.world.store.cleanupOwners owner = true →
      c'.world.store.cleanupOwners owner = true) ∧
      ∀ τ, c.world.store.hintTokens τ = true → c'.world.store.hintTokens τ = true := by
  obtain ⟨w, job⟩ := c
  cases i with
  | detach owner =>
    cases hst
    rw [cleanupOwners_detach, hintTokens_detach]
    refine ⟨fun other hf => ?_, fun _ hτ => hτ⟩
    split_ifs
    · exact hf
    by_cases heq : other = owner
    · simp [heq]
    · rwa [Function.update_of_ne heq]
  | begin =>
    cases job with
    | none =>
      cases hst
      exact ⟨fun _ hf => hf, fun _ hτ => hτ⟩
    | some => cases hst
  | move rp =>
    cases job with
    | none => cases hst
    | some =>
      obtain ⟨next, hnx, rfl⟩ := map_eq_some_iff.mp hst
      have hadv := (h.guarantee rp hnx).advances
      exact ⟨fun owner hf => (congrFun hadv.cleanupOwners owner).trans hf, hadv.hintTokens⟩
  | finish =>
    cases job with
    | none => cases hst
    | some job =>
      obtain ⟨tx, start, prog⟩ := job
      cases prog with
      | ret =>
        cases hst
        exact ⟨fun _ hf => hf, fun _ hτ => hτ⟩
      | atomic | call => cases hst

lemma Inv.sound (h : c.Inv) : c.world.Sound := by
  obtain ⟨w, job⟩ := c
  cases job with
  | none => exact h.1
  | some job => exact Safe.now (E := World.env) (G := job.transaction.Guarantee) h

/-! ### Replacements that are refused -/

/-- The transaction fails, now or in its next locked section, and changes nothing: it calls neither
`Set` nor `Clear` any more. -/
def Refused (program : Transact Outcome) (w : World) : Prop :=
  ∃ err, program = .ret (.replaced (.error err)) ∨
    ∀ reply, program.advance World.env w reply = some (w, .ret (.replaced (.error err)))

variable {w : World} {owner : Owner} {src : Identity} {lines cores : List Int}

lemma refused_of_plan (h : ∀ requested, Lists requested lines →
      ∃ err, w.store.plan owner src requested = .error err) :
    Refused (Transaction.replace owner src lines cores).program w := by
  simp only [Transaction.program, replaceForOwner]
  cases hche : checkReplace src lines cores with
  | error err => exact ⟨err, .inl rfl⟩
  | ok args =>
    obtain ⟨requested, expected⟩ := args
    obtain ⟨err, hpl⟩ := h requested (checkReplace_ok hche).1
    refine ⟨err, .inr fun rp => ?_⟩
    simp only [replaceLocked, locked, Prog.modify, Bind.bind, Prog.bind, advance, hpl]
    rfl

lemma refused_of_fence (hf : w.store.cleanupOwners owner = true) :
    Refused (Transaction.replace owner src lines cores).program w :=
  refused_of_plan fun requested _ => ⟨_, by rw [Store.plan, if_pos hf]⟩

lemma refused_of_conflict (hs : w.Sound) {l : Logical} (hl : l ∈ w.store.live)
    (hke : l.source.key = src.key) (hln : l.line ∈ lines) (hon : l.owner ≠ owner) :
    Refused (Transaction.replace owner src lines cores).program w := by
  refine refused_of_plan fun requested hre => ?_
  rw [Store.plan]
  split_ifs with hf hany
  · exact ⟨_, rfl⟩
  · exact ⟨_, rfl⟩
  refine absurd ?_ hany
  have hlook := Store.lookup_of_mem hs.keys hl
  rw [hke] at hlook
  exact any_eq_true.mpr ⟨l.line, (hre.2 _).mpr hln, by simp [hlook, hon]⟩

/-! ### A detached frontend -/

/-- A replacement that begins behind the fence, until it returns. -/
structure Fenced (owner : Owner) (log : List Event) (c : Config) : Prop where
  fence : c.world.store.cleanupOwners owner = true
  log : c.world.log = log
  job : ∃ job src lines cores, c.job = some job ∧
    (job.program = (Transaction.replace owner src lines cores).program ∨
      ∃ err, job.program = .ret (.replaced (.error err)))

lemma Fenced.refused {log : List Event} (h : c.Fenced owner log) :
    ∃ job, c.job = some job ∧ Refused job.program c.world := by
  obtain ⟨job, src, lines, cores, hjo, hprog | ⟨err, hret⟩⟩ := h.job
  · exact ⟨job, hjo, hprog ▸ refused_of_fence h.fence⟩
  · exact ⟨job, hjo, err, .inl hret⟩

lemma Fenced.step {log : List Event} (h : c.Fenced owner log) (hinv : c.Inv)
    (hi : i ≠ .finish) (hst : c.step i = some c') : c'.Fenced owner log := by
  have hfen := (hinv.grows hst).1 owner h.fence
  obtain ⟨job, hjo, err, hprog⟩ := h.refused
  obtain ⟨w, job'⟩ := c
  obtain rfl : job' = some job := hjo
  cases i with
  | detach =>
    cases hst
    exact ⟨hfen, h.log, h.job⟩
  | begin => cases hst
  | move rp =>
    obtain ⟨next, hnx, rfl⟩ := map_eq_some_iff.mp hst
    rcases hprog with hret | hadv
    · rw [hret] at hnx
      cases hnx
    · cases hnx.symm.trans (hadv rp)
      exact ⟨hfen, h.log, _, {}, [], [], rfl, .inr ⟨err, rfl⟩⟩
  | finish => exact absurd rfl hi

/-- Once a frontend has asked for cleanup, no breakpoint of its own is live at any later moment,
even if one of its replacements was in flight, and every replacement that begins later fails without
a call of `Set` or `Clear`. -/
theorem fenced_after_detach (before later : List Input) (visit : Visit Logical)
    (howner : owner ≠ "") (h : run step {} (before ++ .detach owner visit :: later) = some c) :
    (∀ l ∈ c.world.store.live, l.owner ≠ owner) ∧
      ∀ src lines cores rest c', c.job = none → .finish ∉ rest →
        run step c (.begin (.replace owner src lines cores) :: rest) = some c' →
        c'.world.log = c.world.log ∧ ∃ job, c'.job = some job ∧ Refused job.program c'.world := by
  have hinv := inv_run h
  have hfen : c.world.store.cleanupOwners owner = true := by
    rw [run_append, bind_eq_some_iff] at h
    obtain ⟨c₀, h₀, h⟩ := h
    obtain ⟨c₁, h₁, h⟩ := run_cons_eq_some.mp h
    have hup : c₁.Inv ∧ c₁.world.store.cleanupOwners owner = true := by
      refine ⟨inv_step (inv_run h₀) h₁, ?_⟩
      cases h₁
      rw [cleanupOwners_detach, if_neg howner, Function.update_self]
    have hkeep (s : Config) (i : Input) (t : Config)
        (hs : s.Inv ∧ s.world.store.cleanupOwners owner = true) (hst : s.step i = some t) :
        t.Inv ∧ t.world.store.cleanupOwners owner = true :=
      ⟨inv_step hs.1 hst, (hs.1.grows hst).1 owner hs.2⟩
    exact (run_invariant hkeep hup h).2
  refine ⟨fun l hl hon => ?_, fun src lines cores rest c' hidle hrs hru => ?_⟩
  · have hun := hinv.sound.unfenced l hl
    rw [hon, hfen] at hun
    cases hun
  obtain ⟨c₁, hbeg, hru⟩ := run_cons_eq_some.mp hru
  have hsa : c₁.Inv ∧ c₁.Fenced owner c.world.log := by
    refine ⟨inv_step hinv hbeg, ?_⟩
    simp only [step, hidle] at hbeg
    cases hbeg
    exact ⟨hfen, rfl, _, src, lines, cores, rfl, .inl rfl⟩
  have hop : Along step (fun _ i => i ≠ .finish) c₁ rest :=
    along_of_forall fun _ i hi heq => hrs (heq ▸ hi)
  have hkeep (s : Config) (i : Input) (t : Config)
      (hs : s.Inv ∧ s.Fenced owner c.world.log) (hi : i ≠ .finish) (hst : s.step i = some t) :
      t.Inv ∧ t.Fenced owner c.world.log :=
    ⟨inv_step hs.1 hst, hs.2.step hs.1 hi hst⟩
  have hen := (along_invariant hkeep hsa hop hru).2
  exact ⟨hen.log, hen.refused⟩

/-- A placement of the frontend `a` up to its commit. -/
def inFlight : List Input :=
  [.begin (.replace "a" { key := "main.c" } [10] [0]), .move (.token 0), .move (.token 7),
    .move (.set { actualLine := 10 } none)]

def inOrder : Visit Logical := ⟨id, List.Perm.refl⟩

theorem fenced_after_detach_inFlight :
    ∃ c c', run step {} (inFlight ++ .detach "a" inOrder :: [.move (.token 0), .finish]) = some c ∧
      run step c (.begin (.replace "a" { key := "main.c" } [20] [0]) :: [.move (.token 0)]) =
        some c' ∧ (∀ l ∈ c.world.store.live, l.owner ≠ "a") ∧ c'.world.log = c.world.log ∧
      ∃ job, c'.job = some job ∧ Refused job.program c'.world := by
  refine ⟨_, _, rfl, rfl, ?_⟩
  obtain ⟨hlive, hla⟩ := fenced_after_detach inFlight
    [.move (.token 0), .finish] inOrder (show "a" ≠ "" by decide) rfl
  exact ⟨hlive, hla { key := "main.c" } [20] [0] [.move (.token 0)] _ rfl (by simp) rfl⟩

/-! ### Other frontends -/

lemma filter_eq_of_others {α : Type} {f : α → Owner} {xs ys : List α} {other : Owner}
    (h : xs.filter (fun x => f x != owner) = ys.filter (fun x => f x != owner))
    (hne : other ≠ owner) :
    xs.filter (fun x => f x == other) = ys.filter (fun x => f x == other) := by
  have hsub (zs : List α) : (zs.filter fun x => f x != owner).filter (fun x => f x == other) =
      zs.filter (fun x => f x == other) := by
    rw [List.filter_filter]
    refine List.filter_congr fun z _ => ?_
    by_cases hz : f z = other
    · simp [hz, hne]
    · simp [hz]
  rw [← hsub xs, h, hsub ys]

/-- No step of a replacement changes a record of another frontend or clears one, and a replacement
that asks for a line which is live for another frontend is refused. -/
theorem others_untouched (inputs : List Input) {start : World} {program : Transact Outcome}
    {other : Owner} (h : run step {} inputs = some c)
    (hjo : c.job = some ⟨.replace owner src lines cores, start, program⟩) (hne : other ≠ owner) :
    (∀ reply c', c.step (.move reply) = some c' → c'.world.store.live.filter (·.owner == other) =
          c.world.store.live.filter (·.owner == other) ∧
        c'.world.store.pending.filter (·.owner == other) =
          c.world.store.pending.filter (·.owner == other) ∧
        c'.world.store.orphaned.filter (·.owner == other) =
          c.world.store.orphaned.filter (·.owner == other)) ∧
      (∀ p k, program = .call (.clear p) k → p.owner ≠ other) ∧
      (program = (Transaction.replace owner src lines cores).program →
        (∃ l ∈ c.world.store.live, l.source.key = src.key ∧ l.line ∈ lines ∧ l.owner = other) →
        Refused program c.world) := by
  have hinv := inv_run h
  obtain ⟨w, job⟩ := c
  obtain rfl : job = _ := hjo
  refine ⟨fun reply c' hst => ?_, fun p k hcl => ?_, fun hfirst hlive => ?_⟩
  · obtain ⟨next, hnx, rfl⟩ := map_eq_some_iff.mp hst
    have hg : Touches owner w next.1 := hinv.guarantee reply hnx
    exact ⟨filter_eq_of_others hg.live hne, filter_eq_of_others hg.pending hne,
      filter_eq_of_others hg.orphaned hne⟩
  · -- whatever the answer, it would be noted as a clear of this record
    subst hcl
    have hg : Touches owner w (w.record (.clear p none)) := hinv.guarantee (.clear none) rfl
    obtain ⟨events, hlog, hon⟩ := hg.log
    rw [← append_cancel_left hlog] at hon
    rw [hon p none (mem_singleton_self _)]
    exact hne.symm
  obtain ⟨l, hl, hke, hln, hon⟩ := hlive
  rw [hfirst]
  exact refused_of_conflict hinv.sound hl hke hln (hon ▸ hne)

/-- A line of the frontend `b` that the frontend `a` asks for. -/
def contested : List Input :=
  [.begin (.replace "b" { key := "main.c" } [10] [0]), .move (.token 0), .move (.token 7),
    .move (.set { actualLine := 10 } none), .move (.token 0), .finish,
    .begin (.replace "a" { key := "main.c" } [10] [0])]

theorem others_untouched_contested : ∃ c start program, run step {} contested = some c ∧
      c.job = some ⟨.replace "a" { key := "main.c" } [10] [0], start, program⟩ ∧
      (∀ reply c', c.step (.move reply) = some c' →
        c'.world.store.live.filter (·.owner == "b") = c.world.store.live.filter (·.owner == "b")) ∧
      (∀ p k, program = .call (.clear p) k → p.owner ≠ "b") ∧ Refused program c.world := by
  refine ⟨_, _, _, rfl, rfl, ?_⟩
  obtain ⟨hsm, hcle, href⟩ := others_untouched contested rfl rfl (show "b" ≠ "a" by decide)
  refine ⟨fun reply c' hst => (hsm reply c' hst).1, hcle, href rfl ?_⟩
  exact ⟨_, mem_singleton_self _, rfl, mem_singleton_self _, rfl⟩

/-! ### The hint table -/

def issues (c : Config) : Input → Option UInt32
  | .move (.token draw) =>
    match c.job with
    | some ⟨_, _, .call .token _⟩ => some draw
    | _ => none
  | _ => none

/-- The tokens that a run issues, in order. -/
def issuedTokens : Config → List Input → List UInt32
  | _, [] => []
  | c, i :: inputs =>
    match c.step i with
    | some c' => (c.issues i).toList ++ issuedTokens c' inputs
    | none => []

lemma issues_fresh {τ : UInt32} (hiss : c.issues i = some τ) (hst : c.step i = some c') :
    c.world.store.hintTokens τ = false ∧ c'.world.store.hintTokens τ = true := by
  obtain ⟨w, job⟩ := c
  unfold issues at hiss
  split at hiss
  · split at hiss
    · rename_i draw tx start k hjo
      cases hiss
      obtain rfl : job = _ := hjo
      obtain ⟨next, hnx, rfl⟩ := map_eq_some_iff.mp hst
      obtain ⟨ans, hperf, rfl⟩ := map_eq_some_iff.mp hnx
      obtain ⟨s, hs, rfl⟩ := map_eq_some_iff.mp hperf
      simp only [Store.newHintToken] at hs
      split_ifs at hs with h₀ hissu
      cases hs
      exact ⟨by simpa using hissu, Function.update_self _ _ _⟩
    · cases hiss
  · cases hiss

lemma nodup_issuedTokens (h : c.Inv) : (issuedTokens c inputs).Nodup ∧
      ∀ τ ∈ issuedTokens c inputs, c.world.store.hintTokens τ = false := by
  induction inputs generalizing c with
  | nil => simp [issuedTokens]
  | cons i inputs ih =>
    unfold issuedTokens
    cases hst : c.step i with
    | none => simp
    | some c' =>
      obtain ⟨hnd, hfr⟩ := ih (inv_step h hst)
      have hgro := (h.grows hst).2
      have hold : ∀ τ ∈ issuedTokens c' inputs, c.world.store.hintTokens τ = false := by
        intro τ hτ
        have hnew := hfr τ hτ
        cases hc : c.world.store.hintTokens τ with
        | false => rfl
        | true => cases (hgro τ hc).symm.trans hnew
      cases hiss : c.issues i with
      | none => simpa [hiss] using ⟨hnd, hold⟩
      | some τ =>
        obtain ⟨hbe, haft⟩ := issues_fresh hiss hst
        simp only [toList_some, singleton_append, nodup_cons, forall_mem_cons]
        refine ⟨⟨fun hin => ?_, hnd⟩, hbe, hold⟩
        cases (hfr τ hin).symm.trans haft

/-- The hint table has an entry for exactly the tokens of tracked breakpoints. A token names the id
and the core of the live breakpoint it belongs to, and no id if its breakpoint waits for cleanup. No
token is issued twice. -/
theorem hint_table (inputs : List Input) (h : run step {} inputs = some c) :
    (∀ τ, (c.world.store.lookupHint τ).isSome = true ↔ τ ∈ tokens c.world.store.tracked) ∧
      (∀ τ, (∃ target, c.world.store.lookupHint τ = some target ∧ target.dapID ≠ 0) ↔
        ∃ l ∈ c.world.store.live, l.verified = true ∧ τ ∈ tokens l.physical) ∧
      (∀ l ∈ c.world.store.live, ∀ p ∈ l.physical,
        c.world.store.lookupHint p.hintToken = some ⟨l.dapID, p.core⟩) ∧
      (∀ p ∈ c.world.store.pending ++ c.world.store.orphaned,
        c.world.store.lookupHint p.hintToken = some ⟨0, p.core⟩) ∧
      (issuedTokens {} inputs).Nodup := by
  have hs := (inv_run h).sound
  have hnam : ∀ τ target, c.world.store.lookupHint τ = some target ↔
      c.world.store.Refers τ target := fun τ => hs.hints τ (by simp)
  have hlive : ∀ l ∈ c.world.store.live, ∀ p ∈ l.physical,
      c.world.store.lookupHint p.hintToken = some ⟨l.dapID, p.core⟩ :=
    fun l hl p hp => (hnam _ _).mpr (.inl ⟨l, hl, p, hp, rfl, rfl⟩)
  have hwait : ∀ p ∈ c.world.store.pending ++ c.world.store.orphaned,
      c.world.store.lookupHint p.hintToken = some ⟨0, p.core⟩ := by
    intro p hp
    refine (hnam _ _).mpr (.inr ⟨p.site, Store.mem_waiting.mpr ?_, rfl, rfl⟩)
    exact (mem_append.mp hp).imp mem_sites mem_sites
  refine ⟨fun τ => ⟨fun hsome => ?_, fun hτ => ?_⟩, fun τ => ⟨?_, ?_⟩, hlive, hwait,
    (nodup_issuedTokens inv_init).1⟩
  · obtain ⟨target, htar⟩ := isSome_iff_exists.mp hsome
    exact ((hnam τ target).mp htar).tracked
  · obtain ⟨p, hp, rfl⟩ := mem_map.mp hτ
    rw [Store.tracked, append_assoc, mem_append, mem_flatMap] at hp
    rcases hp with ⟨l, hl, hp⟩ | hp
    · rw [hlive l hl p hp, isSome_some]
    · rw [hwait p hp, isSome_some]
  · rintro ⟨target, htar, hid⟩
    obtain ⟨l, hl, -, hτ⟩ := hs.hints.live htar hid
    exact ⟨l, hl, hs.verified l hl, hτ⟩
  rintro ⟨l, hl, -, hτ⟩
  obtain ⟨p, hp, rfl⟩ := mem_map.mp hτ
  refine ⟨_, hlive l hl p hp, ?_⟩
  exact (hs.range _ (hs.issuedTo l hl)).1.ne'

/-- A line that is live and one whose placement could not be taken back. -/
def liveAndOrphaned : List Input :=
  [.begin (.replace "a" { key := "main.c" } [10, 20] [0]), .move (.token 0),
    .move (.token 7), .move (.set { actualLine := 10 } none),
    .move (.token 8), .move (.set { possiblyCommitted := true } (some (.new "timeout"))),
    .move (.clear (some (.new "timeout"))), .move (.token 0), .finish]

theorem hint_table_liveAndOrphaned :
    ∃ c, run step {} liveAndOrphaned = some c ∧ c.world.store.tracked.length = 2 ∧
      (∀ τ, (c.world.store.lookupHint τ).isSome = true ↔ τ ∈ tokens c.world.store.tracked) ∧
      (∀ l ∈ c.world.store.live, ∀ p ∈ l.physical,
        c.world.store.lookupHint p.hintToken = some ⟨l.dapID, p.core⟩) ∧
      (∀ p ∈ c.world.store.pending ++ c.world.store.orphaned,
        c.world.store.lookupHint p.hintToken = some ⟨0, p.core⟩) ∧
      (issuedTokens {} liveAndOrphaned).Nodup := by
  have htwo : (run step {} liveAndOrphaned).map (·.world.store.tracked.length) = some 2 := rfl
  obtain ⟨c, hc, hlen⟩ := map_eq_some_iff.mp htwo
  obtain ⟨het, -, hlive, hwait, hnd⟩ := hint_table liveAndOrphaned hc
  exact ⟨c, hc, hlen, het, hlive, hwait, hnd⟩

end Config

end MultiDap.Breakpoint
