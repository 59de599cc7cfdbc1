import MultiDap.Actor.System

/-!
# The cores a breakpoint is placed on

A request for breakpoints is refused, or it is queued with its cores, or the resolver is asked
first. In each case the cores follow one rule for each configured core: a definite answer of the
source index stands, and the resolver decides where the index is uncertain.
-/

namespace MultiDap.Actor

open Machine Source Breakpoint

/-- The resolver has answered for the configured cores, and every core is settled. -/
def Resolves (coverage observations : List Source.Observation) (cores : List Int) : Prop :=
  (observations.map Source.Observation.core).Perm (coverage.map Source.Observation.core) ∧
    Settled coverage (resolvedPresence observations) cores

/-- What follows the answer of the resolver: a replacement on the cores that the rule gives, or a
failure without any request to the target. -/
structure Follows (owner : ControllerID) (identity : Source.Identity) (lines : List Int)
    (coverage : List Source.Observation) (answer : Except Error (List Source.Observation))
    (program : Transact (Except Error ReplaceResult)) : Prop where
  placed : ∀ observations cores, answer = .ok observations → Resolves coverage observations cores →
    program = replaceForOwner owner identity lines cores
  refused : (¬ ∃ observations cores, answer = .ok observations ∧
    Resolves coverage observations cores) → ∃ err, program = .ret (.error err)

lemma follows_resolveAndReplace {ow : ControllerID} {identity : Source.Identity}
    {lines : List Int} {cov : List Source.Observation} (hcov : WellFormed cov) :
    ∃ next : Except Error (List Source.Observation) → Transact (Except Error ReplaceResult),
      resolveAndReplace ow identity lines cov (cov.map Source.Observation.core) =
        .call (.resolve identity) next ∧ ∀ ans, Follows ow identity lines cov ans (next ans) := by
  refine ⟨_, rfl, fun ans => ?_⟩
  have hmat (obs : List Source.Observation) :
      matchesCoverage (cov.map Source.Observation.core) obs = .ok () ↔ _ :=
    matchesCoverage_ok hcov.nodup
  have hcor (obs : List Source.Observation) (cores : List Int) :
      resolvedCores (mergeCoverage cov obs) = .ok cores ↔ _ :=
    mergeCoverage_eq cov obs ▸ settled_iff hcov
  constructor
  · rintro obs cores rfl ⟨hperm, hsett⟩
    dsimp only [Prog.bind]
    rw [(hmat obs).mpr hperm]
    dsimp only
    rw [(hcor obs cores).mpr hsett]
  intro hno
  cases ans with
  | error err => exact ⟨_, rfl⟩
  | ok obs =>
    dsimp only [Prog.bind]
    cases hok : matchesCoverage (cov.map Source.Observation.core) obs with
    | error err => exact ⟨err, rfl⟩
    | ok _ =>
      dsimp only
      cases hres : resolvedCores (mergeCoverage cov obs) with
      | error err => exact ⟨err, rfl⟩
      | ok cores =>
        exact absurd ⟨obs, cores, rfl, (hmat obs).mp hok, (hcor obs cores).mp hres⟩ hno

/-- The session is open, the owner holds the lease, and sources can be looked up and resolved. -/
structure Runtime.Places (r : Runtime) (owner : ControllerID) : Prop where
  ready : r.notReady = none
  control : r.models.reducer.requireControl owner = none
  runner : r.opts.breakpointRunner = true
  index : r.opts.sourceIndex = true
  resolver : r.opts.sourceResolver = true

/-- What becomes of a request whose coverage is known. -/
structure Runtime.Decides (r r' : Runtime) (owner : ControllerID) (identity : Source.Identity)
    (lines : List Int) (coverage : List Source.Observation) (reply : ReplyID) : Prop where
  malformed : ¬ WellFormed coverage → ∃ err, r' = r.respond reply .none (some err)
  placed : ∀ cores resolver, WellFormed coverage → coverageHasUnknown coverage = false →
    Settled coverage resolver cores → r' = r.enqueue (.breakpoints owner identity lines cores reply)
  nowhere : WellFormed coverage → coverageHasUnknown coverage = false →
    (¬ ∃ cores resolver, Settled coverage resolver cores) →
    ∃ err, r' = r.respond reply .none (some err)
  asked : WellFormed coverage → coverageHasUnknown coverage = true →
    r' = r.enqueue (.sourceResolution owner identity lines coverage
      (coverage.map Source.Observation.core) reply)

lemma Runtime.decides {r : Runtime} {ow : ControllerID} (h : r.Places ow)
    {identity : Source.Identity} {lines : List Int} (hlin : lines ≠ [])
    (cov : List Source.Observation) (rp : ReplyID) :
    r.Decides (r.applySetBreakpoints ow identity lines cov rp) ow identity lines cov rp := by
  unfold applySetBreakpoints
  simp only [h.ready, h.control, h.runner, h.index, h.resolver, Bool.not_true, Bool.false_eq_true,
    if_false, List.isEmpty_iff, hlin]
  cases hset : coverageSet cov with
  | error err =>
    have hno : ¬ WellFormed cov := fun hwell => by
      rw [coverageSet_ok.mpr ⟨hwell, rfl⟩] at hset
      cases hset
    exact ⟨fun _ => ⟨err, rfl⟩, fun _ _ hwell => absurd hwell hno, fun hwell => absurd hwell hno,
      fun hwell => absurd hwell hno⟩
  | ok expected =>
    obtain ⟨hwell, rfl⟩ := coverageSet_ok.mp hset
    cases hunk : coverageHasUnknown cov with
    | true =>
      exact ⟨fun hno => absurd hwell hno,
        fun _ _ _ hkn => absurd (hunk.symm.trans hkn) (by simp),
        fun _ hkn => absurd (hunk.symm.trans hkn) (by simp), fun _ _ => rfl⟩
    | false =>
      have hcor (cores : List Int) (rs : Int → Presence) :
          resolvedCores cov = .ok cores ↔ Settled cov rs cores := by
        rw [← settled_iff hwell, settled_of_known hunk]
      refine ⟨fun hno => absurd hwell hno, fun cores rs _ _ hsett => ?_,
        fun _ _ hno => ?_, fun _ hask => absurd (hunk.symm.trans hask) (by simp)⟩
      · rw [(hcor cores rs).mpr hsett]
        rfl
      cases hres : resolvedCores cov with
      | error err => exact ⟨err, rfl⟩
      | ok cores =>
        exact absurd ⟨cores, fun _ => .unknown, (hcor cores _).mp hres⟩ hno

/-- A breakpoint is placed on the cores that the rule gives, and a request that leaves a core
uncertain fails before anything is placed. -/
theorem placement_follows_coverage {r : Runtime} {owner : ControllerID} (h : r.Places owner)
    (identity : Source.Identity) {lines : List Int} (hlin : lines ≠ []) (reply : ReplyID) :
    (∀ coverage, r.Decides (r.applySetBreakpoints owner identity lines coverage reply) owner
      identity
      lines coverage reply) ∧ (∀ coverage, WellFormed coverage →
      ∃ next : Except Error (List Source.Observation) → Transact (Except Error ReplaceResult),
        resolveAndReplace owner identity lines coverage (coverage.map Source.Observation.core) =
          .call (.resolve identity) next ∧
        ∀ answer, Follows owner identity lines coverage answer (next answer)) ∧
    ∀ (idx : Source.Index) (resolver : Int → Presence) (cores : List Int),
      Settled (idx.coverage identity.key) resolver cores → ∀ core, core ∈ cores ↔
        core ∈ idx.configured ∧ (idx.files identity.key core = true ∨
          idx.files identity.key core = false ∧ idx.complete core = false ∧
            resolver core = .present) :=
  ⟨fun coverage => Runtime.decides h hlin coverage reply,
    fun _ hwell => follows_resolveAndReplace hwell, fun _ _ _ hsett => hsett.mem_iff⟩

/-- An open session whose frontend holds the lease. -/
def placing : Runtime :=
  { opened := true
    opts := { breakpointRunner := true, sourceIndex := true, sourceResolver := true }
    models := { Models.fresh false with reducer := { leaseOwner := "a" } } }

/-- Core 0 has the file by its line table, core 1 by the resolver, and core 2 has it not. -/
theorem placement_on_two_cores :
    placing.Places "a" ∧ ∃ next : Except Error (List Source.Observation) →
        Transact (Except Error ReplaceResult),
      resolveAndReplace "a" { key := "main.c" } [10] [⟨0, .present⟩, ⟨1, .unknown⟩, ⟨2, .absent⟩]
        [0, 1, 2] = .call (.resolve { key := "main.c" }) next ∧
      next (.ok [⟨2, .present⟩, ⟨0, .absent⟩, ⟨1, .present⟩]) =
        replaceForOwner "a" { key := "main.c" } [10] [0, 1] := by
  have hpl : placing.Places "a" := ⟨rfl, rfl, rfl, rfl, rfl⟩
  obtain ⟨-, hfol, -⟩ := placement_follows_coverage hpl { key := "main.c" }
    (List.cons_ne_nil 10 []) 1
  have hwell : WellFormed [⟨0, .present⟩, ⟨1, .unknown⟩, ⟨2, .absent⟩] :=
    ⟨nofun, by decide, by decide⟩
  obtain ⟨next, hcl, hnx⟩ := hfol _ hwell
  refine ⟨hpl, next, hcl, (hnx _).placed _ [0, 1] rfl ⟨by decide, ?_⟩⟩
  rw [← settled_iff hwell]
  decide

end MultiDap.Actor
