import MultiDap.Errors

/-!
# Source identities and core coverage

Which cores contain a source file. The index answers for every configured core; where it is
uncertain, the resolver is asked, and its answer only fills the uncertain entries.
-/

namespace MultiDap.Source

open List

/-- `source.Identity`. Lookups compare the key alone. -/
structure Identity where
  clientPath : String := ""
  debugPath : String := ""
  key : String := ""
  deriving DecidableEq

inductive Presence where
  | unknown | present | absent
  /-- A value outside the declared constants. -/
  | invalid (code : UInt8)
  deriving DecidableEq

def Presence.text : Presence → String
  | .unknown => "unknown"
  | .present => "present"
  | .absent => "absent"
  | .invalid code => s!"invalid_presence({code})"

structure Observation where
  core : Int
  presence : Presence
  deriving DecidableEq

/-- The configured cores of a coverage: not empty, no core negative or named twice. -/
def coverageSet (observations : List Observation) : Except Error (List Int) :=
  if observations.isEmpty then .error (.of .sourceUncertain)
  else
    observations.foldlM (fun expected observation =>
      if observation.core < 0 then
        .error (.wrap .sourceUncertain s!": negative core {observation.core}")
      else if expected.contains observation.core then
        .error (.wrap .sourceUncertain s!": duplicate core {observation.core}")
      else .ok (expected ++ [observation.core])) []

def coverageHasUnknown (observations : List Observation) : Bool :=
  observations.any (·.presence == .unknown)

/-- The resolver has to answer for every configured core exactly once. -/
def matchesCoverage (expected : List Int) (observations : List Observation) : Except Error Unit :=
  if observations.length ≠ expected.length then
    .error (.wrap .sourceUncertain (s!": resolver returned {observations.length} core " ++
      s!"observations for {expected.length} configured cores"))
  else do
    let _ ← observations.foldlM (fun seen observation =>
      if !expected.contains observation.core then
        .error (.wrap .sourceUncertain s!": resolver returned unconfigured core {observation.core}")
      else if seen.contains observation.core then
        .error (.wrap .sourceUncertain s!": resolver returned duplicate core {observation.core}")
      else .ok (observation.core :: seen)) []
    return ()

/-- The presence a resolver gave for a core. A later entry for a core wins. -/
def resolvedPresence (resolver : List Observation) (core : Int) : Presence :=
  match resolver.reverse.find? (·.core == core) with
  | some observation => observation.presence
  | none => .unknown

def mergeCoverage (index resolver : List Observation) : List Observation :=
  index.map fun observation =>
    if observation.presence = .unknown then
      { observation with presence := resolvedPresence resolver observation.core }
    else observation

/-- The cores that contain the source, and the cores seen, after a list of observations. -/
def collectCores (observations : List Observation) : Except Error (List Int × List Int) :=
  observations.foldlM (fun (acc : List Int × List Int) observation =>
    if observation.core < 0 then
      .error (.wrap .sourceUncertain s!": negative core {observation.core}")
    else if acc.2.contains observation.core then
      .error (.wrap .sourceUncertain s!": duplicate core {observation.core}")
    else
      match observation.presence with
      | .present => .ok (acc.1 ++ [observation.core], observation.core :: acc.2)
      | .absent => .ok (acc.1, observation.core :: acc.2)
      | .unknown => .error (.wrap .sourceUncertain s!": core {observation.core}")
      | other =>
        .error (.wrap .sourceUncertain s!": core {observation.core} returned {other.text}"))
      ([], [])

/-- The cores a breakpoint has to be placed on. -/
def resolvedCores (observations : List Observation) : Except Error (List Int) :=
  if observations.isEmpty then .error (.of .sourceUncertain)
  else do
    let (cores, _) ← collectCores observations
    if cores.isEmpty then .error (.of .sourceUnavailable)
    else return cores.insertionSort (· ≤ ·)

/-! ### The source index -/

/-- `source.Index`, as far as a lookup reads it. -/
structure Index where
  configured : List Int
  nodup : configured.Nodup
  /-- The cores whose line table names the file. -/
  files : String → Int → Bool
  /-- The line table of the core was read to its end. -/
  complete : Int → Bool

def Index.coverage (idx : Index) (key : String) : List Observation :=
  (idx.configured.insertionSort (· ≤ ·)).map fun core =>
    ⟨core, if idx.files key core then .present else if idx.complete core then .absent else .unknown⟩

/-! ### The rule for one core -/

/-- A definite answer of the index stands; where it is uncertain, the resolver decides. -/
def Presence.settle (index resolver : Presence) : Presence :=
  if index = .unknown then resolver else index

/-- The index, with its uncertain entries filled in. -/
def filled (index : List Observation) (resolver : Int → Presence) : List Observation :=
  index.map fun o => { o with presence := o.presence.settle (resolver o.core) }

/-- The coverage names cores, none of them negative or twice. -/
structure WellFormed (coverage : List Observation) : Prop where
  some : coverage ≠ []
  natural : ∀ o ∈ coverage, 0 ≤ o.core
  nodup : (coverage.map Observation.core).Nodup

/-- Every core of the coverage is settled, and the cores that contain the source are listed. -/
structure Settled (coverage : List Observation) (resolver : Int → Presence) (cores : List Int) :
    Prop where
  definite : ∀ o ∈ coverage,
    o.presence.settle (resolver o.core) = .present ∨ o.presence.settle (resolver o.core) = .absent
  some : cores ≠ []
  sorted : cores.Pairwise (· < ·)
  exact : ∀ core, core ∈ cores ↔
    ∃ o ∈ coverage, o.core = core ∧ o.presence.settle (resolver core) = .present

variable {rs : Int → Presence}

section

variable {obs cov : List Observation} {cores expected : List Int}

/-- The three loops over observations refuse an entry on its own account, or because its core was
seen before. -/
lemma foldlM_fresh {β : Type} {f : β → Observation → Except Error β} (accept : Observation → Prop)
    (seen : β → List Int) (next : β → Observation → β) {b r : β}
    (hf : ∀ b o b', f b o = .ok b' ↔ accept o ∧ o.core ∉ seen b ∧ b' = next b o)
    (hseen : ∀ b o c, c ∈ seen (next b o) ↔ c = o.core ∨ c ∈ seen b) :
    obs.foldlM f b = .ok r ↔ (∀ o ∈ obs, accept o) ∧
      (obs.map Observation.core).Nodup ∧ (∀ o ∈ obs, o.core ∉ seen b) ∧ r = obs.foldl next b := by
  induction obs generalizing b with
  | nil => simp [List.foldlM, pure, Except.pure, eq_comm]
  | cons o os ih =>
    rw [foldlM_cons, bind_eq_ok]
    constructor
    · rintro ⟨b', hb', hrs⟩
      obtain ⟨hac, hfr, rfl⟩ := (hf b o b').mp hb'
      obtain ⟨hal, hnod, hnew, rfl⟩ := ih.mp hrs
      refine ⟨forall_mem_cons.mpr ⟨hac, hal⟩, ?_,
        forall_mem_cons.mpr ⟨hfr, fun o' ho' hme => ?_⟩, rfl⟩
      · refine nodup_cons.mpr ⟨fun hme => ?_, hnod⟩
        obtain ⟨o', ho', hcore⟩ := mem_map.mp hme
        exact hnew o' ho' ((hseen b o _).mpr (.inl hcore))
      · exact hnew o' ho' ((hseen b o _).mpr (.inr hme))
    · rintro ⟨hal, hnod, hnew, rfl⟩
      obtain ⟨hac, hal⟩ := forall_mem_cons.mp hal
      obtain ⟨hfr, hnew⟩ := forall_mem_cons.mp hnew
      obtain ⟨hno, hnod⟩ := nodup_cons.mp hnod
      refine ⟨next b o, (hf b o _).mpr ⟨hac, hfr, rfl⟩, ih.mpr ⟨hal, hnod, ?_, rfl⟩⟩
      intro o' ho' hme
      rcases (hseen b o _).mp hme with hcore | hme
      · exact hno (hcore ▸ mem_map_of_mem ho')
      · exact hnew o' ho' hme

lemma coverageSet_ok : coverageSet cov = .ok expected ↔
    WellFormed cov ∧ expected = cov.map Observation.core := by
  have hfold (cs : List Int) (os : List Observation) :
      os.foldl (fun acc o => acc ++ [o.core]) cs = cs ++ os.map Observation.core := by
    induction os generalizing cs with
    | nil => simp
    | cons o os ih => rw [foldl_cons, ih, map_cons, append_assoc]; rfl
  unfold coverageSet
  cases cov with
  | nil => exact iff_of_false nofun fun h => h.1.some rfl
  | cons o os =>
    rw [isEmpty_cons, if_neg Bool.false_ne_true,
      foldlM_fresh (fun o => 0 ≤ o.core) id (fun acc o => acc ++ [o.core])
        (fun b o b' => by split_ifs <;> simp_all [eq_comm]) (fun b o c => by simp [or_comm]),
      hfold, nil_append]
    constructor
    · rintro ⟨hnat, hnod, -, rfl⟩
      exact ⟨⟨cons_ne_nil o os, hnat, hnod⟩, rfl⟩
    · rintro ⟨⟨-, hnat, hnod⟩, rfl⟩
      exact ⟨hnat, hnod, by simp, rfl⟩

lemma matchesCoverage_ok (hexp : expected.Nodup) :
    matchesCoverage expected obs = .ok () ↔ (obs.map Observation.core).Perm expected := by
  unfold matchesCoverage
  by_cases hlen : obs.length = expected.length
  · rw [if_neg (not_not.mpr hlen), bind_eq_ok]
    constructor
    · rintro ⟨r, hr, -⟩
      rw [foldlM_fresh (fun o => o.core ∈ expected) id (fun seen o => o.core :: seen)
        (fun b o b' => by split_ifs <;> grind) (fun b o c => by simp)] at hr
      obtain ⟨hsub, hnod, -⟩ := hr
      refine (subperm_of_subset hnod fun c hc => ?_).perm_of_length_le (by simp [hlen])
      obtain ⟨o, ho, rfl⟩ := mem_map.mp hc
      exact hsub o ho
    intro h
    refine ⟨obs.foldl (fun seen o => o.core :: seen) [], ?_, rfl⟩
    rw [foldlM_fresh (fun o => o.core ∈ expected) id (fun seen o => o.core :: seen)
      (fun b o b' => by split_ifs <;> grind) (fun b o c => by simp)]
    exact ⟨fun o ho => h.mem_iff.mp (mem_map_of_mem ho), h.nodup_iff.mpr hexp, by simp, rfl⟩
  · rw [if_pos hlen]
    exact iff_of_false nofun fun h => hlen (by simpa using h.length_eq)

/-- The cores that contain the source, in the order of the list. -/
def present (observations : List Observation) : List Int :=
  (observations.filter (·.presence = .present)).map Observation.core

lemma collectCores_ok {acc : List Int × List Int} : collectCores cov = .ok acc ↔
      (∀ o ∈ cov, 0 ≤ o.core ∧ (o.presence = .present ∨ o.presence = .absent)) ∧
      (cov.map Observation.core).Nodup ∧
      acc = (present cov, (cov.map Observation.core).reverse) := by
  have hfold (os : List Observation) (acc : List Int × List Int) :
      os.foldl (fun acc o =>
        (if o.presence = .present then acc.1 ++ [o.core] else acc.1, o.core :: acc.2)) acc =
        (acc.1 ++ present os, (os.map Observation.core).reverse ++ acc.2) := by
    induction os generalizing acc with
    | nil => simp [present]
    | cons o os ih =>
      rw [foldl_cons, ih]
      by_cases hpre : o.presence = .present <;> simp [present, hpre]
  unfold collectCores
  rw [foldlM_fresh (fun o => 0 ≤ o.core ∧ (o.presence = .present ∨ o.presence = .absent)) Prod.snd
    (fun acc o => (if o.presence = .present then acc.1 ++ [o.core] else acc.1, o.core :: acc.2))
    (fun b o b' => by
      obtain ⟨core, presence⟩ := o
      cases presence <;> dsimp only <;> split_ifs <;> simp_all [eq_comm]) (fun b o c => by simp),
    hfold]
  simp

lemma resolvedCores_ok (hcov : WellFormed cov) : resolvedCores cov = .ok cores ↔
    (∀ o ∈ cov, o.presence = .present ∨ o.presence = .absent) ∧ present cov ≠ [] ∧
      cores = (present cov).insertionSort (· ≤ ·) := by
  unfold resolvedCores
  rw [isEmpty_eq_false_iff.mpr hcov.some, if_neg Bool.false_ne_true, bind_eq_ok]
  simp only [collectCores_ok]
  constructor
  · rintro ⟨_, ⟨hdef, -, rfl⟩, h⟩
    dsimp only at h
    split_ifs at h with hemp
    exact ⟨fun o ho => (hdef o ho).2, fun hnil => hemp (by rw [hnil]; rfl), (Except.ok.inj h).symm⟩
  rintro ⟨hdef, hsome, rfl⟩
  refine ⟨_, ⟨fun o ho => ⟨hcov.natural o ho, hdef o ho⟩, hcov.nodup, rfl⟩, ?_⟩
  dsimp only
  rw [if_neg (by simpa using hsome)]
  rfl

lemma mem_present {core : Int} :
    core ∈ present cov ↔ ∃ o ∈ cov, o.core = core ∧ o.presence = .present := by
  simp [present, and_assoc, and_comm]

variable {idx : List Observation}

lemma mem_present_filled {core : Int} : core ∈ present (filled idx rs) ↔
      ∃ o ∈ idx, o.core = core ∧ o.presence.settle (rs core) = .present := by
  rw [mem_present]
  constructor
  · rintro ⟨_, ho, rfl, hpre⟩
    obtain ⟨o, hind, rfl⟩ := mem_map.mp ho
    exact ⟨o, hind, rfl, hpre⟩
  · rintro ⟨o, ho, rfl, hpre⟩
    exact ⟨_, mem_map_of_mem ho, rfl, hpre⟩

lemma settled_iff (hind : WellFormed idx) :
    resolvedCores (filled idx rs) = .ok cores ↔ Settled idx rs cores := by
  have hnam : (filled idx rs).map Observation.core = idx.map Observation.core := by
    simp [filled, Function.comp_def]
  have hcov : WellFormed (filled idx rs) :=
    ⟨by simpa [filled] using hind.some, by simpa [filled] using hind.natural, hnam ▸ hind.nodup⟩
  rw [resolvedCores_ok hcov]
  unfold filled
  rw [forall_mem_map]
  change _ ∧ present (filled idx rs) ≠ [] ∧
    cores = (present (filled idx rs)).insertionSort (· ≤ ·) ↔ _
  have hme (core : Int) : core ∈ present (filled idx rs) ↔ _ := mem_present_filled
  have hnod : (present (filled idx rs)).Nodup :=
    (filter_sublist.map Observation.core).nodup hcov.nodup
  generalize present (filled idx rs) = all at hme hnod ⊢
  have hsort := pairwise_insertionSort (· ≤ · : Int → Int → Prop) all
  constructor
  · rintro ⟨hdef, hsome, rfl⟩
    refine ⟨hdef, fun hnil => hsome ?_, ?_, fun core => ?_⟩
    · exact perm_nil.mp (hnil ▸ (perm_insertionSort (· ≤ ·) all).symm)
    · exact hsort.imp₂ (fun a b hle hne => lt_of_le_of_ne hle hne)
        ((perm_insertionSort _ all).nodup_iff.mpr hnod)
    · rw [mem_insertionSort, hme]
  rintro ⟨hdef, hsome, hsor, hexa⟩
  have hperm : cores.Perm all :=
    (perm_ext_iff_of_nodup (hsor.imp ne_of_lt) hnod).mpr fun core => by
      rw [hexa, hme]
  refine ⟨hdef, fun hnil => hsome (perm_nil.mp (hnil ▸ hperm)), ?_⟩
  exact (hperm.trans (perm_insertionSort _ all).symm).eq_of_pairwise' (hsor.imp le_of_lt) hsort

lemma mergeCoverage_eq (idx rs : List Observation) :
    mergeCoverage idx rs = filled idx (resolvedPresence rs) := by
  refine map_congr_left fun o _ => ?_
  unfold Presence.settle
  split_ifs
  · rfl
  · rfl

lemma settled_of_known (h : coverageHasUnknown idx = false)
    (rs : Int → Presence) : filled idx rs = idx := by
  refine (map_congr_left fun o ho => ?_).trans (map_id idx)
  have hkn : o.presence ≠ .unknown := by
    intro hunk
    refine Bool.false_ne_true (h.symm.trans (any_eq_true.mpr ⟨o, ho, ?_⟩))
    simp [hunk]
  unfold Presence.settle
  rw [if_neg hkn]
  rfl

end

lemma Settled.mem_iff {idx : Index} {key : String} {cores : List Int}
    (h : Settled (idx.coverage key) rs cores) (core : Int) :
    core ∈ cores ↔ core ∈ idx.configured ∧ (idx.files key core = true ∨
      idx.files key core = false ∧ idx.complete core = false ∧ rs core = .present) := by
  rw [h.exact]
  unfold Index.coverage
  simp only [mem_map, mem_insertionSort]
  constructor
  · rintro ⟨_, ⟨c, hc, rfl⟩, rfl, hpre⟩
    refine ⟨hc, ?_⟩
    cases hfile : idx.files key c <;> cases hcom : idx.complete c <;>
      simp_all [Presence.settle]
  rintro ⟨hc, hpre⟩
  refine ⟨_, ⟨core, hc, rfl⟩, rfl, ?_⟩
  rcases hpre with hfile | ⟨hfile, hcom, hres⟩
  · simp [hfile, Presence.settle]
  · simp [hfile, hcom, hres, Presence.settle]

end MultiDap.Source
