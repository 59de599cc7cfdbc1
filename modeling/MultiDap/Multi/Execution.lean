import MultiDap.Errors
import MultiDap.Machine.Search
import MultiDap.Target.Sample

/-!
# Execution domains

A command that was accepted says nothing about what the cores do. An execution domain takes samples
of the cores before and after a command, and confirms the transition if they prove it.
-/

namespace MultiDap.Multi

open Machine List

/-! ### Requests and samples -/

inductive ExecutionOperation where
  | «continue» | pause | stepIn | next
  | unknown (code : Nat)
  deriving DecidableEq

/-- `String`. -/
def ExecutionOperation.text : ExecutionOperation → String
  | .continue => "continue"
  | .pause => "pause"
  | .stepIn => "step_in"
  | .next => "next"
  | .unknown code => s!"unknown_execution_operation({code})"

/-- The domain of a topology, whose cores are distinct and in order. It is known by its address. -/
structure ExecutionDomain where
  address : Nat
  cores : List Int
  nonempty : cores ≠ []
  sorted : cores.Pairwise (· < ·)
  deriving DecidableEq

/-- Without a domain it is the zero value. -/
structure ExecutionScope where
  domain : Option ExecutionDomain := none
  cores : List Int := []
  deriving DecidableEq

structure ExecutionRequest where
  operation : ExecutionOperation
  scope : ExecutionScope

structure CoreExecutionObservation where
  core : Int
  status : Status
  stopStamp : UInt64
  hasStopStamp : Bool
  deriving DecidableEq

abbrev Samples := List CoreExecutionObservation

structure ExecutionObservation where
  domain : Option ExecutionDomain
  scope : ExecutionScope
  samples : Samples

structure ExecutionTransition where
  domain : Option ExecutionDomain
  scope : ExecutionScope
  before : ExecutionObservation
  after : ExecutionObservation

structure ExecutionResult where
  request : ExecutionRequest
  transition : ExecutionTransition

structure ExecutionTruth where
  allThreadsContinued : Bool := false
  allThreadsStopped : Bool := false
  deriving DecidableEq

/-- The words of MULTI for its states. -/
def statusText (status : Status) : String :=
  let texts := ["nil", "no_process", "stopped", "running", "dying", "forking", "executing",
    "continuing", "zombie"]
  let unknown := s!"unknown_status({status.code})"
  if status.code < 0 then unknown else texts.getD status.code.toNat unknown

def ExecutionObservation.allRunning (o : ExecutionObservation) : Bool :=
  !o.samples.isEmpty && o.samples.all (·.status.isRunning)

def ExecutionObservation.allStopped (o : ExecutionObservation) : Bool :=
  !o.samples.isEmpty && o.samples.all (·.status = .stopped)

/-! ### Checks -/

def containsCore (cores : List Int) (core : Int) : Bool := Machine.contains cores core

/-- The loop of `validateScope`. -/
def checkCores (configured : List Int) : Option Int → List Int → Except Error Unit
  | _, [] => .ok ()
  | previous, core :: rest =>
    if ¬ containsCore configured core then
      .error (.new s!"multi: execution scope has unconfigured core {core}")
    else if previous = some core then
      .error (.new s!"multi: execution scope duplicates core {core}")
    else checkCores configured (some core) rest

def unavailable : Error := .new "multi: execution domain is unavailable"

variable (d : Option ExecutionDomain) (scope : ExecutionScope)

def validateScope : Except Error Unit :=
  match d with
  | none => .error unavailable
  | some domain =>
    if scope.domain ≠ some domain ∨ scope.cores = [] then .error unavailable
    else if ¬ scope.cores.IsChain (· ≤ ·) then
      .error (.new "multi: execution scope is not in stable core order")
    else if scope.cores.length > domain.cores.length then
      .error (.new "multi: execution scope exceeds configured cores")
    else checkCores domain.cores none scope.cores

def unsupported (operation : ExecutionOperation) : Error :=
  .new s!"multi: unsupported execution operation {operation.text}"

def validateRequest (request : ExecutionRequest) : Except Error Unit := do
  validateScope d request.scope
  match request.operation with
  | .unknown _ => .error (unsupported request.operation)
  | _ => .ok ()

/-- One round of the loop of `confirmObservation` over the samples. -/
def noteSample (cores : List Int) (byCore : Samples)
    (sample : CoreExecutionObservation) : Except Error Samples :=
  let core := sample.core
  if ¬ containsCore cores core then
    .error (.new s!"multi: execution observation includes core {core} outside scope")
  else if byCore.any (·.core = core) then
    .error (.new s!"multi: execution observation duplicates core {core}")
  else if ¬ sample.hasStopStamp then
    .error (.new s!"multi: execution observation core {core} has no stop stamp")
  else if ¬ sample.status.isStopped ∧ ¬ sample.status.isRunning then
    .error (.new (s!"multi: execution observation core {core} has unstable status " ++
      statusText sample.status))
  else .ok (byCore ++ [sample])

/-- The loop of `confirmObservation` over the cores. -/
def inOrder (byCore : Samples) : List Int → Except Error Samples
  | [] => .ok []
  | core :: cores =>
    match byCore.find? (·.core = core) with
    | none => .error (.new s!"multi: execution observation misses core {core}")
    | some sample => do return sample :: (← inOrder byCore cores)

def confirmObservation (samples : Samples) : Except Error ExecutionObservation := do
  validateScope d scope
  let found := samples.length
  let wanted := scope.cores.length
  if found ≠ wanted then
    .error (.new s!"multi: execution observation has {found} samples for {wanted}-core scope")
  else
    let byCore ← samples.foldlM (noteSample scope.cores) []
    return { domain := d, scope, samples := ← inOrder byCore scope.cores }

/-- The loops of `validateTransition` over the samples, by their positions. -/
def advanced (operation : ExecutionOperation) (transition : ExecutionTransition) :
    Except Error Unit :=
  match (transition.before.samples.zip transition.after.samples).find?
    fun pair => pair.2.stopStamp ≤ pair.1.stopStamp with
  | none => .ok ()
  | some pair =>
    .error (.new s!"multi: {operation.text} core {pair.2.core} did not advance stop stamp")

def validateTransition (operation : ExecutionOperation) (transition : ExecutionTransition) :
    Except Error Unit :=
  match operation with
  | .continue =>
    if ¬ transition.before.allStopped ∨ ¬ transition.after.allRunning then
      .error (.new "multi: continue did not prove stopped-to-running transition")
    else .ok ()
  | .pause =>
    if ¬ transition.before.allRunning ∨ ¬ transition.after.allStopped then
      .error (.new "multi: pause did not prove running-to-stopped transition")
    else advanced operation transition
  | .stepIn | .next =>
    if ¬ transition.before.allStopped ∨ ¬ transition.after.allStopped then
      .error (.new
        s!"multi: {operation.text} did not prove stopped-to-stopped step transition")
    else advanced operation transition
  | .unknown _ => .error (unsupported operation)

def confirmTransition (request : ExecutionRequest) (before after : Samples) :
    Except Error ExecutionResult := do
  validateRequest d request
  let before ← (confirmObservation d request.scope before).mapError
    (.under "multi: execution before observation")
  let after ← (confirmObservation d request.scope after).mapError
    (.under "multi: execution after observation")
  let transition : ExecutionTransition := { domain := d, scope := request.scope, before, after }
  validateTransition request.operation transition
  return { request, transition }

/-- `Truth`. -/
def truth (result : ExecutionResult) : ExecutionTruth :=
  let transition := result.transition
  match d with
  | none => {}
  | some domain =>
    if transition.domain ≠ d ∨ transition.scope.domain ≠ d ∨
        transition.scope.cores ≠ domain.cores then {}
    else ⟨transition.after.allRunning, transition.after.allStopped⟩

/-! ### What a confirmation means -/

variable {d scope} {domain : ExecutionDomain} {samples before after : Samples}

lemma containsCore_iff {cores : List Int} (hs : cores.Pairwise (· < ·)) (core : Int) :
    containsCore cores core = true ↔ core ∈ cores :=
  contains_iff (hs.imp fun h => Int.le_of_lt h)

/-- A scope of the domain: some of its cores, in order. -/
structure Scoped (d : ExecutionDomain) (scope : ExecutionScope) : Prop where
  domain : scope.domain = some d
  nonempty : scope.cores ≠ []
  sorted : scope.cores.Pairwise (· < ·)
  subset : scope.cores ⊆ d.cores

lemma checkCores_iff {cores : List Int} {previous : Option Int} :
    checkCores domain.cores previous cores = .ok () ↔
      cores ⊆ domain.cores ∧ (previous.toList ++ cores).IsChain (· ≠ ·) := by
  induction cores generalizing previous with
  | nil => cases previous <;> simp [checkCores]
  | cons core rest ih =>
    have hmem := containsCore_iff domain.sorted core
    cases previous <;> simp [checkCores] <;> grind

lemma validateScope_iff : validateScope (some domain) scope = .ok () ↔ Scoped domain scope := by
  unfold validateScope
  dsimp only
  constructor
  · intro h
    split_ifs at h with hdom hsort
    obtain ⟨hsub, hne⟩ := checkCores_iff.mp h
    rw [not_or, not_not] at hdom
    refine ⟨hdom.1, hdom.2, isChain_iff_pairwise.mp (isChain_iff_getElem.mpr fun i hi => ?_), hsub⟩
    exact lt_of_le_of_ne (isChain_iff_getElem.mp hsort i hi) (isChain_iff_getElem.mp hne i hi)
  · rintro ⟨hdom, hne, hs, hsub⟩
    have hnd : scope.cores.Nodup := hs.imp Int.ne_of_lt
    rw [if_neg (by simp [hdom, hne]), if_neg (not_not.mpr (hs.imp Int.le_of_lt).isChain),
      if_neg (Nat.not_lt.mpr (hnd.subperm hsub).length_le), checkCores_iff]
    exact ⟨hsub, hnd.isChain⟩

/-- The sample can be used: it has a stamp, and its core runs or is stopped. -/
def Settled (sample : CoreExecutionObservation) : Prop :=
  sample.hasStopStamp = true ∧ (sample.status.isStopped = true ∨ sample.status.isRunning = true)

/-- There is exactly one sample of each core, and no other sample, and all of them can be used. -/
structure Complete (cores : List Int) (samples : Samples) : Prop where
  perm : (samples.map (·.core)).Perm cores
  settled : ∀ sample ∈ samples, Settled sample

lemma Complete.of_perm {cores : List Int} {samples' : Samples}
    (h : Complete cores samples) (hperm : samples'.Perm samples) : Complete cores samples' :=
  ⟨(hperm.map _).trans h.perm, fun sample hs => h.settled sample (hperm.mem_iff.mp hs)⟩

section

variable {cores : List Int} {noted out : Samples}

lemma noteSample_iff (hs : cores.Pairwise (· < ·)) {sample : CoreExecutionObservation} :
    noteSample cores noted sample = .ok out ↔
      out = noted ++ [sample] ∧ sample.core ∉ noted.map (·.core) ∧ sample.core ∈ cores ∧
        Settled sample := by
  have hmem := containsCore_iff hs sample.core
  unfold noteSample Settled
  grind

lemma noteSamples_iff (hs : cores.Pairwise (· < ·)) (hnd : (noted.map (·.core)).Nodup) :
    samples.foldlM (noteSample cores) noted = .ok out ↔
      out = noted ++ samples ∧ ((noted ++ samples).map (·.core)).Nodup ∧
        ∀ sample ∈ samples, sample.core ∈ cores ∧ Settled sample := by
  induction samples generalizing noted with
  | nil => simp [hnd, eq_comm, pure, Except.pure]
  | cons sample rest ih =>
    have hsplit : noted ++ sample :: rest = (noted ++ [sample]) ++ rest := by simp
    rw [foldlM_cons, bind_eq_ok, hsplit, forall_mem_cons]
    constructor
    · rintro ⟨next, hnote, hrest⟩
      obtain ⟨rfl, hnew, hok⟩ := (noteSample_iff hs).mp hnote
      have hnd' : ((noted ++ [sample]).map (·.core)).Nodup := by
        rw [map_append, nodup_append]
        exact ⟨hnd, nodup_singleton _, by simpa using hnew⟩
      obtain ⟨rfl, hall, hoks⟩ := (ih hnd').mp hrest
      exact ⟨rfl, hall, hok, hoks⟩
    · rintro ⟨rfl, hall, hok, hoks⟩
      have hnd' : ((noted ++ [sample]).map (·.core)).Nodup := by
        rw [map_append] at hall
        exact hall.of_append_left
      refine ⟨_, (noteSample_iff hs).mpr ⟨rfl, fun hold => ?_, hok⟩,
        (ih hnd').mpr ⟨rfl, hall, hoks⟩⟩
      rw [map_append, nodup_append] at hnd'
      exact hnd'.2.2 _ hold _ (by simp) rfl

lemma inOrder_ok {byCore : Samples} (h : cores ⊆ byCore.map (·.core)) :
    ∃ out, inOrder byCore cores = .ok out ∧ out.map (·.core) = cores ∧ out ⊆ byCore := by
  induction cores with
  | nil => exact ⟨[], rfl, rfl, nil_subset _⟩
  | cons core cores ih =>
    obtain ⟨hcore, hrest⟩ := cons_subset.mp h
    obtain ⟨out, hout, hcores, hsub⟩ := ih hrest
    obtain ⟨sample, hmem, heq⟩ := mem_map.mp hcore
    cases hfind : byCore.find? (·.core = core) with
    | none => exact absurd heq (by simpa using find?_eq_none.mp hfind sample hmem)
    | some found =>
      refine ⟨found :: out, ?_, ?_, cons_subset.mpr ⟨mem_of_find?_eq_some hfind, hsub⟩⟩
      · simp only [inOrder, hfind, hout]
        rfl
      · have hfound := find?_some hfind
        rw [map_cons, hcores, of_decide_eq_true hfound]

end

lemma Scoped.nodup (h : Scoped domain scope) : scope.cores.Nodup := h.sorted.imp Int.ne_of_lt

lemma Scoped.ne_nil (h : Scoped domain scope) (hm : samples.map (·.core) = scope.cores) :
    samples ≠ [] := by
  rintro rfl
  exact h.nonempty hm.symm

/-- The samples that were confirmed are those that were taken, in the order of the cores. -/
lemma Scoped.of_confirmObservation (h : Scoped domain scope) {o : ExecutionObservation}
    (hok : confirmObservation (some domain) scope samples = .ok o) :
    Complete scope.cores samples ∧ o.samples.Perm samples ∧
      o.samples.map (·.core) = scope.cores := by
  obtain ⟨⟨⟩, -, hok⟩ := bind_eq_ok.mp hok
  dsimp only at hok
  split_ifs at hok with hsize
  replace hsize := not_not.mp hsize
  obtain ⟨byCore, hnote, hok⟩ := bind_eq_ok.mp hok
  obtain ⟨out, hout, hok⟩ := bind_eq_ok.mp hok
  cases hok
  obtain ⟨heq, hnd, hall⟩ := (noteSamples_iff h.sorted (by simp)).mp hnote
  rw [nil_append] at heq hnd
  rw [heq] at hout
  have hsub : samples.map (·.core) ⊆ scope.cores := by
    intro core hcore
    obtain ⟨sample, hs, rfl⟩ := mem_map.mp hcore
    exact (hall sample hs).1
  have hperm : (samples.map (·.core)).Perm scope.cores :=
    (hnd.subperm hsub).perm_of_length_le (by rw [length_map, hsize])
  obtain ⟨out', hout', hcores, hfrom⟩ := inOrder_ok hperm.symm.subset
  obtain rfl : out' = out := Except.ok.inj (hout'.symm.trans hout)
  have hdistinct : out'.Nodup := .of_map (·.core) (hcores ▸ h.nodup)
  refine ⟨⟨hperm, fun sample hs => (hall sample hs).2⟩, ?_, hcores⟩
  refine (hdistinct.subperm hfrom).perm_of_length_le (Nat.le_of_eq ?_)
  rw [hsize, ← hcores, length_map]

lemma Scoped.confirmObservation_ok (h : Scoped domain scope) (hc : Complete scope.cores samples) :
    ∃ o, confirmObservation (some domain) scope samples = .ok o := by
  have hsize : samples.length = scope.cores.length := by
    rw [← hc.perm.length_eq, length_map]
  have hnote : samples.foldlM (noteSample scope.cores) [] = .ok samples := by
    refine (noteSamples_iff h.sorted (by simp)).mpr ⟨rfl, ?_, fun sample hs => ⟨?_, ?_⟩⟩
    · exact hc.perm.nodup_iff.mpr h.nodup
    · exact hc.perm.subset (mem_map_of_mem hs)
    · exact hc.settled sample hs
  obtain ⟨out, hout, -⟩ := inOrder_ok hc.perm.symm.subset
  refine ⟨⟨some domain, scope, out⟩, ?_⟩
  unfold confirmObservation
  rw [validateScope_iff.mpr h, hnote]
  exact bind_eq_ok.mpr ⟨⟨⟩, rfl, (if_neg (not_not.mpr hsize)).trans
    (bind_eq_ok.mpr ⟨samples, rfl, bind_eq_ok.mpr ⟨out, hout, rfl⟩⟩)⟩

/-- What an operation has to do to the cores. -/
def Law (operation : ExecutionOperation) (before after : Samples) : Prop :=
  let advances := ∀ b ∈ before, ∀ a ∈ after, a.core = b.core → b.stopStamp < a.stopStamp
  match operation with
  | .continue => (∀ b ∈ before, b.status.isStopped) ∧ ∀ a ∈ after, a.status.isRunning
  | .pause => (∀ b ∈ before, b.status.isRunning) ∧ (∀ a ∈ after, a.status.isStopped) ∧ advances
  | .stepIn | .next =>
    (∀ b ∈ before, b.status.isStopped) ∧ (∀ a ∈ after, a.status.isStopped) ∧ advances
  | .unknown _ => False

/-- Samples in the same order are compared core by core. -/
lemma zip_advances {f : CoreExecutionObservation → CoreExecutionObservation → Prop}
    (hcores : before.map (·.core) = after.map (·.core)) (hnd : (before.map (·.core)).Nodup) :
    (∀ pair ∈ before.zip after, f pair.1 pair.2) ↔
      ∀ b ∈ before, ∀ a ∈ after, a.core = b.core → f b a := by
  induction before generalizing after with
  | nil => simp
  | cons b before ih =>
    cases after with
    | nil => simp
    | cons a after =>
      simp only [map_cons, cons.injEq] at hcores
      rw [map_cons, nodup_cons] at hnd
      simp only [zip_cons_cons, forall_mem_cons, ih hcores.2 hnd.2]
      grind

lemma advanced_iff (operation : ExecutionOperation) (transition : ExecutionTransition) :
    advanced operation transition = .ok () ↔
      ∀ pair ∈ transition.before.samples.zip transition.after.samples,
        pair.1.stopStamp < pair.2.stopStamp := by
  unfold advanced
  split
  · next hnone => simpa using hnone
  · next pair hsome =>
    refine iff_of_false nofun fun h => ?_
    have hle := find?_some hsome
    exact absurd (h pair (mem_of_find?_eq_some hsome)) (UInt64.not_lt.mpr (of_decide_eq_true hle))

lemma allRunning_iff {o : ExecutionObservation} (h : o.samples ≠ []) :
    o.allRunning = true ↔ ∀ sample ∈ o.samples, sample.status.isRunning = true := by
  simp [ExecutionObservation.allRunning, h]

lemma allStopped_iff {o : ExecutionObservation} (h : o.samples ≠ []) :
    o.allStopped = true ↔ ∀ sample ∈ o.samples, sample.status.isStopped = true := by
  simp [ExecutionObservation.allStopped, Status.isStopped, h]

lemma unless_eq_ok {p q : Bool} {err : Error} {next : Except Error Unit} :
    (if ¬p ∨ ¬q then .error err else next) = .ok () ↔ p = true ∧ q = true ∧ next = .ok () := by
  cases p <;> cases q <;> simp

lemma validateTransition_iff {operation : ExecutionOperation} {transition : ExecutionTransition}
    (hb : transition.before.samples ≠ []) (ha : transition.after.samples ≠ [])
    (hcores : transition.before.samples.map (·.core) = transition.after.samples.map (·.core))
    (hnd : (transition.before.samples.map (·.core)).Nodup) :
    validateTransition operation transition = .ok () ↔
      Law operation transition.before.samples transition.after.samples := by
  have hadv := (advanced_iff operation transition).trans
    (zip_advances (f := fun b a => b.stopStamp < a.stopStamp) hcores hnd)
  unfold validateTransition Law
  cases operation with
  | unknown => exact iff_of_false nofun id
  | «continue» =>
    dsimp only
    rw [unless_eq_ok, allStopped_iff hb, allRunning_iff ha]
    simp
  | pause =>
    dsimp only
    rw [unless_eq_ok, allRunning_iff hb, allStopped_iff ha, hadv]
  | stepIn | next =>
    dsimp only
    rw [unless_eq_ok, allStopped_iff hb, allStopped_iff ha, hadv]

lemma Law.of_perm {operation : ExecutionOperation} {before' after' : Samples}
    (hb : before'.Perm before) (ha : after'.Perm after) :
    Law operation before' after' ↔ Law operation before after := by
  unfold Law
  simp only [hb.mem_iff, ha.mem_iff]

/-- What the domain confirms: the samples of both sides are complete, and obey the law. -/
structure Confirmed (domain : ExecutionDomain) (request : ExecutionRequest)
    (b a : Samples) : Prop where
  inScope : Scoped domain request.scope
  before : Complete request.scope.cores b
  after : Complete request.scope.cores a
  law : Law request.operation b a

variable {request : ExecutionRequest} {result : ExecutionResult}

/-- The samples of an observation that was confirmed prove what the law asks for. -/
lemma Scoped.validateTransition_iff (h : Scoped domain request.scope) {b a : ExecutionObservation}
    (hb : confirmObservation (some domain) request.scope before = .ok b)
    (ha : confirmObservation (some domain) request.scope after = .ok a) :
    validateTransition request.operation ⟨some domain, request.scope, b, a⟩ = .ok () ↔
      Law request.operation before after := by
  obtain ⟨-, hbp, hbm⟩ := h.of_confirmObservation hb
  obtain ⟨-, hap, ham⟩ := h.of_confirmObservation ha
  rw [Multi.validateTransition_iff (h.ne_nil hbm) (h.ne_nil ham) (hbm.trans ham.symm)
    (hbm ▸ h.nodup)]
  exact Law.of_perm hbp hap

lemma confirmed_of_ok (h : confirmTransition d request before after = .ok result) :
    ∃ domain, d = some domain ∧ Confirmed domain request before after ∧
      result.transition.domain = d ∧ result.transition.scope = request.scope ∧
      confirmObservation d request.scope after = .ok result.transition.after := by
  unfold confirmTransition at h
  obtain ⟨⟨⟩, hrequest, h⟩ := bind_eq_ok.mp h
  obtain ⟨b, hb, h⟩ := bind_eq_ok.mp h
  obtain ⟨a, ha, h⟩ := bind_eq_ok.mp h
  obtain ⟨⟨⟩, hlaw, h⟩ := bind_eq_ok.mp h
  cases h
  obtain ⟨⟨⟩, hscope, -⟩ := bind_eq_ok.mp hrequest
  cases d with
  | none => cases hscope
  | some domain =>
    have hs := validateScope_iff.mp hscope
    rw [mapError_eq_ok] at hb ha
    exact ⟨domain, rfl, ⟨hs, (hs.of_confirmObservation hb).1, (hs.of_confirmObservation ha).1,
      (hs.validateTransition_iff hb ha).mp hlaw⟩, rfl, rfl, ha⟩

lemma Confirmed.ok (h : Confirmed domain request before after) :
    ∃ result, confirmTransition (some domain) request before after = .ok result := by
  obtain ⟨b, hb⟩ := h.inScope.confirmObservation_ok h.before
  obtain ⟨a, ha⟩ := h.inScope.confirmObservation_ok h.after
  have hrequest : validateRequest (some domain) request = .ok () := by
    refine bind_eq_ok.mpr ⟨⟨⟩, validateScope_iff.mpr h.inScope, ?_⟩
    cases hop : request.operation with
    | unknown => exact (hop ▸ h.law : Law (.unknown _) before after).elim
    | _ => rfl
  exact ⟨_, bind_eq_ok.mpr ⟨⟨⟩, hrequest, bind_eq_ok.mpr ⟨b, mapError_eq_ok.mpr hb,
    bind_eq_ok.mpr ⟨a, mapError_eq_ok.mpr ha, bind_eq_ok.mpr
      ⟨⟨⟩, (h.inScope.validateTransition_iff hb ha).mpr h.law, rfl⟩⟩⟩⟩⟩

lemma Confirmed.of_perm {before' after' : Samples}
    (h : Confirmed domain request before after) (hb : before'.Perm before)
    (ha : after'.Perm after) : Confirmed domain request before' after' :=
  ⟨h.inScope, h.before.of_perm hb, h.after.of_perm ha, (Law.of_perm hb ha).mpr h.law⟩

/-- The domain confirms the transition. -/
def Confirms (d : Option ExecutionDomain) (request : ExecutionRequest) (before after : Samples) :
    Prop := ∃ result, confirmTransition d request before after = .ok result

/-- A transition is confirmed exactly when both sides have one usable sample of each core of the
scope and no other sample, and the samples obey the law of the operation, in whatever order they
come. A result says something about all threads only if it was confirmed by this domain for all of
its cores, and then it is true of all of them. -/
theorem transition_confirmed_iff (d : Option ExecutionDomain) (request : ExecutionRequest)
    (before after : Samples) : (Confirms d request before after ↔
      ∃ domain, d = some domain ∧ Confirmed domain request before after) ∧
    (∀ before' after', before'.Perm before → after'.Perm after →
      (Confirms d request before' after' ↔ Confirms d request before after)) ∧
    (∀ d' result, confirmTransition d' request before after = .ok result →
      truth d result ≠ {} → d' = d ∧ ∃ domain, d = some domain ∧
        Confirmed domain request before after ∧ request.scope.cores = domain.cores ∧
        ((truth d result).allThreadsContinued = true ↔ ∀ a ∈ after, a.status.isRunning = true) ∧
        ((truth d result).allThreadsStopped = true ↔ ∀ a ∈ after, a.status.isStopped = true)) ∧
    ∀ result, result.transition.domain = none → truth d result = {} := by
  have hiff (before after : Samples) : Confirms d request before after ↔
      ∃ domain, d = some domain ∧ Confirmed domain request before after := by
    constructor
    · rintro ⟨result, h⟩
      obtain ⟨domain, hd, hc, -⟩ := confirmed_of_ok h
      exact ⟨domain, hd, hc⟩
    · rintro ⟨domain, rfl, hc⟩
      exact hc.ok
  refine ⟨hiff before after, fun before' after' hb ha => ?_, fun d' result h htruth => ?_, ?_⟩
  · rw [hiff, hiff]
    exact exists_congr fun domain => and_congr_right fun _ =>
      ⟨fun hc => hc.of_perm hb.symm ha.symm, fun hc => hc.of_perm hb ha⟩
  · obtain ⟨domain', rfl, hc, hdom, hscope, hafter⟩ := confirmed_of_ok h
    unfold truth at htruth ⊢
    dsimp only at htruth ⊢
    cases d with
    | none => exact absurd rfl htruth
    | some domain =>
      dsimp only at htruth ⊢
      split_ifs at htruth ⊢ with hother
      · exact absurd rfl htruth
      rw [not_or, not_or, not_not, not_not, not_not, hdom, hscope] at hother
      obtain ⟨heq, -, hcores⟩ := hother
      cases heq
      obtain ⟨-, hperm, hmap⟩ := hc.inScope.of_confirmObservation hafter
      have hne := hc.inScope.ne_nil hmap
      refine ⟨rfl, _, rfl, hc, hcores, ?_, ?_⟩
      · rw [allRunning_iff hne]
        simp only [hperm.mem_iff]
      · rw [allStopped_iff hne]
        simp only [hperm.mem_iff]
  · intro result hnone
    unfold truth
    cases d <;> simp [hnone]

def twoCores : ExecutionDomain := ⟨0, [0, 1], by decide, by decide⟩

def pausing : ExecutionRequest := ⟨.pause, some twoCores, [0, 1]⟩

def ran : Samples := [⟨1, .running, 4, true⟩, ⟨0, .executing, 7, true⟩]

def halted : Samples := [⟨0, .stopped, 8, true⟩, ⟨1, .stopped, 5, true⟩]

/-- Both cores of a domain stop, and are sampled in different orders. -/
theorem transition_confirmed_pausing : Confirmed twoCores pausing ran halted ∧
    ∃ result, confirmTransition (some twoCores) pausing ran halted = .ok result ∧
      truth (some twoCores) result = ⟨false, true⟩ := by
  obtain ⟨result, hok, htruth⟩ : ∃ result,
      confirmTransition (some twoCores) pausing ran halted = .ok result ∧
        truth (some twoCores) result = ⟨false, true⟩ := exists_ok (by decide +kernel)
  obtain ⟨domain, hd, hc⟩ := (transition_confirmed_iff _ _ _ _).1.mp ⟨result, hok⟩
  cases hd
  exact ⟨hc, result, hok, htruth⟩

end MultiDap.Multi
