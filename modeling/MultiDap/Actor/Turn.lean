import MultiDap.Actor.Steps
import MultiDap.Machine.Run

/-!
# Turns

A turn of the actor loop is a command, a completion or a tick, followed by the submission of the
next operation that may be submitted. `step_moves` decomposes every step of the system into moves.
-/

namespace MultiDap.Actor

open Machine Inspection Stop Session Relation List Option Reducer Work

namespace Runtime

variable {G : Guard} {r r' : Runtime}

/-! ### The next operation -/

lemma bound_of_refusal {work : Work} (h : (r.refusal work).2 = none) {ep : UInt64}
    (hw : work.inspects = some ep) : r.sameStoppedEpoch ep = true := by
  cases work with
  | inspection stop =>
    obtain rfl : stop.stopEpoch = ep := by simpa [inspects] using hw
    simpa [refusal, expectedGeneration, boundTo] using h
  | _ => simp [inspects] at hw

lemma moves_startNextLoop (fuel : Nat) (hb : r.Base) : Moves G r (startNextLoop fuel r) := by
  induction fuel generalizing r with
  | zero => exact .refl
  | succ _ ih =>
    rw [startNextLoop]
    split_ifs with hbz
    · exact .refl
    simp only [Bool.or_eq_true, not_or, Bool.not_eq_true, isSome_eq_false_iff,
      isNone_iff_eq_none] at hbz
    obtain ⟨⟨hid, -⟩, hlive⟩ := hbz
    split
    · exact .refl
    rename_i work rest hp
    -- the check of a trace request may close the latch of the trace service
    have hlt : Moves G r { r with tracing := ({ r with pending := rest }.refusal work).1 } :=
      moves_tracing _
    have hb₁ := hb.moves hlt
    dsimp only
    split
    · rename_i err _
      refine hlt.trans ?_
      generalize ({ r with pending := rest }.refusal work).1 = tracing at hb₁
      have hpop : Move G { r with tracing } { r with tracing, pending := rest } :=
        .pop work rest hp
      have hdn : Moves G { r with tracing }
          ({ r with tracing, pending := rest }.done work (.error err) none) := by
        refine moves_done (.single hpop) hb₁ (hb₁.free_popped hlive hid hp) work _ none ?_ ?_
        · -- the references go before the request does
          intro ep hep hsa
          have hdrop : Move G { r with tracing } (dropStopBound { r with tracing }) :=
            .drop (.inr ⟨work, ep, hep, hsa, .inl (by simp [hp])⟩)
          exact (ReflTransGen.single hdrop).tail (.pop work rest hp)
        · intro _ _ _ h
          cases h
      exact hdn.trans (ih (hb₁.moves hdn))
    · rename_i hnn
      refine hlt.tail (.launch work rest hlive hid hp fun ep hw => ?_)
      exact bound_of_refusal (r := { r with pending := rest }) hnn hw

lemma moves_startNext (hb : r.Base) : Moves G r r.startNext := moves_startNextLoop _ hb

/-! ### The barrier and the lease -/

variable {reducer : Reducer}

lemma moves_withReducer
    (h : reducer = { r.models.reducer with configuring := reducer.configuring }) :
    Moves G r (r.withReducer reducer) := by
  rw [h]
  exact .single (.control _ _ (.inl rfl))

variable {ow : ControllerID}

lemma moves_acquireControl (h : r.models.reducer.acquireControl ow = .ok reducer) :
    Moves G r (r.withReducer reducer) := by
  unfold acquireControl at h
  split_ifs at h with hempty hheld
  cases h
  refine .single (.control _ _ ?_)
  by_cases hfree : r.models.reducer.leaseOwner = ""
  · exact .inr (.inl hfree)
  · exact .inl (by_contra fun hne => hheld ⟨hfree, fun heq => hne heq.symm⟩)

lemma moves_releaseControl (hg : r.models.reducer.leaseOwner = ow → ow ≠ "" → G.released r.waiting)
    (h : r.models.reducer.releaseControl ow = .ok reducer) : Moves G r (r.withReducer reducer) := by
  unfold releaseControl at h
  split_ifs at h with hheld
  cases h
  simp only [not_or, not_not] at hheld
  exact .single (.control _ _ (.inr (.inr (hg hheld.1 hheld.2))))

lemma moves_dropLease (ow : ControllerID)
    (hg : r.models.reducer.leaseOwner = ow → ow ≠ "" → G.released r.waiting) :
    Moves G r (r.dropLease ow) := by
  have hbooks {r' : Runtime} (hrel : Moves G r r') :
      Moves G r (if ow ≠ "" then { r' with controlGeneration := r'.controlGeneration + 1 }
        else r') := by
    split_ifs
    · exact hrel.tail (.books _ _ _ _ _ _ _)
    · exact hrel
  unfold dropLease
  split
  · cases h : r.models.reducer.releaseControl ow with
    | ok reducer => exact hbooks (moves_releaseControl hg h)
    | error => exact hbooks .refl
  · exact .refl

lemma Base.moves_schedule (hb : r.Base) (imm : Bool) :
    Moves G r (r.maybeScheduleBreakpointCleanup r.snapshot imm) := by
  by_cases hs : r.models.reducer.state = .stopped
  · refine moves_maybeSchedule ?_ _
    by_contra hno
    simp only [not_or, Bool.not_eq_true] at hno
    simpa [hs] using hb.unseen hno.2 hno.1
  · rw [maybeScheduleBreakpointCleanup, if_pos (.inl hs)]

lemma moves_detachOwner (hb : r.Base) (ow : ControllerID)
    (vis : Breakpoint.Visit Breakpoint.Logical)
    (hg : r.models.reducer.leaseOwner = ow → ow ≠ "" → G.released r.waiting) :
    Moves G r (r.detachOwner ow vis) := by
  unfold detachOwner
  -- the trace service is no part of what the rest looks at
  obtain ⟨tracing, htr⟩ : ∃ tracing, (if ow ≠ "" then
      r.invalidateTraceOwner ow "frontend_detached" else r) = { r with tracing } := by
    split_ifs
    · exact ⟨_, rfl⟩
    · exact ⟨r.tracing, rfl⟩
  rw [htr]
  have hsil : Moves G r (closeSubs { r with tracing } (·.owner == ow)) :=
    (moves_tracing tracing).tail (.silence _)
  have hgo := hsil.tail (.withdraw ow vis)
  have hfree := hgo.trans (moves_dropLease ow hg)
  dsimp only
  split_ifs
  · exact hfree.trans ((hb.moves hfree).moves_schedule true)
  · exact hfree

lemma moves_beginConfiguration (rp : ReplyID) : Moves G r (r.applyBeginConfiguration rp) := by
  have hset : Moves G r (r.withReducer r.models.reducer.beginConfiguration.reducer) := by
    apply moves_withReducer
    unfold beginConfiguration
    split_ifs <;> rfl
  have hno : r.models.reducer.beginConfiguration.actions = [] := by
    unfold beginConfiguration
    split_ifs <;> rfl
  unfold applyBeginConfiguration
  dsimp only
  rw [hno]
  exact hset.trans (moves_respond _ _ _)

lemma moves_cancelConfiguration (rp : ReplyID) : Moves G r (r.applyCancelConfiguration rp) := by
  have hset : Moves G r (r.withReducer r.models.reducer.cancelConfiguration.reducer) := by
    apply moves_withReducer
    unfold cancelConfiguration
    split_ifs <;> rfl
  have hno : r.models.reducer.cancelConfiguration.actions = [] := by
    unfold cancelConfiguration
    split_ifs <;> rfl
  unfold applyCancelConfiguration
  dsimp only
  rw [hno]
  exact hset.trans (moves_respond _ _ _)

lemma Base.moves_suspended (hb : r.Base) (hs : r.models.reducer.state = .stopped)
    (hg : G.configured r.faulted) :
    Moves G r (r.applyConfigurationActions [r.models.reducer.suspendedAction] r.snapshot) := by
  rcases r.lastStop.eq_none_or_eq_some with hla | ⟨eff, hla⟩
  · have heq : r.applyConfigurationActions [r.models.reducer.suspendedAction] r.snapshot =
        r.publish { kind := .stopped, snapshot := r.snapshot } := by
      simp [applyConfigurationActions, applyConfigurationAction, suspendedAction, hla]
    rw [heq]
    exact .single (.release _ (.bare (by simp [hla]) hs) hg)
  have heq : r.applyConfigurationActions [r.models.reducer.suspendedAction] r.snapshot =
      if eff.stopEpoch = r.snapshot.stopEpoch then r.applyStopEffect r.snapshot eff
      else r.publish { kind := .stopped, snapshot := r.snapshot } := by
    simp [applyConfigurationActions, applyConfigurationAction, suspendedAction, hla]
  rw [heq]
  split_ifs with hep
  · have hpub : r.applyStopEffect r.snapshot eff = r.publish (r.stoppedEvent eff r.snapshot) := by
      rw [applyStopEffect, hb.last eff hla]
      simp only
      rw [← hla]
    rw [hpub]
    exact .single (.release _ (.replayed eff hla hep hs) hg)
  refine .single (.release _ (.bare ?_ hs) hg)
  intro e he
  obtain rfl : eff = e := by simpa [hla] using he
  exact hep

def initialActions (reducer : Reducer) : List Action :=
  match reducer.state with
  | .stopped => [reducer.suspendedAction]
  | .running => [reducer.resumedAction]
  | _ => []

lemma configurationDone_ok (hs : r.models.reducer.state ≠ .faulted)
    (hc : r.models.reducer.configuring = true) (rp : ReplyID) : r.applyConfigurationDone rp =
      let r₁ := r.withReducer { r.models.reducer with configuring := false }
      (r₁.applyConfigurationActions (initialActions r₁.models.reducer) r₁.snapshot).respond rp
        .none none := by
  have heq : r.models.reducer.configurationDone =
      ⟨{ r.models.reducer with configuring := false },
        initialActions { r.models.reducer with configuring := false }, none⟩ := by
    cases hstate : r.models.reducer.state <;>
      simp_all [configurationDone, initialActions, result]
  rw [applyConfigurationDone, heq]
  rfl

lemma configurationDone_rejected (h : r.models.reducer.state = .faulted ∨
      r.models.reducer.configuring = false) (rp : ReplyID) :
    ∃ err, r.applyConfigurationDone rp = r.respond rp .none err := by
  obtain ⟨s, hs⟩ : ∃ s, r.models.reducer.configurationDone = r.models.reducer.reject s := by
    unfold configurationDone
    split_ifs with h₁ h₂
    · exact ⟨_, rfl⟩
    · exact ⟨_, rfl⟩
    · simp_all
  rw [applyConfigurationDone, hs]
  exact ⟨_, rfl⟩

lemma moves_configurationDone (hb : r.Base) (rp : ReplyID)
    (hg : r.models.reducer.configuring = true →
      r.models.reducer.state = .stopped ∨ r.models.reducer.state = .running →
      G.configured r.faulted) : Moves G r (r.applyConfigurationDone rp) := by
  by_cases hrr : r.models.reducer.state = .faulted ∨ r.models.reducer.configuring = false
  · obtain ⟨err, heq⟩ := configurationDone_rejected hrr rp
    rw [heq]
    exact moves_respond _ _ _
  simp only [not_or, Bool.not_eq_false] at hrr
  rw [configurationDone_ok hrr.1 hrr.2]
  have hop : Moves G r (r.withReducer { r.models.reducer with configuring := false }) :=
    .single (.control _ _ (.inl rfl))
  have hb₁ := hb.moves hop
  have hg₁ := hg hrr.2
  change (r.withReducer { r.models.reducer with configuring := false }).models.reducer.state =
      .stopped ∨
    (r.withReducer { r.models.reducer with configuring := false }).models.reducer.state =
      .running →
    G.configured (r.withReducer { r.models.reducer with configuring := false }).faulted at hg₁
  generalize r.withReducer { r.models.reducer with configuring := false } = r₁ at hop hb₁ hg₁ ⊢
  refine hop.trans (ReflTransGen.trans ?_ (moves_respond _ _ _))
  unfold initialActions
  split
  · rename_i hs
    exact hb₁.moves_suspended hs (hg₁ (.inl hs))
  · rename_i hs
    exact .single (.release _ (.resumed hs) (hg₁ (.inr hs)))
  · exact .refl

/-! ### Queued requests -/

lemma notReady_eq_none (h : r.notReady = none) : r.opened = true ∧ r.faulted = false := by
  unfold notReady at h
  split_ifs at h
  simp_all

lemma moves_enqueue (h : r.opened = true ∧ r.faulted = false) {work : Work} (hp : Plain work) :
    Moves G r (r.enqueue work) :=
  .single (.enqueue _ (hp.queues h.2 (.inl h.1)))

lemma moves_open (hb : r.Base) (rp : ReplyID) : Moves G r (r.applyOpen rp) := by
  unfold applyOpen
  split_ifs with hf ho
  · exact moves_respond _ _ _
  · exact moves_respond _ _ _
  simp only [Bool.not_eq_true, Bool.or_eq_false_iff] at hf ho
  have hload := hb.idle ho.1 hf ho.2
  simp only [load, Nat.add_eq_zero_iff, length_eq_zero_iff, toList_eq_nil_iff] at hload
  have hpl : Plain (.open rp) := ⟨rfl, rfl, rfl, rfl⟩
  exact (ReflTransGen.single (.begin hf ho.1 ho.2)).tail
    (.enqueue _ (hpl.queues hf (.inr ⟨rfl, hload⟩)))

lemma moves_acquire (ow : ControllerID) (rp : ReplyID) : Moves G r (r.applyAcquire ow rp) := by
  unfold applyAcquire
  split
  · exact moves_respond _ _ _
  split
  · rename_i h
    exact ((moves_acquireControl h).tail (.books _ _ _ _ _ _ _)).trans (moves_respond _ _ _)
  · exact moves_respond _ _ _

lemma moves_release (ow : ControllerID) (rp : ReplyID)
    (hg : r.models.reducer.leaseOwner = ow → ow ≠ "" → G.released r.waiting) :
    Moves G r (r.applyRelease ow rp) := by
  obtain ⟨tracing, gen, hbook⟩ : ∃ tracing gen,
      (if ow ≠ "" ∧ r.snapshot.leaseOwner = ow then
        { r.invalidateTraceOwner ow "control_released" with
          controlGeneration := r.controlGeneration + 1 }
      else r) = { r with tracing, controlGeneration := gen } := by
    split_ifs
    · exact ⟨_, _, rfl⟩
    · exact ⟨r.tracing, r.controlGeneration, rfl⟩
  have hmov : Moves G r { r with tracing, controlGeneration := gen } :=
    .single (.books _ _ _ _ _ _ _)
  unfold applyRelease
  rw [hbook]
  dsimp only
  split
  · rename_i h
    have hrel := moves_releaseControl (r := { r with tracing, controlGeneration := gen }) hg h
    exact hmov.trans (hrel.trans (moves_respond _ _ _))
  · exact hmov.trans (moves_respond _ _ _)

lemma moves_poll (rp : ReplyID) : Moves G r (r.applyPoll rp) := by
  unfold applyPoll
  split
  · exact moves_respond _ _ _
  · rename_i h
    exact moves_enqueue (notReady_eq_none h) ⟨rfl, rfl, rfl, rfl⟩

lemma holds_of_admitsExecution {op : ExecutionOperation} (h : r.admitsExecution ow op = none) :
    ow ≠ "" ∧ r.models.reducer.leaseOwner = ow := by
  have hctl : r.models.reducer.requireControl ow = none := by
    unfold admitsExecution at h
    split_ifs at h
    · exact h
    unfold requireResume at h
    split at h
    · cases h
    · assumption
  unfold requireControl at hctl
  split_ifs at hctl with hno
  simp only [not_or, not_not] at hno
  exact ⟨hno.2, hno.1⟩

/-- A command is refused, or it queues an operation. -/
def Served (r : Runtime) (reply : ReplyID) (P : Work → Prop) (r' : Runtime) : Prop :=
  (∃ err, r' = r.respond reply .none (some err)) ∨
    r.notReady = none ∧ ∃ work, P work ∧ r' = r.enqueue work

lemma served_execute (ow : ControllerID) (coreID : Int) (op : ExecutionOperation)
    (scope : Except Error (List Int)) (rp : ReplyID) :
    r.Served rp (fun work => r.admitsExecution ow op = none ∧
      (work = .singleCoreExecution ow coreID op rp ∨
        ∃ scope, work = .executionDomain ow op scope rp))
      (r.applyExecute ow coreID op scope rp) := by
  unfold applyExecute
  split
  · exact .inl ⟨_, rfl⟩
  next hre =>
  split_ifs
  · exact .inl ⟨_, rfl⟩
  · exact .inl ⟨_, rfl⟩
  · split
    · exact .inl ⟨_, rfl⟩
    next hexec => exact .inr ⟨hre, _, ⟨hexec, .inl rfl⟩, rfl⟩
  split
  · exact .inl ⟨_, rfl⟩
  next hexec =>
  split
  · exact .inl ⟨_, rfl⟩
  · exact .inr ⟨hre, _, ⟨hexec, .inr ⟨_, rfl⟩⟩, rfl⟩

lemma moves_execute (ow : ControllerID) (coreID : Int) (op : ExecutionOperation)
    (scope : Except Error (List Int)) (rp : ReplyID) :
    Moves G r (r.applyExecute ow coreID op scope rp) := by
  obtain ⟨err, heq⟩ | ⟨hre, work, ⟨hexec, hw⟩, heq⟩ := served_execute ow coreID op scope rp
  · rw [heq]
    exact moves_respond _ _ _
  obtain ⟨ho, hlive⟩ := notReady_eq_none hre
  rw [heq]
  rcases hw with rfl | ⟨scope, rfl⟩
  all_goals
    refine .single (.enqueue _ ⟨hlive, .inl ho, nofun, nofun, ?_, rfl⟩)
    rintro other ⟨⟩
    exact holds_of_admitsExecution hexec

lemma served_setBreakpoints (ow : ControllerID) (identity : Source.Identity) (lines : List Int)
    (cov : List Source.Observation) (rp : ReplyID) :
    r.Served rp (fun work => r.models.reducer.requireControl ow = none ∧
      r.opts.breakpointRunner = true ∧ ((∃ cores, work = .breakpoints ow identity lines cores rp) ∨
        ∃ expected, work = .sourceResolution ow identity lines cov expected rp))
      (r.applySetBreakpoints ow identity lines cov rp) := by
  unfold applySetBreakpoints
  split
  · exact .inl ⟨_, rfl⟩
  next hre =>
  split
  · exact .inl ⟨_, rfl⟩
  next hctl =>
  split
  · exact .inl ⟨_, rfl⟩
  next hru =>
  rw [Bool.not_eq_true', Bool.not_eq_false] at hru
  split
  · exact .inr ⟨hre, _, ⟨hctl, hru, .inl ⟨_, rfl⟩⟩, rfl⟩
  split
  · exact .inl ⟨_, rfl⟩
  split
  · exact .inl ⟨_, rfl⟩
  split
  · split
    · exact .inl ⟨_, rfl⟩
    · exact .inr ⟨hre, _, ⟨hctl, hru, .inr ⟨_, rfl⟩⟩, rfl⟩
  split
  · exact .inl ⟨_, rfl⟩
  · exact .inr ⟨hre, _, ⟨hctl, hru, .inl ⟨_, rfl⟩⟩, rfl⟩

lemma moves_setBreakpoints (ow : ControllerID) (identity : Source.Identity) (lines : List Int)
    (cov : List Source.Observation) (rp : ReplyID)
    (hg : r.notReady = none → r.models.reducer.requireControl ow = none → G.breakpoints r ow) :
    Moves G r (r.applySetBreakpoints ow identity lines cov rp) := by
  obtain ⟨err, heq⟩ | ⟨hre, work, ⟨hctl, hru, hw⟩, heq⟩ :=
    served_setBreakpoints ow identity lines cov rp
  · rw [heq]
    exact moves_respond _ _ _
  obtain ⟨ho, hlive⟩ := notReady_eq_none hre
  rw [heq]
  rcases hw with ⟨cores, rfl⟩ | ⟨expected, rfl⟩
  all_goals
    refine .single (.enqueue _ ⟨hlive, .inl ho, ?_, nofun, nofun, rfl⟩)
    rintro other ⟨⟩
    exact ⟨hg hre hctl, hru⟩

lemma moves_noteHint (tok : UInt32) (rp : Option ReplyID) : Moves G r (r.applyNoteHint tok rp) := by
  unfold applyNoteHint
  refine ReflTransGen.trans ?_ (moves_respondTo _ _)
  split_ifs with hop
  · have hhint : Moves G r _ := .single (.hint tok)
    dsimp only
    split_ifs
    · exact hhint.trans (moves_enqueue (by simpa using hop) ⟨rfl, rfl, rfl, rfl⟩)
    · exact hhint
  · exact .refl

lemma inspectionStop_ok {stop : StopContext} (h : r.inspectionStop = .ok stop) :
    (r.opened = true ∧ r.faulted = false) ∧ stop.stopEpoch = r.models.reducer.stopEpoch := by
  unfold inspectionStop at h
  split at h
  · cases h
  rename_i hre
  split_ifs at h
  cases h
  exact ⟨notReady_eq_none hre, rfl⟩

lemma moves_inspection {stop : Except Error StopContext}
    (h : ∀ s, stop = .ok s → r.inspectionStop = .ok s) (call : InspectionCall) (rp : ReplyID) :
    Moves G r (r.applyInspection stop call rp) := by
  unfold applyInspection
  split
  · exact moves_respond _ _ _
  rename_i s
  obtain ⟨⟨ho, hlive⟩, hep⟩ := inspectionStop_ok (h s rfl)
  refine .single (.enqueue _
    ⟨hlive, .inl ho, by simp [owner], ?_, by simp [requester], rfl⟩)
  intro ep he
  exact (Option.some.inj he).symm.trans hep

lemma moves_stack (tid : Int) (page : Page) (rp : ReplyID) :
    Moves G r (r.applyStack tid page rp) := by
  unfold applyStack
  split
  · exact moves_respond _ _ _
  rename_i core stop hcore
  refine moves_inspection (fun s hs => ?_) _ _
  cases hs
  unfold inspectionCore at hcore
  cases hstop : r.inspectionStop with
  | error => simp [hstop, bind, Except.bind] at hcore
  | ok =>
    simp only [hstop, bind, Except.bind] at hcore
    split at hcore
    · simp_all [pure, Except.pure]
    · simp [throw, throwThe, MonadExceptOf.throw] at hcore

lemma m5Request_ok {coreID : Int} {expected : Option UInt64} {ep : UInt64}
    (h : r.m5Request coreID expected = .ok ep) : r.opened = true ∧ r.faulted = false := by
  unfold m5Request at h
  split at h
  · cases h
  · rename_i hre
    exact notReady_eq_none hre

lemma moves_readMemory (coreID : Int) (address count : UInt64) (expected : Option UInt64)
    (rp : ReplyID) : Moves G r (r.applyReadMemory coreID address count expected rp) := by
  unfold applyReadMemory
  split
  · exact moves_respond _ _ _
  rename_i hm
  split_ifs
  · exact moves_respond _ _ _
  · exact moves_enqueue (m5Request_ok hm) ⟨rfl, rfl, rfl, rfl⟩

lemma moves_disassemble (coreID : Int) (address : UInt64) (instructionOffset : Int)
    (instructionCount : UInt32) (expected : Option UInt64) (rp : ReplyID) :
    Moves G r (r.applyDisassemble coreID address instructionOffset instructionCount expected
      rp) := by
  unfold applyDisassemble
  split
  · exact moves_respond _ _ _
  rename_i hm
  split_ifs
  · exact moves_respond _ _ _
  · exact moves_enqueue (m5Request_ok hm) ⟨rfl, rfl, rfl, rfl⟩

lemma moves_resetConsole (rp : ReplyID) : Moves G r (r.applyResetConsole rp) := by
  unfold applyResetConsole
  split
  · exact moves_respond _ _ _
  rename_i hre
  split_ifs
  · exact moves_respond _ _ _
  · exact moves_enqueue (notReady_eq_none hre) ⟨rfl, rfl, rfl, rfl⟩

lemma traceRequest_ok {req : TraceRequest} {caller : ReplyID}
    (h : (r.traceRequest ow req caller).2 = none) : r.opened = true ∧ r.faulted = false := by
  unfold traceRequest at h
  split at h
  · cases h
  split at h
  · cases h
  · rename_i hre
    exact notReady_eq_none hre

lemma moves_trace (ow : ControllerID) (req : TraceRequest) (rp : ReplyID) :
    Moves G r (r.applyTrace ow req rp) := by
  unfold applyTrace
  dsimp only
  refine (moves_tracing (r.traceRequest ow req rp).1).trans ?_
  split
  · exact moves_respond _ _ _
  rename_i hnn
  have hre := traceRequest_ok hnn
  have hpl : Plain (.trace ow r.controlGeneration req r.executor.generation rp) :=
    ⟨rfl, rfl, rfl, rfl⟩
  exact moves_enqueue (r := { r with tracing := (r.traceRequest ow req rp).1 }) hre hpl

lemma moves_traceSnapshot (ow : ControllerID) (rp : ReplyID) :
    Moves G r (r.applyTraceSnapshot ow rp) := by
  unfold applyTraceSnapshot
  split
  · exact moves_respond _ _ _
  split <;> exact moves_respond _ _ _

lemma moves_attach (ow : ControllerID) (rp : ReplyID)
    (hg : r.faulted = false → G.attach r ow) : Moves G r (r.applyAttach ow rp) := by
  unfold applyAttach
  split_ifs with hf
  · exact moves_respond _ _ _
  · simp only [Bool.not_eq_true] at hf
    exact (ReflTransGen.single (.attach ow hf (hg hf))).trans (moves_respond _ _ _)

lemma moves_allocateHandle (kind : Handle.Kind) (core : Int) (val : Payload) (rp : ReplyID)
    (hg : r.models.reducer.state = .stopped → G.allocate r) :
    Moves G r (r.applyAllocateHandle kind core val rp) := by
  unfold applyAllocateHandle
  split_ifs with hs
  · exact moves_respond _ _ _
  rw [not_not] at hs
  have hal := ReflTransGen.single (Move.allocate kind core val hs (hg hs))
  dsimp only
  split
  · exact hal.trans (moves_respond _ _ _)
  · exact hal.trans (moves_respond _ _ _)

lemma moves_closeExecutor : Moves G r r.closeExecutor := by
  unfold closeExecutor
  split_ifs
  · exact .refl
  · exact .single (.books _ _ _ _ _ _ _)

lemma moves_close (hc : r.closing = false) (rp : ReplyID) : Moves G r (r.applyClose rp) := by
  have heq (r : Runtime) : { (r.closeSubs fun _ => true).dropStopBound.closeExecutor with
        closing := true, valid := [] } =
      closeExecutor { r with
        subs := r.subs.map Subscriber.close, ledger := r.ledger.dropStopBound, closing := true
        valid := [] } := by
    by_cases he : r.executor.closed = true <;> simp [closeExecutor, closeSubs, dropStopBound, he]
  have htr : Moves G r (r.invalidateTraceOwner "" "daemon_closed") := moves_tracing _
  unfold applyClose
  dsimp only
  rw [heq]
  exact (htr.tail (Move.close hc)).trans (moves_closeExecutor.trans (moves_respond _ _ _))

/-! ### Steps -/

/-- The sample that the next completion makes the actor look at. -/
def sampled (r : Runtime) : Option StateEvidence :=
  match r.complete, r.inflight with
  | c :: _, some inflight =>
    if r.judge inflight c = .finished ∨ r.judge inflight c = .unsubmitted then brings inflight c
    else none
  | _, _ => none

end Runtime

/-- A step meets the conditions on what it does. -/
def Guard.Admits (G : Guard) (r : Runtime) : Input → Prop
  | .completion _ => ∀ evidence, r.sampled = some evidence →
    G.sample r.models evidence ∧ G.queued r.pending r.models evidence
  | .command (.attach owner _) => r.faulted = false → G.attach r owner
  | .command (.setBreakpoints owner ..) =>
    r.notReady = none → r.models.reducer.requireControl owner = none → G.breakpoints r owner
  | .command (.allocateHandle ..) => r.models.reducer.state = .stopped → G.allocate r
  | .command (.detach owner ..) =>
    r.models.reducer.leaseOwner = owner → owner ≠ "" → G.released r.waiting
  | .command (.release owner _) =>
    r.models.reducer.leaseOwner = owner → owner ≠ "" → G.released r.waiting
  | .command (.configurationDone _) =>
    r.models.reducer.configuring = true →
      r.models.reducer.state = .stopped ∨ r.models.reducer.state = .running →
      G.configured r.faulted
  | .worker (.inspect _) => G.inspected r.faulted
  | .worker (.transact reply) => G.resolved r reply
  | _ => True

/-- The conditions of a guard can be checked. -/
class Guard.Checkable (G : Guard) where
  sample : ∀ m evidence, Decidable (G.sample m evidence) := by exact fun _ _ => .isTrue trivial
  attach : ∀ r owner, Decidable (G.attach r owner) := by exact fun _ _ => .isTrue trivial
  breakpoints : ∀ r owner, Decidable (G.breakpoints r owner) := by
    exact fun _ _ => .isTrue trivial
  allocate : ∀ r, Decidable (G.allocate r) := by exact fun _ => .isTrue trivial
  queued : ∀ works m evidence, Decidable (G.queued works m evidence) := by
    exact fun _ _ _ => .isTrue trivial
  released : ∀ works, Decidable (G.released works) := by exact fun _ => .isTrue trivial
  configured : ∀ faulted, Decidable (G.configured faulted) := by exact fun _ => .isTrue trivial
  inspected : ∀ faulted, Decidable (G.inspected faulted) := by exact fun _ => .isTrue trivial
  resolved : ∀ r reply, Decidable (G.resolved r reply) := by exact fun _ _ => .isTrue trivial

attribute [reducible, instance] Guard.Checkable.sample Guard.Checkable.attach
  Guard.Checkable.breakpoints
  Guard.Checkable.allocate Guard.Checkable.queued Guard.Checkable.released
  Guard.Checkable.configured Guard.Checkable.inspected Guard.Checkable.resolved

instance (G : Guard) [G.Checkable] (r : Runtime) : (i : Input) → Decidable (G.Admits r i)
  | .completion _ => inferInstanceAs (Decidable (∀ evidence, r.sampled = some evidence →
      G.sample r.models evidence ∧ G.queued r.pending r.models evidence))
  | .command command => by
    cases command <;>
      first
      | exact .isTrue trivial
      | exact inferInstanceAs (Decidable (_ → _))
  | .stateTick => .isTrue trivial
  | .consoleTick => .isTrue trivial
  | .dispatch .. => .isTrue trivial
  | .worker (.inspect _) => inferInstanceAs (Decidable (G.inspected r.faulted))
  | .worker .take => .isTrue trivial
  | .worker (.exchange _) => .isTrue trivial
  | .worker (.transact reply) => inferInstanceAs (Decidable (G.resolved r reply))
  | .worker .finish => .isTrue trivial
  | .replace => .isTrue trivial
  | .receive _ => .isTrue trivial
  | .cancel .. => .isTrue trivial
  | .traceStatus _ => .isTrue trivial

lemma Guard.admits_all (s : Runtime) (ins : List Input) :
    Along Runtime.step ({} : Guard).Admits s ins := by
  refine along_of_forall fun r i _ => ?_
  cases i with
  | command cmd => cases cmd <;> simp [Guard.Admits]
  | worker turn => cases turn <;> trivial
  | completion => exact fun _ _ => ⟨trivial, trivial⟩
  | _ => trivial

namespace Runtime

lemma moves_apply (hb : r.Base) (hc : r.closing = false) (cmd : Command)
    (hg : G.Admits r (.command cmd)) : Moves G r (r.apply cmd) := by
  cases cmd with
  | «open» rp => exact moves_open hb rp
  | attach ow rp => exact moves_attach ow rp hg
  | detach ow vis =>
    exact (moves_detachOwner hb ow vis hg).trans (moves_respond _ _ _)
  | detachSubscription => exact .single (.silence _)
  | acquire ow rp => exact moves_acquire ow rp
  | release ow rp => exact moves_release ow rp hg
  | threads =>
    simp only [apply]
    split_ifs <;> exact moves_respond _ _ _
  | snapshot | breakpointCounts => exact moves_respond _ _ _
  | poll rp => exact moves_poll rp
  | execute ow coreID op scope rp =>
    exact moves_execute ow coreID op scope rp
  | beginConfiguration rp => exact moves_beginConfiguration rp
  | configurationDone rp => exact moves_configurationDone hb rp hg
  | cancelConfiguration rp => exact moves_cancelConfiguration rp
  | allocateHandle kind core val rp => exact moves_allocateHandle kind core val rp hg
  | setBreakpoints ow identity lines cov rp =>
    exact moves_setBreakpoints ow identity lines cov rp hg
  | noteHint tok rp => exact moves_noteHint tok rp
  | stack tid page rp => exact moves_stack tid page rp
  | scopes | variablePage | evaluate => exact moves_inspection (fun _ h => h) _ _
  | readMemory => exact moves_readMemory _ _ _ _ _
  | disassemble => exact moves_disassemble _ _ _ _ _ _
  | resetConsole rp => exact moves_resetConsole rp
  | trace ow req rp => exact moves_trace ow req rp
  | traceSnapshot ow rp => exact moves_traceSnapshot ow rp
  | close rp => exact moves_close hc rp

lemma moves_stateTick : Moves G r r.stateTick := by
  unfold stateTick
  split_ifs with h
  · simp only [Bool.and_eq_true, Bool.not_eq_true'] at h
    exact moves_enqueue h.1 ⟨rfl, rfl, rfl, rfl⟩
  · exact .refl

lemma moves_consoleTick : Moves G r r.consoleTick := by
  have hrp : Moves G r (if r.console.failurePending && r.consoleFrontendActive then
      { r.publishTo { kind := .output, consoleUnavailable := true } r.console.failureTargets with
        console := { r.console with
          failurePending := false, failureReported := true, failureTargets := [] } }
      else r) := by
    split_ifs
    · exact (ReflTransGen.single (.output _ _ rfl)).tail (.books _ _ _ _ _ _ _)
    · exact .refl
  unfold consoleTick
  dsimp only
  generalize (if r.console.failurePending && r.consoleFrontendActive then _ else r) = r₁ at hrp ⊢
  split_ifs with h
  · refine hrp.trans (moves_enqueue ?_ ⟨rfl, rfl, rfl, rfl⟩)
    simp only [consoleActive, consoleFrontendActive, Bool.and_eq_true, Bool.not_eq_true'] at h
    tauto
  · exact hrp

lemma moves_turn {f : Runtime → Runtime} (hb : r.Base)
    (hf : r.closing = false → Moves G r (f r)) (h : r.turn f = some r') : Moves G r r' := by
  unfold turn at h
  split_ifs at h with hc
  cases h
  have hmov := hf (by simpa using hc)
  exact hmov.trans (moves_startNext (hb.moves hmov))

/-- Every step is a sequence of moves. -/
theorem step_moves (hb : r.Base) {i : Input} (hg : G.Admits r i) (h : r.step i = some r') :
    Moves G r r' := by
  cases i with
  | command cmd =>
    exact moves_turn (f := fun r => r.apply cmd) hb (fun hc => moves_apply hb hc cmd hg) h
  | completion bootstrapErr =>
    simp only [step] at h
    split at h
    · cases h
    rename_i c rest hc
    refine moves_turn (f := fun r => { r with complete := rest }.completeWork c bootstrapErr) hb
      (fun _ => moves_completeWork hb hc bootstrapErr ?_) h
    intro fl ev hin hbrings hv
    refine hg ev ?_
    rw [sampled, hc, hin]
    exact (if_pos hv).trans hbrings
  | stateTick => exact moves_turn hb (fun _ => moves_stateTick) h
  | consoleTick => exact moves_turn hb (fun _ => moves_consoleTick) h
  | dispatch =>
    simp only [step] at h
    split at h
    · cases h
    rename_i d hd
    exact .single (.dispatch d r' (mem_of_find?_eq_some hd) (dispatched h))
  | worker turn =>
    refine .single (.worker r' (worked h) ?_ ?_)
    · intro job prog rp hw hadv
      cases turn with
      | inspect => exact hg
      | finish =>
        -- a request that has returned makes no more calls
        simp only [step, workerTurn, hw] at h
        split at h
        · rename_i hret
          cases hret
        · rename_i hret
          cases hret
          simp [Prog.advance] at hadv
        · cases h
      | _ => simp [step, workerTurn, hw] at h
    · intro job prog hw
      cases turn with
      | transact rp =>
        simp only [step, workerTurn, hw] at h
        obtain ⟨⟨world, next⟩, hst, rfl⟩ := map_eq_some_iff.mp h
        exact .inr ⟨world, next, rp, hst, rfl, hg⟩
      | finish =>
        simp only [step, workerTurn, hw] at h
        split at h
        · rename_i hret
          cases hret
          exact .inl ⟨_, rfl⟩
        · rename_i hret
          cases hret
        · cases h
      | _ => simp [step, workerTurn, hw] at h
  | replace =>
    cases h
    unfold replaceBridge
    split_ifs
    · exact .refl
    · exact .single (.books _ _ _ _ _ _ _)
  | receive id =>
    cases h
    exact .single (.receive id)
  | cancel | traceStatus =>
    cases h
    exact moves_tracing _

/-- A run is a sequence of moves. -/
theorem run_moves {ins : List Input} (hb : r.Base) (hg : Along step G.Admits r ins)
    (h : run step r ins = some r') : Moves G r r' := by
  have hst (s : Runtime) (i : Input) (t : Runtime) (hs : s.Base ∧ Moves G r s)
      (had : G.Admits s i) (h : step s i = some t) : t.Base ∧ Moves G r t := by
    obtain ⟨hb, hpre⟩ := hs
    have hmov := step_moves hb had h
    exact ⟨hb.moves hmov, hpre.trans hmov⟩
  exact (along_invariant hst ⟨hb, .refl⟩ hg h).2

variable {Inv : Runtime → Prop}

/-- The rule for invariants: every move has to keep them. -/
theorem Moves.invariant
    (hmove : ∀ r r', r.Base → Inv r → Move G r r' → Inv r') (hb : r.Base) (h₀ : Inv r)
    (hm : Moves G r r') : Inv r' := by
  induction hm with
  | refl => exact h₀
  | tail hpre hla ih => exact hmove _ _ (hb.moves hpre) ih hla

/-- The rule for invariants of runs. -/
theorem moves_invariant {opts : Options} {ins : List Input}
    (hmove : ∀ r r', r.Base → Inv r → Move G r r' → Inv r') (h₀ : Inv (new opts))
    (hg : Along step G.Admits (new opts) ins) (h : run step (new opts) ins = some r) :
    r.Base ∧ Inv r := by
  have hmov := run_moves (base_new opts) hg h
  exact ⟨(base_new opts).moves hmov, hmov.invariant hmove (base_new opts) h₀⟩

end Runtime

/-! ### Runs of a single operation -/

/-- An operation from its submission to its callback. -/
def perform (token : Nat) (result : Except Error Value) : List Input :=
  [.dispatch token .read, .dispatch token (.submit none), .completion none, .worker .take,
    .worker (.exchange result), .dispatch token .collect, .completion none]

def stampedEvidence (status : Status) (stamp : UInt64) : StateEvidence :=
  { state := { status := status, processInfo := { stopStamp := some stamp } } }

/-- The bootstrap of a session with one core. -/
def bootstrap (evidence : StateEvidence) : List Input :=
  .command (.open 0) :: perform 1 (.ok .nothing) ++ perform 2 (.ok (.topology { cores := [0] })) ++
    perform 3 (.ok (.evidence evidence))

end MultiDap.Actor
