import MultiDap.Actor.Success

/-!
# What a command accepts

A command is answered at once, or it queues the operation that will answer it. An inspection is
bound to the stop epoch at which it was accepted, and a trace operation to the control generation.
The control generation counts the changes of the lease.
-/

namespace MultiDap.Actor

open Machine Inspection Stop Session Relation

/-- The requests that are bound to a stop. -/
def Command.inspects : Command → Bool
  | .stack .. => true
  | .scopes .. => true
  | .variablePage .. => true
  | .evaluate .. => true
  | .readMemory .. => true
  | .disassemble .. => true
  | _ => false

/-- An answer that any command may give at once. -/
def Answer.free (answer : Answer) : Bool := !answer.inspected && !answer.traced

namespace Runtime

variable {r r' : Runtime} {cmd : Command}

/-- The operation that a command queues. -/
inductive Accepts (r : Runtime) (command : Command) : Work → Prop where
  | opens (reply : ReplyID) (hcom : command = .open reply) : Accepts r command (.open reply)
  | cleanup (epoch : UInt64) : Accepts r command (.breakpointCleanup epoch)
  | unbound (work : Work) (hwk : work.Unbound) (hope : r.opened = true) : Accepts r command work
  | inspection (work : Work) (epoch : UInt64) (hcom : command.inspects = true)
      (hrp : command.reply = work.reply) (hbou : work.boundTo = some epoch)
      (hstopp : work.stopped = true → r.sameStoppedEpoch epoch = true) : Accepts r command work
  | trace (owner : ControllerID) (request : TraceRequest) (reply : ReplyID)
      (hcom : command = .trace owner request reply) (hon : owner ≠ "")
      (hle : r.models.reducer.leaseOwner = owner) :
      Accepts r command (.trace owner r.controlGeneration request r.executor.generation reply)

/-- The lease stays with its owner, or the change is counted. -/
def LeaseCounted (r r' : Runtime) : Prop :=
  (r'.models.reducer.leaseOwner = r.models.reducer.leaseOwner ∧
      r'.controlGeneration = r.controlGeneration) ∨
    (r'.models.reducer.leaseOwner ≠ r.models.reducer.leaseOwner ∧
      r'.controlGeneration = r.controlGeneration + 1)

structure Commanded (command : Command) (r r' : Runtime) : Prop where
  around : r'.surroundings = r.surroundings
  lease : r.LeaseCounted r'
  executor : r'.executor = r.executor ∨ r'.executor.closed = true
  faulted : r'.faulted = r.faulted
  opened : r'.opened = r.opened
  openSucceeded : r'.openSucceeded = r.openSucceeded
  openGeneration : r'.openGeneration = r.openGeneration
  opening : r'.opening = r.opening ∨ r.opening = false ∧ r.opened = false ∧ r.faulted = false
  works : ∀ w ∈ r'.pending, w ∈ r.pending ∨ r.Accepts command w
  replies : ∃ new, r'.replies = r.replies ++ new ∧ ∀ a ∈ new, a.err.isSome = true ∨
    command.reply = some a.reply ∧ a.answer.free = true

lemma commanded_refl : Commanded cmd r r where
  around := rfl
  lease := .inl ⟨rfl, rfl⟩
  executor := .inl rfl
  faulted := rfl
  opened := rfl
  openSucceeded := rfl
  openGeneration := rfl
  opening := .inl rfl
  works := fun _ hw => .inl hw
  replies := ⟨[], by simp, by simp⟩

lemma Commanded.respond (h : Commanded cmd r r') {rp : ReplyID} {ans : Answer}
    {err : Option Error} (hrp : cmd.reply = some rp) (hfree : err = none → ans.free = true) :
    Commanded cmd r (r'.respond rp ans err) := by
  obtain ⟨new, hne, hal⟩ := h.replies
  refine { h with replies := ⟨new ++ [⟨rp, ans, err⟩], ?_, fun a ha => ?_⟩ }
  · rw [← List.append_assoc, ← hne]
    rfl
  rcases mem_concat.mp ha with ha | rfl
  · exact hal a ha
  cases err with
  | some => exact .inl rfl
  | none => exact .inr ⟨hrp, hfree rfl⟩

lemma commanded_refuse {rp : ReplyID} {ans : Answer} {err : Error} (hrp : cmd.reply = some rp) :
    Commanded cmd r (r.respond rp ans (some err)) :=
  commanded_refl.respond hrp fun h => by cases h

lemma Commanded.enqueue (h : Commanded cmd r r') {w : Work} (hw : r.Accepts cmd w) :
    Commanded cmd r (r'.enqueue w) := by
  refine { h with works := fun w' hw' => ?_ }
  rcases mem_concat.mp hw' with hw' | rfl
  · exact h.works w' hw'
  · exact .inr hw

lemma commanded_unbound {w : Work} (hre : r.notReady = none) (hw : w.Unbound) :
    Commanded cmd r (r.enqueue w) :=
  commanded_refl.enqueue (.unbound w hw (notReady_eq_none hre).1)

/-! ### The lease -/

lemma commanded_acquire (ow : ControllerID) (rp : ReplyID) :
    Commanded (.acquire ow rp) r (r.applyAcquire ow rp) := by
  unfold applyAcquire
  split
  · exact commanded_refuse rfl
  split
  · rename_i reducer hok
    have hacq : Commanded (.acquire ow rp) r { r.withReducer reducer with
        controlGeneration := if r.snapshot.leaseOwner ≠ ow then r.controlGeneration + 1
          else r.controlGeneration } := by
      refine { commanded_refl (r := r) with lease := ?_ }
      unfold Reducer.acquireControl at hok
      split_ifs at hok
      cases hok
      by_cases hsm : r.models.reducer.leaseOwner = ow
      · exact .inl ⟨hsm.symm, if_neg (not_not.mpr hsm)⟩
      · exact .inr ⟨fun h => hsm h.symm, if_pos hsm⟩
    exact hacq.respond rfl fun _ => rfl
  · exact commanded_refuse rfl

lemma releaseControl_cases (reducer : Reducer) (ow : ControllerID) :
    (reducer.leaseOwner = ow ∧ ow ≠ "" ∧
      reducer.releaseControl ow = .ok { reducer with leaseOwner := "" }) ∨
    (reducer.leaseOwner ≠ ow ∨ ow = "") ∧ ∃ err, reducer.releaseControl ow = .error err := by
  unfold Reducer.releaseControl
  split_ifs with h
  · exact .inr ⟨h, _, rfl⟩
  · rw [not_or, not_not] at h
    exact .inl ⟨h.1, h.2, rfl⟩

lemma leaseCounted_release {ow : ControllerID} (hon : ow ≠ "")
    (hle : r.models.reducer.leaseOwner = ow) (hle' : r'.models.reducer.leaseOwner = "")
    (hge : r'.controlGeneration = r.controlGeneration + 1) : r.LeaseCounted r' := by
  refine .inr ⟨?_, hge⟩
  rw [hle', hle]
  exact Ne.symm hon

lemma commanded_release (ow : ControllerID) (rp : ReplyID) :
    Commanded (.release ow rp) r (r.applyRelease ow rp) := by
  unfold applyRelease
  rcases releaseControl_cases r.models.reducer ow with ⟨hle, hon, hok⟩ | ⟨hno, err, hrr⟩
  · dsimp only
    rw [if_pos ⟨hon, hle⟩]
    have hrel : Commanded (.release ow rp) r
        ({ r.invalidateTraceOwner ow "control_released" with
          controlGeneration := r.controlGeneration + 1 }.withReducer
            { r.models.reducer with leaseOwner := "" }) :=
      { commanded_refl (r := r) with lease := leaseCounted_release hon hle rfl rfl }
    have hok' : ({ r.invalidateTraceOwner ow "control_released" with
        controlGeneration := r.controlGeneration + 1 } : Runtime).models.reducer.releaseControl
          ow = .ok { r.models.reducer with leaseOwner := "" } := hok
    rw [hok']
    exact hrel.respond rfl fun _ => rfl
  · dsimp only
    rw [if_neg (by rintro ⟨hon, hle⟩; exact hno.elim (· hle) hon), hrr]
    exact commanded_refuse rfl

lemma commanded_dropLease (h : Commanded cmd r r')
    (hmod : r'.models = r.models) (hge : r'.controlGeneration = r.controlGeneration)
    (ow : ControllerID) : Commanded cmd r (r'.dropLease ow) := by
  unfold dropLease
  split
  · rename_i hle
    rcases releaseControl_cases r'.models.reducer ow with ⟨-, hon, hok⟩ | ⟨hno, err, hrr⟩
    · simp only [hok, if_pos hon]
      refine { h with lease := leaseCounted_release hon (hmod ▸ hle) rfl ?_ }
      exact congrArg (· + 1) hge
    obtain rfl := hno.resolve_left (not_not.mpr hle)
    simp only [hrr, ne_eq, not_true_eq_false, if_false]
    exact h
  · exact h

lemma commanded_detach (ow : ControllerID) (vis : Breakpoint.Visit Breakpoint.Logical)
    (rp : ReplyID) : Commanded (.detach ow vis rp) r
      ((r.detachOwner ow vis).respond rp .none none) := by
  have hcle {r' : Runtime} (h : Commanded (.detach ow vis rp) r r') :
      Commanded (.detach ow vis rp) r (r'.maybeScheduleBreakpointCleanup r'.snapshot true) := by
    rcases maybeSchedule_cases r' r'.snapshot true with heq | ⟨_, _, _, ep, heq⟩ <;> rw [heq]
    · exact h
    · have henq := h.enqueue (.cleanup ep)
      exact { henq with }
  refine Commanded.respond ?_ rfl fun _ => rfl
  unfold detachOwner
  dsimp only
  have hdro (tracing : Tracing) (subs : List Subscriber) (world : Breakpoint.World) :
      Commanded (.detach ow vis rp) r ({ r with tracing, subs, world }.dropLease ow) := by
    have hbe : Commanded (.detach ow vis rp) r { r with tracing, subs, world } :=
      { commanded_refl (r := r) with }
    exact commanded_dropLease hbe rfl rfl ow
  split_ifs
  · exact hcle (hdro _ _ _)
  · exact hdro _ _ _
  · exact hcle (hdro _ _ _)
  · exact hdro _ _ _

/-! ### The requests that are bound -/

lemma commanded_inspection {stop : Except Error StopContext} {call : InspectionCall}
    {rp : ReplyID} (hsp : ∀ s, stop = .ok s → r.inspectionStop = .ok s)
    (hcom : cmd.inspects = true) (hrp : cmd.reply = some rp) :
    Commanded cmd r (r.applyInspection stop call rp) := by
  unfold applyInspection
  split
  · exact commanded_refuse hrp
  rename_i s
  refine commanded_refl.enqueue (.inspection _ s.stopEpoch hcom hrp rfl fun hs => ?_)
  have hok := hsp s rfl
  unfold inspectionStop at hok
  split at hok
  · cases hok
  split_ifs at hok
  cases hok
  exact Bool.and_eq_true_iff.mpr ⟨hs, beq_self_eq_true _⟩

lemma m5Request_stopped {coreID : Int} {expected : Option UInt64} {ep : UInt64}
    (h : r.m5Request coreID expected = .ok ep) : r.sameStoppedEpoch ep = true := by
  unfold m5Request at h
  split at h
  · cases h
  split at h
  · cases h
  split at h
  · cases h
  rename_i hst
  split at h
  · cases h
  split_ifs at h
  cases h
  simp [sameStoppedEpoch, not_not.mp hst]

lemma commanded_trace (ow : ControllerID) (req : TraceRequest) (rp : ReplyID) :
    Commanded (.trace ow req rp) r (r.applyTrace ow req rp) := by
  have hche : Commanded (.trace ow req rp) r
      { r with tracing := (r.traceRequest ow req rp).1 } :=
    { commanded_refl (r := r) with }
  unfold applyTrace
  dsimp only
  split
  · exact hche.respond rfl fun h => by cases h
  rename_i hnn
  obtain ⟨hon, hle⟩ : ow ≠ "" ∧ r.models.reducer.leaseOwner = ow := by
    unfold traceRequest at hnn
    split at hnn
    · cases hnn
    split at hnn
    · cases hnn
    split at hnn
    · cases hnn
    split at hnn
    · cases hnn
    rename_i hco
    unfold Reducer.requireControl at hco
    split_ifs at hco with hno
    rw [not_or, not_not] at hno
    exact ⟨hno.2, hno.1⟩
  exact hche.enqueue (.trace ow req rp rfl hon hle)

/-! ### The other commands -/

lemma commanded_execute (ow : ControllerID) (coreID : Int) (op : ExecutionOperation)
    (scope : Except Error (List Int)) (rp : ReplyID) :
    Commanded (.execute ow coreID op scope rp) r (r.applyExecute ow coreID op scope rp) := by
  obtain ⟨err, heq⟩ | ⟨hre, work, ⟨-, hw⟩, heq⟩ := served_execute ow coreID op scope rp
  · rw [heq]
    exact commanded_refuse rfl
  rw [heq]
  rcases hw with rfl | ⟨scope, rfl⟩ <;>
    exact commanded_unbound hre ⟨rfl, rfl, by simp [Work.kind]⟩

lemma commanded_setBreakpoints (ow : ControllerID) (identity : Source.Identity)
    (lines : List Int) (cov : List Source.Observation) (rp : ReplyID) :
    Commanded (.setBreakpoints ow identity lines cov rp) r
      (r.applySetBreakpoints ow identity lines cov rp) := by
  obtain ⟨err, heq⟩ | ⟨hre, work, ⟨-, -, hw⟩, heq⟩ := served_setBreakpoints ow identity lines cov rp
  · rw [heq]
    exact commanded_refuse rfl
  rw [heq]
  rcases hw with ⟨cores, rfl⟩ | ⟨expected, rfl⟩ <;>
    exact commanded_unbound hre ⟨rfl, rfl, by simp [Work.kind]⟩

lemma commanded_noteHint (tok : UInt32) (rp : Option ReplyID) :
    Commanded (.noteHint tok rp) r (r.applyNoteHint tok rp) := by
  have hnt : Commanded (.noteHint tok rp) r
      (if r.opened && !r.faulted then
        let noted := r.models.stopper.noteHint r.resolver tok
        let r := { r with models := { r.models with stopper := noted.1 } }
        if noted.2 && !r.hasStateWork then r.enqueue (.state none) else r
      else r) := by
    have hsto (sp : Arbiter) : Commanded (.noteHint tok rp) r
        { r with models := { r.models with stopper := sp } } :=
      { commanded_refl (r := r) with lease := .inl ⟨rfl, rfl⟩ }
    split
    · rename_i hope
      simp only [Bool.and_eq_true] at hope
      dsimp only
      split
      · exact (hsto _).enqueue (.unbound _ ⟨rfl, rfl, by simp [Work.kind]⟩ hope.1)
      · exact hsto _
    · exact commanded_refl
  unfold applyNoteHint
  cases rp with
  | none => exact hnt
  | some => exact hnt.respond rfl fun _ => rfl

lemma commanded_reducer {reducer : Reducer}
    (hle : reducer.leaseOwner = r.models.reducer.leaseOwner) :
    Commanded cmd r (r.withReducer reducer) :=
  { commanded_refl (r := r) with lease := .inl ⟨hle, rfl⟩ }

lemma Commanded.reducerActions (h : Commanded cmd r r') (acts : List Action)
    (snap : Session.Snapshot) (cause : Option Error) :
    Commanded cmd r (r'.applyReducerActions acts snap cause) := by
  rw [actions_eq]
  exact { h with }

lemma Commanded.configurationActions (h : Commanded cmd r r') (acts : List Action)
    (snap : Session.Snapshot) : Commanded cmd r (r'.applyConfigurationActions acts snap) := by
  have hone {r' : Runtime} (h : Commanded cmd r r') (action : Action) :
      Commanded cmd r (applyConfigurationAction snap r' action) := by
    unfold applyConfigurationAction applyStopEffect
    split
    · split
      · split_ifs
        · split <;> exact { h with }
        · exact { h with }
      · exact { h with }
    · exact { h with }
    · exact { h with }
    · exact { h with }
  induction acts generalizing r' with
  | nil => exact h
  | cons action _ ih => exact ih (hone h action)

lemma commanded_close (rp : ReplyID) : Commanded (.close rp) r (r.applyClose rp) := by
  unfold applyClose
  dsimp only
  refine Commanded.respond ?_ rfl fun _ => rfl
  unfold closeExecutor
  split_ifs
  · exact { commanded_refl (r := r) with }
  · exact { commanded_refl (r := r) with executor := .inr rfl }

theorem commanded_apply (cmd : Command) : Commanded cmd r (r.apply cmd) := by
  cases cmd with
  | «open» rp =>
    simp only [apply, applyOpen]
    split_ifs with hlive hop
    · exact commanded_refuse rfl
    · exact commanded_refuse rfl
    simp only [Bool.or_eq_true, not_or, Bool.not_eq_true] at hop hlive
    have henq := (commanded_refl (r := r)).enqueue (.opens rp rfl)
    exact { henq with opening := .inr ⟨hop.2, hop.1, hlive⟩ }
  | attach =>
    simp only [apply, applyAttach]
    split_ifs
    · exact commanded_refuse rfl
    · refine Commanded.respond ?_ rfl fun _ => rfl
      exact { commanded_refl (r := r) with }
  | detach ow vis rp => exact commanded_detach ow vis rp
  | detachSubscription => exact { commanded_refl (r := r) with }
  | acquire ow rp => exact commanded_acquire ow rp
  | release ow rp => exact commanded_release ow rp
  | threads =>
    simp only [apply]
    split_ifs <;> exact commanded_refl.respond rfl fun _ => rfl
  | snapshot | breakpointCounts => exact commanded_refl.respond rfl fun _ => rfl
  | poll =>
    simp only [apply, applyPoll]
    split
    · exact commanded_refuse rfl
    · rename_i hre
      exact commanded_unbound hre ⟨rfl, rfl, by simp [Work.kind]⟩
  | execute => exact commanded_execute _ _ _ _ _
  | beginConfiguration =>
    have hset : r.models.reducer.beginConfiguration.reducer.leaseOwner =
        r.models.reducer.leaseOwner := by
      unfold Reducer.beginConfiguration
      split_ifs <;> rfl
    simp only [apply, applyBeginConfiguration]
    exact (Commanded.reducerActions (commanded_reducer hset) _ _ _).respond rfl fun _ => rfl
  | configurationDone =>
    have hset : r.models.reducer.configurationDone.reducer.leaseOwner =
        r.models.reducer.leaseOwner := by
      unfold Reducer.configurationDone
      split_ifs
      · rfl
      · rfl
      · dsimp only
        split <;> rfl
    simp only [apply, applyConfigurationDone]
    split_ifs
    · exact ((commanded_reducer hset).configurationActions _ _).respond rfl fun _ => rfl
    · exact ((commanded_reducer hset).reducerActions _ _ _).respond rfl fun _ => rfl
  | cancelConfiguration =>
    have hset : r.models.reducer.cancelConfiguration.reducer.leaseOwner =
        r.models.reducer.leaseOwner := by
      unfold Reducer.cancelConfiguration
      split_ifs <;> rfl
    simp only [apply, applyCancelConfiguration]
    exact ((commanded_reducer hset).reducerActions _ _ _).respond rfl fun _ => rfl
  | allocateHandle kind core val rp =>
    have hled (led : Handle.Ledger Payload) : Commanded (.allocateHandle kind core val rp)
        r (r.withLedger led) := by
      rw [withLedger_eq]
      exact { commanded_refl (r := r) with }
    simp only [apply, applyAllocateHandle]
    split_ifs
    · exact commanded_refuse rfl
    · split <;> exact (hled _).respond rfl fun _ => rfl
  | setBreakpoints => exact commanded_setBreakpoints _ _ _ _ _
  | noteHint tok rp => exact commanded_noteHint tok rp
  | stack =>
    simp only [apply, applyStack]
    split
    · exact commanded_refuse rfl
    rename_i core stop hok
    refine commanded_inspection ?_ rfl rfl
    rintro _ ⟨⟩
    simp only [inspectionCore, Bind.bind, Except.bind, pure, Except.pure] at hok
    split at hok
    · cases hok
    split at hok
    · rename_i hsp _ _ _
      rw [hsp]
      simp_all
    · cases hok
  | scopes | variablePage | evaluate => exact commanded_inspection (fun _ hs => hs) rfl rfl
  | readMemory =>
    simp only [apply, applyReadMemory]
    split
    · exact commanded_refuse rfl
    rename_i ep hok
    split_ifs
    · exact commanded_refuse rfl
    · exact commanded_refl.enqueue (.inspection _ ep rfl rfl rfl fun _ => m5Request_stopped hok)
  | disassemble =>
    simp only [apply, applyDisassemble]
    split
    · exact commanded_refuse rfl
    rename_i ep hok
    split_ifs
    · exact commanded_refuse rfl
    · exact commanded_refl.enqueue (.inspection _ ep rfl rfl rfl fun _ => m5Request_stopped hok)
  | resetConsole =>
    simp only [apply, applyResetConsole]
    split
    · exact commanded_refuse rfl
    rename_i hre
    split_ifs
    · exact commanded_refuse rfl
    · exact commanded_unbound hre ⟨rfl, rfl, by simp [Work.kind]⟩
  | trace ow req rp => exact commanded_trace ow req rp
  | traceSnapshot =>
    simp only [apply, applyTraceSnapshot]
    split
    · exact commanded_refuse rfl
    split
    · exact commanded_refuse rfl
    · exact commanded_refl.respond rfl fun _ => rfl
  | close rp => exact commanded_close rp

end Runtime

end MultiDap.Actor
