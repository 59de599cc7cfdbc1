import MultiDap.Actor.Base

/-!
# Every step is a sequence of moves

The code of the actor, method by method, as sequences of moves. The last theorem, `step_moves`, is
what the results about runs start from.
-/

namespace MultiDap.Actor

open Machine Inspection Stop Session Relation List Option

namespace Runtime

variable {G : Guard} {r r' : Runtime}

lemma Move.faulted (hm : Move G r r') (hf : r.faulted = true) : r'.faulted = true := by
  cases hm with
  | sample | bootstrap => rw [absorb_eq]; exact hf
  | reducerErr => rw [actions_eq]; exact hf
  | reducerFault => rfl
  | fault => rfl
  | allocate => rw [withLedger_eq]; exact hf
  | dispatch _ _ _ htn => cases htn <;> exact hf
  | worker _ htn =>
    cases htn with
    | inspect => rw [withLedger_eq]; exact hf
    | _ => exact hf
  | _ => exact hf

lemma Moves.faulted (hm : Moves G r r') (hf : r.faulted = true) : r'.faulted = true := by
  induction hm with
  | refl => exact hf
  | tail _ hst ih => exact hst.faulted ih

/-! ### Replies and the console -/

lemma moves_respond (rp : ReplyID) (ans : Answer) (err : Option Error) :
    Moves G r (r.respond rp ans err) :=
  .single (.books _ _ _ _ _ _ _)

lemma moves_respondTo (rp : Option ReplyID) (err : Option Error) :
    Moves G r (r.respondTo rp err) := by
  cases rp with
  | none => exact .refl
  | some rp => exact moves_respond rp .none err

lemma moves_doneReply (rp : ReplyID) (res : Except Error Value)
    (read : Value → Except Error Answer) : Moves G r (r.doneReply rp res read) := by
  unfold doneReply
  split <;> exact moves_respond _ _ _

lemma moves_console (console : Console) : Moves G r { r with console := console } :=
  .single (.books _ _ _ _ _ _ _)

lemma moves_noteConsoleFailure (tgts : List (Nat × Nat)) :
    Moves G r (r.noteConsoleFailure tgts) := by
  unfold noteConsoleFailure
  split_ifs
  · exact .refl
  · exact (moves_console _).tail (.output _ _ rfl)
  · exact moves_console _

lemma moves_doneConsole (tgts : List (Nat × Nat)) (res : Except Error Value) :
    Moves G r (r.doneConsole tgts res) := by
  unfold doneConsole
  split
  · split_ifs
    · exact .single (.output _ _ rfl)
    · exact .refl
  · exact (moves_console _).trans (moves_noteConsoleFailure tgts)

lemma moves_doneResetConsole (rp : ReplyID) (res : Except Error Value) :
    Moves G r (r.doneResetConsole rp res) := by
  unfold doneResetConsole
  split
  · exact (moves_console _).trans (moves_respond _ _ _)
  · exact moves_respond _ _ _

/-! ### Native trace -/

lemma moves_tracing (tracing : Tracing) : Moves G r { r with tracing } :=
  .single (.books _ _ _ _ _ _ _)

lemma moves_respondTraceError (req : TraceRequest) (rp : ReplyID) (res : TraceResult)
    (err : Error) : Moves G r (r.respondTraceError req rp res err) :=
  moves_respond _ _ _

lemma moves_doneTrace (started : Bool) (ow : ControllerID) (ep : Nat)
    (req : TraceRequest) (rp : ReplyID) (res : Except Error Value) (bad : TraceResult) :
    Moves G r (r.doneTrace started ow ep req rp res bad) := by
  cases res with
  | ok =>
    simp only [doneTrace]
    split
    · exact moves_respond _ _ _
    split
    · exact moves_respond _ _ _
    split
    · exact moves_respond _ _ _
    · exact (moves_tracing _).trans (moves_respondTraceError _ _ _ _)
    · exact moves_respondTraceError _ _ _ _
  | error err =>
    have hla : Moves G r (if started then { r with tracing := r.traceLatch ow err } else r) := by
      split_ifs
      · exact moves_tracing _
      · exact .refl
    simp only [doneTrace]
    split
    · exact moves_respond _ _ _
    refine hla.trans ?_
    generalize (if started then { r with tracing := r.traceLatch ow err } else r) = r₁
    split
    · exact moves_respond _ _ _
    · exact moves_respondTraceError _ _ _ _

/-! ### Failing closed -/

lemma failed_faulted (hf : r.faulted = true) (fail : Fail) (op : Operation)
    (rp : Option ReplyID) (err : Error) :
    r.bootstrapFailed fail op rp err = { r with opening := false }.respondTo rp (some err) := by
  rw [bootstrapFailed, if_pos (by simp [hf])]

lemma noteConsoleFailure_faulted (hf : r.faulted = true) (tgts : List (Nat × Nat)) :
    r.noteConsoleFailure tgts = if r.console.failureReported then r
      else { r with
        console := { r.console with failurePending := true, failureTargets := tgts } } := by
  have hno : r.consoleFrontendActive = false := by simp [consoleFrontendActive, hf]
  rw [noteConsoleFailure, hno]
  rfl

lemma doneTrace_faulted (hf : r.faulted = true) (ow : ControllerID) (ep : Nat)
    (req : TraceRequest) (rp : ReplyID) (err : Error) (bad : TraceResult) :
    r.doneTrace false ow ep req rp (.error err) bad =
      r.respond rp .none (some (if r.traceOwnerCurrent ow ep then
        .of .reconciliationNeeded else .of .traceStaleOperation)) := by
  cases hc : r.traceOwnerCurrent ow ep with
  | false => simp [doneTrace, hc]
  | true => simp [doneTrace, hc, hf]

lemma moves_bootstrapFailed_faulted (fail : Fail) (hf : r.faulted = true) (op : Operation)
    (rp : Option ReplyID) (err : Error) : Moves G r (r.bootstrapFailed fail op rp err) := by
  rw [failed_faulted hf]
  exact (ReflTransGen.single (.abandon (.inl hf))).trans (moves_respondTo _ _)

lemma moves_stateErr_faulted (fail : Fail) (hf : r.faulted = true) (rp : Option ReplyID)
    (err : Error) : Moves G r (if r.opening then r.bootstrapFailed fail .state rp err
      else r.respondTo rp (some err)) := by
  split_ifs
  · exact moves_bootstrapFailed_faulted fail hf _ _ _
  · exact moves_respondTo _ _

lemma moves_done_faulted {fail : Fail} (hfail : ∀ r op e, r.faulted = true → fail r op e = r)
    (hf : r.faulted = true) (work : Work) (err : Error) (b : Option Error) :
    Moves G r (r.doneWith fail work (.error err) b) := by
  have haba : Moves G r { r with opening := false } := .single (.abandon (.inl hf))
  cases work with
  | «open» rp => exact haba.trans (moves_respond _ _ _)
  | cores => exact moves_bootstrapFailed_faulted fail hf _ _ _
  | state rp => exact moves_stateErr_faulted fail hf rp err
  | console tgts => exact moves_doneConsole tgts (.error err)
  | resetConsole rp => exact moves_doneResetConsole rp (.error err)
  | breakpointCleanup => exact .refl
  | trace ow ep req _ rp =>
    exact moves_doneTrace false ow ep req rp (.error err) {}
  | inspection =>
    simp only [doneWith, doneInspection]
    split_ifs
    · exact moves_doneReply _ _ _
    · exact (ReflTransGen.single (.drop (.inl hf))).trans (moves_doneReply _ _ _)
  | rollbackClose =>
    simp only [doneWith, doneRollbackClose]
    rw [hfail { r with opening := false, openSucceeded := false, openGeneration := 0 } _ _ hf]
    exact haba.trans ((ReflTransGen.single (.books _ _ _ _ _ _ _)).trans (moves_respondTo _ _))
  | _ =>
    simp only [doneWith]
    exact moves_doneReply _ _ _

lemma moves_drainOne (hf : r.faulted = true) (work : Work) : Moves G r (r.drainOne work) :=
  moves_done_faulted (fun _ _ _ _ => rfl) hf work _ _

lemma drainOne_faulted (hf : r.faulted = true) (work : Work) : (r.drainOne work).faulted = true :=
  (moves_drainOne (G := {}) hf work).faulted hf

lemma moves_drain (works : List Work) (hf : r.faulted = true) :
    Moves G r (works.foldl drainOne r) := by
  induction works generalizing r with
  | nil => exact .refl
  | cons work _ ih => exact (moves_drainOne hf work).trans (ih (drainOne_faulted hf work))

/-- The same session with other subscriptions and another history of events. -/
def withPublic (r : Runtime) (subs : List Subscriber) (published : List Event) : Runtime :=
  { r with subs, published }

lemma drainOne_withPublic (hf : r.faulted = true) (subs : List Subscriber)
    (published : List Event) (work : Work) :
    (r.withPublic subs published).drainOne work = (r.drainOne work).withPublic subs published := by
  have hf' : (r.withPublic subs published).faulted = true := hf
  have hresp (r₁ : Runtime) (rp : Option ReplyID) (err : Option Error) :
      (r₁.withPublic subs published).respondTo rp err =
        (r₁.respondTo rp err).withPublic subs published := by
    cases rp <;> rfl
  have hboot (op : Operation) (rp : Option ReplyID) (err : Error) :
      (r.withPublic subs published).bootstrapFailed (fun r _ _ => r) op rp err =
        (r.bootstrapFailed (fun r _ _ => r) op rp err).withPublic subs published := by
    rw [failed_faulted hf, failed_faulted hf']
    exact hresp { r with opening := false } rp _
  have hco (r₁ : Runtime) (h₁ : r₁.faulted = true) {tgts : List (Nat × Nat)} :
      (r₁.withPublic subs published).noteConsoleFailure tgts =
        (r₁.noteConsoleFailure tgts).withPublic subs published := by
    rw [noteConsoleFailure_faulted h₁,
      noteConsoleFailure_faulted (r := r₁.withPublic subs published) h₁]
    change (if r₁.console.failureReported then _ else _) =
      (if r₁.console.failureReported then _ else _ : Runtime).withPublic _ _
    split_ifs <;> rfl
  have hsm (ep : UInt64) :
      (r.withPublic subs published).sameStoppedEpoch ep = r.sameStoppedEpoch ep := rfl
  cases work with
  | cores => exact hboot _ _ _
  | state rp =>
    change (if r.opening then _ else _) = (if r.opening then _ else _ : Runtime).withPublic _ _
    split_ifs
    · exact hboot _ _ _
    · exact hresp r rp _
  | console => exact hco { r with console := { r.console with disabled := true } } hf
  | inspection =>
    simp only [drainOne, doneWith, doneInspection, ifCurrent, hsm]
    split_ifs <;> rfl
  | readMemory | disassemble =>
    simp only [drainOne, doneWith, ifCurrent, hsm]
    split_ifs <;> rfl
  | rollbackClose _ rp =>
    exact hresp { r with opening := false, openSucceeded := false, openGeneration := 0 } rp _
  | trace =>
    simp only [drainOne, doneWith]
    rw [doneTrace_faulted hf, doneTrace_faulted hf']
    rfl
  | _ => rfl

lemma drainOne_kept (hf : r.faulted = true) (work : Work) :
    (r.drainOne work).models = r.models ∧ (r.drainOne work).opts = r.opts := by
  have hresp (r₁ : Runtime) (rp : Option ReplyID) (err : Option Error) :
      (r₁.respondTo rp err).models = r₁.models ∧ (r₁.respondTo rp err).opts = r₁.opts := by
    cases rp <;> exact ⟨rfl, rfl⟩
  cases work with
  | cores =>
    simp only [drainOne, doneWith, doneCores, failed_faulted hf]
    exact hresp { r with opening := false } _ _
  | state rp =>
    by_cases ho : r.opening = true
    · have heq : r.drainOne (.state rp) = { r with opening := false }.respondTo rp
          (some (.of .reconciliationNeeded)) :=
        (if_pos ho).trans (failed_faulted hf _ _ _ _)
      rw [heq]
      exact hresp { r with opening := false } _ _
    have heq : r.drainOne (.state rp) = r.respondTo rp
        (some (.of .reconciliationNeeded)) := if_neg ho
    rw [heq]
    exact hresp r _ _
  | console tgts =>
    have heq := noteConsoleFailure_faulted
      (r := { r with console := { r.console with disabled := true } }) hf tgts
    change (noteConsoleFailure _ tgts).models = _ ∧ (noteConsoleFailure _ tgts).opts = _
    rw [heq]
    constructor <;> split_ifs <;> rfl
  | inspection =>
    simp only [drainOne, doneWith, doneInspection, doneReply]
    constructor <;> split <;> split_ifs <;> rfl
  | readMemory | disassemble =>
    simp only [drainOne, doneWith, doneReply]
    constructor <;> split <;> rfl
  | rollbackClose =>
    exact hresp { r with opening := false, openSucceeded := false, openGeneration := 0 } _ _
  | trace =>
    simp only [drainOne, doneWith]
    rw [doneTrace_faulted hf]
    exact ⟨rfl, rfl⟩
  | _ => exact ⟨rfl, rfl⟩

lemma drainOne_announce (hf : r.faulted = true) (work : Work) (cause : Error) :
    (r.drainOne work).announce cause = (r.announce cause).drainOne work := by
  have hsm : r.drainOne work = (r.drainOne work).withPublic r.subs r.published :=
    drainOne_withPublic hf r.subs r.published work
  have hsubs : (r.drainOne work).subs = r.subs := by rw [hsm]; rfl
  have hpub : (r.drainOne work).published = r.published := by rw [hsm]; rfl
  obtain ⟨hmod, hopts⟩ := drainOne_kept hf work
  have hann : (r.drainOne work).announcement cause = r.announcement cause := by
    have hsnap : (r.drainOne work).snapshot = r.snapshot := by rw [snapshot, hmod, snapshot]
    rw [announcement, hsnap, announcement]
  have hpubl (r₁ : Runtime) : r₁.announce cause = r₁.withPublic
      (r₁.subs.map (·.offerAll r₁.opts.eventBuffer (r₁.announcement cause)))
      (r₁.published ++ r₁.announcement cause) := rfl
  rw [hpubl, hpubl r, drainOne_withPublic hf, hann, hsubs, hpub, hopts]

lemma failClosed_of_faulted (hf : r.faulted = true) (op : Operation) (cause : Error) :
    r.failClosed op cause = r := by
  rw [failClosed, if_pos hf]

lemma announce_faulted (h : r.snapshot.state = .faulted) (cause : Error) :
    r.announce cause = r := by
  simp [announce, announcement, h, Subscriber.offerAll]

lemma failClosed_eq (hlive : r.faulted = false) (op : Operation) (cause : Error) :
    r.failClosed op cause = r.pending.foldl drainOne ((r.fault op cause).announce cause) := by
  have hdra (works : List Work) (r₁ : Runtime) (h₁ : r₁.faulted = true) :
      works.foldl drainOne (r₁.announce cause) = (works.foldl drainOne r₁).announce cause := by
    induction works generalizing r₁ with
    | nil => rfl
    | cons work _ ih =>
      rw [foldl_cons, foldl_cons, ← drainOne_announce h₁]
      exact ih _ (drainOne_faulted h₁ work)
  rw [failClosed, if_neg (by simp [hlive]), hdra _ _ rfl]
  dsimp only
  generalize r.pending.foldl drainOne (r.fault op cause) = r₁
  unfold announce announcement
  split_ifs with hs
  · simp [Subscriber.offerAll]
  · simp [Subscriber.offerAll, publish]

variable {r₁ : Runtime}

/-- Failing closed, from the state `r` before the operation in flight was put down. -/
lemma moves_failClosed (models : Models) (opening : Bool)
    (complete : List Completion) (op : Operation) (cause : Error) (hlive : r.faulted = false)
    (h₁ : r₁ = { r with models, opening, complete, inflight := none })
    (hmod : models = r.models ∨ ∃ evidence err,
      (r.fed evidence).failure = some (.disagreement err) ∧ models = (r.fed evidence).models)
    (hope : opening = true → r.opening = true) (hcom : complete <:+ r.complete)
    (hen : ∀ fl, r.inflight = some fl → ∃ c ∈ r.complete, c.token = fl.token) :
    Moves G r (r₁.failClosed op cause) := by
  subst h₁
  have hfa := Move.fault (G := G) models opening complete op cause hlive hmod hope hcom hen
  have heq := failClosed_eq (r := { r with models, opening, complete, inflight := none }) hlive op
    cause
  rw [heq]
  exact (ReflTransGen.single hfa).trans (moves_drain r.pending rfl)

lemma moves_failed (hf : r.faulted = true) (work : Work) (err : Error) (b : Option Error) :
    Moves G r (r.done work (.error err) b) :=
  moves_done_faulted (fun _ op e hf => failClosed_of_faulted hf op e) hf work err b

/-! ### Callbacks of a session that goes on -/

/-- The operation whose callback runs was the only one, if the session is not open yet. -/
structure Free (r : Runtime) : Prop where
  live : r.faulted = false
  alone : r.opened = false → r.opening = true ∧ r.pending = [] ∧ r.inflight = none
  idle : r.inflight = none

lemma Free.ready (h : r.Free) :
    r.opened = true ∨ r.opening = true ∧ r.pending = [] ∧ r.inflight = none := by
  cases ho : r.opened with
  | true => exact .inl rfl
  | false => exact .inr (h.alone ho)

/-- An operation that belongs to no frontend and to no stop. -/
structure Plain (work : Work) : Prop where
  owner : work.owner = none
  inspects : work.inspects = none
  requester : work.requester = none
  cleansUp : work.cleansUp = none

variable {work : Work}

lemma Plain.queues (hp : Plain work) (hlive : r.faulted = false)
    (hre : r.opened = true ∨ r.opening = true ∧ r.pending = [] ∧ r.inflight = none) :
    r.Queues G work where
  live := hlive
  ready := hre
  owner := by simp [hp.owner]
  current := by simp [hp.inspects]
  requester := by simp [hp.requester]
  kept := hp.cleansUp

lemma Free.queues (h : r.Free) (hp : Plain work) : r.Queues G work :=
  hp.queues h.live h.ready

lemma setOpening_eq (h : r.opening = false) : { r with opening := false } = r := by
  rw [← h]

lemma Free.moves_abandon (h : r.Free) (hb : r.Base) : Moves G r { r with opening := false } := by
  cases ho : r.opening with
  | false =>
    rw [setOpening_eq ho]
  | true => exact .single (.abandon (.inr (h.alone (hb.unopened ho)).2))

lemma Free.moves_failClosed (h : r.Free) (op : Operation) (cause : Error) :
    Moves G r ({ r with opening := false }.failClosed op cause) := by
  refine Runtime.moves_failClosed r.models false r.complete op cause h.live ?_ (.inl rfl)
    (by simp) (suffix_refl _) (by simp [h.idle])
  rw [← h.idle]

lemma Free.moves_bootstrapFailed (h : r.Free) (hb : r.Base) (op : Operation)
    (rp : Option ReplyID) (err : Error) : Moves G r (r.bootstrapFailed failClosed op rp err) := by
  unfold bootstrapFailed
  split_ifs with hno hcold hsa
  · exact (h.moves_abandon hb).trans (moves_respondTo _ _)
  · exact (h.moves_failClosed _ _).trans (moves_respondTo _ _)
  · exact .single (.enqueue _ (h.queues ⟨rfl, rfl, rfl, rfl⟩))
  · exact (h.moves_failClosed _ _).trans (moves_respondTo _ _)

lemma Free.moves_doneOpen (h : r.Free) (hb : r.Base) (rp : ReplyID)
    (res : Except Error Value) (b : Option Error) : Moves G r (r.doneOpen failClosed rp res b) := by
  cases res with
  | error => exact (h.moves_abandon hb).trans (moves_respond _ _ _)
  | ok =>
    have hbook : Moves G r { r with openSucceeded := true } := .single (.books _ _ _ _ _ _ _)
    have hfree : Free { r with openSucceeded := true } := { h with }
    cases b with
    | some => exact hbook.trans (hfree.moves_bootstrapFailed (hb.moves hbook) _ _ _)
    | none => exact hbook.tail (.enqueue _ (hfree.queues ⟨rfl, rfl, rfl, rfl⟩))

lemma Free.moves_doneCores (h : r.Free) (hb : r.Base) (rp : ReplyID)
    (res : Except Error Value) : Moves G r (r.doneCores failClosed rp res) := by
  unfold doneCores
  split
  · exact h.moves_bootstrapFailed hb _ _ _
  · split
    · exact h.moves_bootstrapFailed hb _ _ _
    · exact h.moves_bootstrapFailed hb _ _ _
    · exact h.moves_bootstrapFailed hb _ _ _
    rename_i threads _ _ _
    have hfree : Free { r with threads := threads } := { h with }
    have hpl : Plain (.state (some rp)) := ⟨rfl, rfl, rfl, rfl⟩
    exact (ReflTransGen.single (.threads threads)).tail (.enqueue _ (hfree.queues hpl))
  · exact h.moves_bootstrapFailed hb _ _ _

lemma moves_maybeSchedule (hon : r.faulted = true ∨ r.opened = true) (imm : Bool) :
    Moves G r (r.maybeScheduleBreakpointCleanup r.snapshot imm) := by
  unfold maybeScheduleBreakpointCleanup
  split_ifs with hno himm hseen hseen
  · exact .refl
  · exact .refl
  · obtain rfl : imm = true := himm
    simp only [not_or, not_not, Bool.not_eq_false] at hno
    exact .single (.schedule true hon hno.1 hno.2 hseen)
  · exact .refl
  obtain rfl : imm = false := by simpa using himm
  simp only [not_or, not_not, Bool.not_eq_false] at hno hseen
  exact .single (.schedule false hon hno.1 hno.2 hseen.1)

lemma maybeSchedule_opened (snap : Session.Snapshot) :
    { r.maybeScheduleBreakpointCleanup snap false with opening := false, opened := true } =
      { r with opening := false, opened := true }.maybeScheduleBreakpointCleanup snap false := by
  unfold maybeScheduleBreakpointCleanup
  dsimp only
  split_ifs <;> rfl

lemma maybeSchedule_opening (snap : Session.Snapshot) (imm : Bool) :
    (r.maybeScheduleBreakpointCleanup snap imm).opening = r.opening := by
  unfold maybeScheduleBreakpointCleanup
  split_ifs <;> rfl

lemma failClosed_faulted (op : Operation) (cause : Error) :
    (r.failClosed op cause).faulted = true := by
  have hdra : Moves {} (r.fault op cause) (r.pending.foldl drainOne (r.fault op cause)) :=
    moves_drain r.pending rfl
  unfold failClosed
  dsimp only
  split_ifs with hf
  · exact hf
  · exact hdra.faulted rfl
  · exact hdra.faulted rfl

lemma Free.moves_stateErr (h : r.Free) (hb : r.Base) (rp : Option ReplyID) (err : Error) :
    Moves G r (if r.opening then r.bootstrapFailed failClosed .state rp err
      else r.respondTo rp (some err)) := by
  split_ifs
  · exact h.moves_bootstrapFailed hb _ _ _
  · exact moves_respondTo _ _

lemma doneState_ok {rp : Option ReplyID} {res : Except Error Value}
    (hs : r.sample failClosed res = (r₁, none)) : r.doneState failClosed rp res =
      if r₁.opening then { r₁ with opening := false, opened := true }.respondTo rp none
      else r₁.respondTo rp none := by
  rw [doneState, hs]

variable {err : Error}

lemma doneState_error {rp : Option ReplyID} {res : Except Error Value}
    (hs : r.sample failClosed res = (r₁, some err)) :
    r.doneState failClosed rp res = if r₁.opening then r₁.bootstrapFailed failClosed .state rp err
      else r₁.respondTo rp (some err) := by
  rw [doneState, hs]

variable {evidence : StateEvidence}

lemma sample_refused (hob : r.observe failClosed evidence = (r₁, some err)) :
    r.sample failClosed (.ok (.evidence evidence)) =
      (if err.is .reconciliationRequired && !r₁.opening then r₁.failClosed .state err else r₁,
        some err) := by
  rw [sample, hob]

/-- A refused sample, from the state `r₁` in which the refusal has been noted. -/
lemma moves_refused (hb : r.Base)
    (rp : Option ReplyID) (hob : r.observe failClosed evidence = (r₁, some err))
    (hr₁ : Moves G r r₁) (h : r₁.faulted = true ∨ r₁.Free) :
    Moves G r (r.doneState failClosed rp (.ok (.evidence evidence))) := by
  rw [doneState_error (sample_refused hob)]
  refine hr₁.trans ?_
  rcases h with hf | hfree
  · rw [failClosed_of_faulted hf, ite_self]
    exact moves_stateErr_faulted failClosed hf rp err
  by_cases hfai : (err.is .reconciliationRequired && !r₁.opening) = true
  · rw [if_pos hfai]
    have hno : { r₁ with opening := false } = r₁ := setOpening_eq (by simp_all)
    have hcl := hfree.moves_failClosed (G := G) .state err
    rw [hno] at hcl
    exact hcl.trans (moves_stateErr_faulted failClosed (failClosed_faulted _ _) _ _)
  · rw [if_neg hfai]
    exact hfree.moves_stateErr (hb.moves hr₁) rp err

lemma absorb_opening (fed : Fed) : (r.absorb fed).opening = r.opening := by rw [absorb_eq]

lemma absorb_opened (fed : Fed) : (r.absorb fed).opened = r.opened := by rw [absorb_eq]

lemma Free.moves_accepted (h : r.Free) (rp : Option ReplyID)
    (hg : G.sample r.models evidence) (hq : G.queued r.pending r.models evidence)
    (hfe : (r.fed evidence).failure = none) :
    Moves G r (r.doneState failClosed rp (.ok (.evidence evidence))) := by
  have hob : r.sample failClosed (.ok (.evidence evidence)) =
      ((r.absorb (r.fed evidence)).maybeScheduleBreakpointCleanup
        (r.fed evidence).models.reducer.snapshot false, none) := by
    rw [sample, observe, show r.models.feed r.resolver evidence = r.fed evidence from rfl]
    simp only [hfe]
  have hsnap : (r.fed evidence).models.reducer.snapshot = (r.absorb (r.fed evidence)).snapshot := by
    rw [absorb_eq]
    rfl
  rw [hsnap] at hob
  rw [doneState_ok hob, maybeSchedule_opening, absorb_opening]
  by_cases ho : r.opening = true
  · rw [if_pos ho, maybeSchedule_opened]
    exact (ReflTransGen.single (.bootstrap evidence ho h.live h.idle hg hq hfe)).trans
      ((moves_maybeSchedule (.inr rfl) _).trans (moves_respondTo _ _))
  rw [if_neg ho]
  have hon : r.opened = true := by
    by_contra hno
    exact ho (h.alone (by simpa using hno)).1
  exact (ReflTransGen.single (.sample evidence hon h.live h.idle hg hq hfe)).trans
    ((moves_maybeSchedule (.inr ((absorb_opened _).trans hon)) _).trans (moves_respondTo _ _))

lemma Free.moves_rejected (h : r.Free) (hb : r.Base) (rp : Option ReplyID) {failure : Failure}
    (hfe : (r.fed evidence).failure = some failure) :
    Moves G r (r.doneState failClosed rp (.ok (.evidence evidence))) := by
  have hfree : Free { r with models := (r.fed evidence).models } := { h with }
  cases failure with
  | arbiter err =>
    have hob : r.observe failClosed evidence =
        (if r.opening then { r with models := (r.fed evidence).models }
          else { r with models := (r.fed evidence).models }.failClosed .state err, some err) := by
      rw [observe, show r.models.feed r.resolver evidence = r.fed evidence from rfl]
      simp only [hfe]
    have hnote : Moves G r { r with models := (r.fed evidence).models } :=
      .single (.arbiterErr evidence err h.live h.idle hfe)
    by_cases ho : r.opening = true
    · rw [if_pos ho] at hob
      exact moves_refused hb rp hob hnote (.inr hfree)
    rw [if_neg ho] at hob
    have hcl := hfree.moves_failClosed (G := G) .state err
    rw [setOpening_eq (by simpa using ho)] at hcl
    exact moves_refused hb rp hob (hnote.trans hcl) (.inl (failClosed_faulted _ _))
  | reducer err =>
    have hob : r.observe failClosed evidence =
        ({ r with models := (r.fed evidence).models }.applyReducerActions (r.fed evidence).actions
          (r.fed evidence).models.reducer.snapshot (some err), some err) := by
      rw [observe, show r.models.feed r.resolver evidence = r.fed evidence from rfl]
      simp only [hfe]
    by_cases ho : r.opening = true
    · refine moves_refused hb rp hob
        (.single (.reducerErr evidence err ho h.live h.idle hfe)) (.inr ?_)
      rw [actions_eq]
      exact { h with }
    -- the reducer has already announced the failure
    rw [doneState_error (sample_refused hob)]
    have hfa := Move.reducerFault (G := G) evidence err h.live h.idle hfe
    have hstate := fed_reducerErr hfe
    have hkp := actions_eq (r.fed evidence).models.reducer.snapshot (some err)
      (r.fed evidence).actions { r with models := (r.fed evidence).models }
    generalize { r with models := (r.fed evidence).models }.applyReducerActions
      (r.fed evidence).actions (r.fed evidence).models.reducer.snapshot (some err) = r₁
      at hfa hkp ⊢
    have hfai : (err.is .reconciliationRequired && !r₁.opening) = true := by
      rw [is_reconciliationRequired_of_reducerErr hfe, hkp]
      simpa using ho
    have hqu : (r₁.fault .state err).announce err = r₁.fault .state err :=
      announce_faulted (by rw [hkp]; exact hstate) err
    have hcl : Moves G r (r₁.failClosed .state err) := by
      rw [failClosed_eq (by rw [hkp]; exact h.live), hqu]
      exact (ReflTransGen.single hfa).trans (moves_drain r₁.pending rfl)
    rw [if_pos hfai]
    exact hcl.trans (moves_stateErr_faulted failClosed (failClosed_faulted _ _) _ _)
  | disagreement err =>
    have hob : r.observe failClosed evidence =
        (if r.opening then { r with models := (r.fed evidence).models }
          else { r with models := (r.fed evidence).models }.failClosed .state err, some err) := by
      rw [observe, show r.models.feed r.resolver evidence = r.fed evidence from rfl]
      simp only [hfe]
    by_cases ho : r.opening = true
    · rw [if_pos ho] at hob
      exact moves_refused hb rp hob (.single (.clash evidence err ho h.live h.idle hfe))
        (.inr hfree)
    rw [if_neg ho] at hob
    refine moves_refused hb rp hob ?_ (.inl (failClosed_faulted _ _))
    refine Runtime.moves_failClosed _ r.opening r.complete _ _ h.live ?_
      (.inr ⟨evidence, err, hfe, rfl⟩) id (suffix_refl _) (by simp [h.idle])
    rw [← h.idle]

lemma Free.moves_doneState (h : r.Free) (hb : r.Base) (rp : Option ReplyID)
    (res : Except Error Value) (hg : ∀ evidence, res = .ok (.evidence evidence) →
      G.sample r.models evidence ∧ G.queued r.pending r.models evidence) :
    Moves G r (r.doneState failClosed rp res) := by
  match res with
  | .error err => exact h.moves_stateErr hb rp err
  | .ok (.evidence evidence) =>
    cases hfe : (r.fed evidence).failure with
    | none => exact h.moves_accepted rp (hg evidence rfl).1 (hg evidence rfl).2 hfe
    | some => exact h.moves_rejected hb rp hfe
  | .ok .nothing => exact h.moves_stateErr hb rp _
  | .ok (.topology _) => exact h.moves_stateErr hb rp _
  | .ok (.console _) => exact h.moves_stateErr hb rp _
  | .ok (.execution _ _) => exact h.moves_stateErr hb rp _
  | .ok (.replaced _) => exact h.moves_stateErr hb rp _
  | .ok (.cleaned _) => exact h.moves_stateErr hb rp _
  | .ok (.stack _) => exact h.moves_stateErr hb rp _
  | .ok (.scopes _) => exact h.moves_stateErr hb rp _
  | .ok (.page _) => exact h.moves_stateErr hb rp _
  | .ok (.var _) => exact h.moves_stateErr hb rp _
  | .ok (.bytes _) => exact h.moves_stateErr hb rp _
  | .ok (.instructions _) => exact h.moves_stateErr hb rp _
  | .ok (.trace _) => exact h.moves_stateErr hb rp _

/-- The callback of an inspection request, from the state `r` before it was put down. -/
lemma moves_doneInspection (hr₁ : Moves G r r₁) (stop : StopContext)
    (hdrop : r₁.sameStoppedEpoch stop.stopEpoch = false → Moves G r r₁.dropStopBound)
    (call : InspectionCall) (rp : ReplyID) (res : Except Error Value) :
    Moves G r (r₁.doneInspection stop call rp res) := by
  unfold doneInspection
  dsimp only
  split_ifs with hsm
  · exact hr₁.trans (moves_doneReply _ _ _)
  · exact (hdrop (by simpa using hsm)).trans (moves_doneReply _ _ _)

lemma Free.moves_doneRollbackClose (h : r.Free) (op : Operation) (rp : Option ReplyID)
    (err : Error) (res : Except Error Value) :
    Moves G r (r.doneRollbackClose failClosed op rp err res) := by
  have hbook : Moves G r { r with openSucceeded := false, openGeneration := 0 } :=
    .single (.books _ _ _ _ _ _ _)
  have hfree : Free { r with openSucceeded := false, openGeneration := 0 } := { h with }
  unfold doneRollbackClose
  cases res with
  | error | ok =>
    exact hbook.trans ((hfree.moves_failClosed _ _).trans (moves_respondTo _ _))

/-- The callback of an operation, from the state `r` before it was put down. -/
lemma moves_done (hr₁ : Moves G r r₁) (hb : r.Base) (h : r₁.Free) (work : Work)
    (res : Except Error Value) (b : Option Error)
    (hdrop : ∀ ep, work.inspects = some ep → r₁.sameStoppedEpoch ep = false →
      Moves G r r₁.dropStopBound)
    (hg : ∀ rp evidence, work = .state rp → res = .ok (.evidence evidence) →
      G.sample r₁.models evidence ∧ G.queued r₁.pending r₁.models evidence) :
    Moves G r (r₁.done work res b) := by
  have hb₁ := hb.moves hr₁
  cases work with
  | «open» rp => exact hr₁.trans (h.moves_doneOpen hb₁ rp res b)
  | cores rp => exact hr₁.trans (h.moves_doneCores hb₁ rp res)
  | state rp =>
    exact hr₁.trans (h.moves_doneState hb₁ rp res fun ev hev => hg rp ev rfl hev)
  | console tgts => exact hr₁.trans (moves_doneConsole tgts res)
  | resetConsole rp => exact hr₁.trans (moves_doneResetConsole rp res)
  | breakpointCleanup => exact hr₁
  | trace ow ep req _ rp =>
    exact hr₁.trans (moves_doneTrace false ow ep req rp res {})
  | inspection stop call rp =>
    exact moves_doneInspection hr₁ stop (hdrop stop.stopEpoch rfl) call rp res
  | rollbackClose op rp e => exact hr₁.trans (h.moves_doneRollbackClose op rp e res)
  | _ => exact hr₁.trans (moves_doneReply _ _ _)

/-! ### Completions -/

lemma Base.free_settled (hb : r.Base) {fl : Inflight} (hin : r.inflight = some fl)
    (complete : List Completion) : Free { r with complete := complete, inflight := none } := by
  have hlive : r.faulted = false := by
    by_contra hf
    simp [hb.waits (by simpa using hf)] at hin
  refine ⟨hlive, fun ho => ?_, rfl⟩
  have hload := hb.single ho hlive
  have hid := hb.idle ho hlive
  simp only [load, hin, toList_some, length_singleton] at hload hid
  refine ⟨?_, length_eq_zero_iff.mp (show r.pending.length = 0 by omega), rfl⟩
  by_contra hno
  exact absurd (hid (by simpa using hno)) (by omega)

lemma Base.free_popped (hb : r.Base) {rest : List Work} (hlive : r.faulted = false)
    (hid : r.inflight = none) (hp : r.pending = work :: rest) :
    Free { r with pending := rest } := by
  refine ⟨hlive, fun ho => ?_, hid⟩
  have hload := hb.single ho hlive
  have hno := hb.idle ho hlive
  simp only [load, hp, length_cons] at hload hno
  refine ⟨?_, length_eq_zero_iff.mp (show rest.length = 0 by omega), hid⟩
  by_contra hop
  exact absurd (hno (by simpa using hop)) (by omega)

section completion

variable {fl : Inflight} {c : Completion} {rest : List Completion}

lemma moves_settled (hb : r.Base) (hc : r.complete = c :: rest) (hin : r.inflight = some fl)
    (hs : r.Settles fl c) (b : Option Error)
    (hg : ∀ rp evidence, fl.work = .state rp → c.result = .ok (.evidence evidence) →
      G.sample r.models evidence ∧ G.queued r.pending r.models evidence) :
    Moves G r ({ r with complete := rest, inflight := none }.done fl.work c.result b) := by
  refine moves_done (.single (.settle fl c rest hc hin hs)) hb (hb.free_settled hin rest) _ _
    b ?_ hg
  intro ep hep hsa
  -- the references go before the operation does
  have hdrop : Move G r r.dropStopBound :=
    .drop (.inr ⟨fl.work, ep, hep, hsa, .inr ⟨fl, hin, rfl⟩⟩)
  exact (ReflTransGen.single hdrop).tail (.settle fl c rest hc hin hs)

lemma moves_terminal (hb : r.Base) (hc : r.complete = c :: rest)
    (hin : r.inflight = some fl) (hto : fl.token = c.token) (op : Operation)
    (cause err : Error) (work : Work) (b : Option Error) :
    Moves G r (({ r with complete := rest, inflight := none }.failClosed op cause).done work
      (.error err) b) := by
  have hlive := (hb.free_settled hin rest).live
  have hcl : Moves G r ({ r with complete := rest, inflight := none }.failClosed op cause) :=
    Runtime.moves_failClosed r.models r.opening rest op cause hlive rfl (.inl rfl) id
      (hc ▸ suffix_cons c rest) (by simp [hin, hc, hto])
  exact hcl.trans (moves_failed (failClosed_faulted _ _) work err b)

lemma judge_token {verdict : Verdict} (hv : r.judge fl c = verdict)
    (hne : verdict ≠ .ignored) : fl.token = c.token := by
  by_contra hto
  exact hne (hv.symm.trans (if_pos hto))

lemma defersBootstrapFault_kind {kind : Operation} (h : r.defersBootstrapFault kind = true) :
    kind = .cores ∨ kind = .state := by
  simp only [defersBootstrapFault, Bool.and_eq_true, Bool.or_eq_true, beq_iff_eq] at h
  exact h.2

lemma finish_error (fl : Inflight) (err : Error) (b : Option Error) : r.finish fl (.error err) b =
      (if completionFailureIsTerminal err && !r.defersBootstrapFault fl.work.kind then
        r.failClosed fl.work.kind err
       else r).done fl.work (.error err) b := by
  cases hw : fl.work <;> simp only [finish, hw]

lemma finish_ok (val : Value) (b : Option Error) (hw : ∀ rp, fl.work ≠ .open rp) :
    r.finish fl (.ok val) b = r.done fl.work (.ok val) b := by
  cases hwk : fl.work with
  | «open» rp => exact absurd hwk (hw rp)
  | _ => simp only [finish, hwk]

lemma moves_finish (hb : r.Base) (hc : r.complete = c :: rest) (hin : r.inflight = some fl)
    (hv : r.judge fl c = .finished) (b : Option Error)
    (hg : ∀ rp evidence, fl.work = .state rp → c.result = .ok (.evidence evidence) →
      G.sample r.models evidence ∧ G.queued r.pending r.models evidence) :
    Moves G r ({ r with complete := rest, inflight := none }.finish fl c.result b) := by
  have hnx := fun hs => moves_settled (G := G) hb hc hin hs b hg
  cases hres : c.result with
  | error err =>
    rw [finish_error]
    split_ifs with hterm
    · exact moves_terminal hb hc hin (judge_token hv (by simp)) _ _ _ _ _
    rw [← hres]
    refine hnx (.inr (.inl ⟨hv, fun e he hte => ?_⟩))
    obtain rfl : err = e := by simpa [hres] using he
    exact defersBootstrapFault_kind (r := { r with complete := rest, inflight := none })
      (by simpa [hte] using hterm)
  | ok val =>
    have hs : r.Settles fl c := .inr (.inl ⟨hv, fun e he => by simp [hres] at he⟩)
    by_cases hon : ∃ rp, fl.work = .open rp
    · obtain ⟨rp, hwk⟩ := hon
      have heq : { r with complete := rest, inflight := none }.finish fl (.ok val) b =
          { r with complete := rest, inflight := none,
                   openGeneration := fl.generation }.done (.open rp) (.ok val) b := by
        simp only [finish, hwk]
      have hset : Moves G r { r with complete := rest, inflight := none } :=
        .single (.settle fl c rest hc hin hs)
      have hbook : Moves G r { r with complete := rest, inflight := none,
                                      openGeneration := fl.generation } :=
        hset.tail (.books _ _ _ _ _ _ _)
      rw [heq]
      refine moves_done hbook hb { hb.free_settled hin rest with } _ _ b ?_ ?_
      · simp [Work.inspects]
      · simp
    · rw [finish_ok val b (by simpa using hon), ← hres]
      exact hnx hs

/-- The sample a completion brings, if the operation in flight is a sample. -/
def brings (inflight : Inflight) (c : Completion) : Option StateEvidence :=
  match inflight.work, c.result with
  | .state _, .ok (.evidence evidence) => some evidence
  | _, _ => none

lemma moves_doneIsolated (work : Work) (res : Except Error Value) (bad : TraceResult) :
    Moves G r (r.doneIsolated work res bad) := by
  cases work with
  | trace => exact moves_doneTrace _ _ _ _ _ _ _
  | _ => exact .refl

lemma judge_isolated (hv : r.judge fl c = .isolated ∨ r.judge fl c = .isolatedStale) :
    fl.work.isolated = true ∧ fl.token = c.token := by
  have hto : fl.token = c.token := by
    rcases hv with hv | hv <;> exact judge_token hv (by simp)
  refine ⟨?_, hto⟩
  by_contra hno
  simp only [judge, hto, ne_eq, not_true_eq_false, ↓reduceIte, hno] at hv
  split_ifs at hv <;> simp at hv

lemma completeWork_eq (hin : r.inflight = some fl) (b : Option Error) :
    { r with complete := rest }.completeWork c b =
      match r.judge fl c with
      | .ignored => { r with complete := rest }
      | .admitted =>
        { r with
          complete := rest
          inflight := some { fl with
            submitted := true, operation := c.operation, generation := c.generation } }
      | .unsubmitted =>
        { r with complete := rest, inflight := none }.done fl.work c.result b
      | .stale =>
        ({ r with complete := rest, inflight := none }.failClosed fl.work.kind
          (.of .bridgeStaleCompletion)).done fl.work (.error (.of .bridgeStaleCompletion)) none
      | .finished =>
        { r with complete := rest, inflight := none }.finish fl c.result b
      | .isolated =>
        { r with complete := rest, inflight := none }.doneIsolated fl.work c.result c.failed
      | .isolatedStale =>
        { r with complete := rest, inflight := none }.doneIsolated fl.work
          (.error (.of .bridgeStaleCompletion)) {} := by
  simp only [completeWork, hin]
  rfl

lemma moves_completeWork (hb : r.Base) (hc : r.complete = c :: rest) (b : Option Error)
    (hg : ∀ fl evidence, r.inflight = some fl → brings fl c = some evidence →
      r.judge fl c = .finished ∨ r.judge fl c = .unsubmitted →
      G.sample r.models evidence ∧ G.queued r.pending r.models evidence) :
    Moves G r ({ r with complete := rest }.completeWork c b) := by
  rcases r.inflight.eq_none_or_eq_some with hin | ⟨fl, hin⟩
  · simp only [completeWork, hin]
    have := Move.ignore (G := G) c rest hc (by simp [hin])
    simp only [hin] at this
    exact .single this
  have hsam : r.judge fl c = .finished ∨ r.judge fl c = .unsubmitted →
      ∀ rp evidence, fl.work = .state rp → c.result = .ok (.evidence evidence) →
        G.sample r.models evidence ∧ G.queued r.pending r.models evidence :=
    fun hv rp evidence hw hres => hg fl evidence hin (by simp [brings, hw, hres]) hv
  have hover (hs : fl.work.isolated = true ∧ fl.token = c.token)
      (res : Except Error Value) (bad : TraceResult) :
      Moves G r ({ r with complete := rest, inflight := none }.doneIsolated fl.work
        res bad) :=
    (ReflTransGen.single (.settle fl c rest hc hin (.inr (.inr hs)))).trans
      (moves_doneIsolated _ _ _)
  rw [completeWork_eq hin]
  cases hv : r.judge fl c with
  | ignored =>
    refine .single (.ignore c rest hc fun in' h' => ?_)
    obtain rfl : fl = in' := by simpa [hin] using h'
    intro hto
    simp only [judge, hto, ne_eq, not_true_eq_false, ↓reduceIte] at hv
    split_ifs at hv
  | admitted => exact .single (.acknowledge fl c rest hc hin hv)
  | unsubmitted => exact moves_settled hb hc hin (.inl hv) b (hsam (.inr hv))
  | stale => exact moves_terminal hb hc hin (judge_token hv (by simp)) _ _ _ _ _
  | finished => exact moves_finish hb hc hin hv b (hsam (.inl hv))
  | isolated => exact hover (judge_isolated (.inl hv)) _ _
  | isolatedStale => exact hover (judge_isolated (.inr hv)) _ _

end completion

end Runtime

end MultiDap.Actor
