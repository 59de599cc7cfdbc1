import MultiDap.Actor.Turn

/-!
# Replies

A caller waits on a channel with room for one reply. Its command is answered at once, or an
operation carries the reply on: through the chained operations of the bootstrap, its rollback, and
the callbacks that run when the session fails closed. The tally of a caller counts the replies it
has got and the operations that still owe it one.
-/

namespace MultiDap.Actor

open Machine Inspection Stop Session Relation List Option

def Work.reply : Work → Option ReplyID
  | .open reply => some reply
  | .cores reply => some reply
  | .state reply => reply
  | .console _ => none
  | .resetConsole reply => some reply
  | .singleCoreExecution _ _ _ reply => some reply
  | .executionDomain _ _ _ reply => some reply
  | .breakpoints _ _ _ _ reply => some reply
  | .sourceResolution _ _ _ _ _ reply => some reply
  | .breakpointCleanup _ => none
  | .inspection _ _ reply => some reply
  | .readMemory _ _ _ _ reply => some reply
  | .disassemble _ _ _ _ _ reply => some reply
  | .rollbackClose _ reply _ _ => reply
  | .trace _ _ _ _ reply => some reply

/-- The caller that waits for the answer to a command. -/
def Command.reply : Command → Option ReplyID
  | .open reply => some reply
  | .attach _ reply => some reply
  | .detach _ _ reply => some reply
  | .detachSubscription _ => none
  | .acquire _ reply => some reply
  | .release _ reply => some reply
  | .threads reply => some reply
  | .snapshot reply => some reply
  | .breakpointCounts reply => some reply
  | .poll reply => some reply
  | .execute _ _ _ _ reply => some reply
  | .beginConfiguration reply => some reply
  | .configurationDone reply => some reply
  | .cancelConfiguration reply => some reply
  | .allocateHandle _ _ _ reply => some reply
  | .setBreakpoints _ _ _ _ reply => some reply
  | .noteHint _ reply => reply
  | .stack _ _ reply => some reply
  | .scopes _ reply => some reply
  | .variablePage _ _ _ reply => some reply
  | .evaluate _ _ _ reply => some reply
  | .readMemory _ _ _ _ reply => some reply
  | .disassemble _ _ _ _ _ reply => some reply
  | .resetConsole reply => some reply
  | .trace _ _ reply => some reply
  | .traceSnapshot _ reply => some reply
  | .close reply => some reply

def Input.reply : Input → Option ReplyID
  | .command c => c.reply
  | _ => none

/-- One, if the reply goes to this caller. -/
def share (reply : Option ReplyID) (caller : ReplyID) : Nat := if reply = some caller then 1 else 0

namespace Runtime

def answers (r : Runtime) (caller : ReplyID) : Nat := r.replies.countP (·.reply == caller)

/-- The operations that are in flight or queued. -/
def outstanding (r : Runtime) : List Work := (r.inflight.map Inflight.work).toList ++ r.pending

/-- The operations that owe a caller its reply. -/
def owed (r : Runtime) (caller : ReplyID) : Nat := (r.outstanding.map (share ·.reply caller)).sum

def tally (r : Runtime) (caller : ReplyID) : Nat := r.answers caller + r.owed caller

variable {r r' : Runtime} {caller : ReplyID}

@[simp] lemma share_none : share none caller = 0 := by simp [share]

lemma tally_respond (rp : ReplyID) (ans : Answer) (err : Option Error) :
    (r.respond rp ans err).tally caller = r.tally caller + share (some rp) caller := by
  simp only [tally, answers, owed, outstanding, respond, share, countP_append, countP_singleton,
    Option.some.injEq, beq_iff_eq]
  omega

lemma tally_respondTo (rp : Option ReplyID) (err : Option Error) :
    (r.respondTo rp err).tally caller = r.tally caller + share rp caller := by
  cases rp with
  | none => simp [respondTo]
  | some rp => exact tally_respond rp _ _

lemma tally_enqueue (work : Work) :
    (r.enqueue work).tally caller = r.tally caller + share work.reply caller := by
  simp only [tally, answers, owed, outstanding, enqueue, ← append_assoc, map_append, sum_append,
    map_cons, map_nil, sum_cons, sum_nil, add_zero]
  omega

/-! ### Samples -/

lemma tally_actions (acts : List Action) (snap : Session.Snapshot) (cause : Option Error) :
    (r.applyReducerActions acts snap cause).tally caller = r.tally caller := by
  rw [actions_eq]
  rfl

lemma tally_maybeSchedule (snap : Session.Snapshot) (imm : Bool) :
    (r.maybeScheduleBreakpointCleanup snap imm).tally caller = r.tally caller := by
  unfold maybeScheduleBreakpointCleanup
  split_ifs
  · rfl
  · rfl
  · rw [tally_enqueue]
    rfl
  · rfl
  · rw [tally_enqueue]
    rfl

/-! ### Callbacks -/

lemma tally_doneReply (rp : ReplyID) (res : Except Error Value)
    (read : Value → Except Error Answer) :
    (r.doneReply rp res read).tally caller = r.tally caller + share (some rp) caller := by
  unfold doneReply
  split <;> exact tally_respond _ _ _

lemma tally_doneConsole (tgts : List (Nat × Nat)) (res : Except Error Value) :
    (r.doneConsole tgts res).tally caller = r.tally caller := by
  unfold doneConsole noteConsoleFailure
  split <;> split_ifs <;> rfl

lemma tally_doneInspection (stop : StopContext) (call : InspectionCall) (rp : ReplyID)
    (res : Except Error Value) :
    (r.doneInspection stop call rp res).tally caller = r.tally caller + share (some rp) caller := by
  unfold doneInspection
  dsimp only
  rw [tally_doneReply]
  split_ifs <;> rfl

lemma tally_doneTrace (started : Bool) (ow : ControllerID) (ep : Nat)
    (req : TraceRequest) (rp : ReplyID) (res : Except Error Value) (bad : TraceResult) :
    (r.doneTrace started ow ep req rp res bad).tally caller =
      r.tally caller + share (some rp) caller := by
  cases res with
  | ok =>
    simp only [doneTrace]
    split
    · exact tally_respond _ _ _
    split
    · exact tally_respond _ _ _
    split <;> exact tally_respond _ _ _
  | error err =>
    simp only [doneTrace]
    split
    · exact tally_respond _ _ _
    have hla : (if started then { r with tracing := r.traceLatch ow err } else r).tally
        caller = r.tally caller := by
      split_ifs <;> rfl
    rw [← hla]
    generalize (if started then { r with tracing := r.traceLatch ow err } else r) = r₁
    split <;> exact tally_respond _ _ _

section callbacks

variable {fail : Fail} (hfail : ∀ r op err, (fail r op err).tally caller = r.tally caller)

include hfail

lemma tally_observe (ev : StateEvidence) : (r.observe fail ev).1.tally caller = r.tally caller := by
  unfold observe
  dsimp only
  split
  · split_ifs
    · rfl
    · exact hfail _ _ _
  · exact tally_actions _ _ _
  · split_ifs
    · rfl
    · exact hfail _ _ _
  · rw [tally_maybeSchedule, absorb_eq]
    rfl

lemma tally_sample (res : Except Error Value) :
    (r.sample fail res).1.tally caller = r.tally caller := by
  unfold sample
  split
  · rfl
  · rename_i ev
    have hob := tally_observe (r := r) hfail ev
    split
    · rename_i r₁ err heq
      rw [heq] at hob
      dsimp only
      split_ifs
      · exact (hfail _ _ _).trans hob
      · exact hob
    rename_i r₁ heq
    rw [heq] at hob
    exact hob
  · rfl

lemma tally_failed (op : Operation) (rp : Option ReplyID) (err : Error) :
    (r.bootstrapFailed fail op rp err).tally caller = r.tally caller + share rp caller := by
  unfold bootstrapFailed
  split_ifs
  · exact tally_respondTo _ _
  · rw [tally_respondTo, hfail]
    rfl
  · exact tally_enqueue _
  · rw [tally_respondTo, hfail]
    rfl

lemma tally_doneOpen (rp : ReplyID) (res : Except Error Value) (b : Option Error) :
    (r.doneOpen fail rp res b).tally caller = r.tally caller + share (some rp) caller := by
  unfold doneOpen
  split
  · exact tally_respond _ _ _
  dsimp only
  split
  · exact tally_failed hfail _ _ _
  · exact tally_enqueue _

lemma tally_doneCores (rp : ReplyID) (res : Except Error Value) :
    (r.doneCores fail rp res).tally caller = r.tally caller + share (some rp) caller := by
  unfold doneCores
  split
  · exact tally_failed hfail _ _ _
  · split
    · exact tally_failed hfail _ _ _
    · exact tally_failed hfail _ _ _
    · exact tally_failed hfail _ _ _
    · exact tally_enqueue _
  · exact tally_failed hfail _ _ _

lemma tally_doneState (rp : Option ReplyID) (res : Except Error Value) :
    (r.doneState fail rp res).tally caller = r.tally caller + share rp caller := by
  have hsam := tally_sample (r := r) hfail res
  unfold doneState
  generalize r.sample fail res = out at hsam ⊢
  obtain ⟨r₁, err⟩ := out
  dsimp only at hsam ⊢
  split_ifs
  · split
    · rw [tally_failed hfail, hsam]
    · rw [tally_respondTo, ← hsam]
      rfl
  · rw [tally_respondTo, hsam]

lemma tally_doneRollbackClose (op : Operation) (rp : Option ReplyID) (err : Error)
    (res : Except Error Value) :
    (r.doneRollbackClose fail op rp err res).tally caller = r.tally caller + share rp caller := by
  unfold doneRollbackClose
  dsimp only
  split
  · rw [tally_respondTo, hfail]
    rfl
  · rw [tally_respondTo, hfail]
    rfl

/-- A callback replies, or hands the reply on to the next operation. -/
theorem tally_doneWith (work : Work) (res : Except Error Value) (b : Option Error) :
    (r.doneWith fail work res b).tally caller = r.tally caller + share work.reply caller := by
  cases work with
  | «open» rp => exact tally_doneOpen hfail rp res b
  | cores rp => exact tally_doneCores hfail rp res
  | state rp => exact tally_doneState hfail rp res
  | console tgts => exact (tally_doneConsole tgts res).trans (by simp [Work.reply])
  | resetConsole =>
    simp only [doneWith, doneResetConsole]
    split <;> exact tally_respond _ _ _
  | breakpointCleanup => simp [doneWith, Work.reply]
  | inspection stop call rp => exact tally_doneInspection stop call rp res
  | rollbackClose op rp err => exact tally_doneRollbackClose hfail op rp err res
  | trace ow ep req _ rp =>
    exact tally_doneTrace false ow ep req rp res {}
  | _ => exact tally_doneReply _ _ _

end callbacks

/-! ### The queue -/

/-- Failing closed answers everything that was queued. -/
theorem tally_failClosed (op : Operation) (cause : Error) :
    (r.failClosed op cause).tally caller = r.tally caller := by
  have hdra (works : List Work) (r₁ : Runtime) : (works.foldl drainOne r₁).tally caller =
      r₁.tally caller + (works.map (share ·.reply caller)).sum := by
    induction works generalizing r₁ with
    | nil => rfl
    | cons _ _ ih =>
      rw [foldl_cons, ih, drainOne, tally_doneWith (fun _ _ _ => rfl), map_cons,
        sum_cons, add_assoc]
  have hfa : (r.fault op cause).tally caller + (r.pending.map (share ·.reply caller)).sum =
      r.tally caller := by
    simp only [tally, answers, owed, outstanding, fault, append_nil, map_append, sum_append]
    omega
  unfold failClosed
  dsimp only
  split_ifs
  · rfl
  · exact (hdra r.pending _).trans hfa
  · exact (hdra r.pending _).trans hfa

lemma tally_done (work : Work) (res : Except Error Value) (b : Option Error) :
    (r.done work res b).tally caller = r.tally caller + share work.reply caller :=
  tally_doneWith (fun _ op err => tally_failClosed op err) work res b

theorem tally_startNext : r.startNext.tally caller = r.tally caller := by
  have hloop (fuel : Nat) (r : Runtime) : (startNextLoop fuel r).tally caller = r.tally caller := by
    induction fuel generalizing r with
    | zero => rfl
    | succ _ ih =>
      rw [startNextLoop]
      split_ifs with hbz
      · rfl
      simp only [Bool.or_eq_true, not_or, Bool.not_eq_true, isSome_eq_false_iff,
        isNone_iff_eq_none] at hbz
      split
      · rfl
      rename_i work rest hp
      -- the operation at the head of the queue is answered, or it is in flight
      have htake (tracing : Tracing) : tally { r with pending := rest, tracing } caller +
          share work.reply caller = r.tally caller := by
        simp only [tally, answers, owed, outstanding, hp, hbz.1.1, map_none, toList_none,
          nil_append, map_cons, sum_cons]
        omega
      dsimp only
      split
      · rw [ih, tally_done, htake]
      rw [← htake ({ r with pending := rest }.refusal work).1]
      simp only [tally, answers, owed, outstanding, launch, hbz.1.1, map_some, map_none,
        toList_some, toList_none, nil_append, singleton_append,
        map_cons, sum_cons]
      omega
  exact hloop _ r

lemma tally_finish (fl : Inflight) (res : Except Error Value) (b : Option Error) :
    (r.finish fl res b).tally caller = r.tally caller + share fl.work.reply caller := by
  cases res with
  | error =>
    rw [finish_error, tally_done]
    split_ifs
    · rw [tally_failClosed]
    · rfl
  | ok val =>
    by_cases hop : ∃ rp, fl.work = .open rp
    · obtain ⟨rp, hwk⟩ := hop
      simp only [finish, hwk]
      exact tally_done _ _ _
    · rw [finish_ok val b (by simpa using hop), tally_done]

theorem tally_completeWork (c : Completion) (b : Option Error) :
    (r.completeWork c b).tally caller = r.tally caller := by
  unfold completeWork
  rcases r.inflight.eq_none_or_eq_some with hin | ⟨fl, hin⟩
  · rw [hin]
  rw [hin]
  have htake : tally { r with inflight := none } caller + share fl.work.reply caller =
      r.tally caller := by
    simp only [tally, answers, owed, outstanding, hin, map_some, map_none, toList_some,
      toList_none, nil_append, singleton_append, map_cons, sum_cons]
    omega
  have hio (res : Except Error Value) (bad : TraceResult) (h : fl.work.isolated = true) :
      ({ r with inflight := none }.doneIsolated fl.work res bad).tally caller = r.tally caller := by
    cases hw : fl.work with
    | trace ow ep req _ rp =>
      rw [hw] at htake
      exact (tally_doneTrace true ow ep req rp res bad).trans htake
    | _ => simp [hw, Work.isolated] at h
  dsimp only
  cases hv : r.judge fl c with
  | ignored => rfl
  | admitted => simp only [tally, answers, owed, outstanding, hin, map_some]
  | unsubmitted => rw [tally_done, htake]
  | stale => rw [tally_done, tally_failClosed, htake]
  | finished => rw [tally_finish, htake]
  | isolated => exact hio _ _ (judge_isolated (.inl hv)).1
  | isolatedStale => exact hio _ _ (judge_isolated (.inr hv)).1

/-! ### Commands -/

lemma tally_applyConfigurationActions (acts : List Action) (snap : Session.Snapshot) :
    (r.applyConfigurationActions acts snap).tally caller = r.tally caller := by
  have hone (r : Runtime) (action : Action) :
      (applyConfigurationAction snap r action).tally caller = r.tally caller := by
    unfold applyConfigurationAction
    split
    · split
      · split_ifs
        · unfold applyStopEffect
          split <;> rfl
        · rfl
      · rfl
    · rfl
    · rfl
    · rfl
  unfold applyConfigurationActions
  induction acts generalizing r with
  | nil => rfl
  | cons _ _ ih => rw [foldl_cons, ih, hone]

lemma tally_detachOwner (ow : ControllerID) (vis : Breakpoint.Visit Breakpoint.Logical) :
    (r.detachOwner ow vis).tally caller = r.tally caller := by
  have hle (r : Runtime) : (r.dropLease ow).tally caller = r.tally caller := by
    unfold dropLease
    dsimp only
    split_ifs
    · split <;> rfl
    · split <;> rfl
    · rfl
  have htr : (if ow ≠ "" then r.invalidateTraceOwner ow "frontend_detached"
      else r).tally caller = r.tally caller := by
    split_ifs <;> rfl
  unfold detachOwner
  dsimp only
  rw [← htr]
  generalize (if ow ≠ "" then r.invalidateTraceOwner ow "frontend_detached" else r) = r₁
  split_ifs
  · rw [tally_maybeSchedule, hle]
    rfl
  · rw [hle]
    rfl

lemma tally_release (ow : ControllerID) (rp : ReplyID) :
    (r.applyRelease ow rp).tally caller = r.tally caller + share (some rp) caller := by
  have hbook : (if ow ≠ "" ∧ r.snapshot.leaseOwner = ow then
      { r.invalidateTraceOwner ow "control_released" with
        controlGeneration := r.controlGeneration + 1 } else r).tally caller = r.tally caller := by
    split_ifs <;> rfl
  unfold applyRelease
  dsimp only
  rw [← hbook]
  generalize (if ow ≠ "" ∧ r.snapshot.leaseOwner = ow then _ else r) = r₁
  split <;> exact tally_respond _ _ _

lemma tally_execute (ow : ControllerID) (coreID : Int) (op : ExecutionOperation)
    (scope : Except Error (List Int)) (rp : ReplyID) :
    (r.applyExecute ow coreID op scope rp).tally caller =
      r.tally caller + share (some rp) caller := by
  obtain ⟨err, heq⟩ | ⟨-, work, ⟨-, hw⟩, heq⟩ := served_execute ow coreID op scope rp
  · rw [heq]
    exact tally_respond _ _ _
  · rw [heq]
    rcases hw with rfl | ⟨scope, rfl⟩ <;> exact tally_enqueue _

lemma tally_setBreakpoints (ow : ControllerID) (identity : Source.Identity) (lines : List Int)
    (cov : List Source.Observation) (rp : ReplyID) :
    (r.applySetBreakpoints ow identity lines cov rp).tally caller =
      r.tally caller + share (some rp) caller := by
  obtain ⟨err, heq⟩ | ⟨-, work, ⟨-, -, hw⟩, heq⟩ := served_setBreakpoints ow identity lines cov rp
  · rw [heq]
    exact tally_respond _ _ _
  · rw [heq]
    rcases hw with ⟨cores, rfl⟩ | ⟨expected, rfl⟩ <;> exact tally_enqueue _

lemma tally_noteHint (tok : UInt32) (rp : Option ReplyID) :
    (r.applyNoteHint tok rp).tally caller = r.tally caller + share rp caller := by
  unfold applyNoteHint
  rw [tally_respondTo]
  split_ifs
  · dsimp only
    split_ifs
    · rw [tally_enqueue]
      rfl
    · rfl
  · rfl

lemma tally_inspection (stop : Except Error StopContext) (call : InspectionCall)
    (rp : ReplyID) : (r.applyInspection stop call rp).tally caller =
      r.tally caller + share (some rp) caller := by
  unfold applyInspection
  split
  · exact tally_respond _ _ _
  · exact tally_enqueue _

lemma tally_close (rp : ReplyID) :
    (r.applyClose rp).tally caller = r.tally caller + share (some rp) caller := by
  unfold applyClose closeExecutor
  dsimp only
  rw [tally_respond]
  split_ifs <;> rfl

/-- A command is answered, or an operation is queued that answers it. -/
theorem tally_apply (cmd : Command) :
    (r.apply cmd).tally caller = r.tally caller + share cmd.reply caller := by
  cases cmd with
  | «open» rp =>
    simp only [apply, applyOpen]
    split_ifs
    · exact tally_respond _ _ _
    · exact tally_respond _ _ _
    · exact tally_enqueue _
  | attach =>
    simp only [apply, applyAttach]
    split_ifs <;> exact tally_respond _ _ _
  | detach =>
    simp only [apply]
    rw [tally_respond, tally_detachOwner]
    rfl
  | detachSubscription => rfl
  | acquire =>
    simp only [apply, applyAcquire]
    split
    · exact tally_respond _ _ _
    split <;> exact tally_respond _ _ _
  | release ow rp => exact tally_release ow rp
  | threads =>
    simp only [apply]
    split_ifs <;> exact tally_respond _ _ _
  | snapshot | breakpointCounts => exact tally_respond _ _ _
  | poll =>
    simp only [apply, applyPoll]
    split
    · exact tally_respond _ _ _
    · exact tally_enqueue _
  | execute => exact tally_execute _ _ _ _ _
  | beginConfiguration =>
    simp only [apply, applyBeginConfiguration]
    rw [tally_respond, tally_actions]
    rfl
  | configurationDone =>
    simp only [apply, applyConfigurationDone]
    rw [tally_respond]
    split_ifs
    · rw [tally_applyConfigurationActions]
      rfl
    · rw [tally_actions]
      rfl
  | cancelConfiguration =>
    simp only [apply, applyCancelConfiguration]
    rw [tally_respond, tally_actions]
    rfl
  | allocateHandle =>
    have hled (led : Handle.Ledger Payload) : (r.withLedger led).tally caller = r.tally caller := by
      rw [withLedger_eq]
      rfl
    simp only [apply, applyAllocateHandle]
    split_ifs
    · exact tally_respond _ _ _
    · split <;> rw [tally_respond, hled] <;> rfl
  | setBreakpoints => exact tally_setBreakpoints _ _ _ _ _
  | noteHint tok rp => exact tally_noteHint tok rp
  | stack =>
    simp only [apply, applyStack]
    split
    · exact tally_respond _ _ _
    · exact tally_inspection _ _ _
  | scopes | variablePage | evaluate => exact tally_inspection _ _ _
  | readMemory =>
    simp only [apply, applyReadMemory]
    split
    · exact tally_respond _ _ _
    split_ifs
    · exact tally_respond _ _ _
    · exact tally_enqueue _
  | disassemble =>
    simp only [apply, applyDisassemble]
    split
    · exact tally_respond _ _ _
    split_ifs
    · exact tally_respond _ _ _
    · exact tally_enqueue _
  | resetConsole =>
    simp only [apply, applyResetConsole]
    split
    · exact tally_respond _ _ _
    split_ifs
    · exact tally_respond _ _ _
    · exact tally_enqueue _
  | trace =>
    simp only [apply, applyTrace]
    split
    · exact tally_respond _ _ _
    · exact tally_enqueue _
  | traceSnapshot =>
    simp only [apply, applyTraceSnapshot]
    split
    · exact tally_respond _ _ _
    split <;> exact tally_respond _ _ _
  | close rp => exact tally_close rp

/-! ### Runs -/

lemma tally_turn {f : Runtime → Runtime} {n : Nat}
    (hf : (f r).tally caller = r.tally caller + n) (h : r.turn f = some r') :
    r'.tally caller = r.tally caller + n := by
  unfold turn at h
  split_ifs at h
  cases h
  rw [tally_startNext, hf]

lemma tally_dispatched {d : Dispatcher} (h : r.Dispatched d r') :
    r'.tally caller = r.tally caller := by
  cases h <;> rfl

lemma tally_worked (h : r.Worked r') : r'.tally caller = r.tally caller := by
  cases h with
  | inspect =>
    rw [withLedger_eq]
    rfl
  | _ => rfl

lemma tally_step {i : Input} (h : r.step i = some r') :
    r'.tally caller = r.tally caller + share i.reply caller := by
  cases i with
  | command cmd => exact tally_turn (f := fun r => r.apply cmd) (tally_apply cmd) h
  | completion b =>
    simp only [step] at h
    split at h
    · cases h
    rename_i c rest hc
    exact tally_turn (f := fun r => { r with complete := rest }.completeWork c b)
      (tally_completeWork c b) h
  | stateTick =>
    refine tally_turn ?_ h
    unfold stateTick
    split_ifs
    · exact tally_enqueue _
    · rfl
  | consoleTick =>
    refine tally_turn ?_ h
    unfold consoleTick
    dsimp only
    split_ifs <;> first | rfl | exact tally_enqueue _
  | dispatch =>
    simp only [step] at h
    split at h
    · cases h
    exact tally_dispatched (dispatched h)
  | worker => exact tally_worked (worked h)
  | replace =>
    cases h
    unfold replaceBridge
    split_ifs <;> rfl
  | receive | cancel | traceStatus =>
    cases h
    rfl

def asked (inputs : List Input) (caller : ReplyID) : Nat :=
  (inputs.map (share ·.reply caller)).sum

theorem tally_run {ins : List Input} (h : run step r ins = some r') :
    r'.tally caller = r.tally caller + asked ins caller := by
  induction ins generalizing r with
  | nil =>
    cases h
    rfl
  | cons _ _ ih =>
    obtain ⟨r₁, hst, hrs⟩ := run_cons_eq_some.mp h
    rw [ih hrs, tally_step hst, asked, asked, map_cons, sum_cons, add_assoc]

/-- Nobody waits for what is queued in a session that has failed closed. -/
def Drained (r : Runtime) : Prop := r.faulted = true → ∀ work ∈ r.pending, work.reply = none

theorem Drained.move {G : Guard} (h : r.Drained) (hm : Move G r r') : r'.Drained := by
  cases hm with
  | sample | bootstrap => rw [absorb_eq]; exact h
  | reducerErr => rw [actions_eq]; exact h
  | reducerFault => simp [Drained, Runtime.fault]
  | fault =>
    simp [Drained, Runtime.fault, announce]
  | allocate => rw [withLedger_eq]; exact h
  | enqueue _ hq => exact fun hf => by cases hf.symm.trans hq.live
  | schedule =>
    intro hf work hwk
    rcases mem_concat.mp hwk with hwk | rfl
    · exact h hf work hwk
    · rfl
  | pop work _ hp =>
    exact fun hf w hw => h hf w (hp ▸ mem_cons_of_mem work hw)
  | launch _ _ hlive =>
    exact fun hf => by cases hf.symm.trans hlive
  | dispatch _ _ _ htn => cases htn <;> exact h
  | worker _ htn =>
    cases htn with
    | inspect => rw [withLedger_eq]; exact h
    | _ => exact h
  | _ => exact h

lemma asked_eq_count (ins : List Input) :
    asked ins caller = (ins.filterMap Input.reply).count caller := by
  induction ins with
  | nil => rfl
  | cons i _ ih =>
    rw [asked, map_cons, sum_cons, ← asked, ih]
    cases hre : i.reply with
    | none => simp [hre]
    | some =>
      rw [filterMap_cons_some hre, count_cons, share]
      simp only [Option.some.injEq, beq_iff_eq]
      omega

/-- A caller whose reply channel is its own gets at most one reply. It has got one whenever nothing
is in flight and nothing is queued or the session has failed closed. -/
theorem answered_once {opts : Options} {inputs : List Input}
    (hru : run step (new opts) inputs = some r) (hon : (inputs.filterMap Input.reply).Nodup)
    (hca : caller ∈ inputs.filterMap Input.reply) : r.answers caller ≤ 1 ∧
      (r.inflight = none → r.pending = [] ∨ r.faulted = true → r.answers caller = 1) := by
  have htal : r.answers caller + r.owed caller = 1 := by
    have hne : (new opts).tally caller = 0 := rfl
    have htal : r.tally caller = (new opts).tally caller + asked inputs caller := tally_run hru
    rwa [hne, asked_eq_count, count_eq_one_of_mem hon hca, zero_add] at htal
  refine ⟨by omega, fun hid hqu => ?_⟩
  have hdrai : r.Drained := (moves_invariant (fun _ _ _ => Drained.move)
    (by simp [Drained, new]) (Guard.admits_all _ _) hru).2
  have hnob : ∀ work ∈ r.pending, work.reply = none := by
    rcases hqu with hnn | hf
    · simp [hnn]
    · exact hdrai hf
  have howed : r.owed caller = 0 := by
    have hzero : ∀ n ∈ r.pending.map (share ·.reply caller), n = 0 := by
      rintro n hn
      obtain ⟨work, hwk, rfl⟩ := mem_map.mp hn
      simp [hnob work hwk]
    simp only [owed, outstanding, hid, map_none, toList_none, nil_append]
    exact sum_eq_zero hzero
  omega

/-- Two callers poll a stopped target, and the first poll poisons the bridge. -/
def pollsPoisoned : List Input :=
  bootstrap (stampedEvidence .stopped 1) ++ [.command (.poll 1), .command (.poll 2)] ++
    perform 4 (.error (.of .poisoned))

theorem answered_once_poisoned : ∃ r, run step (new {}) pollsPoisoned = some r ∧
      (pollsPoisoned.filterMap Input.reply).Nodup ∧
      2 ∈ pollsPoisoned.filterMap Input.reply ∧ r.inflight.isNone ∧ r.faulted = true ∧
      r.answers 2 = 1 := by
  have hon : (pollsPoisoned.filterMap Input.reply).Nodup := by decide
  have hca : 2 ∈ pollsPoisoned.filterMap Input.reply := by decide
  obtain ⟨r, hru, hid, hf⟩ : ∃ r, run step (new {}) pollsPoisoned = some r ∧
      r.inflight.isNone ∧ r.faulted = true := exists_run (by decide +kernel)
  exact ⟨r, hru, hon, hca, hid, hf, (answered_once hru hon hca).2
    (isNone_iff_eq_none.mp hid) (.inr hf)⟩

end Runtime

end MultiDap.Actor
