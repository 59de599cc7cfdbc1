import MultiDap.Actor.Completion
import MultiDap.Actor.Submission

/-!
# Who is told of a success

The other half of `Quiet`: the callbacks of operations that succeeded, and the commands. A success
is told to the caller of a command at once, or to the caller of the operation that has just ended,
and an operation that is bound to a stop or to a lease succeeds only while that is current.
-/

namespace MultiDap.Actor

open Machine Inspection Stop Session Relation Option

/-- The target was stopped when the operation was accepted. -/
def Work.stopped : Work → Bool
  | .inspection stop _ _ => stop.stopped
  | .readMemory .. => true
  | .disassemble .. => true
  | _ => false

/-- The answer to a request for the stack, scopes, variables, an evaluation, memory or
disassembly. -/
def Answer.inspected : Answer → Bool
  | .result (.stack _) => true
  | .result (.scopes _) => true
  | .result (.page _) => true
  | .result (.var _) => true
  | .result (.bytes _) => true
  | .result (.instructions _) => true
  | _ => false

def Answer.traced : Answer → Bool
  | .result (.trace _) => true
  | _ => false

/-- An answer that takes a stop or the lease comes from an operation that is bound to it. -/
def Answer.Suits (answer : Answer) (work : Work) : Prop :=
  (answer.inspected = true → work.boundTo.isSome = true) ∧
    (answer.traced = true → work.isolated = true)

/-- An operation of no stop and no lease that is not a rollback either. -/
def Work.Unbound (w : Work) : Prop :=
  w.boundTo = none ∧ w.isolated = false ∧ w.kind ≠ .rollbackClose

namespace Runtime

variable {r r' r'' : Runtime} {work : Work}

/-- The stop that the operation is bound to is the present one, and its frontend has kept the lease
since. -/
def Current (r : Runtime) (work : Work) : Prop :=
  (∀ epoch, work.boundTo = some epoch → r.sameStoppedEpoch epoch = true) ∧
    ∀ owner epoch request generation reply, work = .trace owner epoch request generation reply →
      r.traceOwnerCurrent owner epoch = true

lemma current_of_plain (hbou : work.boundTo = none) (hio : work.isolated = false) :
    r.Current work := by
  refine ⟨fun ep h => by simp [hbou] at h, ?_⟩
  rintro ow ep req gen rp rfl
  cases hio

/-- The operation that is queued when an operation has succeeded. -/
inductive Follows : Work → Work → Prop where
  | cores (reply : ReplyID) : Follows (.open reply) (.cores reply)
  | state (reply : ReplyID) : Follows (.cores reply) (.state (some reply))
  | cleanup (work : Work) (epoch : UInt64) : Follows work (.breakpointCleanup epoch)

variable {w : Work}

lemma Follows.unbound (h : Follows work w) : w.Unbound := by
  cases h <;> exact ⟨rfl, rfl, by simp [Work.kind]⟩

/-- The open of the session has succeeded, if this operation has. -/
def Confirmed (r : Runtime) (work : Work) : Prop :=
  r.openSucceeded = true ∨ ∃ reply, work = .open reply

/-- The rollback that is queued when an operation has succeeded and the bootstrap fails. -/
def RollsBackAfter (work : Work) (r : Runtime) (w : Work) : Prop :=
  (∃ operation err, w = .rollbackClose operation work.reply err r.openGeneration) ∧
    work.bootstraps = true ∧ r.opening = true ∧ r.faulted = false ∧ r.Confirmed work ∧
      r.opts.openMode = .cold ∧
    r.openGeneration ≠ 0 ∧ r.executor.generation = r.openGeneration

/-- The callback of an operation that succeeded. -/
structure Concludes (work : Work) (r r' : Runtime) : Prop where
  around : r'.surroundings = r.surroundings
  controlGeneration : r'.controlGeneration = r.controlGeneration
  executor : r'.executor = r.executor
  lease : r'.models.reducer.leaseOwner = r.models.reducer.leaseOwner
  faulted : r.faulted = true → r'.faulted = true
  opened : r.opened = true → r'.opened = true
  opening : r'.opening = true → r.opening = true
  confirmed : r'.openSucceeded = true → r.Confirmed work ∧ r'.openGeneration = r.openGeneration
  works : ∀ w ∈ r'.pending, w ∈ r.pending ∨ Follows work w ∨ RollsBackAfter work r w
  replies : ∃ new, r'.replies = r.replies ++ new ∧ ∀ a ∈ new, a.err.isSome = true ∨
    work.reply = some a.reply ∧ r.Current work ∧ a.answer.Suits work

lemma Concludes.opts (h : Concludes work r r') : r'.opts = r.opts :=
  congrArg Surroundings.opts h.around

lemma concludes_refl : Concludes work r r where
  around := rfl
  controlGeneration := rfl
  executor := rfl
  lease := rfl
  faulted := id
  opened := id
  opening := id
  confirmed := fun h => ⟨.inl h, rfl⟩
  works := fun _ hw => .inl hw
  replies := ⟨[], by simp, by simp⟩

lemma Concludes.rollsBack (h : Concludes work r r') (hboo : work.bootstraps = true)
    (hw : RollsBack work.reply r' w) : RollsBackAfter work r w := by
  obtain ⟨hwk, hopeni, hlive, hope, hcold, hne, hge⟩ := hw
  obtain ⟨hco, hgene⟩ := h.confirmed hope
  rw [hgene] at hwk hne hge
  rw [h.opts] at hcold
  rw [h.executor] at hge
  refine ⟨hwk, hboo, h.opening hopeni, ?_, hco, hcold, hne, hge⟩
  exact Bool.eq_false_iff.mpr fun hf => by simp [h.faulted hf] at hlive

lemma Concludes.quiet (h : Concludes work r r')
    (hqu : ∀ who, (work.bootstraps = true → who = work.reply) → Quiet who r' r'') :
    Concludes work r r'' := by
  have h' := hqu work.reply fun _ => rfl
  refine ⟨h'.around.trans h.around, h'.controlGeneration.trans h.controlGeneration,
    h'.executor.trans h.executor, by rw [h'.models, h.lease], fun hf => h'.faulted (h.faulted hf),
    fun ho => h'.opened.trans (h.opened ho), fun ho => h.opening (h'.opening ho), fun ho => ?_,
    fun w hw => ?_, ?_⟩
  · obtain ⟨ho, hgene⟩ := h'.confirmed ho
    obtain ⟨hco, hgene'⟩ := h.confirmed ho
    exact ⟨hco, hgene.trans hgene'⟩
  · cases hboo : work.bootstraps with
    | false => exact h.works w (Quiet.mem_pending (fun who => hqu who (by simp [hboo])) hw)
    | true =>
      rcases h'.works w hw with hw | hw
      · exact h.works w hw
      · exact .inr (.inr (h.rollsBack hboo hw))
  obtain ⟨new, hnew, hal⟩ := h.replies
  obtain ⟨new', hnw', hal'⟩ := h'.replies
  refine ⟨new ++ new', by rw [hnw', hnew, List.append_assoc], fun a ha => ?_⟩
  exact (List.mem_append.mp ha).elim (hal a) fun ha => .inl (hal' a ha)

lemma Concludes.silent (h : Concludes work r r') (hqu : ∀ who, Quiet who r' r'') :
    Concludes work r r'' :=
  h.quiet fun who _ => hqu who

variable {ans : Answer}

lemma suits_of_plain (hins : ans.inspected = false) (htr : ans.traced = false) : ans.Suits work :=
  ⟨fun h => by simp [hins] at h, fun h => by simp [htr] at h⟩

lemma Concludes.respond (h : Concludes work r r') {rp : ReplyID}
    {err : Option Error} (hre : work.reply = some rp)
    (hcur : err = none → r.Current work ∧ ans.Suits work) :
    Concludes work r (r'.respond rp ans err) := by
  obtain ⟨new, hnew, hal⟩ := h.replies
  refine { h with replies := ⟨new ++ [⟨rp, ans, err⟩], ?_, fun a ha => ?_⟩ }
  · rw [← List.append_assoc, ← hnew]
    rfl
  rcases mem_concat.mp ha with ha | rfl
  · exact hal a ha
  cases err with
  | some => exact .inl rfl
  | none => exact .inr ⟨hre, hcur rfl⟩

lemma Concludes.respondTo (h : Concludes work r r') {err : Option Error}
    (hcur : err = none → r.Current work) : Concludes work r (r'.respondTo work.reply err) := by
  cases hre : work.reply with
  | none => exact h
  | some =>
    exact h.respond hre fun hnn => ⟨hcur hnn, suits_of_plain rfl rfl⟩

lemma Concludes.enqueue (h : Concludes work r r') (hw : Follows work w) :
    Concludes work r (r'.enqueue w) := by
  refine { h with works := fun w' hw' => ?_ }
  rcases mem_concat.mp hw' with hw' | rfl
  · exact h.works w' hw'
  · exact .inr (.inl hw)

lemma concludes_doneReply {rp : ReplyID} {res : Except Error Value}
    {read : Value → Except Error Answer} (hre : work.reply = some rp)
    (hcur : ∀ val ans, res = .ok val → read val = .ok ans → r.Current work ∧ ans.Suits work) :
    Concludes work r (r.doneReply rp res read) := by
  unfold doneReply
  split
  · rename_i ans hok
    cases res with
    | ok val => exact concludes_refl.respond hre fun _ => hcur val ans rfl hok
    | error => cases hok
  · exact concludes_refl.respond hre fun h => by cases h

/-! ### Answers -/

variable {val : Value}

lemma inspectionAnswer_ok {call : InspectionCall}
    (h : inspectionAnswer call val = .ok ans) : ans.traced = false := by
  unfold inspectionAnswer at h
  split at h <;> cases h <;> rfl

lemma memoryAnswer_ok (h : memoryAnswer val = .ok ans) : ans.traced = false := by
  unfold memoryAnswer at h
  split at h <;> cases h
  rfl

lemma disassemblyAnswer_ok (h : disassemblyAnswer val = .ok ans) : ans.traced = false := by
  unfold disassemblyAnswer at h
  split at h <;> cases h
  rfl

lemma executionAnswer_ok (h : executionAnswer val = .ok ans) :
    ans.inspected = false ∧ ans.traced = false := by
  unfold executionAnswer at h
  split at h
  · split at h <;> cases h
    exact ⟨rfl, rfl⟩
  · cases h

lemma breakpointAnswer_ok (h : breakpointAnswer val = .ok ans) :
    ans.inspected = false ∧ ans.traced = false := by
  unfold breakpointAnswer at h
  split at h <;> cases h
  exact ⟨rfl, rfl⟩

lemma suits_of_bound {ep : UInt64} (hbou : work.boundTo = some ep)
    (htr : ans.traced = false) : ans.Suits work :=
  ⟨fun _ => by simp [hbou], fun h => by simp [htr] at h⟩

lemma current_of_bound {ep : UInt64} (hbou : work.boundTo = some ep)
    (hio : work.isolated = false) (hsm : r.sameStoppedEpoch ep = true) : r.Current work := by
  refine ⟨fun ep' h => ?_, ?_⟩
  · rw [hbou] at h
    exact some.inj h ▸ hsm
  · rintro ow ep req gen rp rfl
    cases hio

/-! ### Samples -/

lemma maybeSchedule_cases (r : Runtime) (snap : Session.Snapshot) (imm : Bool) :
    r.maybeScheduleBreakpointCleanup snap imm = r ∨
      ∃ natural forced scheduled ep, r.maybeScheduleBreakpointCleanup snap imm =
        { r with cleanupNaturalEpoch := natural, cleanupImmediateEpoch := forced,
                 scheduled := scheduled }.enqueue (.breakpointCleanup ep) := by
  unfold maybeScheduleBreakpointCleanup
  split_ifs
  · exact .inl rfl
  · exact .inl rfl
  · exact .inr ⟨_, _, _, _, rfl⟩
  · exact .inl rfl
  · exact .inr ⟨_, _, _, _, rfl⟩

lemma concludes_maybeSchedule (h : Concludes work r r') (snap : Session.Snapshot) (imm : Bool) :
    Concludes work r (r'.maybeScheduleBreakpointCleanup snap imm) := by
  rcases maybeSchedule_cases r' snap imm with heq | ⟨_, _, _, ep, heq⟩ <;> rw [heq]
  · exact h
  · have henq := h.enqueue (.cleanup work ep)
    exact { henq with }

lemma concludes_doneTrace (started : Bool) (ow : ControllerID) (ep : Nat)
    (req : TraceRequest) (g : Nat) (rp : ReplyID) (val : Value) (bad : TraceResult) :
    Concludes (.trace ow ep req g rp) r (r.doneTrace started ow ep req rp (.ok val) bad) := by
  by_cases hcur : r.traceOwnerCurrent ow ep = true
  · have hsuc : r.Current (.trace ow ep req g rp) :=
      ⟨by rintro _ ⟨⟩, by rintro _ _ _ _ _ ⟨⟩; exact hcur⟩
    simp only [doneTrace, hcur, Bool.not_true, Bool.false_eq_true, if_false]
    split_ifs
    · exact concludes_refl.respond rfl fun h => by cases h
    split
    · exact concludes_refl.respond rfl fun _ => ⟨hsuc, by rintro ⟨⟩, fun _ => rfl⟩
    · have hla (tracing : Tracing) :
          Concludes (.trace ow ep req g rp) r { r with tracing } :=
        { concludes_refl (r := r) with }
      exact (hla _).respond rfl fun h => by cases h
    · exact concludes_refl.respond rfl fun h => by cases h
  · simp only [doneTrace, hcur, Bool.not_false, if_true]
    exact concludes_refl.respond rfl fun h => by cases h

section callbacks

variable {fail : Fail} (hfail : ∀ who r op err, Quiet who r (fail r op err))

include hfail

lemma concludes_observe (ev : StateEvidence) : Concludes work r (r.observe fail ev).1 := by
  have hfe : Concludes work r { r with models := (r.fed ev).models } :=
    { concludes_refl (r := r) with
      lease := fed_leaseOwner ev }
  unfold observe
  dsimp only
  split
  · split_ifs
    · exact hfe
    · exact hfe.silent fun who => hfail who _ _ _
  · rw [actions_eq]
    exact { hfe with }
  · split_ifs
    · exact hfe
    · exact hfe.silent fun who => hfail who _ _ _
  rw [absorb_eq]
  refine concludes_maybeSchedule ?_ _ _
  exact { hfe with }

lemma concludes_sample (res : Except Error Value) : Concludes work r (r.sample fail res).1 := by
  unfold sample
  split
  · exact concludes_refl
  · rename_i ev
    have hob : Concludes work r (r.observe fail ev).1 := concludes_observe hfail ev
    split
    · rename_i r₁ err heq
      rw [heq] at hob
      dsimp only
      split_ifs
      · exact hob.silent fun who => hfail who _ _ _
      · exact hob
    rename_i r₁ heq
    rw [heq] at hob
    exact hob
  · exact concludes_refl

lemma concludes_failed (h : Concludes work r r') {rp : Option ReplyID}
    (hboo : work.bootstraps = true) (hre : work.reply = rp) (op : Operation)
    (err : Error) : Concludes work r (r'.bootstrapFailed fail op rp err) := by
  refine h.quiet fun who hwho => ?_
  obtain rfl : who = rp := (hwho hboo).trans hre
  exact quiet_bootstrapFailed hfail op who err

lemma concludes_doneState (rp : Option ReplyID) (res : Except Error Value) :
    Concludes (.state rp) r (r.doneState fail rp res) := by
  have hsam : Concludes (.state rp) r (r.sample fail res).1 :=
    concludes_sample hfail res
  unfold doneState
  generalize r.sample fail res = sampled at hsam ⊢
  obtain ⟨r', err⟩ := sampled
  have hope : Concludes (.state rp) r { r' with opening := false, opened := true } :=
    { hsam with opening := fun h => (by cases h), opened := fun _ => rfl }
  dsimp only at hsam ⊢
  split_ifs
  · split
    · exact concludes_failed hfail hsam rfl rfl _ _
    · exact hope.respondTo fun _ => current_of_plain rfl rfl
  · exact hsam.respondTo fun _ => current_of_plain rfl rfl

/-- Only an operation that has succeeded, and is current, is reported as a success. -/
theorem concludes_doneWith (work : Work) (val : Value) (bootstrapErr : Option Error) :
    Concludes work r (r.doneWith fail work (.ok val) bootstrapErr) := by
  cases work with
  | «open» rp =>
    have hope : Concludes (.open rp) r { r with openSucceeded := true } :=
      { concludes_refl (r := r) with confirmed := fun _ => ⟨.inr ⟨rp, rfl⟩, rfl⟩ }
    cases bootstrapErr with
    | some => exact concludes_failed hfail hope rfl rfl _ _
    | none => exact hope.enqueue (.cores rp)
  | cores rp =>
    simp only [doneWith, doneCores]
    split
    · exact concludes_failed hfail concludes_refl rfl rfl _ _
    · split
      · exact concludes_failed hfail concludes_refl rfl rfl _ _
      · exact concludes_failed hfail concludes_refl rfl rfl _ _
      · exact concludes_failed hfail concludes_refl rfl rfl _ _
      · have henq := (concludes_refl (r := r)).enqueue (.state rp)
        exact { henq with }
    · exact concludes_failed hfail concludes_refl rfl rfl _ _
  | state rp => exact concludes_doneState hfail rp _
  | console tgts =>
    simp only [doneWith, doneConsole]
    split
    · split_ifs
      · exact { concludes_refl (r := r) with }
      · exact concludes_refl
    have hdis : Concludes (.console tgts) r
        { r with console := { r.console with disabled := true } } :=
      { concludes_refl (r := r) with }
    exact hdis.silent fun _ => quiet_noteConsoleFailure tgts
  | resetConsole rp =>
    have hres : Concludes (.resetConsole rp) r { r with console := {} } :=
      { concludes_refl (r := r) with }
    exact hres.respond rfl fun _ => ⟨current_of_plain rfl rfl, suits_of_plain rfl rfl⟩
  | breakpointCleanup => exact concludes_refl
  | inspection =>
    simp only [doneWith, doneInspection, ifCurrent]
    split
    · rename_i hsm
      exact concludes_doneReply rfl fun _ _ _ hans =>
        ⟨current_of_bound rfl rfl hsm, suits_of_bound rfl (inspectionAnswer_ok hans)⟩
    · have hdrop (who : Option ReplyID) : Quiet who r r.dropStopBound := { quiet_refl _ r with }
      exact concludes_refl.silent fun who => (hdrop who).trans quiet_doneReply
  | readMemory =>
    simp only [doneWith, ifCurrent]
    split
    · rename_i hsm
      exact concludes_doneReply rfl fun _ _ _ hans =>
        ⟨current_of_bound rfl rfl hsm, suits_of_bound rfl (memoryAnswer_ok hans)⟩
    · exact concludes_refl.silent fun _ => quiet_doneReply
  | disassemble =>
    simp only [doneWith, ifCurrent]
    split
    · rename_i hsm
      exact concludes_doneReply rfl fun _ _ _ hans =>
        ⟨current_of_bound rfl rfl hsm, suits_of_bound rfl (disassemblyAnswer_ok hans)⟩
    · exact concludes_refl.silent fun _ => quiet_doneReply
  | rollbackClose op rp bootstrapErr =>
    exact concludes_refl.silent fun _ =>
      quiet_doneRollbackClose hfail op rp bootstrapErr (.ok val)
  | trace => exact concludes_doneTrace false _ _ _ _ _ _ _
  | singleCoreExecution =>
    simp only [doneWith]
    refine concludes_doneReply rfl fun _ ans _ hans => ?_
    cases hans
    exact ⟨current_of_plain rfl rfl, suits_of_plain rfl rfl⟩
  | executionDomain =>
    exact concludes_doneReply rfl fun _ _ _ hans => ⟨current_of_plain rfl rfl,
      suits_of_plain (executionAnswer_ok hans).1 (executionAnswer_ok hans).2⟩
  | breakpoints | sourceResolution =>
    exact concludes_doneReply rfl fun _ _ _ hans => ⟨current_of_plain rfl rfl,
      suits_of_plain (breakpointAnswer_ok hans).1 (breakpointAnswer_ok hans).2⟩

end callbacks

/-! ### Completions -/

lemma concludes_done (val : Value) (b : Option Error) :
    Concludes work r (r.done work (.ok val) b) :=
  concludes_doneWith (fun _ _ op err => quiet_failClosed op err) work val b

/-- A completion that hands over a success. The generation of a confirmed open is noted before its
callback runs. -/
theorem concludes_completeWork {c : Completion} (rest : List Completion) {fl : Inflight}
    (b : Option Error) (hin : r.inflight = some fl) (hok : r.handed c = some (.ok val)) :
    ∃ g, Concludes fl.work { r with complete := rest, inflight := none, openGeneration := g }
        ({ r with complete := rest }.completeWork c b) ∧
      ((∃ rp, fl.work = .open rp) ∧ g = fl.generation ∧ r.judge fl c = .finished ∨
        g = r.openGeneration ∧ ((∃ rp, fl.work = .open rp) → r.judge fl c = .unsubmitted)) := by
  simp only [handed, hin, bind_some] at hok
  rw [completeWork_eq hin]
  cases hv : r.judge fl c with
  | ignored | admitted | stale | isolatedStale => simp [hv] at hok
  | unsubmitted =>
    simp only [hv, some.injEq] at hok
    rw [hok]
    exact ⟨_, concludes_done val b, .inr ⟨rfl, fun _ => rfl⟩⟩
  | finished =>
    simp only [hv, some.injEq] at hok
    dsimp only
    rw [hok]
    by_cases hop : ∃ rp, fl.work = .open rp
    · obtain ⟨rp, hop⟩ := hop
      refine ⟨fl.generation, ?_, .inl ⟨⟨rp, hop⟩, rfl, rfl⟩⟩
      have heq : { r with complete := rest, inflight := none }.finish fl (.ok val) b =
          { r with complete := rest, inflight := none,
                   openGeneration := fl.generation }.done fl.work (.ok val) b := by
        simp only [finish, hop]
      rw [heq]
      exact concludes_done val b
    · rw [finish_ok val b (by simpa using hop)]
      exact ⟨_, concludes_done val b, .inr ⟨rfl, fun h => absurd h hop⟩⟩
  | isolated =>
    simp only [hv, some.injEq] at hok
    obtain ⟨hio, -⟩ := judge_isolated (.inl hv)
    dsimp only
    rw [hok]
    cases hwk : fl.work with
    | trace ow ep req g rp =>
      refine ⟨_, concludes_doneTrace true ow ep req g rp val c.failed, .inr ⟨rfl, ?_⟩⟩
      rintro ⟨_, ⟨⟩⟩
    | _ => simp [hwk, Work.isolated] at hio

end Runtime

end MultiDap.Actor
