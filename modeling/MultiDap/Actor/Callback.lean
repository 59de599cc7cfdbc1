import MultiDap.Actor.Replies

/-!
# Operations that are turned down

An operation ends in its callback, and most of the ways to end it are failures: it is refused before
it is submitted, its completion is stale, or the session fails closed while it is queued. In all of
them the models stay as they are, nobody is told of a success, and the only operation that is queued
in turn is the rollback of a cold bootstrap.
-/

namespace MultiDap.Actor

open Machine Inspection Stop Session Relation

def Work.bootstraps : Work → Bool
  | .open _ => true
  | .cores _ => true
  | .state _ => true
  | _ => false

namespace Runtime

variable {r r' r'' : Runtime} {who : Option ReplyID}

/-- The rollback that a failed bootstrap queues: the open was confirmed, on the generation that the
executor still has. It answers the caller of the bootstrap. -/
def RollsBack (who : Option ReplyID) (r : Runtime) (work : Work) : Prop :=
  (∃ operation err, work = .rollbackClose operation who err r.openGeneration) ∧
    r.opening = true ∧ r.faulted = false ∧ r.openSucceeded = true ∧ r.opts.openMode = .cold ∧
    r.openGeneration ≠ 0 ∧ r.executor.generation = r.openGeneration

/-- What only the loop of the actor and the other goroutines change. -/
structure Surroundings where
  opts : Options
  inflight : Option Inflight
  nextToken : Nat
  dispatchers : List Dispatcher
  jobs : List Job
  worker : Option Running
  complete : List Completion

def surroundings (r : Runtime) : Surroundings where
  opts := r.opts
  inflight := r.inflight
  nextToken := r.nextToken
  dispatchers := r.dispatchers
  jobs := r.jobs
  worker := r.worker
  complete := r.complete

structure Quiet (who : Option ReplyID) (r r' : Runtime) : Prop where
  around : r'.surroundings = r.surroundings
  models : r'.models = r.models
  controlGeneration : r'.controlGeneration = r.controlGeneration
  executor : r'.executor = r.executor
  faulted : r.faulted = true → r'.faulted = true
  opened : r'.opened = r.opened
  opening : r'.opening = true → r.opening = true
  confirmed : r'.openSucceeded = true →
    r.openSucceeded = true ∧ r'.openGeneration = r.openGeneration
  works : ∀ work ∈ r'.pending, work ∈ r.pending ∨ RollsBack who r work
  replies : ∃ new, r'.replies = r.replies ++ new ∧ ∀ a ∈ new, a.err.isSome = true

lemma Quiet.opts (h : Quiet who r r') : r'.opts = r.opts := congrArg Surroundings.opts h.around

lemma quiet_refl (who : Option ReplyID) (r : Runtime) : Quiet who r r where
  around := rfl
  models := rfl
  controlGeneration := rfl
  executor := rfl
  faulted := id
  opened := rfl
  opening := id
  confirmed := fun h => ⟨h, rfl⟩
  works := fun _ hw => .inl hw
  replies := ⟨[], by simp, by simp⟩

lemma Quiet.rollsBack (h : Quiet who r r') {work : Work} (hw : RollsBack who r' work) :
    RollsBack who r work := by
  obtain ⟨hwk, hop, hlive, hope, hcold, hne, hge⟩ := hw
  obtain ⟨hope, hgene⟩ := h.confirmed hope
  rw [hgene] at hwk hne hge
  rw [h.opts] at hcold
  rw [h.executor] at hge
  refine ⟨hwk, h.opening hop, ?_, hope, hcold, hne, hge⟩
  exact Bool.eq_false_iff.mpr fun hf => by simp [h.faulted hf] at hlive

lemma Quiet.trans (h : Quiet who r r') (h' : Quiet who r' r'') : Quiet who r r'' where
  around := h'.around.trans h.around
  models := h'.models.trans h.models
  controlGeneration := h'.controlGeneration.trans h.controlGeneration
  executor := h'.executor.trans h.executor
  faulted := fun hf => h'.faulted (h.faulted hf)
  opened := h'.opened.trans h.opened
  opening := fun ho => h.opening (h'.opening ho)
  confirmed := fun ho => by
    obtain ⟨ho', hg'⟩ := h'.confirmed ho
    obtain ⟨ho, hg⟩ := h.confirmed ho'
    exact ⟨ho, hg'.trans hg⟩
  works := fun work hw => by
    rcases h'.works work hw with hw | hw
    · exact h.works work hw
    · exact .inr (h.rollsBack hw)
  replies := by
    obtain ⟨new, hnew, hal⟩ := h.replies
    obtain ⟨new', hnw', hal'⟩ := h'.replies
    refine ⟨new ++ new', by rw [hnw', hnew, List.append_assoc], fun a ha => ?_⟩
    exact (List.mem_append.mp ha).elim (hal a) (hal' a)

lemma Quiet.mem_pending (h : ∀ who, Quiet who r r') {work : Work} (hw : work ∈ r'.pending) :
    work ∈ r.pending := by
  rcases (h none).works work hw with hw | ⟨⟨op, err, heq⟩, -⟩
  · exact hw
  rcases (h (some 0)).works work hw with hw | ⟨⟨op', err', heq'⟩, -⟩
  · exact hw
  · rw [heq] at heq'
    cases heq'

lemma quiet_respond {rp : ReplyID} {ans : Answer} {err : Option Error}
    (h : err.isSome = true) : Quiet who r (r.respond rp ans err) :=
  { quiet_refl who r with replies := ⟨[⟨rp, ans, err⟩], rfl, by simpa using h⟩ }

lemma quiet_respondTo {rp : Option ReplyID} {err : Option Error} (h : err.isSome = true) :
    Quiet who r (r.respondTo rp err) := by
  cases rp with
  | none => exact quiet_refl _ _
  | some => exact quiet_respond h

lemma quiet_abandon : Quiet who r { r with opening := false } :=
  { quiet_refl who r with opening := fun h => by cases h }

lemma quiet_publish (evt : Event) : Quiet who r (r.publish evt) := { quiet_refl who r with }

/-! ### Callbacks -/

lemma quiet_doneReply {rp : ReplyID} {err : Error} {read : Value → Except Error Answer} :
    Quiet who r (r.doneReply rp (.error err) read) := by
  unfold doneReply
  exact quiet_respond rfl

lemma quiet_noteConsoleFailure (tgts : List (Nat × Nat)) :
    Quiet who r (r.noteConsoleFailure tgts) := by
  unfold noteConsoleFailure
  split_ifs <;> exact { quiet_refl who r with }

lemma quiet_doneTrace (started : Bool) (ow : ControllerID) (ep : Nat)
    (req : TraceRequest) (rp : ReplyID) (err : Error) (bad : TraceResult) :
    Quiet who r (r.doneTrace started ow ep req rp (.error err) bad) := by
  simp only [doneTrace]
  split
  · exact quiet_respond rfl
  have hla : Quiet who r (if started then { r with tracing := r.traceLatch ow err } else r) := by
    split_ifs
    · exact { quiet_refl who r with }
    · exact quiet_refl _ _
  refine hla.trans ?_
  generalize (if started then { r with tracing := r.traceLatch ow err } else r) = r₁
  split <;> exact quiet_respond rfl

section callbacks

variable {fail : Fail} (hfail : ∀ who r op err, Quiet who r (fail r op err))

include hfail

lemma quiet_bootstrapFailed (op : Operation) (rp : Option ReplyID) (err : Error) :
    Quiet rp r (r.bootstrapFailed fail op rp err) := by
  unfold bootstrapFailed
  split_ifs with hsto hcold hge
  · exact quiet_abandon.trans (quiet_respondTo rfl)
  · exact (quiet_abandon.trans (hfail _ _ _ _)).trans (quiet_respondTo rfl)
  · -- the open is confirmed, so that there is something to roll back
    simp only [Bool.or_eq_true, Bool.not_eq_true', not_or, Bool.not_eq_false,
      Bool.not_eq_true] at hsto
    simp only [Bool.and_eq_true, beq_iff_eq] at hcold
    simp only [not_or, not_not] at hge
    refine { quiet_refl rp r with works := fun work hw => ?_ }
    rcases mem_concat.mp hw with hw | rfl
    · exact .inl hw
    · exact .inr ⟨⟨op, err, rfl⟩, hsto.1, hsto.2, hcold.1, hcold.2, hge.1, hge.2⟩
  · exact (quiet_abandon.trans (hfail _ _ _ _)).trans (quiet_respondTo rfl)

lemma quiet_doneRollbackClose (op : Operation) (rp : Option ReplyID) (err : Error)
    (res : Except Error Value) : Quiet who r (r.doneRollbackClose fail op rp err res) := by
  have hover : Quiet who r
      { r with opening := false, openSucceeded := false, openGeneration := 0 } :=
    { quiet_refl who r with
      opening := fun h => by cases h
      confirmed := fun h => by cases h }
  unfold doneRollbackClose
  split <;> exact (hover.trans (hfail _ _ _ _)).trans (quiet_respondTo rfl)

/-- The callback of an operation that failed. -/
theorem quiet_doneWith (work : Work) (err : Error) (b : Option Error)
    (hwho : work.bootstraps = true → who = work.reply) :
    Quiet who r (r.doneWith fail work (.error err) b) := by
  cases work with
  | «open» rp => exact quiet_abandon.trans (quiet_respond rfl)
  | cores =>
    obtain rfl := hwho rfl
    exact quiet_bootstrapFailed hfail _ _ _
  | state rp =>
    obtain rfl : who = rp := hwho rfl
    show Quiet who r (if r.opening = true then r.bootstrapFailed fail .state who err
      else r.respondTo who (some err))
    split_ifs
    · exact quiet_bootstrapFailed hfail _ _ _
    · exact quiet_respondTo rfl
  | console tgts =>
    have hdis : Quiet who r { r with console := { r.console with disabled := true } } :=
      { quiet_refl who r with }
    exact hdis.trans (quiet_noteConsoleFailure tgts)
  | resetConsole => exact quiet_respond rfl
  | breakpointCleanup => exact quiet_refl _ _
  | inspection =>
    simp only [doneWith, doneInspection, ifCurrent]
    split
    · exact quiet_doneReply
    · have hdrop : Quiet who r r.dropStopBound := { quiet_refl who r with }
      exact hdrop.trans quiet_doneReply
  | readMemory | disassemble =>
    simp only [doneWith, ifCurrent]
    split <;> exact quiet_doneReply
  | rollbackClose op rp bootstrapErr =>
    exact quiet_doneRollbackClose hfail op rp bootstrapErr (.error err)
  | trace => exact quiet_doneTrace _ _ _ _ _ _ _
  | _ =>
    simp only [doneWith]
    exact quiet_doneReply

end callbacks

/-! ### Failing closed and the queue -/

lemma Quiet.of_faulted {who' : Option ReplyID} (h : Quiet who' r r') (hf : r.faulted = true) :
    Quiet who r r' :=
  { h with
    works := fun work hw => by
      rcases h.works work hw with hw | ⟨-, -, hlive, -⟩
      · exact .inl hw
      · simp [hf] at hlive }

lemma quiet_drain (works : List Work) (hf : r.faulted = true) :
    Quiet who r (works.foldl drainOne r) := by
  induction works generalizing r with
  | nil => exact quiet_refl _ _
  | cons work _ ih =>
    have hone : Quiet work.reply r (r.drainOne work) :=
      quiet_doneWith (fun _ _ _ _ => quiet_refl _ _) work _ none fun _ => rfl
    exact (hone.of_faulted hf).trans (ih (hone.faulted hf))

theorem quiet_failClosed (op : Operation) (cause : Error) :
    Quiet who r (r.failClosed op cause) := by
  have hfa : Quiet who r (r.fault op cause) :=
    { quiet_refl who r with
      faulted := fun _ => rfl
      works := fun work hw => by cases hw }
  unfold failClosed
  split_ifs
  · exact quiet_refl _ _
  dsimp only
  have hdra := hfa.trans (quiet_drain r.pending rfl)
  split_ifs
  · exact hdra
  · exact hdra.trans (quiet_publish _)

lemma quiet_done (work : Work) (err : Error) (b : Option Error)
    (hwho : work.bootstraps = true → who = work.reply) : Quiet who r (r.done work (.error err) b) :=
  quiet_doneWith (fun _ _ op err => quiet_failClosed op err) work err b hwho

lemma bootstraps_refused {work : Work} {err : Error} (h : (r.refusal work).2 = some err) :
    work.bootstraps = false := by
  cases work with
  | «open» | cores | state => cases h
  | _ => rfl

/-- `startNext` refuses some of the operations that are queued, and starts at most one. -/
theorem startNext_spec (r : Runtime) : ∃ r₁, (∀ who, Quiet who r r₁) ∧ (r.startNext = r₁ ∨
    ∃ work rest, r₁.pending = work :: rest ∧ r₁.inflight = none ∧ r₁.faulted = false ∧
      ({ r₁ with pending := rest }.refusal work).2 = none ∧ r.startNext = { r₁ with
        pending := rest
        tracing := ({ r₁ with pending := rest }.refusal work).1 }.launch work) := by
  have hloop (fuel : Nat) (r : Runtime) : ∃ r₁, (∀ who, Quiet who r r₁) ∧
    (startNextLoop fuel r = r₁ ∨
      ∃ work rest, r₁.pending = work :: rest ∧ r₁.inflight = none ∧ r₁.faulted = false ∧
        ({ r₁ with pending := rest }.refusal work).2 = none ∧
        startNextLoop fuel r = { r₁ with
          pending := rest
          tracing := ({ r₁ with pending := rest }.refusal work).1 }.launch work) := by
    induction fuel generalizing r with
    | zero => exact ⟨r, fun _ => quiet_refl _ _, .inl rfl⟩
    | succ _ ih =>
      unfold startNextLoop
      split_ifs with hbz
      · exact ⟨r, fun _ => quiet_refl _ _, .inl rfl⟩
      split
      · exact ⟨r, fun _ => quiet_refl _ _, .inl rfl⟩
      rename_i work rest hp
      simp only [Bool.or_eq_true, not_or, Bool.not_eq_true, Option.isSome_eq_false_iff,
        Option.isNone_iff_eq_none] at hbz
      dsimp only
      split
      · -- the next operation is tried in the state that the refusal leaves
        rename_i err hrr
        have hpop (who : Option ReplyID) : Quiet who r { r with
            pending := rest, tracing := ({ r with pending := rest }.refusal work).1 } :=
          { quiet_refl who r with
            works := fun w hw => .inl (hp ▸ List.mem_cons_of_mem work hw) }
        obtain ⟨r₁, hqu, hen⟩ := ih ({ r with
          pending := rest
          tracing := ({ r with pending := rest }.refusal work).1 }.done work (.error err) none)
        have hwho (who : Option ReplyID) (h : work.bootstraps = true) : who = work.reply := by
          simp [bootstraps_refused hrr] at h
        exact ⟨r₁, fun who =>
          ((hpop who).trans (quiet_done work err none (hwho who))).trans (hqu who), hen⟩
      · rename_i hnn
        exact ⟨r, fun _ => quiet_refl _ _, .inr ⟨work, rest, hp, hbz.1.1, hbz.2, hnn, rfl⟩⟩
  exact hloop _ r

lemma startNext_quiet (r : Runtime) : r.startNext.models = r.models ∧
    r.startNext.controlGeneration = r.controlGeneration ∧ r.startNext.executor = r.executor ∧
    ∃ new, r.startNext.replies = r.replies ++ new ∧ ∀ a ∈ new, a.err.isSome = true := by
  obtain ⟨r₁, hal, heq | ⟨work, rest, -, -, -, -, heq⟩⟩ := startNext_spec r <;> rw [heq]
  · exact ⟨(hal none).models, (hal none).controlGeneration, (hal none).executor, (hal none).replies⟩
  · exact ⟨(hal none).models, (hal none).controlGeneration, (hal none).executor, (hal none).replies⟩

end Runtime

end MultiDap.Actor
