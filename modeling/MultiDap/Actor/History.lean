import MultiDap.Actor.Acceptance

/-!
# Where an operation comes from

What a step adds, and from it the history of a run: every operation that is bound to a stop or to
the lease was accepted by a command, it was started in a step that found it current, and whoever is
told of a success is told by a command, or by the completion of such an operation.
-/

namespace MultiDap.Actor

open Machine List Option

/-- The operation is bound to a stop or to the lease. -/
def Work.Fenced (w : Work) : Prop := ¬ (w.boundTo = none ∧ w.isolated = false)

namespace Runtime

variable {r r' : Runtime} {i : Input}

/-- Who is told of a success, and by what. -/
def Grants (i : Input) (r : Runtime) (a : Reply) : Prop :=
  (∃ command, i = .command command ∧ command.reply = some a.reply ∧ a.answer.free = true) ∨
    ∃ b c rest inflight value, i = .completion b ∧ r.complete = c :: rest ∧
      r.inflight = some inflight ∧ r.handed c = some (.ok value) ∧
      inflight.work.reply = some a.reply ∧ r.Current inflight.work ∧ a.answer.Suits inflight.work

/-- The open that a rollback undoes is the one of this generation. -/
def Undoes (r : Runtime) (inflight : Inflight) (c : Completion) (g : Nat) : Prop :=
  (g = r.openGeneration ∧ r.openSucceeded = true) ∨
    ∃ reply value, inflight.work = .open reply ∧ r.handed c = some (.ok value) ∧
      (g = inflight.generation ∧ r.judge inflight c = .finished ∨ r.judge inflight c = .unsubmitted)

inductive Gives (i : Input) (r : Runtime) : Work → Prop where
  | accepted (w : Work) (command : Command) (hi : i = .command command)
      (h : r.Accepts command w) : Gives i r w
  | tick (w : Work) (hw : w.Unbound) (hope : r.opened = true) : Gives i r w
  | follows (w : Work) (inflight : Inflight) (hin : r.inflight = some inflight)
      (h : Follows inflight.work w) : Gives i r w
  | rollsBack (b : Option Error) (c : Completion) (rest : List Completion) (inflight : Inflight)
      (operation : Operation) (err : Error) (g : Nat) (hi : i = .completion b)
      (hc : r.complete = c :: rest) (hin : r.inflight = some inflight)
      (hboo : inflight.work.bootstraps = true) (hopeni : r.opening = true)
      (hlive : r.faulted = false) (hcold : r.opts.openMode = .cold) (hne : g ≠ 0)
      (hge : r.executor.generation = g) (hund : r.Undoes inflight c g) :
      Gives i r (.rollbackClose operation inflight.work.reply err g)

lemma Gives.fenced {w : Work} (h : Gives i r w) (hw : w.Fenced) :
    ∃ cmd, i = .command cmd ∧ r.Accepts cmd w := by
  cases h with
  | accepted _ cmd hi h => exact ⟨cmd, hi, h⟩
  | tick _ hunb => exact absurd ⟨hunb.1, hunb.2.1⟩ hw
  | follows _ _ _ h => exact absurd ⟨h.unbound.1, h.unbound.2.1⟩ hw
  | rollsBack => exact absurd ⟨rfl, rfl⟩ hw

/-- How the bootstrap may go on. Nothing is ever taken back but a confirmed open, and an open that
succeeds is noted with the generation of the executor. -/
structure Boots (i : Input) (r r' : Runtime) : Prop where
  opts : r'.opts = r.opts
  executor : r'.executor.generation = r.executor.generation ∨ r'.executor.closed = true ∨
    i = .replace
  closed : r.executor.closed = true → r'.executor.closed = true
  faulted : r.faulted = true → r'.faulted = true
  opened : r.opened = true → r'.opened = true
  confirmed : r'.openSucceeded = true →
    (r.openSucceeded = true ∧ r'.openGeneration = r.openGeneration) ∨
      ∃ b c rest inflight reply value, i = .completion b ∧ r.complete = c :: rest ∧
        r.inflight = some inflight ∧ inflight.work = .open reply ∧ r.handed c = some (.ok value) ∧
        (r'.openGeneration = inflight.generation ∧ r.judge inflight c = .finished ∨
          r.judge inflight c = .unsubmitted)

/-- A rollback that is in flight stays there until the session fails closed. -/
def RollsOn (r r' : Runtime) : Prop :=
  ∀ inflight, r.inflight = some inflight → inflight.work.kind = .rollbackClose →
    r'.faulted = true ∨ ∃ after, r'.inflight = some after ∧ after.token = inflight.token ∧
      after.work = inflight.work

lemma rollsOn_of_inflight (h : r'.inflight = r.inflight) : r.RollsOn r' :=
  fun fl hin _ => .inr ⟨fl, h.trans hin, rfl, rfl⟩

/-- What the actor does in a turn, before it starts the next operation. -/
structure Handled (i : Input) (r r' : Runtime) : Prop extends Boots i r r' where
  nextToken : r'.nextToken = r.nextToken
  dispatchers : r'.dispatchers = r.dispatchers
  accepted : r'.accepted = r.accepted
  inflight : ∀ inflight, r'.inflight = some inflight →
    ∃ before, r.inflight = some before ∧ before.token = inflight.token ∧ before.work = inflight.work
  rolls : r.RollsOn r'
  lease : r.LeaseCounted r'
  works : ∀ w ∈ r'.pending, w ∈ r.pending ∨ Gives i r w
  replies : ∃ new, r'.replies = r.replies ++ new ∧ ∀ a ∈ new, a.err = none → Grants i r a

structure Advances (i : Input) (r r' : Runtime) : Prop extends Boots i r r' where
  nextToken : r.nextToken ≤ r'.nextToken
  rolls : r.RollsOn r'
  lease : r.LeaseCounted r'
  works : ∀ w ∈ r'.outstanding, w ∈ r.outstanding ∨ Gives i r w
  /-- What is started is current. -/
  started : ∀ inflight, r'.inflight = some inflight →
    (∃ before, r.inflight = some before ∧ before.token = inflight.token ∧
      before.work = inflight.work) ∨
    r.nextToken < inflight.token ∧ r'.Current inflight.work ∧ r'.faulted = false
  dispatchers : ∀ d ∈ r'.dispatchers,
    (∃ d₀ ∈ r.dispatchers, d₀.token = d.token ∧ d₀.work = d.work) ∨
      r.nextToken < d.token ∧ ∃ inflight, r'.inflight = some inflight ∧
        inflight.token = d.token ∧ inflight.work = d.work
  accepted : ∀ job ∈ r'.accepted, job ∈ r.accepted ∨
    ∃ d ∈ r.dispatchers, d.token = job.token ∧ d.work = job.work
  replies : ∃ new, r'.replies = r.replies ++ new ∧ ∀ a ∈ new, a.err = none → Grants i r a

lemma boots_refl : Boots i r r where
  opts := rfl
  executor := .inl rfl
  closed := id
  faulted := id
  opened := id
  confirmed := fun h => .inl ⟨h, rfl⟩

variable {r₁ : Runtime} {who : Option ReplyID}

lemma Boots.quiet (h : Boots i r r₁) (hq : Quiet who r₁ r') : Boots i r r' where
  opts := hq.opts.trans h.opts
  executor := hq.executor ▸ h.executor
  closed := hq.executor ▸ h.closed
  faulted := fun hf => hq.faulted (h.faulted hf)
  opened := fun ho => hq.opened.trans (h.opened ho)
  confirmed := fun ho => by
    obtain ⟨ho, hge⟩ := hq.confirmed ho
    rw [hge]
    exact h.confirmed ho

lemma accepted_of_around (h : r'.surroundings = r.surroundings) :
    r'.nextToken = r.nextToken ∧ r'.dispatchers = r.dispatchers ∧ r'.accepted = r.accepted ∧
      r'.inflight = r.inflight := by
  have hjobs := congrArg Surroundings.jobs h
  have hwo := congrArg Surroundings.worker h
  simp only [surroundings] at hjobs hwo
  refine ⟨congrArg Surroundings.nextToken h, congrArg Surroundings.dispatchers h, ?_,
    congrArg Surroundings.inflight h⟩
  rw [accepted, accepted, hjobs, hwo]

lemma LeaseCounted.quiet (h : r.LeaseCounted r₁) (hq : Quiet who r₁ r') : r.LeaseCounted r' := by
  rwa [LeaseCounted, hq.models, hq.controlGeneration]

lemma replies_quiet (hq : Quiet who r₁ r')
    (h : ∃ new, r₁.replies = r.replies ++ new ∧ ∀ a ∈ new, a.err = none → Grants i r a) :
    ∃ new, r'.replies = r.replies ++ new ∧ ∀ a ∈ new, a.err = none → Grants i r a := by
  obtain ⟨new, hnew, hal⟩ := h
  obtain ⟨new', hnw', herrs⟩ := hq.replies
  refine ⟨new ++ new', by rw [hnw', hnew, append_assoc], fun a ha hnn => ?_⟩
  rcases mem_append.mp ha with ha | ha
  · exact hal a ha hnn
  · simpa [hnn] using herrs a ha

lemma current_of_refusal {work : Work} (h : (r.refusal work).2 = none) : r.Current work := by
  unfold refusal at h
  split_ifs at h
  split at h
  · rename_i ow ep req g rp
    split_ifs at h with hcur
    refine ⟨fun _ he => (by cases he), ?_⟩
    rintro _ _ _ _ _ ⟨⟩
    exact hcur
  rename_i hno
  refine ⟨fun ep he => ?_, fun ow ep req g rp hw => absurd hw (hno _ _ _ _ _)⟩
  rw [he] at h
  dsimp only at h
  split_ifs at h with hsm
  exact hsm

/-- A whole turn of the actor. -/
theorem Handled.startNext (h : Handled i r r₁) : Advances i r r₁.startNext := by
  obtain ⟨r₂, hq, hen⟩ := startNext_spec r₁
  obtain ⟨hto, hdisp, hac, hin⟩ := accepted_of_around (hq none).around
  have hpen (w : Work) (hw : w ∈ r₂.pending) : w ∈ r.outstanding ∨ Gives i r w :=
    (h.works w (Quiet.mem_pending hq hw)).imp_left fun hw => mem_append_right _ hw
  have hle := h.lease.quiet (hq none)
  have hre := replies_quiet (hq none) h.replies
  have hboo := h.toBoots.quiet (hq none)
  have hrol : r.RollsOn r₂ := fun fl hi hkd =>
    (h.rolls fl hi hkd).imp (hq none).faulted fun haft => hin ▸ haft
  rcases hen with heq | ⟨work, rest, hp, hid, hlive, hnn, heq⟩ <;> rw [heq]
  · have hinf (fl : Inflight) (hi : r₂.inflight = some fl) :
        ∃ before, r.inflight = some before ∧ before.token = fl.token ∧
          before.work = fl.work := h.inflight fl (hin ▸ hi)
    refine ⟨hboo, by rw [hto, h.nextToken], hrol, hle, fun w hw => ?_,
      fun fl hi => .inl (hinf fl hi), ?_, ?_, hre⟩
    · rcases mem_append.mp hw with hw | hw
      · obtain ⟨fl, hi, rfl⟩ : ∃ fl, r₂.inflight = some fl ∧ fl.work = w := by simpa using hw
        obtain ⟨before, hb, -, hwk⟩ := hinf fl hi
        exact .inl (mem_append_left _ (by simp [hb, hwk]))
      · exact hpen w hw
    · rw [hdisp, h.dispatchers]
      exact fun d hd => .inl ⟨d, hd, rfl, rfl⟩
    · rw [hac, h.accepted]
      exact fun job hjo => .inl hjo
  · have hfr : r.nextToken < r₂.nextToken + 1 := by
      rw [hto, h.nextToken]
      exact Nat.lt_succ_self _
    refine ⟨{ hboo with }, hfr.le, fun fl hi hkd => ?_, hle,
      fun w hw => hpen w (hp ▸ hw), ?_, ?_, ?_, hre⟩
    · rcases hrol fl hi hkd with hf | ⟨after, haft, -⟩
      · simp [hlive] at hf
      · simp [hid] at haft
    · rintro _ ⟨⟩
      have hcur : r₂.Current work := current_of_refusal (r := { r₂ with pending := rest }) hnn
      exact .inr ⟨hfr, hcur, hlive⟩
    · intro d hd
      rcases mem_concat.mp hd with hd | rfl
      · rw [hdisp, h.dispatchers] at hd
        exact .inl ⟨d, hd, rfl, rfl⟩
      · exact .inr ⟨hfr, _, rfl, rfl, rfl⟩
    intro job hjo
    have hjo : job ∈ r₂.accepted := hjo
    rw [hac, h.accepted] at hjo
    exact .inl hjo

lemma handled_command (cmd : Command) : Handled (.command cmd) r (r.apply cmd) := by
  have h := commanded_apply (r := r) cmd
  obtain ⟨hto, hdisp, hac, hin⟩ := accepted_of_around h.around
  refine ⟨?_, hto, hdisp, hac, fun fl hi => ⟨fl, hin ▸ hi, rfl, rfl⟩,
    rollsOn_of_inflight hin, h.lease, ?_, ?_⟩
  · refine ⟨congrArg Surroundings.opts h.around, ?_, fun hc => ?_, fun hf => h.faulted.trans hf,
      fun ho => h.opened.trans ho, fun ho => .inl ⟨h.openSucceeded ▸ ho, h.openGeneration⟩⟩
    · rcases h.executor with h | h
      · exact .inl (by rw [h])
      · exact .inr (.inl h)
    · rcases h.executor with h | h
      · rw [h, hc]
      · exact h
  · exact fun w hw => (h.works w hw).imp_right fun hw => .accepted w cmd rfl hw
  obtain ⟨new, hnew, hal⟩ := h.replies
  refine ⟨new, hnew, fun a ha hnn => .inl ⟨cmd, rfl, ?_⟩⟩
  simpa [hnn] using hal a ha

variable {c : Completion}

lemma completeWork_rollback {fl : Inflight} {op : Operation}
    {rp : Option ReplyID} {err : Error} {g : Nat} {res : Except Error Value}
    (hin : r.inflight = some fl) (hwk : fl.work = .rollbackClose op rp err g)
    (hha : r.handed c = some res) (rest : List Completion) (b : Option Error) :
    ∃ r₁, (∀ who, Quiet who { r with complete := rest, inflight := none } r₁) ∧
      { r with complete := rest }.completeWork c b =
        r₁.doneRollbackClose failClosed op rp err res := by
  have hbri : fl.work.isolated = false := by rw [hwk]; rfl
  simp only [handed, hin, bind_some] at hha
  rw [completeWork_eq hin]
  cases hv : r.judge fl c with
  | ignored | admitted => simp [hv] at hha
  | isolated => simp [(judge_isolated (.inl hv)).1] at hbri
  | isolatedStale => simp [(judge_isolated (.inr hv)).1] at hbri
  | unsubmitted =>
    obtain rfl : c.result = res := by simpa [hv] using hha
    exact ⟨_, fun who => quiet_refl who _, by simp only [done, doneWith, hwk]⟩
  | stale =>
    obtain rfl : Except.error (.of .bridgeStaleCompletion) = res := by simpa [hv] using hha
    refine ⟨_, fun _ => quiet_failClosed fl.work.kind (.of .bridgeStaleCompletion), ?_⟩
    simp only [done, doneWith, hwk]
  | finished =>
    obtain rfl : c.result = res := by simpa [hv] using hha
    cases hresu : c.result with
    | ok val =>
      have hno (rp' : ReplyID) : fl.work ≠ .open rp' := by simp [hwk]
      refine ⟨_, fun who => quiet_refl who _, ?_⟩
      simp only [finish_ok val b hno, done, doneWith, hwk]
    | error =>
      simp only [finish_error, done, doneWith, hwk]
      split_ifs
      · exact ⟨_, fun _ => quiet_failClosed _ _, rfl⟩
      · exact ⟨_, fun who => quiet_refl who _, rfl⟩

lemma faulted_doneRollbackClose (op : Operation) (rp : Option ReplyID) (err : Error)
    (res : Except Error Value) : (r.doneRollbackClose failClosed op rp err res).faulted = true := by
  have hres (r : Runtime) (err : Option Error) (hf : r.faulted = true) :
      (r.respondTo rp err).faulted = true := by
    cases rp <;> exact hf
  unfold doneRollbackClose
  split <;> exact hres _ _ (failClosed_faulted _ _)

lemma rollsOn_completeWork (rest : List Completion) (b : Option Error) :
    r.RollsOn ({ r with complete := rest }.completeWork c b) := by
  intro fl hin hkd
  obtain ⟨op, rp, err, g, hwk⟩ : ∃ op rp err g, fl.work = .rollbackClose op rp err g := by
    cases hw : fl.work <;> simp [hw, Work.kind] at hkd
    exact ⟨_, _, _, _, rfl⟩
  cases hha : r.handed c with
  | some =>
    obtain ⟨r₁, -, heq⟩ := completeWork_rollback hin hwk hha rest b
    rw [heq]
    exact .inl (faulted_doneRollbackClose _ _ _ _)
  | none =>
    -- the message is about another operation, or says that this one was submitted
    simp only [handed, hin, bind_some] at hha
    rw [completeWork_eq hin]
    cases hv : r.judge fl c with
    | ignored => exact .inr ⟨fl, hin, rfl, rfl⟩
    | admitted => exact .inr ⟨_, rfl, rfl, rfl⟩
    | _ => simp [hv] at hha

lemma handled_completion {rest : List Completion} (hc : r.complete = c :: rest) (b : Option Error) :
    Handled (.completion b) r ({ r with complete := rest }.completeWork c b) := by
  by_cases hok : ∃ val, r.handed c = some (.ok val)
  · obtain ⟨val, hok⟩ := hok
    obtain ⟨fl, hin⟩ : ∃ fl, r.inflight = some fl := by
      cases hin : r.inflight with
      | none => simp [handed, hin] at hok
      | some fl => exact ⟨fl, rfl⟩
    obtain ⟨g, h, hg⟩ := concludes_completeWork rest b hin hok
    obtain ⟨hto, hdisp, hac, hnn⟩ := accepted_of_around h.around
    refine ⟨?_, hto, hdisp, hac, fun _ hi => ?_, rollsOn_completeWork rest b,
      .inl ⟨h.lease, h.controlGeneration⟩, ?_, ?_⟩
    · refine ⟨h.opts, .inl (by rw [h.executor]), fun hcl => by rw [h.executor, hcl],
        h.faulted, h.opened, fun ho => ?_⟩
      obtain ⟨hco, hge⟩ := h.confirmed ho
      rcases hg with ⟨⟨rp, hop⟩, hg, hv⟩ | ⟨hg, hv⟩
      · exact .inr ⟨b, c, rest, fl, rp, val, rfl, hc, hin, hop, hok, .inl ⟨hge.trans hg, hv⟩⟩
      rcases hco with ho | ⟨rp, hop⟩
      · exact .inl ⟨ho, hge.trans hg⟩
      · exact .inr ⟨b, c, rest, fl, rp, val, rfl, hc, hin, hop, hok, .inr (hv ⟨rp, hop⟩)⟩
    · rw [hnn] at hi
      cases hi
    · intro w hw
      rcases h.works w hw with hw | hw | hw
      · exact .inl hw
      · exact .inr (.follows w fl hin hw)
      obtain ⟨⟨op, err, rfl⟩, hboo, hopeni, hlive, hco, hcold, hne, hge⟩ := hw
      refine .inr (.rollsBack b c rest fl op err g rfl hc hin hboo hopeni hlive hcold hne hge ?_)
      rcases hg with ⟨⟨rp, hop⟩, hg, hv⟩ | ⟨hg, hv⟩
      · exact .inr ⟨rp, val, hop, hok, .inl ⟨hg, hv⟩⟩
      rcases hco with hope | ⟨rp, hop⟩
      · exact .inl ⟨hg, hope⟩
      · exact .inr ⟨rp, val, hop, hok, .inr (hv ⟨rp, hop⟩)⟩
    · obtain ⟨new, hnew, hal⟩ := h.replies
      refine ⟨new, hnew, fun a ha hnn => ?_⟩
      obtain hrr | hsucc := hal a ha
      · simp [hnn] at hrr
      · exact .inr ⟨b, c, rest, fl, val, rfl, hc, hin, hok, hsucc⟩
  · have hqu (who : Option ReplyID) (hwho : ∀ fl, r.inflight = some fl →
        fl.work.bootstraps = true → who = fl.work.reply) :=
      quiet_completeWork rest b (fun val hv => hok ⟨val, hv⟩) hwho
    have h := hqu (r.inflight.bind fun fl => fl.work.reply) fun fl hin _ => by simp [hin]
    obtain ⟨hto, hdisp, hac, hrem⟩ := accepted_of_around h.around
    have hboo : Boots (.completion b) r { r with complete := rest, inflight := r.remains c } :=
      { boots_refl (r := r) with }
    refine ⟨hboo.quiet h, hto, hdisp, hac, fun fl hi => ?_, rollsOn_completeWork rest b, ?_, ?_, ?_⟩
    · rw [hrem] at hi
      obtain ⟨before, hb, hi⟩ := bind_eq_some_iff.mp hi
      refine ⟨before, hb, ?_⟩
      split at hi
      · cases hi
        exact ⟨rfl, rfl⟩
      · cases hi
        exact ⟨rfl, rfl⟩
      · cases hi
    · exact .inl ⟨by rw [h.models], h.controlGeneration⟩
    · intro w hw
      by_cases hboo : ∃ fl, r.inflight = some fl ∧ fl.work.bootstraps = true
      · obtain ⟨fl, hin, hboo⟩ := hboo
        refine (h.works w hw).imp_right ?_
        rw [hin]
        rintro ⟨⟨op, err, rfl⟩, hopeni, hlive, hope, hcold, hne, hge⟩
        exact .rollsBack b c rest fl op err _ rfl hc hin hboo hopeni hlive hcold
          hne hge (.inl ⟨rfl, hope⟩)
      · refine .inl (Quiet.mem_pending (fun who => hqu who fun fl hin hb => ?_) hw)
        exact absurd ⟨fl, hin, hb⟩ hboo
    · obtain ⟨new, hnew, herrs⟩ := h.replies
      refine ⟨new, hnew, fun a ha hnn => ?_⟩
      simpa [hnn] using herrs a ha

lemma handled_refl : Handled i r r where
  toBoots := boots_refl
  rolls := rollsOn_of_inflight rfl
  nextToken := rfl
  dispatchers := rfl
  accepted := rfl
  inflight := fun fl hi => ⟨fl, hi, rfl, rfl⟩
  lease := .inl ⟨rfl, rfl⟩
  works := fun _ hw => .inl hw
  replies := ⟨[], by simp, by simp⟩

lemma Handled.enqueue (h : Handled i r r') {w : Work} (hw : w.Unbound) (hope : r.opened = true) :
    Handled i r (r'.enqueue w) := by
  refine { h with works := fun w' hw' => ?_ }
  rcases mem_concat.mp hw' with hw' | rfl
  · exact h.works w' hw'
  · exact .inr (.tick w' hw hope)

lemma handled_stateTick : Handled i r r.stateTick := by
  unfold stateTick
  split_ifs with hra
  · simp only [Bool.and_eq_true] at hra
    exact handled_refl.enqueue ⟨rfl, rfl, by simp [Work.kind]⟩ hra.1.1
  · exact handled_refl

lemma handled_consoleTick : Handled i r r.consoleTick := by
  have hrepo : ∀ r₁, r₁ = (if r.console.failurePending && r.consoleFrontendActive then
        { r.publishTo { kind := .output, consoleUnavailable := true } r.console.failureTargets with
          console := { r.console with
            failurePending := false, failureReported := true, failureTargets := [] } }
      else r) → Handled i r r₁ ∧ r₁.opened = r.opened := by
    rintro _ rfl
    split_ifs
    · exact ⟨{ handled_refl (r := r) with }, rfl⟩
    · exact ⟨handled_refl, rfl⟩
  unfold consoleTick
  dsimp only
  generalize hr₁ : (if r.console.failurePending && r.consoleFrontendActive then _ else r) = r₁
  obtain ⟨hhand, hope⟩ := hrepo r₁ hr₁.symm
  split_ifs with hct
  · simp only [consoleActive, consoleFrontendActive, Bool.and_eq_true] at hct
    exact hhand.enqueue ⟨rfl, rfl, by simp [Work.kind]⟩ (hope ▸ hct.1.1.1.1.1.2)
  · exact hhand

structure Kernel where
  opts : Options
  models : Models
  controlGeneration : Nat
  inflight : Option Inflight
  pending : List Work
  nextToken : Nat
  replies : List Reply
  faulted : Bool
  opened : Bool
  openSucceeded : Bool
  openGeneration : Nat

def kernel (r : Runtime) : Kernel where
  opts := r.opts
  models := r.models
  controlGeneration := r.controlGeneration
  inflight := r.inflight
  pending := r.pending
  nextToken := r.nextToken
  replies := r.replies
  faulted := r.faulted
  opened := r.opened
  openSucceeded := r.openSucceeded
  openGeneration := r.openGeneration

lemma advances_of (hker : r'.kernel = r.kernel)
    (hexe : r'.executor.generation = r.executor.generation ∨ i = .replace)
    (hcl : r.executor.closed = true → r'.executor.closed = true)
    (hdis : ∀ d ∈ r'.dispatchers, ∃ d₀ ∈ r.dispatchers, d₀.token = d.token ∧ d₀.work = d.work)
    (haccep : ∀ job ∈ r'.accepted, job ∈ r.accepted ∨
      ∃ d ∈ r.dispatchers, d.token = job.token ∧ d.work = job.work) : Advances i r r' := by
  simp only [kernel, Kernel.mk.injEq] at hker
  obtain ⟨hopts, hmod, hge, hin, hpen, hto, hre, hfa, hope, hsuc, hgene⟩ := hker
  refine ⟨⟨hopts, hexe.imp_right .inr, hcl, hfa.trans, hope.trans, fun ho => ?_⟩,
    hto.ge, rollsOn_of_inflight hin, .inl ⟨by rw [hmod], hge⟩, fun w hw => .inl ?_,
    fun fl hi => .inl ?_,
    fun d hd => .inl (hdis d hd), haccep, [], by simp [hre], by simp⟩
  · exact .inl ⟨hsuc ▸ ho, hgene⟩
  · rwa [outstanding, hin, hpen] at hw
  · exact ⟨fl, hin ▸ hi, rfl, rfl⟩

lemma advances_dispatched {d : Dispatcher} (hd : d ∈ r.dispatchers) (h : r.Dispatched d r') :
    Advances i r r' := by
  have hended {d' : Dispatcher} (hd' : d' ∈ r.dispatchers.filter (·.token != d.token)) :
      ∃ d₀ ∈ r.dispatchers, d₀.token = d'.token ∧ d₀.work = d'.work :=
    ⟨d', mem_of_mem_filter hd', rfl, rfl⟩
  cases h with
  | read =>
    refine advances_of rfl (.inl rfl) id (fun d' hd' => ?_) fun _ hjo => .inl hjo
    obtain ⟨d₀, hd₀, hto, hwk, -⟩ := mem_setPhase hd'
    exact ⟨d₀, hd₀, hto.symm, hwk.symm⟩
  | refuse _ _ _ _ _ hexe =>
    exact advances_of rfl (.inl hexe.1) hexe.2.trans (fun _ => hended) fun _ hjo => .inl hjo
  | submit _ _ _ _ hwk hexe =>
    refine advances_of rfl (.inl hexe.1)
      (fun hcl => by simp [hexe.2.2] at hcl) (fun d' hd' => ?_) fun job hjo => ?_
    · obtain ⟨d₀, hd₀, hto, hwk, -⟩ := mem_setPhase hd'
      exact ⟨d₀, hd₀, hto.symm, hwk.symm⟩
    rcases mem_append.mp hjo with hjo | hjo
    · exact .inl (mem_append_left _ hjo)
    rcases mem_concat.mp hjo with hjo | rfl
    · exact .inl (mem_append_right _ hjo)
    · exact .inr ⟨d, hd, rfl, rfl⟩
  | _ =>
    exact advances_of rfl (.inl rfl) id (fun _ => hended) fun _ hjo => .inl hjo

lemma advances_worked (h : r.Worked r') : Advances i r r' := by
  have hsm (d : Dispatcher) (hd : d ∈ r.dispatchers) :
      ∃ d₀ ∈ r.dispatchers, d₀.token = d.token ∧ d₀.work = d.work := ⟨d, hd, rfl, rfl⟩
  cases h with
  | take _ _ hid hjobs =>
    refine advances_of rfl (.inl rfl) id hsm fun job' hjo => .inl ?_
    simpa [accepted, hid, hjobs] using hjo
  | transact _ _ _ _ _ hw =>
    refine advances_of rfl (.inl rfl) id hsm fun job' hjo => .inl ?_
    simpa [accepted, hw] using hjo
  | inspect _ _ _ _ _ hw =>
    unfold withLedger
    split_ifs <;>
    · refine advances_of rfl (.inl rfl) id hsm fun job' hjo => .inl ?_
      simpa [accepted, hw] using hjo
  | report =>
    refine advances_of rfl (.inl rfl) id (fun d hd => ?_) fun job' hjo => .inl ?_
    · obtain ⟨d₀, hd₀, rfl⟩ := mem_map.mp hd
      refine ⟨d₀, hd₀, ?_⟩
      split
      · dsimp only
        split_ifs <;> exact ⟨rfl, rfl⟩
      · exact ⟨rfl, rfl⟩
    · exact mem_append_right _ (by simpa [accepted, Runtime.report] using hjo)

/-- What a step is: a turn of the actor, or of one of the other goroutines. -/
inductive Stepped (i : Input) (r : Runtime) : Runtime → Prop where
  | turn (r₁ : Runtime) (h : Handled i r r₁) : Stepped i r r₁.startNext
  | dispatch (token : Nat) (turn : DispatchTurn) (d : Dispatcher) (r' : Runtime)
      (hi : i = .dispatch token turn) (hd : d ∈ r.dispatchers) (h : r.Dispatched d r') :
      Stepped i r r'
  | worker (turn : WorkerTurn) (r' : Runtime) (hi : i = .worker turn) (h : r.Worked r') :
      Stepped i r r'
  | replace (hi : i = .replace) : Stepped i r r.replaceBridge
  | receive (sub : Nat) (hi : i = .receive sub) : Stepped i r (r.receive sub)
  | trace (tracing : Tracing) : Stepped i r { r with tracing }

theorem stepped (h : r.step i = some r') : Stepped i r r' := by
  have htn {f : Runtime → Runtime} (hf : Handled i r (f r)) (h : r.turn f = some r') :
      Stepped i r r' := by
    unfold turn at h
    split_ifs at h
    cases h
    exact .turn _ hf
  cases i with
  | command cmd => exact htn (f := fun r => r.apply cmd) (handled_command cmd) h
  | completion b =>
    simp only [step] at h
    split at h
    · cases h
    · rename_i c rest hc
      exact htn (handled_completion hc b) h
  | stateTick => exact htn handled_stateTick h
  | consoleTick => exact htn handled_consoleTick h
  | dispatch tok turn =>
    simp only [step] at h
    split at h
    · cases h
    · rename_i d hd
      exact .dispatch tok turn d r' rfl (mem_of_find?_eq_some hd) (dispatched h)
  | worker turn => exact .worker turn r' rfl (worked h)
  | replace =>
    cases h
    exact .replace rfl
  | receive sub =>
    cases h
    exact .receive sub rfl
  | cancel | traceStatus =>
    cases h
    exact .trace _

theorem advances_step (h : r.step i = some r') : Advances i r r' := by
  have hsm (d : Dispatcher) (hd : d ∈ r.dispatchers) :
      ∃ d₀ ∈ r.dispatchers, d₀.token = d.token ∧ d₀.work = d.work := ⟨d, hd, rfl, rfl⟩
  cases stepped h with
  | turn _ hhand => exact hhand.startNext
  | dispatch _ _ _ _ _ hd htn => exact advances_dispatched hd htn
  | worker _ _ _ htn => exact advances_worked htn
  | replace hi =>
    unfold replaceBridge
    split_ifs
    · exact advances_of rfl (.inl rfl) id hsm fun _ hjo => .inl hjo
    · exact advances_of rfl (.inr hi) id hsm fun _ hjo => .inl hjo
  | receive | trace => exact advances_of rfl (.inl rfl) id hsm fun _ hjo => .inl hjo

/-! ### Runs -/

section runs

variable {opts : Options} {ins : List Input}

/-- A command of the run has accepted the operation. -/
def Requested (opts : Options) (inputs : List Input) (w : Work) : Prop :=
  ∃ n u command t, At step (new opts) inputs n u (.command command) t ∧ u.Accepts command w

/-- A step of the run has found the operation current and started it with this token. -/
def Started (opts : Options) (inputs : List Input) (token : Nat) (work : Work) : Prop :=
  ∃ n u i t inflight, At step (new opts) inputs n u i t ∧ u.nextToken < token ∧
    t.inflight = some inflight ∧ inflight.token = token ∧ inflight.work = work ∧
    t.Current work ∧ t.faulted = false

/-- A step of the run has told somebody of a success. -/
def Told (opts : Options) (inputs : List Input) (a : Reply) : Prop :=
  ∃ n u i t told, At step (new opts) inputs n u i t ∧ t.replies = u.replies ++ told ∧ a ∈ told ∧
    Grants i u a

lemma Requested.append {w : Work} (h : Requested opts ins w) (later : List Input) :
    Requested opts (ins ++ later) w := by
  obtain ⟨n, u, cmd, t, hat, hacce⟩ := h
  exact ⟨n, u, cmd, t, hat.append later, hacce⟩

lemma Started.append {tok : Nat} {work : Work} (h : Started opts ins tok work)
    (later : List Input) : Started opts (ins ++ later) tok work := by
  obtain ⟨n, u, i, t, fl, hat, hsa⟩ := h
  exact ⟨n, u, i, t, fl, hat.append later, hsa⟩

lemma Told.append {a : Reply} (h : Told opts ins a) (later : List Input) :
    Told opts (ins ++ later) a := by
  obtain ⟨n, u, i, t, told, hat, htold⟩ := h
  exact ⟨n, u, i, t, told, hat.append later, htold⟩

/-- The history of everything that is under way, and of the successes. -/
structure Recorded (opts : Options) (inputs : List Input) (r : Runtime) : Prop where
  asked : ∀ w ∈ r.outstanding, w.Fenced → Requested opts inputs w
  started : ∀ inflight, r.inflight = some inflight →
    Started opts inputs inflight.token inflight.work
  dispatchers : ∀ d ∈ r.dispatchers, Started opts inputs d.token d.work
  accepted : ∀ job ∈ r.accepted, Started opts inputs job.token job.work
  told : ∀ a ∈ r.replies, a.err = none → Told opts inputs a

lemma recorded_new (opts : Options) : Recorded opts [] (new opts) := by
  constructor <;> simp [new, outstanding, Runtime.accepted]

lemma Recorded.step (h : Recorded opts ins r) (hru : run step (new opts) ins = some r)
    (hst : r.step i = some r') : Recorded opts (ins ++ [i]) r' := by
  have hadv := advances_step hst
  have hat := at_last hru hst
  have hsa (fl : Inflight) (hi : r'.inflight = some fl) :
      Started opts (ins ++ [i]) fl.token fl.work := by
    rcases hadv.started fl hi with ⟨before, hb, hto, hwk⟩ | ⟨hfr, hcur⟩
    · rw [← hto, ← hwk]
      exact (h.started before hb).append [i]
    · exact ⟨_, r, i, r', fl, hat, hfr, hi, rfl, rfl, hcur⟩
  refine ⟨fun w hw hfen => ?_, hsa, fun d hd => ?_, fun job hjo => ?_, fun a ha hnn => ?_⟩
  · rcases hadv.works w hw with hw | hgiv
    · exact (h.asked w hw hfen).append [i]
    · obtain ⟨cmd, rfl, hacce⟩ := hgiv.fenced hfen
      exact ⟨_, r, cmd, r', hat, hacce⟩
  · rcases hadv.dispatchers d hd with ⟨d₀, hd₀, hto, hwk⟩ | ⟨-, fl, hi, hto, hwk⟩
    · rw [← hto, ← hwk]
      exact (h.dispatchers d₀ hd₀).append [i]
    · rw [← hto, ← hwk]
      exact hsa fl hi
  · rcases hadv.accepted job hjo with hjo | ⟨d, hd, hto, hwk⟩
    · exact (h.accepted job hjo).append [i]
    · rw [← hto, ← hwk]
      exact (h.dispatchers d hd).append [i]
  obtain ⟨new, hnew, htel⟩ := hadv.replies
  rw [hnew] at ha
  rcases mem_append.mp ha with ha | ha
  · exact (h.told a ha hnn).append [i]
  · exact ⟨_, r, i, r', new, hat, hnew, ha, htel a ha hnn⟩

theorem recorded (hru : run step (new opts) ins = some r) : Recorded opts ins r :=
  run_history (H := Recorded opts) (recorded_new opts) (fun _ _ _ _ hru h hst => h.step hru hst) hru

end runs

end Runtime

end MultiDap.Actor
