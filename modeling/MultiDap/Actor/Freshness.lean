import MultiDap.Actor.History

/-!
# Inspection in one stop

A request for the stack, scopes, variables, an evaluation, memory or disassembly succeeds only in
the stop in which it was accepted. The stop epoch alone does not tell: a request that is accepted
while the target is not stopped carries the epoch of the last stop, and may be started if the target
turns out to be stopped at that epoch. The inspection service fails such a request however the
backend answers.
-/

namespace MultiDap.Actor

open Machine Inspection List Option Work

/-- The request was accepted while the target was not stopped. -/
def Work.futile : Work → Bool
  | .inspection stop _ _ => !stop.stopped
  | _ => false

variable {work : Work} {ep : UInt64}

lemma Work.stopped_of_bound (hbou : work.boundTo = some ep)
    (hlive : work.futile = false) : work.stopped = true := by
  cases work with
  | inspection => simpa [futile, stopped] using hlive
  | readMemory => rfl
  | disassemble => rfl
  | _ => cases hbou

lemma task_futile (opts : Options) (h : work.futile = true) :
    ∃ prog, work.task opts = .inspect prog ∧
      Prog.Within env (fun _ _ => True) (fun res => ∃ err, res = .error err) prog := by
  cases work with
  | inspection stop call =>
    have hsp : stop.stopped = false := by simpa [futile] using h
    simp only [task]
    split
    · rename_i mapper _
      refine ⟨_, rfl, ?_⟩
      cases call with
      | stack core page => exact (Fails.stack hsp mapper core page).map _
      | scopes frameID => exact (Fails.scopes hsp frameID).map _
      | variablePage ref page format =>
        exact (Fails.variablePage hsp ref page format).map _
      | evaluate frameID expression format =>
        exact (Fails.evaluate hsp frameID expression format).map _
    · exact ⟨_, rfl, _, rfl⟩
  | _ => cases h

namespace Runtime

variable {G : Guard} {r r' : Runtime}

/-! ### Results of futile requests -/

structure Futile (r : Runtime) : Prop where
  task : ∀ job task, r.worker = some ⟨job, task⟩ → job.work.futile = true →
    ∃ program, task = .inspect program ∧
      Prog.Within env (fun _ _ => True) (fun result => ∃ err, result = .error err) program
  reported : ∀ inflight, r.inflight = some inflight → inflight.work.futile = true →
    ∀ d ∈ r.dispatchers, d.token = inflight.token → ∀ generation operation finished,
      d.phase = .waiting generation operation (some finished) → ∃ err, finished.result = .error err
  completed : ∀ inflight, r.inflight = some inflight → inflight.work.futile = true →
    ∀ c ∈ r.complete, c.token = inflight.token → c.accepted = false → ∃ err, c.result = .error err

lemma futile_new (opts : Options) : (new opts).Futile := by
  constructor <;> simp [new]

section

variable (h : r.Futile)

include h

lemma Futile.taken {complete : List Completion} {fl' : Option Inflight}
    (hcom : ∀ c ∈ complete, c ∈ r.complete)
    (hin : ∀ i', fl' = some i' → ∃ i, r.inflight = some i ∧ i'.token = i.token ∧
      i'.work = i.work) : Futile { r with complete, inflight := fl' } where
  task := h.task
  reported := fun i' hi' => by
    obtain ⟨i, hi, hto, hwk⟩ := hin i' hi'
    rw [hto, hwk]
    exact h.reported i hi
  completed := fun i' hi' hf c hc => by
    obtain ⟨i, hi, hto, hwk⟩ := hin i' hi'
    rw [hto]
    exact h.completed i hi (hwk ▸ hf) c (hcom c hc)

lemma Futile.deliver {c : Completion} (hc : ∀ fl, r.inflight = some fl → fl.work.futile = true →
      c.token = fl.token → c.accepted = false → ∃ err, c.result = .error err) :
    (r.deliver c).Futile where
  task := h.task
  reported := h.reported
  completed := fun fl hin hf c' hc' => by
    rcases mem_concat.mp hc' with hc' | rfl
    · exact h.completed fl hin hf c' hc'
    · exact hc fl hin hf

lemma Futile.dispatchers (dispatchers : List Dispatcher)
    (hsub : ∀ d' ∈ dispatchers, ∃ d ∈ r.dispatchers, d'.token = d.token ∧
      ∀ gen operation finished, d'.phase = .waiting gen operation (some finished) →
        d.phase = .waiting gen operation (some finished) ∨
          ∀ fl, r.inflight = some fl → fl.work.futile = true →
            d.token = fl.token → ∃ err, finished.result = .error err) :
    Futile { r with dispatchers } where
  task := h.task
  reported := fun fl hin hf d' hd' hto g op f hph => by
    obtain ⟨d, hd, ht, hreport⟩ := hsub d' hd'
    rcases hreport g op f hph with hph | hne
    · exact h.reported fl hin hf d hd (ht.symm.trans hto) g op f hph
    · exact hne fl hin hf (ht.symm.trans hto)
  completed := h.completed

lemma Futile.setPhase (tok : Nat) {ph : Phase}
    (hph : ∀ gen operation finished, ph ≠ .waiting gen operation (some finished)) :
    (r.setPhase tok ph).Futile := by
  refine h.dispatchers _ fun d' hd' => ?_
  obtain ⟨d, hd, hto, -, rfl | ⟨-, heq⟩⟩ := mem_setPhase hd'
  · exact ⟨d', hd, rfl, fun _ _ _ hp => .inl hp⟩
  · exact ⟨d, hd, hto, fun g op f hp => absurd (heq.symm.trans hp) (hph g op f)⟩

lemma Futile.endDispatch (tok : Nat) : (r.endDispatch tok).Futile :=
  h.dispatchers _ fun d' hd' => ⟨d', mem_of_mem_filter hd', rfl, fun _ _ _ hp => .inl hp⟩

lemma Futile.dispatched (ho : r.Orderly) {d : Dispatcher} (hd : d ∈ r.dispatchers)
    (htn : r.Dispatched d r') : r'.Futile := by
  cases htn with
  | read => exact h.setPhase _ fun _ _ _ => by simp
  | refuse _ err executor =>
    have hexe : Futile { r with executor } := { h with }
    exact (hexe.deliver fun _ _ _ _ _ => ⟨err, rfl⟩).endDispatch _
  | submit gen op executor =>
    have hexe : Futile { r with executor } := { h with }
    have hdel := hexe.deliver (c := ⟨d.token, gen, op, true, .ok .nothing, {}⟩)
      fun _ _ _ _ hac => by cases hac
    have hnn (g o : Nat) (finished : Finished) :
        Phase.waiting gen op none ≠ .waiting g o (some finished) := by simp
    have hphas := hdel.setPhase d.token hnn
    exact { hphas with }
  | collect _ _ _ hph =>
    refine (h.deliver fun fl hin hf hto _ => ?_).endDispatch _
    exact h.reported fl hin hf d hd hto _ _ _ hph
  | expire _ _ _ err =>
    exact (h.deliver fun _ _ _ _ _ => ⟨err, rfl⟩).endDispatch _
  | isolated _ _ _ _ hisolated =>
    refine (h.deliver fun fl hin hf hto _ => ?_).endDispatch _
    -- the trace service has nothing to do with it
    rw [← ho.own fl hin d hd hto] at hf
    cases hw : d.work <;> simp [hw, Work.isolated, futile] at hisolated hf

lemma Futile.report (ht : r.Traffic) {job : Job} {task : Task}
    {res : Except Error Value} (hw : r.worker = some ⟨job, task⟩)
    (hen : job.work.futile = true → ∃ err, res = .error err) : (r.report job res).Futile := by
  have hrepo := h.dispatchers (r.report job res).dispatchers fun d' hd' => by
    obtain ⟨d, hd, rfl⟩ := mem_map.mp hd'
    refine ⟨d, hd, ?_⟩
    split
    · rename_i gen op finished hph
      dsimp only
      split_ifs with hto
      · refine ⟨rfl, fun _ _ finished' hp => .inr fun fl hin hf hsm => ?_⟩
        obtain ⟨-, -, rfl⟩ : gen = _ ∧ op = _ ∧ _ = finished' := by simpa using hp
        have hct : r.Active fl.token job.work :=
          .inr ⟨job, by simp [accepted, hw], hto.symm.trans hsm, rfl⟩
        rw [← ht.same fl hin job.work hct] at hf
        exact hen hf
      · exact ⟨rfl, fun _ _ _ hp => .inl hp⟩
    · exact ⟨rfl, fun _ _ _ hp => .inl hp⟩
  exact { hrepo with task := fun _ _ hno => by cases hno }

end

theorem Futile.move (ht : r.Traffic) (ho : r.Orderly) (h : r.Futile) (hm : Move G r r') :
    r'.Futile := by
  cases hm with
  | sample | bootstrap => rw [absorb_eq]; exact { h with }
  | reducerErr | reducerFault =>
    rw [actions_eq]
    exact { h with }
  | fault _ _ complete _ _ _ _ _ hcom =>
    have htak : Futile { r with complete, inflight := none } :=
      h.taken (fun c hc => hcom.subset hc) fun _ hn => by cases hn
    exact { htak with }
  | allocate => rw [withLedger_eq]; exact { h with }
  | launch =>
    refine ⟨h.task, ?_, ?_⟩
    · rintro _ ⟨⟩ hf d hd hto g op f hph
      rcases mem_concat.mp hd with hd | rfl
      · have := ht.dispatchers_le d hd
        dsimp only at hto
        omega
      · cases hph
    rintro _ ⟨⟩ hf c hc hto
    have := ht.complete_le c hc
    dsimp only at hto
    omega
  | ignore c _ hc =>
    exact h.taken (fun c' hc' => hc ▸ mem_cons_of_mem c hc') fun i hi => ⟨i, hi, rfl, rfl⟩
  | acknowledge fl c _ hc hin =>
    refine h.taken (fun c' hc' => hc ▸ mem_cons_of_mem c hc') ?_
    rintro _ ⟨⟩
    exact ⟨fl, hin, rfl, rfl⟩
  | settle _ c _ hc =>
    exact h.taken (fun c' hc' => hc ▸ mem_cons_of_mem c hc') fun _ hn => by cases hn
  | dispatch _ _ hd htn => exact h.dispatched ho hd htn
  | worker _ htn =>
    cases htn with
    | take =>
      refine { h with task := ?_ }
      rintro _ _ ⟨⟩ hf
      exact task_futile r.opts hf
    | transact job _ _ _ _ hw =>
      refine { h with task := ?_ }
      rintro _ _ ⟨⟩ hf
      obtain ⟨_, htask, -⟩ := h.task job _ hw hf
      cases htask
    | inspect job _ next _ _ hw hst =>
      have hnx : Futile { r with worker := some ⟨job, .inspect next⟩ } := by
        refine { h with task := ?_ }
        rintro _ _ ⟨⟩ hf
        obtain ⟨_, htask, hwit⟩ := h.task job _ hw hf
        obtain rfl := Task.inspect.inj htask
        exact ⟨next, rfl, (hwit.advance hst).2⟩
      rw [withLedger_eq]
      exact { hnx with }
    | report job task res hw hen =>
      refine h.report ht hw fun hf => ?_
      obtain ⟨prog, rfl, hwit⟩ := h.task job task hw hf
      obtain rfl : prog = .ret res := by simpa using hen
      exact hwit
  | _ => exact { h with }

/-! ### The three moments of a request -/

section moments

variable {opts : Options} {inputs : List Input}

/-- The actor applies the command that queues this operation. -/
def AcceptedAt (opts : Options) (inputs : List Input) (n : Nat) (work : Work) : Prop :=
  ∃ u command t, At step (new opts) inputs n u (.command command) t ∧
    command.inspects = true ∧ command.reply = work.reply

/-- The actor hands the operation to a dispatch goroutine, with this token. -/
def DispatchedAt (opts : Options) (inputs : List Input) (n token : Nat) (work : Work) : Prop :=
  ∃ u i t inflight, At step (new opts) inputs n u i t ∧ u.nextToken < token ∧
    t.inflight = some inflight ∧ inflight.token = token ∧ inflight.work = work

/-- The actor takes the completion of the operation and answers its caller. -/
def AnsweredAt (opts : Options) (inputs : List Input) (n token : Nat) (work : Work)
    (a : Reply) : Prop :=
  ∃ u b t inflight told, At step (new opts) inputs n u (.completion b) t ∧
    u.inflight = some inflight ∧ inflight.token = token ∧ inflight.work = work ∧
    work.reply = some a.reply ∧ t.replies = u.replies ++ told ∧ a ∈ told

/-- After the first `n` inputs the target is stopped at this epoch. -/
def StoppedAfter (opts : Options) (inputs : List Input) (n : Nat) (epoch : UInt64) : Prop :=
  ∃ u, run step (new opts) (inputs.take n) = some u ∧ u.sameStoppedEpoch epoch = true

lemma Started.dispatchedAt {tok : Nat}
    (h : Started opts inputs tok work) (hbou : work.boundTo = some ep) :
    ∃ m, DispatchedAt opts inputs m tok work ∧ StoppedAfter opts inputs (m + 1) ep := by
  obtain ⟨m, u, i, t, fl, hat, hfr, hin, hto, hwk, hcur, -⟩ := h
  exact ⟨m, ⟨u, i, t, fl, hat, hfr, hin, hto, hwk⟩, t, hat.run, hcur.1 ep hbou⟩

lemma Recorded.acceptedAt (h : Recorded opts inputs r) {fl : Inflight}
    (hin : r.inflight = some fl) (hbou : fl.work.boundTo = some ep)
    (hlive : fl.work.futile = false) :
    ∃ n, AcceptedAt opts inputs n fl.work ∧ StoppedAfter opts inputs n ep := by
  obtain ⟨n, u, cmd, t, hat, haccep⟩ := h.asked fl.work
    (mem_append_left _ (by simp [hin])) fun hfree => by simp [hbou] at hfree
  generalize fl.work = work at hbou hlive haccep ⊢
  cases haccep with
  | opens | cleanup | trace => cases hbou
  | unbound _ hunbound => simp [hunbound.1] at hbou
  | inspection _ ep' hcomm hre hbou' hsto =>
    obtain rfl : ep' = ep := Option.some.inj (hbou'.symm.trans hbou)
    have hsm := hsto (stopped_of_bound hbou hlive)
    exact ⟨n, ⟨u, cmd, t, hat, hcomm, hre⟩, u, hat.before, hsm⟩

lemma AcceptedAt.take {n m : Nat} (h : AcceptedAt opts (inputs.take m) n work) :
    n < m ∧ AcceptedAt opts inputs n work := by
  obtain ⟨u, cmd, t, hat, hcomm⟩ := h
  exact ⟨hat.take.1, u, cmd, t, hat.take.2, hcomm⟩

lemma DispatchedAt.take {n m tok : Nat} (h : DispatchedAt opts (inputs.take m) n tok work) :
    n < m ∧ DispatchedAt opts inputs n tok work := by
  obtain ⟨u, i, t, fl, hat, hsa⟩ := h
  exact ⟨hat.take.1, u, i, t, fl, hat.take.2, hsa⟩

lemma StoppedAfter.take {n m : Nat} (hnm : n ≤ m)
    (h : StoppedAfter opts (inputs.take m) n ep) : StoppedAfter opts inputs n ep := by
  rwa [StoppedAfter, take_take, min_eq_left hnm] at h

lemma Futile.handed (h : r.Futile) {c : Completion} {rest : List Completion}
    (hc : r.complete = c :: rest) {fl : Inflight} (hin : r.inflight = some fl)
    {val : Value} (hok : r.handed c = some (.ok val)) : fl.work.futile = false := by
  refine Bool.eq_false_iff.mpr fun hf => ?_
  have hrr (hac : c.accepted = false) (hto : c.token = fl.token) :
      ∃ err, c.result = .error err := h.completed fl hin hf c (by simp [hc]) hto hac
  have hbri : fl.work.isolated = false := by
    cases hw : fl.work <;> simp [hw, futile, Work.isolated] at hf ⊢
  simp only [Runtime.handed, hin, bind_some] at hok
  cases hv : r.judge fl c with
  | unsubmitted =>
    obtain ⟨hto, hac, -⟩ := judge_end (.inl hv)
    obtain ⟨err, hrr⟩ := hrr hac hto
    simp [hv, hrr] at hok
  | finished =>
    obtain ⟨hto, hac, -⟩ := judge_end (.inr hv)
    obtain ⟨err, hrr⟩ := hrr hac hto
    simp [hv, hrr] at hok
  | isolated => simp [(judge_isolated (.inl hv)).1] at hbri
  | _ => simp [hv] at hok

lemma futile_run (hru : run step (new opts) inputs = some r) : r.Futile := by
  have hinv (r r' : Runtime) (_ : r.Base) (ht : r.Traffic) (h : r.Orderly ∧ r.Futile)
      (hm : Move {} r r') : r'.Orderly ∧ r'.Futile := ⟨h.1.move ht hm, h.2.move ht h.1 hm⟩
  exact (traffic_invariant hinv ⟨orderly_new opts, futile_new opts⟩ (Guard.admits_all _ _)
    hru).2.2.2

/-- A successful inspection was accepted, dispatched and completed in one stop, and the executor
gets no request that was stale when it was dispatched. -/
theorem inspection_success_fresh (hru : run step (new opts) inputs = some r) :
    (∀ a ∈ r.replies, a.err = none → a.answer.inspected = true →
      ∃ epoch token work n m k, n ≤ m ∧ m < k ∧ work.boundTo = some epoch ∧
        AcceptedAt opts inputs n work ∧ StoppedAfter opts inputs n epoch ∧
        DispatchedAt opts inputs m token work ∧ StoppedAfter opts inputs (m + 1) epoch ∧
        AnsweredAt opts inputs k token work a ∧ StoppedAfter opts inputs k epoch) ∧
    ∀ job ∈ r.accepted, ∀ epoch, job.work.boundTo = some epoch →
      ∃ m, DispatchedAt opts inputs m job.token job.work ∧
        StoppedAfter opts inputs (m + 1) epoch := by
  have hrec := recorded hru
  refine ⟨fun a ha hok hins => ?_, fun job hjo epoch hbou =>
    (hrec.accepted job hjo).dispatchedAt hbou⟩
  obtain ⟨k, u, i, t, told, hat, htold, hme, htel⟩ := hrec.told a ha hok
  rcases htel with ⟨command, rfl, -, hfree⟩ |
    ⟨b, c, rest, inflight, value, rfl, hc, hin, hsuc, hre, hcur, hsui⟩
  · simp [Answer.free, hins] at hfree
  obtain ⟨epoch, hbou⟩ := isSome_iff_exists.mp (hsui.1 hins)
  -- the state before the completion knows when the operation was started
  obtain ⟨m, hdis, hsto⟩ :=
    ((recorded hat.before).started inflight hin).dispatchedAt hbou
  obtain ⟨hmk, hdis⟩ := hdis.take
  have hsto := hsto.take hmk
  -- and the state after the start knows when it was accepted
  obtain ⟨u₁, i₁, t₁, inflight₁, hat₁, hfr, hin₁, hto₁, hwk₁⟩ := id hdis
  have hlive : inflight.work.futile = false :=
    (futile_run hat.before).handed hc hin hsuc
  obtain ⟨n, hacce, hsto₀⟩ := (recorded hat₁.run).acceptedAt hin₁ (hwk₁ ▸ hbou) (hwk₁ ▸ hlive)
  obtain ⟨hnm, hacce⟩ := hacce.take
  refine ⟨epoch, inflight.token, inflight.work, n, m, k, Nat.lt_succ_iff.mp hnm, hmk, hbou,
    hwk₁ ▸ hacce, hsto₀.take hnm.le, hdis, hsto, ?_, u, hat.before,
    hcur.1 epoch hbou⟩
  exact ⟨u, b, t, inflight, told, hat, hin, rfl, rfl, hre, htold, hme⟩

/-- A frontend asks a stopped core for its stack, which is empty. -/
def stackAsked : List Input :=
  bootstrap (stampedEvidence .stopped 1) ++
    [.command (.stack 1 ⟨0, 1⟩ 1), .dispatch 4 .read, .dispatch 4 (.submit none), .completion none,
      .worker .take, .worker (.inspect (.frames (.ok []))), .worker .finish, .dispatch 4 .collect,
      .completion none]

theorem inspection_success_fresh_stack :
    ∃ opts r a epoch token work n m k, run step (new opts) stackAsked = some r ∧ a ∈ r.replies ∧
      a.reply = 1 ∧ a.err = none ∧ a.answer.inspected = true ∧ n ≤ m ∧ m < k ∧
      work.boundTo = some epoch ∧
      AcceptedAt opts stackAsked n work ∧ StoppedAfter opts stackAsked n epoch ∧
      DispatchedAt opts stackAsked m token work ∧ StoppedAfter opts stackAsked (m + 1) epoch ∧
      AnsweredAt opts stackAsked k token work a ∧ StoppedAfter opts stackAsked k epoch := by
  let opts : Options := { inspection := true, sourceMap := some fun path => .ok { key := path } }
  obtain ⟨r, hru, hany⟩ : ∃ r, run step (new opts) stackAsked = some r ∧
      r.replies.any (fun a => decide (a.reply = 1) && a.err.isNone && a.answer.inspected) = true :=
    exists_run (by decide +kernel)
  obtain ⟨a, ha, hsuc⟩ := any_eq_true.mp hany
  simp only [Bool.and_eq_true, decide_eq_true_eq, isNone_iff_eq_none] at hsuc
  obtain ⟨⟨hre, hok⟩, hins⟩ := hsuc
  obtain ⟨epoch, token, work, n, m, k, h⟩ := (inspection_success_fresh hru).1 a ha hok hins
  exact ⟨opts, r, a, epoch, token, work, n, m, k, hru, ha, hre, hok, hins, h⟩

end moments

end Runtime

end MultiDap.Actor
