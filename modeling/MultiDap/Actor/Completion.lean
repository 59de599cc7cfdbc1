import MultiDap.Actor.Callback
import MultiDap.Actor.Traffic

/-!
# Which completions count

The actor hears of an operation in several messages: that it was submitted, and later that it ended
or that its deadline has passed. Between them the bridge may be replaced and the actor may have
given the operation up. `Orderly` is the order in which the messages of one operation arrive.
-/

namespace MultiDap.Actor

open Machine Inspection Stop Session Relation List Option

namespace Runtime

variable {G : Guard} {r r' : Runtime}

/-! ### The order of messages -/

structure Orderly (r : Runtime) : Prop where
  own : ∀ inflight, r.inflight = some inflight → ∀ d ∈ r.dispatchers, d.token = inflight.token →
    d.work = inflight.work
  /-- A trace operation is never handed to the executor. -/
  apart : ∀ d ∈ r.dispatchers, d.work.isolated = true → d.phase.Unsubmitted
  unnumbered : ∀ inflight, r.inflight = some inflight → inflight.work.isolated = true →
    inflight.operation = 0 ∧ ∀ c ∈ r.complete, c.token = inflight.token → c.operation = 0
  /-- An operation that was not submitted has no result. -/
  heard : ∀ inflight, r.inflight = some inflight → inflight.work.isolated = false →
    ∀ before c after, r.complete = before ++ c :: after → c.token = inflight.token →
      c.accepted = false → (∃ err, c.result = .error err) ∨ Submitted inflight before

lemma orderly_new (opts : Options) : (new opts).Orderly := by
  constructor <;> simp [new]

lemma Orderly.dispatchers (h : r.Orderly) (dispatchers : List Dispatcher)
    (hsub : ∀ d' ∈ dispatchers, ∃ d ∈ r.dispatchers, d'.token = d.token ∧ d'.work = d.work ∧
      (d.work.isolated = true → d.phase.Unsubmitted → d'.phase.Unsubmitted)) :
    Orderly { r with dispatchers } :=
  { h with
    own := fun fl hin d' hd' ht => by
      obtain ⟨d, hd, hto, hwk, -⟩ := hsub d' hd'
      exact hwk.trans (h.own fl hin d hd (hto.symm.trans ht))
    apart := fun d' hd' hio => by
      obtain ⟨d, hd, -, hwk, hph⟩ := hsub d' hd'
      have hio : d.work.isolated = true := hwk ▸ hio
      exact hph hio (h.apart d hd hio) }

lemma mem_endDispatch {tok : Nat} {d' : Dispatcher} (h : d' ∈ (r.endDispatch tok).dispatchers) :
    ∃ d ∈ r.dispatchers, d'.token = d.token ∧ d'.work = d.work ∧
      (d.work.isolated = true → d.phase.Unsubmitted → d'.phase.Unsubmitted) :=
  ⟨d', mem_of_mem_filter h, rfl, rfl, fun _ hu => hu⟩

lemma Traffic.mem_setPhase (h : r.Traffic) {d : Dispatcher} (hd : d ∈ r.dispatchers) (ph : Phase)
    (hph : d.work.isolated = true → ph.Unsubmitted) {d' : Dispatcher}
    (hd' : d' ∈ (r.setPhase d.token ph).dispatchers) :
    ∃ d ∈ r.dispatchers, d'.token = d.token ∧ d'.work = d.work ∧
      (d.work.isolated = true → d.phase.Unsubmitted → d'.phase.Unsubmitted) := by
  obtain ⟨d₀, hd₀, hto, hwk, rfl | ⟨ht, heq⟩⟩ := Runtime.mem_setPhase hd'
  · exact ⟨d', hd₀, rfl, rfl, fun _ hu => hu⟩
  · have hsm := h.eq_of_token hd hd₀ ht
    exact ⟨d₀, hd₀, hto, hwk, fun hio _ => heq ▸ hph (hsm ▸ hio)⟩

variable {c : Completion}

lemma Orderly.deliver (h : r.Orderly) (hnum : ∀ fl, r.inflight = some fl → fl.work.isolated = true →
      c.token = fl.token → c.operation = 0)
    (hres : ∀ fl, r.inflight = some fl → c.token = fl.token →
      fl.work.isolated = false → c.accepted = false →
      (∃ err, c.result = .error err) ∨ Submitted fl r.complete) : (r.deliver c).Orderly :=
  { h with
    unnumbered := fun fl hin hio => by
      obtain ⟨hop, hal⟩ := h.unnumbered fl hin hio
      refine ⟨hop, fun c' hc' ht => ?_⟩
      rcases mem_concat.mp hc' with hc' | rfl
      · exact hal c' hc' ht
      · exact hnum fl hin hio ht
    heard := fun fl hin hio before c' after heq ht hac => by
      rcases split_concat heq with ⟨rfl, rfl⟩ | ⟨after', heq⟩
      · exact hres fl hin ht hio hac
      · exact h.heard fl hin hio before c' after' heq ht hac }

variable {rest : List Completion}

lemma Orderly.taken (h : r.Orderly) (hc : r.complete = c :: rest) {fl' : Option Inflight}
    (hin : ∀ i', fl' = some i' → ∃ i, r.inflight = some i ∧ i'.token = i.token ∧
      i'.work = i.work ∧ (i.work.isolated = true → i'.operation = i.operation) ∧
      ∀ before, Submitted i (c :: before) → Submitted i' before) :
    Orderly { r with complete := rest, inflight := fl' } where
  own := fun i' hi' d hd ht => by
    obtain ⟨i, hi, hto, hwk, -⟩ := hin i' hi'
    exact (h.own i hi d hd (ht.trans hto)).trans hwk.symm
  apart := h.apart
  unnumbered := fun i' hi' hio => by
    obtain ⟨i, hi, hto, hwk, hop, -⟩ := hin i' hi'
    have hio : i.work.isolated = true := hwk ▸ hio
    obtain ⟨hzero, hal⟩ := h.unnumbered i hi hio
    refine ⟨(hop hio).trans hzero, fun c' hc' ht => ?_⟩
    exact hal c' (hc ▸ mem_cons_of_mem c hc') (ht.trans hto)
  heard := fun i' hi' hio before c' after heq ht hac => by
    obtain ⟨i, hi, hto, hwk, -, hsub⟩ := hin i' hi'
    refine (h.heard i hi (hwk ▸ hio) (c :: before) c' after ?_ (ht.trans hto) hac).imp_right
      (hsub before)
    rw [hc, cons_append]
    exact congrArg (c :: ·) heq

lemma Orderly.launch (h : r.Orderly) (ht : r.Traffic) (work : Work) (rest : List Work) :
    ({ r with pending := rest }.launch work).Orderly where
  own := by
    rintro _ ⟨⟩ d hd hto
    rcases mem_concat.mp hd with hd | rfl
    · have := ht.dispatchers_le d hd
      simp only at hto
      omega
    · rfl
  apart := fun d hd hio => by
    rcases mem_concat.mp hd with hd | rfl
    · exact h.apart d hd hio
    · trivial
  unnumbered := by
    rintro _ ⟨⟩ hio
    refine ⟨rfl, fun c hc hto => ?_⟩
    have := ht.complete_le c hc
    simp only at hto
    omega
  heard := by
    rintro _ ⟨⟩ hio before c after heq hto hac
    have hc : c ∈ r.complete := by
      show c ∈ ({ r with pending := rest }.launch work).complete
      rw [heq]
      simp
    have := ht.complete_le c hc
    simp only at hto
    omega

lemma Orderly.dispatched (h : r.Orderly) (ht : r.Traffic) {d : Dispatcher} (hd : d ∈ r.dispatchers)
    (htn : r.Dispatched d r') : r'.Orderly := by
  -- what a goroutine that waits for the executor has already told the actor
  have hsubm (hw : ¬ d.phase.Unsubmitted) (fl : Inflight)
      (hin : r.inflight = some fl) (hto : d.token = fl.token) :
      Submitted fl r.complete := ht.submitted fl hin d hd hto hw
  have hbri (hw : ¬ d.phase.Unsubmitted) (fl : Inflight)
      (hin : r.inflight = some fl) (hto : d.token = fl.token) :
      fl.work.isolated = false := by
    rw [← h.own fl hin d hd hto]
    exact Bool.eq_false_iff.mpr fun hio => hw (h.apart d hd hio)
  cases htn with
  | read gen =>
    exact h.dispatchers _ fun d' hd' =>
      ht.mem_setPhase hd (.submitting gen) (fun _ => trivial) hd'
  | refuse gen err executor =>
    have hdel : (({ r with executor }).deliver
        ⟨d.token, gen, 0, false, .error err, {}⟩).Orderly :=
      Orderly.deliver (r := { r with executor }) { h with } (fun _ _ _ _ => rfl)
        fun _ _ _ _ _ => .inl ⟨err, rfl⟩
    exact hdel.dispatchers _ fun d' hd' => mem_endDispatch hd'
  | submit gen op executor _ hwk =>
    have hdel : (({ r with executor }).deliver
        ⟨d.token, gen, op, true, .ok .nothing, {}⟩).Orderly := by
      refine Orderly.deliver (r := { r with executor }) { h with } (fun fl hin hio hto => ?_)
        fun _ _ _ _ hac => by cases hac
      rw [← h.own fl hin d hd hto, hwk] at hio
      cases hio
    have hphas := hdel.dispatchers _ fun d' hd' =>
      ht.mem_setPhase hd (.waiting gen op none) (by simp [hwk]) hd'
    exact { hphas with }
  | collect _ _ finished hph =>
    have hw : ¬ d.phase.Unsubmitted := by simp [hph, Phase.Unsubmitted]
    have hdel : (r.deliver ⟨d.token, finished.generation, finished.operation, false,
        finished.result, {}⟩).Orderly := by
      refine h.deliver (fun fl hin hio hto => ?_) fun fl hin hto _ _ => .inr (hsubm hw fl hin hto)
      rw [hbri hw fl hin hto] at hio
      cases hio
    exact hdel.dispatchers _ fun d' hd' => mem_endDispatch hd'
  | expire gen op _ err hph =>
    have hw : ¬ d.phase.Unsubmitted := by simp [hph, Phase.Unsubmitted]
    have hdel : (r.deliver ⟨d.token, gen, op, false, .error err, {}⟩).Orderly := by
      refine h.deliver (fun fl hin hio hto => ?_) fun _ _ _ _ _ => .inl ⟨err, rfl⟩
      rw [hbri hw fl hin hto] at hio
      cases hio
    exact hdel.dispatchers _ fun d' hd' => mem_endDispatch hd'
  | isolated gen res failed _ hisol =>
    have hdel : (r.deliver ⟨d.token, gen, 0, false, res, failed⟩).Orderly := by
      refine h.deliver (fun _ _ _ _ => rfl) fun fl hin hto hio _ => ?_
      rw [← h.own fl hin d hd hto, hisol] at hio
      cases hio
    exact hdel.dispatchers _ fun d' hd' => mem_endDispatch hd'

theorem Orderly.move (ht : r.Traffic) (h : r.Orderly) (hm : Move G r r') : r'.Orderly := by
  cases hm with
  | sample | bootstrap => rw [absorb_eq]; exact { h with }
  | reducerErr | reducerFault =>
    rw [actions_eq]
    exact { h with }
  | fault =>
    exact {
      own := fun _ hin => by cases hin
      apart := h.apart
      unnumbered := fun _ hin => by cases hin
      heard := fun _ hin => by cases hin }
  | allocate => rw [withLedger_eq]; exact { h with }
  | launch work rest => exact h.launch ht work rest
  | ignore _ _ hc hother =>
    refine h.taken hc fun i hi => ⟨i, hi, rfl, rfl, fun _ => rfl, fun before hs => ?_⟩
    rcases hs with hs | ⟨c', hc', hto, hac⟩
    · exact .inl hs
    rcases mem_cons.mp hc' with rfl | hc'
    · exact absurd hto.symm (hother i hi)
    · exact .inr ⟨c', hc', hto, hac⟩
  | acknowledge fl _ _ hc hin hv =>
    refine h.taken hc ?_
    rintro _ ⟨⟩
    refine ⟨fl, hin, rfl, rfl, fun hio => ?_, fun _ _ => .inl rfl⟩
    exfalso
    simp only [judge, hio] at hv
    split_ifs at hv
  | settle _ _ _ hc => exact h.taken hc fun _ hi => by cases hi
  | dispatch _ _ hd htn => exact h.dispatched ht hd htn
  | worker _ htn =>
    cases htn with
    | take | transact => exact { h with }
    | inspect => rw [withLedger_eq]; exact { h with }
    | report job _ res =>
      have hre := h.dispatchers (r.report job res).dispatchers fun d' hd' => by
        obtain ⟨d, hd, rfl⟩ := mem_map.mp hd'
        refine ⟨d, hd, ?_⟩
        split
        · rename_i hph
          split_ifs
          · exact ⟨rfl, rfl, fun _ hu => by simp [hph, Phase.Unsubmitted] at hu⟩
          · exact ⟨rfl, rfl, fun _ hu => hu⟩
        · exact ⟨rfl, rfl, fun _ hu => hu⟩
      exact { hre with }
  | _ => exact { h with }

/-! ### What the callback gets -/

/-- A completion is about the operation in flight, on the generation the executor has. -/
def Matches (r : Runtime) (inflight : Inflight) (c : Completion) : Prop :=
  c.token = inflight.token ∧ c.operation = inflight.operation ∧
    c.generation = inflight.generation ∧ c.generation = r.executor.generation

/-- The result that a completion hands to the callback of the operation in flight. -/
def handed (r : Runtime) (c : Completion) : Option (Except Error Value) :=
  r.inflight.bind fun inflight =>
    match r.judge inflight c with
    | .ignored => none
    | .admitted => none
    | .unsubmitted => some c.result
    | .stale => some (.error (.of .bridgeStaleCompletion))
    | .finished => some c.result
    | .isolated => some c.result
    | .isolatedStale => some (.error (.of .bridgeStaleCompletion))

lemma offGeneration_eq_false {work : Work} {gen : Nat}
    (h : r.offGeneration work gen = false) : gen = r.executor.generation := by
  simp only [offGeneration, Bool.or_eq_false_iff, bne_eq_false_iff_eq] at h
  exact h.1.2.symm

lemma Orderly.verdict_of_handed (h : r.Orderly)
    (hc : r.complete = c :: rest) {fl : Inflight} (hin : r.inflight = some fl)
    {val : Value} (hok : r.handed c = some (.ok val)) :
    (r.judge fl c = .finished ∨ r.judge fl c = .isolated) ∧ c.result = .ok val := by
  simp only [handed, hin, bind_some] at hok
  cases hv : r.judge fl c with
  | unsubmitted =>
    -- such a completion is an error, for a submission would have been reported first
    obtain ⟨hto, hac, hsub⟩ := judge_end (.inl hv)
    have hio : fl.work.isolated = false := by
      refine Bool.eq_false_iff.mpr fun hio => ?_
      simp only [judge, hto, ne_eq, not_true_eq_false, ↓reduceIte, hio] at hv
      split_ifs at hv
    rcases h.heard fl hin hio [] c rest hc hto hac with ⟨err, hrr⟩ | hs
    · simp [hv, hrr] at hok
    · simp [Submitted, hsub hv] at hs
  | finished => exact ⟨.inl rfl, by simpa [hv] using hok⟩
  | isolated => exact ⟨.inr rfl, by simpa [hv] using hok⟩
  | _ => simp [hv] at hok

lemma Orderly.matches_of_handed (h : r.Orderly)
    (hc : r.complete = c :: rest) {fl : Inflight} (hin : r.inflight = some fl)
    {val : Value} (hok : r.handed c = some (.ok val)) : r.Matches fl c := by
  rcases (h.verdict_of_handed hc hin hok).1 with hv | hv
  · unfold judge at hv
    split_ifs at hv with hto hio _ hac _ hsub hop hge
    simp only [Bool.or_eq_true, beq_iff_eq, bne_iff_ne, not_or, not_not, Bool.not_eq_true]
      at hop hge
    exact ⟨(not_not.mp hto).symm, hop.2, hge.1, offGeneration_eq_false hge.2⟩
  obtain ⟨hio, hto⟩ := judge_isolated (.inl hv)
  obtain ⟨hzero, hal⟩ := h.unnumbered fl hin hio
  unfold judge at hv
  split_ifs at hv with _ hge
  simp only [Bool.or_eq_true, bne_iff_ne, not_or, not_not, Bool.not_eq_true] at hge
  refine ⟨hto.symm, ?_, hge.1.2, offGeneration_eq_false hge.2⟩
  rw [hzero, hal c (by simp [hc]) hto.symm]

variable {who : Option ReplyID}

lemma quiet_doneIsolated (work : Work) (err : Error) (bad : TraceResult) :
    Quiet who r (r.doneIsolated work (.error err) bad) := by
  cases work with
  | trace => exact quiet_doneTrace _ _ _ _ _ _ _
  | _ => exact quiet_refl _ _

/-- What is left of the operation in flight when the actor takes this completion. -/
def remains (r : Runtime) (c : Completion) : Option Inflight :=
  r.inflight.bind fun inflight =>
    match r.judge inflight c with
    | .ignored => some inflight
    | .admitted =>
      some { inflight with
        submitted := true, operation := c.operation, generation := c.generation }
    | _ => none

/-- A completion that hands over no success. -/
theorem quiet_completeWork (rest : List Completion) (b : Option Error)
    (hno : ∀ val, r.handed c ≠ some (.ok val))
    (hwho : ∀ fl, r.inflight = some fl → fl.work.bootstraps = true → who = fl.work.reply) :
    Quiet who { r with complete := rest, inflight := r.remains c }
      ({ r with complete := rest }.completeWork c b) := by
  rcases r.inflight.eq_none_or_eq_some with hin | ⟨fl, hin⟩
  · simp only [completeWork, remains, hin, bind_none]
    exact quiet_refl _ _
  have hwho := hwho fl hin
  simp only [handed, hin, bind_some] at hno
  rw [completeWork_eq hin]
  simp only [remains, hin, bind_some]
  cases hv : r.judge fl c with
  | ignored =>
    simp only [← hin]
    exact quiet_refl _ _
  | admitted => exact quiet_refl _ _
  | unsubmitted =>
    cases hres : c.result with
    | ok => simp [hv, hres] at hno
    | error => exact quiet_done _ _ _ hwho
  | stale => exact (quiet_failClosed _ _).trans (quiet_done _ _ _ hwho)
  | finished =>
    cases hres : c.result with
    | ok => simp [hv, hres] at hno
    | error =>
      dsimp only
      rw [finish_error]
      split_ifs
      · exact (quiet_failClosed _ _).trans (quiet_done _ _ _ hwho)
      · exact quiet_done _ _ _ hwho
  | isolated =>
    cases hres : c.result with
    | ok => simp [hv, hres] at hno
    | error => exact quiet_doneIsolated _ _ _
  | isolatedStale => exact quiet_doneIsolated _ _ _

/-! ### Between two turns -/

def Rested (r : Runtime) : Prop :=
  r.inflight = none → r.closing = false → r.faulted = false → r.pending = []

lemma Rested.startNext (h : r.Rested) : r.startNext = r := by
  unfold Runtime.startNext
  cases hp : r.pending with
  | nil => rfl
  | cons =>
    rw [length_cons, startNextLoop, if_pos]
    by_contra hno
    simp only [Bool.or_eq_true, not_or, Bool.not_eq_true, isSome_eq_false_iff,
      isNone_iff_eq_none] at hno
    simp [h hno.1.1 hno.1.2 hno.2] at hp

lemma pending_refused {r₀ : Runtime} {work : Work} {err : Error}
    (h : (r₀.refusal work).2 = some err) (r : Runtime) :
    (r.done work (.error err) none).faulted = true ∨
      (r.done work (.error err) none).pending = r.pending := by
  cases work with
  | rollbackClose _ rp =>
    left
    simp only [done, doneWith, doneRollbackClose]
    cases rp <;> exact failClosed_faulted _ _
  | trace =>
    right
    simp only [done, doneWith, doneTrace]
    split
    · rfl
    · simp only [Bool.false_eq_true, ↓reduceIte]
      split <;> rfl
  | inspection =>
    right
    simp only [done, doneWith, doneInspection, ifCurrent]
    split_ifs <;> rfl
  | readMemory | disassemble =>
    right
    simp only [done, doneWith, ifCurrent]
    split_ifs <;> rfl
  | _ => simp [refusal, Work.expectedGeneration, Work.boundTo] at h

lemma startNextLoop_faulted (hf : r.faulted = true) (fuel : Nat) : startNextLoop fuel r = r := by
  cases fuel with
  | zero => rfl
  | succ => simp [startNextLoop, hf]

lemma rested_startNext (r : Runtime) : r.startNext.Rested := by
  have hloop (fuel : Nat) (r : Runtime) (hfuel : r.pending.length ≤ fuel) :
      (startNextLoop fuel r).Rested := by
    induction fuel generalizing r with
    | zero => exact fun _ _ _ => length_eq_zero_iff.mp (Nat.le_zero.mp hfuel)
    | succ _ ih =>
      unfold startNextLoop
      split_ifs with hbz
      · intro hin hcl hlive
        simp [hin, hcl, hlive] at hbz
      split
      · rename_i hp
        exact fun _ _ _ => hp
      rename_i work rest hp
      simp only [hp, length_cons, Nat.add_le_add_iff_right] at hfuel
      dsimp only
      split
      · rename_i err hrr
        rcases pending_refused hrr { r with
          pending := rest, tracing := ({ r with pending := rest }.refusal work).1 } with hf | hp
        · rw [startNextLoop_faulted hf]
          intro _ _ hlive
          simp [hf] at hlive
        · exact ih _ (hp ▸ hfuel)
      · exact fun hin => by cases hin
  exact hloop _ r le_rfl

lemma Rested.step {i : Input} (h : r.Rested) (hst : r.step i = some r') : r'.Rested := by
  have htn {f : Runtime → Runtime} (hf : r.turn f = some r') : r'.Rested := by
    unfold turn at hf
    split_ifs at hf
    cases hf
    exact rested_startNext _
  cases i with
  | command cmd => exact htn (f := fun r => r.apply cmd) hst
  | completion =>
    simp only [Runtime.step] at hst
    split at hst
    · cases hst
    · exact htn hst
  | stateTick | consoleTick => exact htn hst
  | dispatch =>
    simp only [Runtime.step] at hst
    split at hst
    · cases hst
    · cases dispatched hst <;> exact h
  | worker =>
    cases worked hst with
    | inspect => rw [withLedger_eq]; exact h
    | _ => exact h
  | replace =>
    cases hst
    unfold replaceBridge
    split_ifs <;> exact h
  | receive | cancel | traceStatus =>
    cases hst
    exact h

lemma rested_run {opts : Options} {ins : List Input}
    (hru : run step (new opts) ins = some r) : r.Rested :=
  run_invariant (fun _ _ _ h => h.step) (fun _ _ _ => rfl) hru

/-- The actor has handed out this token and does not wait for it. -/
def Past (token : Nat) (r : Runtime) : Prop :=
  token ≤ r.nextToken ∧ ∀ inflight, r.inflight = some inflight → inflight.token ≠ token

lemma Past.move {tok : Nat} (h : r.Past tok) (hm : Move G r r') : r'.Past tok := by
  cases hm with
  | sample | bootstrap => rw [absorb_eq]; exact h
  | reducerErr | reducerFault => rw [actions_eq]; exact h
  | fault => exact ⟨h.1, fun _ hin => by cases hin⟩
  | allocate => rw [withLedger_eq]; exact h
  | launch =>
    refine ⟨h.1.trans (Nat.le_succ _), ?_⟩
    rintro _ ⟨⟩ hto
    have := h.1
    simp only at hto
    omega
  | acknowledge fl _ _ _ hin =>
    refine ⟨h.1, ?_⟩
    rintro _ ⟨⟩
    exact h.2 fl hin
  | settle => exact ⟨h.1, fun _ hi => by cases hi⟩
  | dispatch _ _ _ htn => cases htn <;> exact h
  | worker _ htn =>
    cases htn with
    | inspect => rw [withLedger_eq]; exact h
    | _ => exact h
  | _ => exact h

lemma Rested.ignores (h : r.Rested) (hc : r.complete = c :: rest)
    (hother : ∀ fl, r.inflight = some fl → fl.token ≠ c.token)
    {b : Option Error} (hst : r.step (.completion b) = some r') :
    r' = { r with complete := rest } := by
  have hsm : { r with complete := rest }.completeWork c b = { r with complete := rest } := by
    rcases r.inflight.eq_none_or_eq_some with hin | ⟨fl, hin⟩
    · simp only [completeWork, hin]
    · have hv : r.judge fl c = .ignored := by simp [judge, hother fl hin]
      rw [completeWork_eq hin, hv]
  simp only [Runtime.step, hc, turn] at hst
  split_ifs at hst
  cases hst
  rw [hsm]
  exact Rested.startNext (r := { r with complete := rest }) h

/-- The fence around completions: a success reaches its callback only if it is about the operation
in flight and the bridge was not replaced, any other completion takes no sample and makes nobody
succeed, and what arrives late is not even looked at. -/
theorem completion_fenced {opts : Options} {inputs : List Input}
    (hru : run step (new opts) inputs = some r) :
    (∀ c rest inflight value, r.complete = c :: rest → r.inflight = some inflight →
      r.handed c = some (.ok value) → r.Matches inflight c) ∧
    (∀ c rest b r', r.complete = c :: rest →
      (∀ inflight, r.inflight = some inflight → ¬ r.Matches inflight c) →
      r.step (.completion b) = some r' → r'.models = r.models ∧
        ∃ new, r'.replies = r.replies ++ new ∧ ∀ a ∈ new, a.err.isSome = true) ∧
    (∀ token later r₁ c rest b r', r.Past token → run step r later = some r₁ →
      r₁.complete = c :: rest → c.token = token → r₁.step (.completion b) = some r' →
      r' = { r₁ with complete := rest }) := by
  have hinv (r r' : Runtime) (_ : r.Base) (ht : r.Traffic) (h : r.Orderly) (hm : Move {} r r') :
      r'.Orderly := h.move ht hm
  obtain ⟨hb, -, hord⟩ := traffic_invariant hinv (orderly_new opts) (Guard.admits_all _ _) hru
  refine ⟨fun c rest inflight value hc hin hok => hord.matches_of_handed hc hin hok, ?_, ?_⟩
  · intro c rest b r' hc hno hst
    obtain ⟨who, hwho⟩ : ∃ who, ∀ inflight, r.inflight = some inflight →
        inflight.work.bootstraps = true → who = inflight.work.reply :=
      ⟨r.inflight.bind fun inflight => inflight.work.reply, fun inflight hin _ => by simp [hin]⟩
    have hqu : Quiet who { r with complete := rest, inflight := r.remains c }
        ({ r with complete := rest }.completeWork c b) := by
      refine quiet_completeWork rest b (fun value hok => ?_) hwho
      rcases r.inflight.eq_none_or_eq_some with hin | ⟨inflight, hin⟩
      · simp [handed, hin] at hok
      · exact hno inflight hin (hord.matches_of_handed hc hin hok)
    simp only [Runtime.step, hc, turn] at hst
    split_ifs at hst
    cases hst
    obtain ⟨hmod, -, -, later, hla, herro⟩ :=
      startNext_quiet ({ r with complete := rest }.completeWork c b)
    obtain ⟨new, hne, hal⟩ := hqu.replies
    refine ⟨hmod.trans hqu.models, new ++ later, ?_, fun a ha => ?_⟩
    · rw [hla, hne, append_assoc]
    · exact (mem_append.mp ha).elim (hal a) (herro a)
  · intro token later r₁ c rest b r' hpast hla hc hto hst
    have hru₁ : run step (new opts) (inputs ++ later) = some r₁ := by
      rw [run_append, hru]
      exact hla
    have hmov := run_moves hb (Guard.admits_all _ _) hla
    have hpast₁ : r₁.Past token := hmov.invariant (fun _ _ _ h hm => h.move hm) hb hpast
    exact (rested_run hru₁).ignores hc (fun inflight hin => hto ▸ hpast₁.2 inflight hin) hst

/-- The bridge is replaced between the submission of a sample and the message about it. -/
def replacedUnderSample : List Input :=
  bootstrap (stampedEvidence .stopped 1) ++
    [.command (.poll 1), .dispatch 4 .read, .dispatch 4 (.submit none), .replace, .completion none]

/-- The sample is taken nevertheless, and its result arrives. -/
def sampleReturns : List Input :=
  [.worker .take, .worker (.exchange (.ok (.evidence (stampedEvidence .running 1)))),
    .dispatch 4 .collect]

theorem completion_fenced_replaced :
    ∃ r r₁ r' c, run step (new {}) replacedUnderSample = some r ∧ r.Past 4 ∧
      run step r sampleReturns = some r₁ ∧ r₁.complete = [c] ∧ c.token = 4 ∧
      r₁.step (.completion none) = some r' ∧ r' = { r₁ with complete := [] } := by
  obtain ⟨r, hru, hnx, hnn, hla⟩ : ∃ r, run step (new {}) replacedUnderSample = some r ∧
      4 ≤ r.nextToken ∧ r.inflight.isNone ∧
      (run step r sampleReturns).any (fun r₁ => decide
        (r₁.complete.map Completion.token = [4] ∧ (r₁.step (.completion none)).isSome)) = true :=
    exists_run (by decide +kernel)
  obtain ⟨r₁, hla, hto, hst⟩ := exists_run hla
  obtain ⟨c, hc, hto⟩ := map_eq_singleton_iff.mp hto
  obtain ⟨r', hst⟩ := isSome_iff_exists.mp hst
  rw [isNone_iff_eq_none] at hnn
  have hpast : r.Past 4 := ⟨hnx, fun inflight hin => by simp [hnn] at hin⟩
  refine ⟨r, r₁, r', c, hru, hpast, hla, hc, hto, hst, ?_⟩
  exact (completion_fenced hru).2.2 4 _ _ c [] none r' hpast hla hc hto hst

end Runtime

end MultiDap.Actor
