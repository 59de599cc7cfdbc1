import MultiDap.Actor.Turn

/-!
# One operation at a time

The actor waits for one operation before it submits the next. Tokens tell the dispatch goroutines
and the jobs of the worker apart. An operation that the actor no longer waits for may still be
executed, but only after the session has failed closed or if it belongs to the bootstrap.
-/

namespace MultiDap.Actor

open Machine Inspection Stop Session Relation List

namespace Runtime

/-- The operations the executor has accepted and not finished, in the order in which it takes
them. -/
def accepted (r : Runtime) : List Job := (r.worker.map Running.job).toList ++ r.jobs

/-- The operation of this token may still be executed. -/
def Active (r : Runtime) (token : Nat) (work : Work) : Prop :=
  (∃ d ∈ r.dispatchers, d.phase.Unsubmitted ∧ d.token = token ∧ d.work = work) ∨
    ∃ j ∈ r.accepted, j.token = token ∧ j.work = work

/-- The actor learns of a submission before it learns of the end of the operation. -/
def Submitted (inflight : Inflight) (before : List Completion) : Prop :=
  inflight.submitted = true ∨ ∃ c ∈ before, c.token = inflight.token ∧ c.accepted = true

structure Traffic (r : Runtime) : Prop where
  dispatchers_le : ∀ d ∈ r.dispatchers, d.token ≤ r.nextToken
  accepted_le : ∀ j ∈ r.accepted, j.token ≤ r.nextToken
  complete_le : ∀ c ∈ r.complete, c.token ≤ r.nextToken
  distinct : (r.dispatchers.map Dispatcher.token).Nodup
  unique : (r.accepted.map Job.token).Nodup
  unsubmitted : ∀ d ∈ r.dispatchers, d.phase.Unsubmitted → ∀ j ∈ r.accepted, j.token ≠ d.token
  reported : ∀ d ∈ r.dispatchers, ∀ generation operation finished,
    d.phase = .waiting generation operation (some finished) → ∀ j ∈ r.accepted, j.token ≠ d.token
  gone : ∀ c ∈ r.complete, c.accepted = false → ∀ d ∈ r.dispatchers, d.token ≠ c.token
  same : ∀ inflight, r.inflight = some inflight → ∀ work, r.Active inflight.token work →
    work = inflight.work
  waited : r.faulted = false → ∀ token work, r.Active token work →
    (work.kind = .cores ∨ work.kind = .state) ∨
      ∃ inflight, r.inflight = some inflight ∧ inflight.token = token
  submitted : ∀ inflight, r.inflight = some inflight → ∀ d ∈ r.dispatchers,
    d.token = inflight.token → ¬ d.phase.Unsubmitted → Submitted inflight r.complete
  /-- An operation that is over for the actor but not for the worker was given up. -/
  ended : ∀ inflight, r.inflight = some inflight → ∀ before c after,
    r.complete = before ++ c :: after → c.token = inflight.token → c.accepted = false →
    ∀ work, r.Active inflight.token work →
      (∃ err, c.result = .error err ∧ completionFailureIsTerminal err = true) ∧
        Submitted inflight before
  /-- The actor waits for whatever is not submitted yet, and has heard nothing of it. -/
  early : ∀ d ∈ r.dispatchers, d.phase.Unsubmitted →
    (∃ inflight, r.inflight = some inflight ∧ inflight.token = d.token) ∧
      ∀ c ∈ r.complete, c.token ≠ d.token
  /-- The executor never sees a trace operation. -/
  bridged : ∀ j ∈ r.accepted, j.work.isolated = false

lemma traffic_new (opts : Options) : (new opts).Traffic := by
  constructor <;> simp [new, accepted, Active]

variable {G : Guard} {r r' : Runtime} {fl : Inflight}

lemma Submitted.mono {before before' : List Completion}
    (h : Submitted fl before) (hsub : ∀ c ∈ before, c ∈ before') : Submitted fl before' :=
  h.imp_right fun ⟨c, hc, ht⟩ => ⟨c, hsub c hc, ht⟩

/-! ### The channel -/

lemma split_concat {α : Type} {l before after : List α} {a c : α}
    (h : l ++ [a] = before ++ c :: after) :
    (before = l ∧ c = a) ∨ ∃ after', l = before ++ c :: after' := by
  rcases after.eq_nil_or_concat with rfl | ⟨after', b, rfl⟩
  · obtain ⟨h₁, h₂⟩ := append_inj' h rfl
    exact .inl ⟨h₁.symm, (List.cons.inj h₂).1.symm⟩
  · rw [concat_eq_append, ← cons_append, ← append_assoc] at h
    exact .inr ⟨after', (append_inj' h rfl).1⟩

variable {c : Completion} {rest : List Completion}

lemma Traffic.ignore (h : r.Traffic) (hc : r.complete = c :: rest)
    (hother : ∀ fl, r.inflight = some fl → fl.token ≠ c.token) :
    Traffic { r with complete := rest } := by
  have hsub : ∀ c' ∈ rest, c' ∈ r.complete := fun c' h' => hc ▸ mem_cons_of_mem c h'
  have hrs : ∀ fl, r.inflight = some fl → ∀ before,
      Submitted fl (c :: before) → Submitted fl before := by
    rintro fl hin before (hs | ⟨c', hc', ht, ha⟩)
    · exact .inl hs
    rcases mem_cons.mp hc' with rfl | hc'
    · exact absurd ht.symm (hother fl hin)
    · exact .inr ⟨c', hc', ht, ha⟩
  refine { h with complete_le := ?_, gone := ?_, submitted := ?_, ended := ?_, early := ?_ }
  · exact fun c' h' => h.complete_le c' (hsub c' h')
  · exact fun c' h' => h.gone c' (hsub c' h')
  · intro fl hin d hd ht hw
    exact hrs fl hin rest (hc ▸ h.submitted fl hin d hd ht hw)
  · intro fl hin before c' after heq ht ha work hac
    obtain ⟨hterm, hs⟩ := h.ended fl hin (c :: before) c' after
      (hc.trans (congrArg (c :: ·) heq)) ht ha work hac
    exact ⟨hterm, hrs fl hin before hs⟩
  · exact fun d hd hu => (h.early d hd hu).imp_right fun hno c' hc' => hno c' (hsub c' hc')

lemma Traffic.acknowledge (h : r.Traffic)
    (hc : r.complete = c :: rest) (hin : r.inflight = some fl) : Traffic { r with
      complete := rest
      inflight := some { fl with
        submitted := true, operation := c.operation, generation := c.generation } } := by
  have hsub : ∀ c' ∈ rest, c' ∈ r.complete := fun c' h' => hc ▸ mem_cons_of_mem c h'
  refine { h with
    complete_le := fun c' h' => h.complete_le c' (hsub c' h')
    gone := fun c' h' => h.gone c' (hsub c' h')
    same := ?_, waited := ?_, submitted := ?_, ended := ?_, early := ?_ }
  · rintro _ ⟨⟩ work hac
    exact h.same fl hin work hac
  · intro hf tok work hac
    refine (h.waited hf tok work hac).imp_right ?_
    rintro ⟨i, hi, ht⟩
    obtain rfl : fl = i := by simpa [hin] using hi
    exact ⟨_, rfl, ht⟩
  · rintro _ ⟨⟩ d hd ht hw
    exact .inl rfl
  · rintro _ ⟨⟩ before c' after heq ht ha work hac
    obtain ⟨hterm, -⟩ := h.ended fl hin (c :: before) c' after
      (hc.trans (congrArg (c :: ·) heq)) ht ha work hac
    exact ⟨hterm, .inl rfl⟩
  intro d hd hu
  obtain ⟨⟨i, hi, ht⟩, hno⟩ := h.early d hd hu
  obtain rfl : fl = i := by simpa [hin] using hi
  exact ⟨⟨_, rfl, ht⟩, fun c' hc' => hno c' (hsub c' hc')⟩

lemma judge_end (h : r.judge fl c = .unsubmitted ∨ r.judge fl c = .finished) :
    c.token = fl.token ∧ c.accepted = false ∧
      (r.judge fl c = .unsubmitted → fl.submitted = false) := by
  unfold judge at h ⊢
  split_ifs at h ⊢ <;> simp_all

lemma Traffic.none_early (h : r.Traffic)
    (hen : ∀ fl, r.inflight = some fl → ∃ c ∈ r.complete, c.token = fl.token) :
    ∀ d ∈ r.dispatchers, ¬ d.phase.Unsubmitted := by
  intro d hd hu
  obtain ⟨⟨fl, hin, ht⟩, hno⟩ := h.early d hd hu
  obtain ⟨c, hc, hto⟩ := hen fl hin
  exact hno c hc (hto.trans ht)

lemma Traffic.inactive (h : r.Traffic) (hin : r.inflight = some fl) (hc : r.complete = c :: rest)
    (hs : r.Settles fl c) {work : Work} (hac : r.Active fl.token work) :
    work.kind = .cores ∨ work.kind = .state := by
  rcases hs with hun | ⟨hfin, hdef⟩ | ⟨hio, hto⟩
  · -- the actor has not heard of a submission, so that there was none
    obtain ⟨hto, hcc, hsub⟩ := judge_end (.inl hun)
    obtain ⟨-, hbe⟩ := h.ended fl hin [] c rest hc hto hcc work hac
    simp [Submitted, hsub hun] at hbe
  · obtain ⟨hto, hcc, -⟩ := judge_end (.inr hfin)
    obtain ⟨⟨err, hrr, hterm⟩, -⟩ := h.ended fl hin [] c rest hc hto hcc work hac
    rw [h.same fl hin work hac]
    exact hdef err hrr hterm
  -- a trace operation is over as soon as its goroutine is
  rcases hac with ⟨d, hd, hu, ht, rfl⟩ | ⟨j, hj, ht, rfl⟩
  · exact absurd (hto.symm.trans ht.symm) ((h.early d hd hu).2 c (by simp [hc]))
  have hsm := h.same fl hin j.work (.inr ⟨j, hj, ht, rfl⟩)
  rw [← hsm, h.bridged j hj] at hio
  cases hio

lemma Settles.token (hs : r.Settles fl c) : fl.token = c.token := by
  rcases hs with hun | ⟨hfin, -⟩ | ⟨-, hto⟩
  · exact judge_token hun (by simp)
  · exact judge_token hfin (by simp)
  · exact hto

lemma Traffic.settle (h : r.Traffic) (hin : r.inflight = some fl) (hc : r.complete = c :: rest)
    (hs : r.Settles fl c) : Traffic { r with complete := rest, inflight := none } := by
  have hsub : ∀ c' ∈ rest, c' ∈ r.complete := fun c' h' => hc ▸ mem_cons_of_mem c h'
  have hear := h.none_early fun i hi => by
    obtain rfl : fl = i := by simpa [hin] using hi
    exact ⟨c, by simp [hc], hs.token.symm⟩
  refine { h with
    complete_le := fun c' h' => h.complete_le c' (hsub c' h')
    gone := fun c' h' => h.gone c' (hsub c' h')
    same := fun _ hn => by cases hn
    waited := ?_
    submitted := fun _ hn => by cases hn
    ended := fun _ hn => by cases hn
    early := fun d hd hu => absurd hu (hear d hd) }
  intro hf tok work hac
  refine .inl ((h.waited hf tok work hac).elim id ?_)
  rintro ⟨i, hi, rfl⟩
  obtain rfl : fl = i := by simpa [hin] using hi
  exact h.inactive hin hc hs hac

lemma Traffic.fault (h : r.Traffic) (models : Models) (opening : Bool)
    {complete : List Completion} (hc : complete <:+ r.complete) (op : Operation) (cause : Error)
    (hen : ∀ fl, r.inflight = some fl → ∃ c ∈ r.complete, c.token = fl.token) :
    Traffic ({ r with models, opening, complete, inflight := none }.fault op cause) :=
  { h with
    complete_le := fun c h' => h.complete_le c (hc.subset h')
    gone := fun c h' => h.gone c (hc.subset h')
    same := fun _ hn => by cases hn
    waited := fun hf => by cases hf
    submitted := fun _ hn => by cases hn
    ended := fun _ hn => by cases hn
    early := fun d hd hu => absurd hu (h.none_early hen d hd) }

lemma Traffic.launch (h : r.Traffic) (work : Work) (rest : List Work)
    (hid : r.inflight = none) : Traffic ({ r with pending := rest }.launch work) := by
  have hnew : ∀ tok work', ({ r with pending := rest }.launch work).Active tok work' →
      tok = r.nextToken + 1 ∧ work' = work ∨ r.Active tok work' := by
    rintro tok work' (⟨d, hd, hu, rfl, rfl⟩ | ⟨j, hj, rfl, rfl⟩)
    · rcases mem_concat.mp hd with hd | rfl
      · exact .inr (.inl ⟨d, hd, hu, rfl, rfl⟩)
      · exact .inl ⟨rfl, rfl⟩
    · exact .inr (.inr ⟨j, hj, rfl, rfl⟩)
  have hold : ∀ tok work', r.Active tok work' → tok ≤ r.nextToken := by
    rintro tok work' (⟨d, hd, hu, rfl, rfl⟩ | ⟨j, hj, rfl, rfl⟩)
    · exact h.dispatchers_le d hd
    · exact h.accepted_le j hj
  constructor
  case dispatchers_le =>
    intro d hd
    rcases mem_concat.mp hd with hd | rfl
    · exact (h.dispatchers_le d hd).trans (Nat.le_succ _)
    · exact le_rfl
  case accepted_le => exact fun j hj => (h.accepted_le j hj).trans (Nat.le_succ _)
  case complete_le => exact fun c hc => (h.complete_le c hc).trans (Nat.le_succ _)
  case distinct =>
    simp only [Runtime.launch, List.map_append, map_cons, map_nil]
    refine List.nodup_append'.mpr ⟨h.distinct, List.nodup_singleton _, ?_⟩
    intro tok hme hn
    obtain ⟨d, hd, rfl⟩ := List.mem_map.mp hme
    have := h.dispatchers_le d hd
    simp only [List.mem_singleton] at hn
    omega
  case unique => exact h.unique
  case unsubmitted =>
    intro d hd hu j hj
    rcases mem_concat.mp hd with hd | rfl
    · exact h.unsubmitted d hd hu j hj
    · have := h.accepted_le j hj
      exact Nat.ne_of_lt (Nat.lt_succ_of_le this)
  case reported =>
    intro d hd g o f hp j hj
    rcases mem_concat.mp hd with hd | rfl
    · exact h.reported d hd g o f hp j hj
    · cases hp
  case gone =>
    intro c hc ha d hd
    rcases mem_concat.mp hd with hd | rfl
    · exact h.gone c hc ha d hd
    · have := h.complete_le c hc
      exact (Nat.ne_of_lt (Nat.lt_succ_of_le this)).symm
  case same =>
    rintro _ ⟨⟩ work' hac
    rcases hnew _ _ hac with ⟨-, rfl⟩ | hac
    · rfl
    · exact absurd (hold _ _ hac) (by simp)
  case waited =>
    intro hf tok work' hac
    rcases hnew _ _ hac with ⟨rfl, -⟩ | hac
    · exact .inr ⟨_, rfl, rfl⟩
    refine .inl ((h.waited hf tok work' hac).elim id ?_)
    rintro ⟨i, hi, -⟩
    simp [hid] at hi
  case submitted =>
    rintro _ ⟨⟩ d hd ht hw
    rcases mem_concat.mp hd with hd | rfl
    · have := h.dispatchers_le d hd
      simp only at ht
      omega
    · exact absurd trivial hw
  case ended =>
    rintro _ ⟨⟩ before c after heq ht
    have := h.complete_le c (heq ▸ by simp)
    simp only at ht
    omega
  case early =>
    intro d hd hu
    rcases mem_concat.mp hd with hd | rfl
    · exact absurd hu (h.none_early (by simp [hid]) d hd)
    · refine ⟨⟨_, rfl, rfl⟩, fun c hc => ?_⟩
      exact Nat.ne_of_lt (Nat.lt_succ_of_le (h.complete_le c hc))
  case bridged => exact h.bridged

/-! ### The dispatch goroutines -/

variable {d : Dispatcher}

lemma Traffic.endDispatch (h : r.Traffic) (hd : d ∈ r.dispatchers)
    (executor : Executor) (hto : c.token = d.token) (hcc : c.accepted = false)
    (hen : ∀ fl, r.inflight = some fl → fl.token = d.token → ∀ j ∈ r.accepted, j.token = d.token →
        (∃ err, c.result = .error err ∧ completionFailureIsTerminal err = true) ∧
          Submitted fl r.complete) :
    Traffic (({ r with executor }.deliver c).endDispatch d.token) := by
  have hsub : ∀ d' ∈ r.dispatchers.filter (·.token != d.token),
      d' ∈ r.dispatchers ∧ d'.token ≠ d.token := by
    intro d' hd'
    simpa using hd'
  have hac : ∀ tok work, (({ r with executor }.deliver c).endDispatch d.token).Active tok work →
      r.Active tok work := by
    rintro tok work (⟨d', hd', hu, ht⟩ | hj)
    · exact .inl ⟨d', (hsub d' hd').1, hu, ht⟩
    · exact .inr hj
  constructor
  case dispatchers_le => exact fun d' hd' => h.dispatchers_le d' (hsub d' hd').1
  case accepted_le => exact h.accepted_le
  case complete_le =>
    intro c' hc'
    rcases mem_concat.mp hc' with hc' | rfl
    · exact h.complete_le c' hc'
    · exact hto.le.trans (h.dispatchers_le d hd)
  case distinct => exact h.distinct.sublist (filter_sublist.map _)
  case unique => exact h.unique
  case unsubmitted => exact fun d' hd' => h.unsubmitted d' (hsub d' hd').1
  case reported => exact fun d' hd' => h.reported d' (hsub d' hd').1
  case gone =>
    intro c' hc' ha d' hd'
    rcases mem_concat.mp hc' with hc' | rfl
    · exact h.gone c' hc' ha d' (hsub d' hd').1
    · exact hto ▸ (hsub d' hd').2
  case same => exact fun i hi work hw => h.same i hi work (hac _ _ hw)
  case waited => exact fun hf tok work hw => h.waited hf tok work (hac _ _ hw)
  case submitted =>
    intro i hi d' hd' ht hw
    exact (h.submitted i hi d' (hsub d' hd').1 ht hw).mono fun c' hc' => List.mem_append_left _ hc'
  case ended =>
    intro i hi before c' after heq ht ha work hw
    rcases split_concat heq with ⟨rfl, rfl⟩ | ⟨after', heq⟩
    · -- the new message: the goroutine is gone, so that only the worker can hold the operation
      rcases hw with ⟨d', hd', -, ht', -⟩ | ⟨j, hj, ht', -⟩
      · exact absurd (ht'.trans (ht.symm.trans hto)) (hsub d' hd').2
      · exact hen i hi (ht.symm.trans hto) j hj (ht'.trans (ht.symm.trans hto))
    · exact h.ended i hi before c' after' heq ht ha work (hac _ _ hw)
  case early =>
    intro d' hd' hu
    refine (h.early d' (hsub d' hd').1 hu).imp_right fun hno c' hc' => ?_
    rcases mem_concat.mp hc' with hc' | rfl
    · exact hno c' hc'
    · exact hto ▸ (hsub d' hd').2.symm
  case bridged => exact h.bridged

lemma Traffic.rephase (h : r.Traffic) {f : Dispatcher → Dispatcher}
    (hto : ∀ d, (f d).token = d.token) (hwk : ∀ d, (f d).work = d.work)
    (hun : ∀ d ∈ r.dispatchers, (f d).phase.Unsubmitted ↔ d.phase.Unsubmitted)
    (hre : ∀ d ∈ r.dispatchers, ∀ gen op finished,
      (f d).phase = .waiting gen op (some finished) → ∀ j ∈ r.accepted, j.token ≠ d.token) :
    Traffic { r with dispatchers := r.dispatchers.map f } := by
  have hac : ∀ tok work, Active { r with dispatchers := r.dispatchers.map f } tok work →
      r.Active tok work := by
    rintro tok work (⟨d', hd', hu, rfl, rfl⟩ | hj)
    · obtain ⟨d, hd, rfl⟩ := List.mem_map.mp hd'
      exact .inl ⟨d, hd, (hun d hd).mp hu, (hto d).symm, (hwk d).symm⟩
    · exact .inr hj
  refine { h with
    dispatchers_le := ?_, distinct := ?_, unsubmitted := ?_, reported := ?_, gone := ?_
    same := fun i hi work hw => h.same i hi work (hac _ _ hw)
    waited := fun hf tok work hw => h.waited hf tok work (hac _ _ hw)
    submitted := ?_
    ended := fun i hi before c after heq ht ha work hw =>
      h.ended i hi before c after heq ht ha work (hac _ _ hw)
    early := ?_ }
  · rintro _ hd'
    obtain ⟨d, hd, rfl⟩ := List.mem_map.mp hd'
    exact hto d ▸ h.dispatchers_le d hd
  · have hsm : (r.dispatchers.map f).map Dispatcher.token = r.dispatchers.map Dispatcher.token := by
      simp [Function.comp_def, hto]
    exact hsm ▸ h.distinct
  · rintro _ hd' hu j hj
    obtain ⟨d, hd, rfl⟩ := List.mem_map.mp hd'
    exact hto d ▸ h.unsubmitted d hd ((hun d hd).mp hu) j hj
  · rintro _ hd' g o fin hp j hj
    obtain ⟨d, hd, rfl⟩ := List.mem_map.mp hd'
    exact hto d ▸ hre d hd g o fin hp j hj
  · rintro c hc ha _ hd'
    obtain ⟨d, hd, rfl⟩ := List.mem_map.mp hd'
    exact hto d ▸ h.gone c hc ha d hd
  · rintro i hi _ hd' ht hw
    obtain ⟨d, hd, rfl⟩ := List.mem_map.mp hd'
    exact h.submitted i hi d hd ((hto d).symm.trans ht) (mt (hun d hd).mpr hw)
  rintro _ hd' hu
  obtain ⟨d, hd, rfl⟩ := List.mem_map.mp hd'
  rw [hto d]
  exact h.early d hd ((hun d hd).mp hu)

lemma mem_setPhase {tok : Nat} {ph : Phase} {d' : Dispatcher}
    (hd' : d' ∈ (r.setPhase tok ph).dispatchers) : ∃ d ∈ r.dispatchers, d'.token = d.token ∧
      d'.work = d.work ∧ (d' = d ∨ d.token = tok ∧ d'.phase = ph) := by
  obtain ⟨d, hd, rfl⟩ := List.mem_map.mp hd'
  refine ⟨d, hd, ?_⟩
  split_ifs with ht
  · exact ⟨rfl, rfl, .inr ⟨ht, rfl⟩⟩
  · exact ⟨rfl, rfl, .inl rfl⟩

section

variable (h : r.Traffic)

include h

lemma Traffic.eq_of_token {d d' : Dispatcher} (hd : d ∈ r.dispatchers)
    (hd' : d' ∈ r.dispatchers) (ht : d'.token = d.token) : d' = d :=
  inj_on_of_nodup_map h.distinct hd' hd ht

lemma Traffic.setPhase (hd : d ∈ r.dispatchers) {ph : Phase}
    (hu : d.phase.Unsubmitted) (hph : ph.Unsubmitted) : Traffic (r.setPhase d.token ph) := by
  refine h.rephase (fun d' => ?_) (fun d' => ?_) (fun d' hd' => ?_) ?_
  · split_ifs <;> rfl
  · split_ifs <;> rfl
  · split_ifs with ht
    · obtain rfl := h.eq_of_token hd hd' ht
      exact iff_of_true hph hu
    · rfl
  intro d' hd' g o fin hp
  split_ifs at hp with ht
  · simp only at hp
    simp [hp, Phase.Unsubmitted] at hph
  · exact h.reported d' hd' g o fin hp

lemma Traffic.submit (hd : d ∈ r.dispatchers)
    (hu : d.phase.Unsubmitted) (hwk : d.work.isolated = false) (executor : Executor)
    (gen op : Nat) : Traffic { ({ r with executor }.deliver
          ⟨d.token, gen, op, true, .ok .nothing, {}⟩).setPhase d.token (.waiting gen op none) with
        jobs := r.jobs ++ [⟨d.token, executor.generation, op, d.work⟩] } := by
  set job : Job := ⟨d.token, executor.generation, op, d.work⟩ with hjo
  set c : Completion := ⟨d.token, gen, op, true, .ok .nothing, {}⟩ with hcdef
  set r₁ : Runtime := { ({ r with executor }.deliver c).setPhase d.token
    (.waiting gen op none) with jobs := r.jobs ++ [job] } with hr₁
  -- the goroutine itself waits, the others are as before
  have hme : ∀ d' ∈ r₁.dispatchers,
      d' = { d with phase := .waiting gen op none } ∨ d' ∈ r.dispatchers ∧ d'.token ≠ d.token := by
    intro d' hd'
    obtain ⟨d₀, hd₀, rfl⟩ := List.mem_map.mp hd'
    split_ifs with ht
    · rw [h.eq_of_token hd hd₀ ht]
      exact .inl rfl
    · exact .inr ⟨hd₀, ht⟩
  have hcc : r₁.accepted = r.accepted ++ [job] := by
    simp [accepted, hr₁, Runtime.setPhase, deliver]
  have hjobs : ∀ j ∈ r₁.accepted, j ∈ r.accepted ∨ j = job := by
    intro j hj
    simpa [hcc] using hj
  have hac : ∀ tok work, r₁.Active tok work → r.Active tok work := by
    rintro tok work (⟨d', hd', hu', ht⟩ | ⟨j, hj, ht⟩)
    · rcases hme d' hd' with rfl | ⟨hd', -⟩
      · exact absurd hu' id
      · exact .inl ⟨d', hd', hu', ht⟩
    rcases hjobs j hj with hj | rfl
    · exact .inr ⟨j, hj, ht⟩
    · exact .inl ⟨d, hd, hu, ht⟩
  constructor
  case dispatchers_le =>
    intro d' hd'
    rcases hme d' hd' with rfl | ⟨hd', -⟩
    · exact h.dispatchers_le d hd
    · exact h.dispatchers_le d' hd'
  case accepted_le =>
    intro j hj
    rcases hjobs j hj with hj | rfl
    · exact h.accepted_le j hj
    · exact h.dispatchers_le d hd
  case complete_le =>
    intro c' hc'
    rcases mem_concat.mp hc' with hc' | rfl
    · exact h.complete_le c' hc'
    · exact h.dispatchers_le d hd
  case distinct =>
    have hsm : r₁.dispatchers.map Dispatcher.token = r.dispatchers.map Dispatcher.token := by
      simp only [hr₁, Runtime.setPhase, deliver, List.map_map]
      refine List.map_congr_left fun d' _ => ?_
      simp only [Function.comp_apply]
      split_ifs <;> rfl
    exact hsm ▸ h.distinct
  case unique =>
    rw [hcc, List.map_append]
    refine List.nodup_append'.mpr ⟨h.unique, List.nodup_singleton _, ?_⟩
    intro tok hme' hn
    obtain ⟨j, hj, rfl⟩ := List.mem_map.mp hme'
    exact h.unsubmitted d hd hu j hj (List.mem_singleton.mp hn)
  case unsubmitted =>
    intro d' hd' hu' j hj
    rcases hme d' hd' with rfl | ⟨hd', hne⟩
    · exact absurd hu' id
    rcases hjobs j hj with hj | rfl
    · exact h.unsubmitted d' hd' hu' j hj
    · exact hne.symm
  case reported =>
    intro d' hd' g o fin hp j hj
    rcases hme d' hd' with rfl | ⟨hd', hne⟩
    · cases hp
    rcases hjobs j hj with hj | rfl
    · exact h.reported d' hd' g o fin hp j hj
    · exact hne.symm
  case gone =>
    intro c' hc' ha d' hd'
    rcases mem_concat.mp hc' with hc' | rfl
    · rcases hme d' hd' with rfl | ⟨hd', -⟩
      · exact h.gone c' hc' ha d hd
      · exact h.gone c' hc' ha d' hd'
    · cases ha
  case same => exact fun i hi work hw => h.same i hi work (hac _ _ hw)
  case waited => exact fun hf tok work hw => h.waited hf tok work (hac _ _ hw)
  case submitted =>
    intro i hi d' hd' ht hw
    rcases hme d' hd' with rfl | ⟨hd', -⟩
    · exact .inr ⟨c, by simp [hr₁, Runtime.setPhase, deliver], ht, rfl⟩
    · exact (h.submitted i hi d' hd' ht hw).mono fun c' hc' => List.mem_append_left _ hc'
  case ended =>
    intro i hi before c' after heq ht ha work hw
    rcases split_concat heq with ⟨rfl, rfl⟩ | ⟨after', heq⟩
    · cases ha
    · exact h.ended i hi before c' after' heq ht ha work (hac _ _ hw)
  case early =>
    intro d' hd' hu'
    rcases hme d' hd' with rfl | ⟨hd', hne⟩
    · exact absurd hu' id
    refine (h.early d' hd' hu').imp_right fun hno c' hc' => ?_
    rcases mem_concat.mp hc' with hc' | rfl
    · exact hno c' hc'
    · exact hne.symm
  case bridged =>
    intro j hj
    rcases hjobs j hj with hj | rfl
    · exact h.bridged j hj
    · exact hwk

/-! ### The worker -/

lemma Traffic.retire {worker : Option Running} {jobs : List Job}
    (hsub : (accepted { r with worker, jobs }).Sublist r.accepted) :
    Traffic { r with worker, jobs } := by
  have hac : ∀ tok work, Active { r with worker, jobs } tok work → r.Active tok work :=
    fun tok work => Or.imp_right fun ⟨j, hj, ht⟩ => ⟨j, hsub.subset hj, ht⟩
  exact { h with
    accepted_le := fun j hj => h.accepted_le j (hsub.subset hj)
    unique := h.unique.sublist (hsub.map _)
    unsubmitted := fun d hd hu j hj => h.unsubmitted d hd hu j (hsub.subset hj)
    reported := fun d hd g o f hp j hj => h.reported d hd g o f hp j (hsub.subset hj)
    same := fun i hi work hw => h.same i hi work (hac _ _ hw)
    waited := fun hf tok work hw => h.waited hf tok work (hac _ _ hw)
    ended := fun i hi before c after heq ht ha work hw =>
      h.ended i hi before c after heq ht ha work (hac _ _ hw)
    bridged := fun j hj => h.bridged j (hsub.subset hj) }

lemma Traffic.report {job : Job} {task : Task} (res : Except Error Value)
    (hw : r.worker = some ⟨job, task⟩) : Traffic (r.report job res) := by
  have hold : r.accepted = job :: r.jobs := by simp [accepted, hw]
  have hret : Traffic { r with worker := none } := by
    refine h.retire ?_
    rw [hold]
    exact sublist_cons_self job r.jobs
  refine hret.rephase (fun d => ?_) (fun d => ?_) (fun d hd => ?_) ?_
  · split <;> [split_ifs; skip] <;> rfl
  · split <;> [split_ifs; skip] <;> rfl
  · split
    · rename_i hp
      split_ifs <;> simp [hp, Phase.Unsubmitted]
    · rfl
  intro d hd g o fin hp j hj
  have hfr : ∀ j ∈ r.jobs, j.token ≠ job.token := by
    have := h.unique
    rw [hold, map_cons, nodup_cons] at this
    intro j hj ht
    exact this.1 (List.mem_map.mpr ⟨j, hj, ht⟩)
  by_cases ht : d.token = job.token
  · exact ht ▸ hfr j hj
  have hsm : d.phase = .waiting g o (some fin) := by
    split at hp
    · rwa [if_neg ht] at hp
    · exact hp
  exact h.reported d hd g o fin hsm j (hold ▸ mem_cons_of_mem _ hj)

theorem Traffic.move (hm : Move G r r') : r'.Traffic := by
  cases hm with
  | sample | bootstrap => rw [absorb_eq]; exact { h with }
  | reducerErr =>
    rw [actions_eq]
    exact { h with }
  | reducerFault ev err _ hid =>
    have hfa := h.fault (r.fed ev).models r.opening (suffix_refl _) .state err (by simp [hid])
    rw [actions_eq]
    rw [← hid] at hfa
    exact { hfa with }
  | fault models opening _ op cause _ _ _ hcomplete hen =>
    exact { h.fault models opening hcomplete op cause hen with }
  | allocate => rw [withLedger_eq]; exact { h with }
  | launch work rest _ hid => exact h.launch work rest hid
  | ignore _ _ hc hother => exact h.ignore hc hother
  | acknowledge _ _ _ hc hin => exact h.acknowledge hc hin
  | settle _ _ _ hc hin hs => exact h.settle hin hc hs
  | dispatch d _ hd htn =>
    cases htn with
    | read _ hph => exact h.setPhase hd (by simp [hph, Phase.Unsubmitted]) trivial
    | refuse _ _ executor hph =>
      refine h.endDispatch hd executor rfl rfl fun i hi ht j hj hj' => ?_
      -- nothing was submitted
      refine absurd hj' (h.unsubmitted d hd ?_ j hj)
      rcases hph with hp | ⟨g, hp⟩ <;> simp [hp, Phase.Unsubmitted]
    | submit gen op executor hph hwk =>
      exact h.submit hd (by simp [hph, Phase.Unsubmitted]) hwk executor gen op
    | isolated _ _ _ hph =>
      refine h.endDispatch hd r.executor rfl rfl fun i hi ht j hj hj' => ?_
      exact absurd hj' (h.unsubmitted d hd (by simp [hph, Phase.Unsubmitted]) j hj)
    | collect gen op finished hph =>
      refine h.endDispatch hd r.executor rfl rfl fun i hi ht j hj hj' => ?_
      -- the worker has reported
      exact absurd hj' (h.reported d hd gen op finished hph j hj)
    | expire _ _ _ err hph hrr =>
      refine h.endDispatch hd r.executor rfl rfl fun i hi ht j hj hj' => ⟨⟨err, rfl, hrr⟩, ?_⟩
      exact h.submitted i hi d hd ht.symm (by simp [hph, Phase.Unsubmitted])
  | worker _ htn =>
    cases htn with
    | take _ _ hid hj =>
      refine h.retire ?_
      simp [accepted, hid, hj]
    | transact job _ next _ _ hw =>
      have : Traffic { r with worker := some ⟨job, .transact next⟩ } :=
        h.retire (by simp [accepted, hw])
      exact { this with }
    | inspect job _ next _ _ hw =>
      have : Traffic { r with worker := some ⟨job, .inspect next⟩ } :=
        h.retire (by simp [accepted, hw])
      rw [withLedger_eq]
      exact { this with }
    | report _ _ res hw => exact h.report res hw
  | _ => exact { h with }

lemma Traffic.worker (hlive : r.faulted = false) {job : Job} {task : Task}
    (hw : r.worker = some ⟨job, task⟩) : (job.work.kind = .cores ∨ job.work.kind = .state) ∨
      ∃ fl, r.inflight = some fl ∧ fl.work = job.work := by
  have hac : r.Active job.token job.work := .inr ⟨job, by simp [accepted, hw], rfl, rfl⟩
  refine (h.waited hlive _ _ hac).imp_right ?_
  rintro ⟨i, hi, ht⟩
  exact ⟨i, hi, (h.same i hi job.work (ht ▸ hac)).symm⟩

end

/-- The rule for invariants that rest on the order of the operations. -/
theorem traffic_invariant {Inv : Runtime → Prop} {opts : Options} {ins : List Input}
    (hmove : ∀ r r', r.Base → r.Traffic → Inv r → Move G r r' → Inv r') (h₀ : Inv (new opts))
    (hg : Along step G.Admits (new opts) ins) (h : run step (new opts) ins = some r) :
    r.Base ∧ r.Traffic ∧ Inv r := by
  have hboth (r r' : Runtime) (hb : r.Base) (h : r.Traffic ∧ Inv r) (hm : Move G r r') :
      r'.Traffic ∧ Inv r' := ⟨h.1.move hm, hmove r r' hb h.1 h.2 hm⟩
  exact moves_invariant hboth ⟨traffic_new opts, h₀⟩ hg h

end Runtime

end MultiDap.Actor
