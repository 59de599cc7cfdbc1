import MultiDap.Actor.Traffic

/-!
# From the queue to the bridge

An operation waits in the queue, and then for its dispatch goroutine, before it is submitted. What
was checked when it was accepted may no longer hold by then. `Standing` is the rule for conditions
on the reducer that do hold until the submission; the two results are about cleanups, which are
scheduled in a stop, and about execution requests, which are accepted from the holder of the lease.
-/

namespace MultiDap.Actor

open Machine Inspection Stop Session Relation List

namespace Runtime

variable {G : Guard} {r r' : Runtime}

/-! ### What waits -/

variable {work : Work}

lemma mem_waiting : work ∈ r.waiting ↔
    work ∈ r.pending ∨ ∃ d ∈ r.dispatchers, d.phase.Unsubmitted ∧ d.work = work := by
  simp [waiting, and_assoc]

/-- Where an operation comes from that waits after a move. -/
inductive Awaited (G : Guard) (r r' : Runtime) (work : Work) : Prop where
  | before (h : work ∈ r.waiting)
  | queued (h : r.Queues G work) (hsm : r'.models = r.models)
  | scheduled (hs : r.models.reducer.state = .stopped)
      (hwk : work = .breakpointCleanup r.models.reducer.stopEpoch)
      (hsm : r'.models = r.models)

lemma mem_waiting_mono (h : work ∈ r'.waiting) (hpen : ∀ w ∈ r'.pending, w ∈ r.pending)
    (hear : ∀ d ∈ r'.dispatchers, d.phase.Unsubmitted →
      ∃ d₀ ∈ r.dispatchers, d₀.phase.Unsubmitted ∧ d₀.work = d.work) : work ∈ r.waiting := by
  rcases mem_waiting.mp h with h | ⟨d, hd, hu, rfl⟩
  · exact mem_waiting.mpr (.inl (hpen work h))
  · exact mem_waiting.mpr (.inr (hear d hd hu))

lemma Dispatched.waiting (htr : r.Traffic) {d : Dispatcher} (hd : d ∈ r.dispatchers)
    (h : r.Dispatched d r') (hwk : work ∈ r'.waiting) : work ∈ r.waiting := by
  have hsome {r₁ : Runtime} {tok : Nat} (hsub : ∀ d' ∈ r₁.dispatchers, d' ∈ r.dispatchers)
      {d' : Dispatcher} (hd' : d' ∈ (r₁.endDispatch tok).dispatchers)
      (hu : d'.phase.Unsubmitted) :
      ∃ d₀ ∈ r.dispatchers, d₀.phase.Unsubmitted ∧ d₀.work = d'.work :=
    ⟨d', hsub d' (mem_of_mem_filter hd'), hu, rfl⟩
  cases h with
  | read _ hphase =>
    refine mem_waiting_mono hwk (fun _ h => h) fun d' hd' hu => ?_
    obtain ⟨d₀, hd₀, rfl⟩ := mem_map.mp hd'
    split_ifs at hu ⊢ with ht
    · obtain rfl := htr.eq_of_token hd hd₀ ht
      exact ⟨d₀, hd₀, by simp [hphase, Phase.Unsubmitted], rfl⟩
    · exact ⟨d₀, hd₀, hu, rfl⟩
  | refuse | collect | expire | isolated =>
    exact mem_waiting_mono hwk (fun _ h => h) fun d' hd' hu => hsome (fun _ h => h) hd' hu
  | submit =>
    refine mem_waiting_mono hwk (fun _ h => h) fun d' hd' hu => ?_
    obtain ⟨d₀, hd₀, rfl⟩ := mem_map.mp hd'
    split_ifs at hu ⊢ with ht
    · exact absurd hu id
    · exact ⟨d₀, hd₀, hu, rfl⟩

lemma Move.awaited (htr : r.Traffic) (hm : Move G r r')
    (hwk : work ∈ r'.waiting) : Awaited G r r' work := by
  cases hm with
  | sample | bootstrap =>
    rw [absorb_eq] at hwk
    exact .before hwk
  | reducerErr =>
    rw [actions_eq] at hwk
    exact .before hwk
  | reducerFault =>
    rw [actions_eq] at hwk
    refine .before (mem_waiting_mono hwk ?_ fun d hd hu => ⟨d, hd, hu, rfl⟩)
    rintro _ ⟨⟩
  | fault =>
    refine .before (mem_waiting_mono hwk ?_ fun d hd hu => ⟨d, hd, hu, rfl⟩)
    rintro _ ⟨⟩
  | allocate => rw [withLedger_eq] at hwk; exact .before hwk
  | enqueue _ hq =>
    rcases mem_waiting.mp hwk with h | h
    · rcases mem_concat.mp h with h | rfl
      · exact .before (mem_waiting.mpr (.inl h))
      · exact .queued hq rfl
    · exact .before (mem_waiting.mpr (.inr h))
  | schedule _ _ hs =>
    rcases mem_waiting.mp hwk with h | h
    · rcases mem_append.mp h with h | h
      · exact .before (mem_waiting.mpr (.inl h))
      · exact .scheduled hs (mem_singleton.mp h) rfl
    · exact .before (mem_waiting.mpr (.inr h))
  | pop work _ hp =>
    refine .before (mem_waiting_mono hwk ?_ fun d hd hu => ⟨d, hd, hu, rfl⟩)
    exact fun w hw => hp ▸ mem_cons_of_mem work hw
  | launch work _ _ _ hp =>
    refine .before (mem_waiting.mpr ?_)
    rcases mem_waiting.mp hwk with h | ⟨d, hd, hu, rfl⟩
    · exact .inl (hp ▸ mem_cons_of_mem work h)
    rcases mem_concat.mp hd with hd | rfl
    · exact .inr ⟨d, hd, hu, rfl⟩
    · exact .inl (by simp [hp])
  | dispatch _ _ hd htn => exact .before (htn.waiting htr hd hwk)
  | worker _ htn =>
    cases htn with
    | inspect => rw [withLedger_eq] at hwk; exact .before hwk
    | report =>
      refine .before (mem_waiting_mono hwk (fun _ h => h) fun d hd hu => ?_)
      obtain ⟨d₀, hd₀, rfl⟩ := mem_map.mp hd
      refine ⟨d₀, hd₀, ?_⟩
      cases hp : d₀.phase with
      | waiting =>
        simp only [hp] at hu
        split_ifs at hu
        · exact absurd hu id
        · simp [hp, Phase.Unsubmitted] at hu
      | _ => exact ⟨trivial, by simp⟩
    | _ => exact .before hwk
  | _ => exact .before hwk

/-! ### How the reducer changes -/

lemma Traffic.waiting_nil (h : r.Traffic) (hf : r.pending = []) (hid : r.inflight = none) :
    r.waiting = [] := by
  rw [eq_nil_iff_forall_not_mem]
  intro work hwk
  rcases mem_waiting.mp hwk with hp | ⟨d, hd, hu, -⟩
  · simp [hf] at hp
  · exact h.none_early (by simp [hid]) d hd hu

inductive Revised (G : Guard) (r r' : Runtime) : Prop where
  | kept (h : r'.models.reducer = r.models.reducer)
  | control (configuring : Bool) (leaseOwner : ControllerID)
      (hle : leaseOwner = r.models.reducer.leaseOwner ∨ r.models.reducer.leaseOwner = "" ∨
        G.released r.waiting)
      (h : r'.models.reducer = { r.models.reducer with configuring, leaseOwner })
  | accepted (evidence : StateEvidence) (hlive : r.faulted = false)
      (hg : G.sample r.models evidence) (hq : G.queued r.pending r.models evidence)
      (hid : r.inflight = none) (hfe : (r.fed evidence).failure = none)
      (h : r'.models = (r.fed evidence).models)
  | rejected (evidence : StateEvidence) (failure : Failure) (hlive : r.faulted = false)
      (hfe : (r.fed evidence).failure = some failure) (h : r'.models = (r.fed evidence).models)
      (hover : r.opening = true ∨ r'.waiting = [])

lemma Move.revised (htr : r.Traffic) (hm : Move G r r') : Revised G r r' := by
  have haft := htr.move hm
  cases hm with
  | control configuring leaseOwner hle => exact .control configuring leaseOwner hle rfl
  | sample ev _ hlive hid hg hq hfe =>
    exact .accepted ev hlive hg hq hid hfe (by rw [absorb_eq])
  | bootstrap ev _ hlive hid hg hq hfe =>
    exact .accepted ev hlive hg hq hid hfe (by rw [absorb_eq])
  | arbiterErr _ _ _ _ hfe => exact .kept (fed_arbiterErr hfe)
  | reducerErr ev _ hope hlive _ hfe =>
    exact .rejected ev _ hlive hfe (by rw [actions_eq]) (.inl hope)
  | reducerFault ev _ hlive hid hfe =>
    refine .rejected ev _ hlive hfe (by rw [actions_eq]; rfl) (.inr ?_)
    refine haft.waiting_nil rfl ?_
    rw [actions_eq]
    exact hid
  | clash ev _ hope hlive _ hfe =>
    exact .rejected ev _ hlive hfe rfl (.inl hope)
  | fault _ _ _ _ _ hlive hmod =>
    rcases hmod with rfl | ⟨ev, err, hfe, rfl⟩
    · exact .kept rfl
    · exact .rejected ev _ hlive hfe rfl (.inr (haft.waiting_nil rfl rfl))
  | allocate =>
    refine .kept ?_
    rw [withLedger_eq]
  | dispatch _ _ _ htn => cases htn <;> exact .kept rfl
  | worker _ htn =>
    cases htn with
    | inspect =>
      refine .kept ?_
      rw [withLedger_eq]
    | _ => exact .kept rfl
  | _ => exact .kept rfl

/-! ### The rule -/

/-- A condition on the reducer that holds for everything that waits. -/
def Standing (P : Reducer → Work → Prop) (r : Runtime) : Prop :=
  ∀ work ∈ r.waiting, P r.models.reducer work

/-- The condition holds when an operation is accepted, and the changes of the reducer keep it for
the operations that still wait. -/
theorem Standing.move {P : Reducer → Work → Prop} (htr : r.Traffic) (h : r.Standing P)
    (hm : Move G r r') (hque : ∀ work, r.Queues G work → P r.models.reducer work)
    (hsch : r.models.reducer.state = .stopped →
      P r.models.reducer (.breakpointCleanup r.models.reducer.stopEpoch))
    (hrevi : Revised G r r' → ∀ work ∈ r.waiting, work ∈ r'.waiting →
      P r.models.reducer work → P r'.models.reducer work) : r'.Standing P := by
  intro work hwk
  cases hm.awaited htr hwk with
  | before hbefore => exact hrevi (hm.revised htr) work hbefore hwk (h work hbefore)
  | queued hq hsm => exact hsm ▸ hque work hq
  | scheduled hs hcleanup hsm => exact hsm ▸ hcleanup ▸ hsch hs

/-- The operation that a step hands to the bridge. -/
def submits (r : Runtime) : Input → Option Work
  | .dispatch token (.submit none) =>
    match r.dispatchers.find? (·.token == token) with
    | some ⟨_, work, .submitting _⟩ =>
      if work.isolated || r.executor.closed then none else some work
    | _ => none
  | _ => none

lemma submits_spec {i : Input} (h : r.submits i = some work) :
    (∃ d ∈ r.dispatchers, d.phase.Unsubmitted ∧ d.work = work) ∧
      ∃ r' job, r.step i = some r' ∧ r'.jobs = r.jobs ++ [job] ∧ job.work = work := by
  unfold submits at h
  split at h
  · split at h
    · rename_i tok _ tok' work' gen hfind
      split_ifs at h with hno
      cases h
      simp only [Bool.or_eq_true, not_or, Bool.not_eq_true] at hno
      refine ⟨⟨_, mem_of_find?_eq_some hfind, trivial, rfl⟩, ?_⟩
      simp [step, hfind, dispatchTurn, hno.1, submit, hno.2]
    · cases h
  · cases h

lemma waiting_of_submits {i : Input} (h : r.submits i = some work) : work ∈ r.waiting :=
  mem_waiting.mpr (.inr (submits_spec h).1)

/-! ### Cleanups -/

/-- While a cleanup is queued, a sample shows nothing but the stop the target is in. -/
def calmCleanup : Guard where
  queued works m evidence := (∃ work ∈ works, work.cleansUp.isSome = true) →
    Reducer.observedState evidence.state.status = .unknown ∨
      Reducer.observedState evidence.state.status = .stopped ∧
        (sessionObservation evidence.state).stopStamp = m.reducer.stopEpoch

instance : calmCleanup.Checkable where
  queued _ _ _ := inferInstanceAs (Decidable (_ → _))

/-- The target is in the stop the cleanup was scheduled for. -/
def InItsStop (reducer : Reducer) (work : Work) : Prop :=
  ∀ epoch, work.cleansUp = some epoch → reducer.state = .stopped ∧ reducer.stopEpoch = epoch

lemma fed_calm (hb : r.Base) (hlive : r.faulted = false) {ev : StateEvidence}
    (hok : (r.fed ev).failure = none) (hs : r.models.reducer.state = .stopped)
    (hcalm : Reducer.observedState ev.state.status = .unknown ∨
      Reducer.observedState ev.state.status = .stopped ∧
        (sessionObservation ev.state).stopStamp = r.models.reducer.stopEpoch) :
    (r.fed ev).models.reducer.state = .stopped ∧
      (r.fed ev).models.reducer.stopEpoch = r.models.reducer.stopEpoch := by
  have htak := hb.taken hlive hok
  generalize r.fed ev = fed at htak ⊢
  cases htak with
  | unknown _ _ _ _ _ _ hr =>
    rcases hr with rfl | rfl <;> exact ⟨hs, rfl⟩
  | moved _ _ _ hl hn =>
    rcases hcalm with hunk | ⟨hob, hstamp⟩
    · simp [hunk] at hn
    have hsp := (hb.tied hlive hl).reducer.hasStop_of_stopped hs
    have hqu : r.models.reducer.transition (sessionObservation ev.state) = .quiet := by
      simp only [Reducer.transition, hs, hsp, hstamp]
      simp [sessionObservation, hob, Transition.between]
    refine ⟨hob, ?_⟩
    simp [Models.moved, Reducer.move, hqu, Transition.stops, Transition.turns]

theorem InItsStop.move (hb : r.Base) (htr : r.Traffic) (h : r.Standing InItsStop)
    (hm : Move calmCleanup r r') : r'.Standing InItsStop := by
  refine Standing.move htr h hm ?_ ?_ ?_
  · intro work hq ep hcle
    simp [hq.kept] at hcle
  · intro hs ep hcle
    exact ⟨hs, Option.some.inj hcle⟩
  intro hrev work hbefore haft hin ep hcle
  obtain ⟨hs, he⟩ := hin ep hcle
  cases hrev with
  | kept hsm => exact hsm ▸ ⟨hs, he⟩
  | control _ _ _ hsm => exact hsm ▸ ⟨hs, he⟩
  | accepted _ hlive _ hq hid hfe hsm =>
    -- nothing is in flight, so that the cleanup is in the queue
    have hpen : work ∈ r.pending := by
      rcases mem_waiting.mp hbefore with hp | ⟨d, hd, hu, -⟩
      · exact hp
      · exact absurd hu (htr.none_early (by simp [hid]) d hd)
    obtain ⟨hs', he'⟩ := fed_calm hb hlive hfe hs (hq ⟨work, hpen, by simp [hcle]⟩)
    exact hsm ▸ ⟨hs', he'.trans he⟩
  | rejected _ _ hlive _ _ hover =>
    rcases hover with hope | hnn
    · -- the first sample has not been accepted yet, and nothing was scheduled
      have huns := hb.unseen (hb.unopened hope) hlive
      simp [hs] at huns
    · simp [hnn] at haft

/-- A cleanup is submitted in the stop it was scheduled for, in every run in which no sample shows
anything but that stop while a cleanup is queued. -/
theorem cleanup_in_its_stop {opts : Options} {inputs : List Input}
    (hru : run step (new opts) inputs = some r)
    (hcalm : Along step calmCleanup.Admits (new opts) inputs) {i : Input} {epoch : UInt64}
    (hsub : r.submits i = some (.breakpointCleanup epoch)) :
    r.models.reducer.state = .stopped ∧ r.models.reducer.stopEpoch = epoch := by
  have hinit : (new opts).Standing InItsStop := by simp [Standing, waiting, new]
  obtain ⟨-, -, hst⟩ := traffic_invariant (fun _ _ => InItsStop.move) hinit hcalm hru
  exact hst _ (waiting_of_submits hsub) epoch rfl

def inOrder : Breakpoint.Visit Breakpoint.Logical := ⟨id, fun xs => .refl xs⟩

/-- A frontend detaches from a stopped target while a sample is under way. The cleanup is queued
behind the sample, and then its goroutine is ready to submit it. -/
def detachDuringSample (evidence : StateEvidence) : List Input :=
  bootstrap (stampedEvidence .stopped 1) ++
    [.command (.attach "a" 1), .stateTick, .command (.detach "a" inOrder 2)] ++
    perform 4 (.ok (.evidence evidence)) ++ [.dispatch 5 .read]

theorem cleanup_in_its_stop_same_stop : ∃ r, run step (new { breakpointRunner := true })
        (detachDuringSample (stampedEvidence .stopped 1)) = some r ∧
      Along step calmCleanup.Admits (new { breakpointRunner := true })
        (detachDuringSample (stampedEvidence .stopped 1)) ∧
      r.submits (.dispatch 5 (.submit none)) = some (.breakpointCleanup 1) ∧
      r.models.reducer.state = .stopped ∧ r.models.reducer.stopEpoch = 1 := by
  have hcalm : Along step calmCleanup.Admits (new { breakpointRunner := true })
      (detachDuringSample (stampedEvidence .stopped 1)) := by
    decide +kernel
  obtain ⟨r, hru, hsub⟩ : ∃ r, run step (new { breakpointRunner := true })
      (detachDuringSample (stampedEvidence .stopped 1)) = some r ∧
      r.submits (.dispatch 5 (.submit none)) = some (.breakpointCleanup 1) :=
    exists_run (by decide +kernel)
  exact ⟨r, hru, hcalm, hsub, cleanup_in_its_stop hru hcalm hsub⟩

/-- The sample that the cleanup waited for shows a running target, and the cleanup is submitted all
the same. -/
theorem cleanup_on_running_target : ∃ r, run step (new { breakpointRunner := true })
        (detachDuringSample (stampedEvidence .running 1)) = some r ∧
      r.submits (.dispatch 5 (.submit none)) = some (.breakpointCleanup 1) ∧
      r.models.reducer.state = .running :=
  exists_run (by decide +kernel)

/-! ### Execution requests -/

/-- The lease is given back only while no execution request waits. -/
def noneWaits : Guard where
  released works := ∀ work ∈ works, work.requester = none

instance : noneWaits.Checkable where
  released _ := inferInstanceAs (Decidable (∀ work ∈ _, _))

/-- The frontend that asked for the execution holds the lease. -/
def HeldBy (reducer : Reducer) (work : Work) : Prop :=
  ∀ owner, work.requester = some owner → owner ≠ "" ∧ reducer.leaseOwner = owner

lemma fed_leaseOwner (ev : StateEvidence) :
    (r.fed ev).models.reducer.leaseOwner = r.models.reducer.leaseOwner := by
  simp only [fed, Models.feed]
  split
  · rfl
  · split <;> exact Reducer.observe_leaseOwner _ _

theorem HeldBy.move (htr : r.Traffic) (h : r.Standing HeldBy) (hm : Move noneWaits r r') :
    r'.Standing HeldBy := by
  refine Standing.move htr h hm (fun work hq => hq.requester) ?_ ?_
  · intro hs ow hre
    cases hre
  intro hrev work hbefore haft hheld ow hre
  obtain ⟨hne, hle⟩ := hheld ow hre
  cases hrev with
  | kept hsm => exact hsm ▸ ⟨hne, hle⟩
  | control _ _ hgiven hsm =>
    rcases hgiven with heq | hfree | hnn
    · exact hsm ▸ ⟨hne, heq.trans hle⟩
    · exact absurd (hle.symm.trans hfree) hne
    · simp [hnn work hbefore] at hre
  | accepted _ _ _ _ _ _ hsm =>
    exact ⟨hne, by rw [hsm, fed_leaseOwner, hle]⟩
  | rejected _ _ _ _ hsm =>
    exact ⟨hne, by rw [hsm, fed_leaseOwner, hle]⟩

/-- A continue, pause or step is submitted while the frontend that asked for it holds the lease, in
every run in which the lease is given back only while no such request waits. -/
theorem execution_under_lease {opts : Options} {inputs : List Input}
    (hru : run step (new opts) inputs = some r)
    (hnn : Along step noneWaits.Admits (new opts) inputs) {i : Input} {work : Work}
    {owner : ControllerID} (hsub : r.submits i = some work) (hre : work.requester = some owner) :
    owner ≠ "" ∧ r.models.reducer.leaseOwner = owner := by
  have hinit : (new opts).Standing HeldBy := by simp [Standing, waiting, new]
  obtain ⟨-, -, hst⟩ := traffic_invariant (fun _ _ _ => HeldBy.move) hinit hnn hru
  exact hst work (waiting_of_submits hsub) owner hre

/-- A frontend asks a stopped target to continue, while a sample is under way. -/
def continueDuringSample : List Input :=
  bootstrap (stampedEvidence .stopped 1) ++
    [.command (.attach "a" 1), .command (.acquire "a" 2), .stateTick,
      .command (.execute "a" 0 .continue (.ok [0]) 3)]

/-- The sample ends, and the goroutine of the next operation is ready to submit it. -/
def sampleEnds : List Input :=
  perform 4 (.ok (.evidence (stampedEvidence .stopped 1))) ++ [.dispatch 5 .read]

theorem execution_under_lease_kept :
    ∃ r, run step (new {}) (continueDuringSample ++ sampleEnds) = some r ∧
      Along step noneWaits.Admits (new {}) (continueDuringSample ++ sampleEnds) ∧
      r.submits (.dispatch 5 (.submit none)) = some (.singleCoreExecution "a" 0 .continue 3) ∧
      "a" ≠ "" ∧ r.models.reducer.leaseOwner = "a" := by
  have hnn : Along step noneWaits.Admits (new {}) (continueDuringSample ++ sampleEnds) := by
    decide +kernel
  obtain ⟨r, hru, hsub⟩ : ∃ r, run step (new {}) (continueDuringSample ++ sampleEnds) = some r ∧
      r.submits (.dispatch 5 (.submit none)) = some (.singleCoreExecution "a" 0 .continue 3) :=
    exists_run (by decide +kernel)
  exact ⟨r, hru, hnn, hsub, execution_under_lease hru hnn hsub rfl⟩

/-- The frontend releases the lease before the sample ends, and another one acquires it. The target
is continued all the same. -/
theorem execution_after_release : ∃ r, run step (new {}) (continueDuringSample ++
        [.command (.release "a" 4), .command (.attach "b" 5), .command (.acquire "b" 6)] ++
        sampleEnds) = some r ∧
      r.submits (.dispatch 5 (.submit none)) = some (.singleCoreExecution "a" 0 .continue 3) ∧
      r.models.reducer.leaseOwner = "b" :=
  exists_run (by decide +kernel)

end Runtime

end MultiDap.Actor
