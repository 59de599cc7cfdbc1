import MultiDap.Actor.References
import MultiDap.Actor.Submission

/-!
# The budget of cleanups

Every stop is good for one cleanup that a sample asks for and one that a detach asks for. The actor
remembers the stop epochs of the last two, and both start at zero. Zero is a stop epoch like any
other: in that stop the actor takes both cleanups for done before there was any.
-/

namespace MultiDap.Actor

open Machine Inspection Stop Session Relation List Option

/-- The operation runs a transaction on the breakpoint store. -/
def Work.transacts (work : Work) : Bool := work.owner.isSome || work.cleansUp.isSome

lemma Work.transacts_of_task {opts : Options} {work : Work}
    {prog : Breakpoint.Transact (Except Error Value)}
    (h : work.task opts = .transact prog) : work.transacts = true := by
  cases work with
  | inspection =>
    simp only [Work.task] at h
    split at h <;> cases h
  | breakpoints | sourceResolution | breakpointCleanup => rfl
  | _ => cases h

namespace Runtime

variable {G : Guard} {r r' : Runtime}

/-! ### Without a runner the store stays empty -/

/-- A store that nothing was ever put into. -/
def Vacant (store : Breakpoint.Store) : Prop :=
  store.live = [] ∧ store.pending = [] ∧ store.orphaned = []

lemma Vacant.detach {world : Breakpoint.World} (h : Vacant world.store) (ow : ControllerID)
    (vis : Breakpoint.Visit Breakpoint.Logical) : Vacant (world.detach ow vis).store := by
  obtain ⟨hlive, hpen, horp⟩ := h
  have hnn : vis.order world.store.live = [] := by
    rw [hlive]
    exact List.Perm.eq_nil (vis.perm [])
  unfold Breakpoint.World.detach Breakpoint.Store.requestCleanupSignal
  dsimp only
  split_ifs
  · exact ⟨hlive, hpen, horp⟩
  · simp only [hnn]
    exact ⟨by simp [hlive], hpen, horp⟩

/-- Nothing under way will touch the store. -/
structure Untouched (r : Runtime) : Prop where
  vacant : Vacant r.world.store
  pending : ∀ work ∈ r.pending, work.transacts = false
  dispatchers : ∀ d ∈ r.dispatchers, d.work.transacts = false
  jobs : ∀ job ∈ r.jobs, job.work.transacts = false
  worker : ∀ job program, r.worker ≠ some ⟨job, .transact program⟩

lemma untouched_new (opts : Options) : (new opts).Untouched := by
  constructor <;> simp [new, Vacant]

lemma Queues.transacts {work : Work} (h : r.Queues G work)
    (hno : r.opts.breakpointRunner = false) : work.transacts = false := by
  have howner : work.owner = none := by
    by_contra hsome
    obtain ⟨ow, hon⟩ := ne_none_iff_exists'.mp hsome
    simpa [hno] using (h.owner ow hon).2
  simp [Work.transacts, howner, h.kept]

lemma Untouched.dispatched (h : r.Untouched) {d : Dispatcher} (hd : d ∈ r.dispatchers)
    (htn : r.Dispatched d r') : r'.Untouched := by
  have hen (token : Nat) :
      ∀ d' ∈ r.dispatchers.filter (·.token != token), d'.work.transacts = false :=
    fun d' hd' => h.dispatchers d' (mem_of_mem_filter hd')
  have hph (token : Nat) (phase : Phase) : ∀ d' ∈ r.dispatchers.map
      (fun d => if d.token = token then { d with phase } else d), d'.work.transacts = false := by
    intro d' hd'
    obtain ⟨d₀, hd₀, rfl⟩ := mem_map.mp hd'
    split_ifs <;> exact h.dispatchers d₀ hd₀
  cases htn with
  | read => exact { h with dispatchers := hph _ _ }
  | submit =>
    refine { h with dispatchers := hph _ _, jobs := ?_ }
    intro job hjo
    rcases mem_concat.mp hjo with hjo | rfl
    · exact h.jobs job hjo
    · exact h.dispatchers d hd
  | _ => exact { h with dispatchers := hen _ }

lemma Untouched.worked (h : r.Untouched) (htn : r.Worked r') : r'.Untouched := by
  cases htn with
  | take job jobs _ hj =>
    have hjo : job.work.transacts = false := h.jobs job (by simp [hj])
    refine { h with jobs := ?_, worker := ?_ }
    · exact fun j hme => h.jobs j (hj ▸ mem_cons_of_mem job hme)
    intro job' prog hw
    obtain ⟨rfl, htask⟩ : job = job' ∧ job.work.task r.opts = .transact prog := by
      simpa using hw
    simp [Work.transacts_of_task htask] at hjo
  | transact job prog _ _ _ hw => exact absurd hw (h.worker job prog)
  | inspect => rw [withLedger_eq]; exact { h with worker := by simp }
  | report =>
    refine { h with dispatchers := ?_, worker := by simp [report] }
    intro d' hd'
    obtain ⟨d₀, hd₀, rfl⟩ := mem_map.mp hd'
    split <;> [split_ifs; skip] <;> exact h.dispatchers d₀ hd₀

lemma Move.opts (hm : Move G r r') : r'.opts = r.opts := by
  cases hm with
  | sample | bootstrap => rw [absorb_eq]
  | reducerErr => rw [actions_eq]
  | reducerFault => rw [actions_eq]; rfl
  | allocate => rw [withLedger_eq]
  | dispatch _ _ _ htn => cases htn <;> rfl
  | worker _ htn =>
    cases htn with
    | inspect => rw [withLedger_eq]
    | _ => rfl
  | _ => rfl

theorem Untouched.move (hno : r.opts.breakpointRunner = false) (h : r.Untouched)
    (hm : Move G r r') : r'.Untouched := by
  cases hm with
  | sample | bootstrap => rw [absorb_eq]; exact { h with }
  | reducerErr =>
    rw [actions_eq]
    exact { h with }
  | reducerFault =>
    rw [actions_eq]
    exact { h with pending := by simp [Runtime.fault] }
  | fault =>
    exact { h with pending := by simp [Runtime.fault, announce] }
  | withdraw ow vis => exact { h with vacant := h.vacant.detach ow vis }
  | allocate => rw [withLedger_eq]; exact { h with }
  | enqueue _ hq =>
    refine { h with pending := ?_ }
    intro work' hme
    rcases mem_concat.mp hme with hme | rfl
    · exact h.pending work' hme
    · exact hq.transacts hno
  | schedule _ _ _ hrunn => simp [hno] at hrunn
  | pop work _ hp =>
    exact { h with pending := fun w hw => h.pending w (hp ▸ mem_cons_of_mem work hw) }
  | launch work _ _ _ hp =>
    refine { h with
      pending := fun w hw => h.pending w (hp ▸ mem_cons_of_mem work hw), dispatchers := ?_ }
    intro d hd
    rcases mem_concat.mp hd with hd | rfl
    · exact h.dispatchers d hd
    · exact h.pending work (by simp [hp])
  | dispatch _ _ hd htn => exact h.dispatched hd htn
  | worker _ htn => exact h.worked htn
  | _ => exact { h with }

/-! ### One cleanup of each kind in a stop -/

structure Budget (r : Runtime) : Prop where
  below : ∀ entry ∈ r.scheduled, entry.2 ≤ r.cleanupEpoch entry.1
  reached : ∀ immediate, r.cleanupEpoch immediate ≤ r.models.reducer.stopEpoch
  noted : ∀ immediate, r.cleanupEpoch immediate = 0 ∨
    (immediate, r.cleanupEpoch immediate) ∈ r.scheduled
  once : r.scheduled.Nodup

lemma budget_new (opts : Options) : (new opts).Budget where
  below := by simp [new]
  reached := by simp [new, cleanupEpoch]
  noted := by simp [new, cleanupEpoch]
  once := nodup_nil

lemma cleanupEpoch_schedule (imm kind : Bool) : (r.schedule imm).cleanupEpoch kind =
      if kind = imm then r.models.reducer.stopEpoch else r.cleanupEpoch kind := by
  cases imm <;> cases kind <;> rfl

lemma Budget.schedule (h : r.Budget) {imm : Bool}
    (hnew : r.cleanupEpoch imm ≠ r.models.reducer.stopEpoch) : (r.schedule imm).Budget := by
  have hmono (kind : Bool) : r.cleanupEpoch kind ≤ (r.schedule imm).cleanupEpoch kind := by
    rw [cleanupEpoch_schedule]
    split_ifs
    · exact h.reached kind
    · exact UInt64.le_refl _
  constructor
  case below =>
    intro ent hme
    rcases mem_concat.mp hme with hme | rfl
    · exact UInt64.le_trans (h.below ent hme) (hmono ent.1)
    · rw [cleanupEpoch_schedule, if_pos rfl]
      exact UInt64.le_refl _
  case reached =>
    intro kind
    rw [cleanupEpoch_schedule]
    split_ifs
    · exact UInt64.le_refl _
    · exact h.reached kind
  case noted =>
    intro kind
    rw [cleanupEpoch_schedule]
    split_ifs with heq
    · exact .inr (heq ▸ mem_append_right _ (mem_singleton_self _))
    · exact (h.noted kind).imp_right (mem_append_left _)
  case once =>
    refine nodup_append'.mpr ⟨h.once, nodup_singleton _, ?_⟩
    intro ent hme hn
    obtain rfl := mem_singleton.mp hn
    exact hnew (UInt64.le_antisymm (h.reached imm) (h.below _ hme))

lemma Budget.withModels (h : r.Budget) {m : Models}
    (hle : r.models.reducer.stopEpoch ≤ m.reducer.stopEpoch) : Budget { r with models := m } :=
  { h with reached := fun kind => UInt64.le_trans (h.reached kind) hle }

theorem Budget.move (hb : r.Base) (h : r.Budget) (hm : Move G r r') : r'.Budget := by
  cases hm with
  | sample _ _ hlive =>
    rw [absorb_eq]
    exact { h.withModels (fed_stopEpoch_le hb hlive) with }
  | bootstrap _ _ hlive =>
    rw [absorb_eq]
    exact { h.withModels (fed_stopEpoch_le hb hlive) with }
  | arbiterErr _ _ hlive => exact h.withModels (fed_stopEpoch_le hb hlive)
  | reducerErr _ _ _ hlive =>
    rw [actions_eq]
    exact { h.withModels (fed_stopEpoch_le hb hlive) with }
  | reducerFault _ _ hlive =>
    rw [actions_eq]
    exact { h.withModels (fed_stopEpoch_le hb hlive) with }
  | clash _ _ _ hlive => exact h.withModels (fed_stopEpoch_le hb hlive)
  | fault _ _ _ _ _ hlive hmod =>
    rcases hmod with rfl | ⟨ev, err, hfe, rfl⟩
    · exact { h with }
    · exact { h.withModels (fed_stopEpoch_le hb hlive) with }
  | allocate => rw [withLedger_eq]; exact { h with }
  | schedule _ _ _ _ hnew => exact h.schedule hnew
  | dispatch _ _ _ htn => cases htn <;> exact { h with }
  | worker _ htn =>
    cases htn with
    | inspect => rw [withLedger_eq]; exact { h with }
    | _ => exact { h with }
  | _ => exact { h with }

/-! ### Callbacks of failed operations schedule nothing -/

lemma respondTo_scheduled (rp : Option ReplyID) (err : Option Error) :
    (r.respondTo rp err).scheduled = r.scheduled := by
  cases rp <;> rfl

section failed

variable {fail : Fail} (hfail : ∀ r op err, (fail r op err).scheduled = r.scheduled)

include hfail

lemma bootstrapFailed_scheduled (op : Operation) (rp : Option ReplyID) (err : Error) :
    (r.bootstrapFailed fail op rp err).scheduled = r.scheduled := by
  unfold bootstrapFailed
  split_ifs
  · exact respondTo_scheduled _ _
  · exact (respondTo_scheduled _ _).trans (hfail _ _ _)
  · rfl
  · exact (respondTo_scheduled _ _).trans (hfail _ _ _)

lemma doneWith_error_scheduled (work : Work) (err : Error) (b : Option Error) :
    (r.doneWith fail work (.error err) b).scheduled = r.scheduled := by
  cases work with
  | cores => exact bootstrapFailed_scheduled hfail _ _ _
  | state rp =>
    have heq : r.doneWith fail (.state rp) (.error err) b = if r.opening then
        r.bootstrapFailed fail .state rp err else r.respondTo rp (some err) := rfl
    rw [heq]
    split_ifs
    · exact bootstrapFailed_scheduled hfail _ _ _
    · exact respondTo_scheduled _ _
  | console =>
    simp only [doneWith, doneConsole, noteConsoleFailure]
    split_ifs <;> rfl
  | inspection =>
    simp only [doneWith, doneInspection, doneReply]
    split <;> split_ifs <;> rfl
  | readMemory | disassemble =>
    simp only [doneWith, doneReply]
    split <;> rfl
  | rollbackClose => exact (respondTo_scheduled _ _).trans (hfail _ _ _)
  | trace =>
    simp only [doneWith, doneTrace]
    split_ifs <;> rfl
  | _ => rfl

end failed

lemma failClosed_scheduled (op : Operation) (cause : Error) :
    (r.failClosed op cause).scheduled = r.scheduled := by
  have hdra (works : List Work) (r₁ : Runtime) :
      (works.foldl drainOne r₁).scheduled = r₁.scheduled := by
    induction works generalizing r₁ with
    | nil => rfl
    | cons work _ ih =>
      exact (ih _).trans (doneWith_error_scheduled (fun _ _ _ => rfl) work _ _)
  unfold failClosed
  dsimp only
  split_ifs
  · rfl
  · exact hdra r.pending (r.fault op cause)
  · exact hdra r.pending (r.fault op cause)

lemma startNext_scheduled : r.startNext.scheduled = r.scheduled := by
  have hloop (fuel : Nat) (r : Runtime) : (startNextLoop fuel r).scheduled = r.scheduled := by
    induction fuel generalizing r with
    | zero => rfl
    | succ _ ih =>
      rw [startNextLoop]
      split_ifs
      · rfl
      split
      · rfl
      dsimp only
      split
      · refine (ih _).trans ?_
        exact doneWith_error_scheduled (fun _ op e => failClosed_scheduled op e) _ _ _
      · rfl
  exact hloop _ r

/-! ### Accepted samples -/

variable {ev : StateEvidence}

lemma doneState_scheduled (rp : Option ReplyID) (hfe : (r.fed ev).failure = none) :
    (r.doneState failClosed rp (.ok (.evidence ev))).scheduled =
      ((r.absorb (r.fed ev)).maybeScheduleBreakpointCleanup
        (r.fed ev).models.reducer.snapshot false).scheduled := by
  have hob : r.sample failClosed (.ok (.evidence ev)) =
      ((r.absorb (r.fed ev)).maybeScheduleBreakpointCleanup
        (r.fed ev).models.reducer.snapshot false, none) := by
    rw [sample, observe, show r.models.feed r.resolver ev = r.fed ev from rfl]
    simp only [hfe]
  rw [doneState_ok hob]
  split_ifs <;> exact respondTo_scheduled _ _

lemma completeWork_sampled (h : r.sampled = some ev) : ∃ c rest rp, r.complete = c :: rest ∧ ∀ b,
      { r with complete := rest }.completeWork c b =
        { r with complete := rest, inflight := none }.doneState failClosed rp
          (.ok (.evidence ev)) := by
  unfold sampled at h
  split at h
  · rename_i c rest fl hc hin
    split_ifs at h with hv
    unfold brings at h
    split at h
    · rename_i rp ev' hwk hres
      cases h
      refine ⟨c, rest, rp, hc, fun b => ?_⟩
      rw [completeWork_eq hin]
      rcases hv with hv | hv
      · rw [hv, hres]
        exact (finish_ok _ b (by simp [hwk])).trans (by rw [hwk]; rfl)
      · rw [hv, hres, hwk]
        rfl
    · cases h
  · cases h

lemma maybeSchedule_natural {snap : Session.Snapshot} (hs : snap.state = .stopped)
    (hrunn : r.opts.breakpointRunner = true)
    (hfou : r.world.store.pendingCount + r.world.store.orphanCount ≠ 0) :
    (r.maybeScheduleBreakpointCleanup snap false).scheduled =
      if r.cleanupEpoch false = snap.stopEpoch then r.scheduled
      else r.scheduled ++ [(false, snap.stopEpoch)] := by
  have hno : ¬ (snap.state ≠ .stopped ∨ r.opts.breakpointRunner = false) := by
    simp [hs, hrunn]
  rw [maybeScheduleBreakpointCleanup, if_neg hno, if_neg (by simp)]
  simp only [hfou, or_false, cleanupEpoch, Bool.false_eq_true, if_false]
  split_ifs <;> rfl

lemma step_scheduled (hb : r.Base) (hlive : r.faulted = false)
    (hunt : r.opts.breakpointRunner = false → r.Untouched)
    (hsam : r.sampled = some ev) {b : Option Error}
    (hst : r.step (.completion b) = some r') (hfe : (r.fed ev).failure = none)
    (hob : Reducer.observedState ev.state.status = .stopped)
    (hfou : r.world.store.pendingCount + r.world.store.orphanCount ≠ 0) : r'.scheduled =
      if r.cleanupEpoch false = (sessionObservation ev.state).stopStamp then r.scheduled
      else r.scheduled ++ [(false, (sessionObservation ev.state).stopStamp)] := by
  have hrunn : r.opts.breakpointRunner = true := by
    by_contra hno
    obtain ⟨-, hpen, horp⟩ := (hunt (by simpa using hno)).vacant
    simp [Breakpoint.Store.pendingCount, Breakpoint.Store.orphanCount, hpen, horp] at hfou
  obtain ⟨hs, hep⟩ := hb.fed_stamp hlive hfe hob
  obtain ⟨c, rest, rp, hc, heq⟩ := completeWork_sampled hsam
  have htn : r' = ({ r with complete := rest }.completeWork c b).startNext := by
    simp only [step, hc, turn] at hst
    split_ifs at hst
    exact (Option.some.inj hst).symm
  have hdn := doneState_scheduled (r := { r with complete := rest, inflight := none }) rp hfe
  rw [htn, startNext_scheduled, heq, hdn]
  have hnat := maybeSchedule_natural
    (r := absorb { r with complete := rest, inflight := none } (r.fed ev))
    (show (r.fed ev).models.reducer.snapshot.state = .stopped from hs)
    (by rw [absorb_eq]; exact hrunn) (by rw [absorb_eq]; exact hfou)
  refine hnat.trans ?_
  rw [absorb_eq, ← hep]
  rfl

/-- No run schedules two cleanups of a kind in one stop. An accepted stopped sample that finds
something to clean up, in a stop without a cleanup that a sample asked for, schedules one exactly if
the stop stamp is not zero. -/
theorem cleanup_budget {opts : Options} {inputs : List Input}
    (hru : run step (new opts) inputs = some r) : r.scheduled.Nodup ∧
      ∀ evidence b r', r.sampled = some evidence → r.step (.completion b) = some r' →
        (r.fed evidence).failure = none → Reducer.observedState evidence.state.status = .stopped →
        r.world.store.pendingCount + r.world.store.orphanCount ≠ 0 →
        (false, (sessionObservation evidence.state).stopStamp) ∉ r.scheduled →
        (r'.scheduled = r.scheduled ++ [(false, (sessionObservation evidence.state).stopStamp)] ↔
          (sessionObservation evidence.state).stopStamp ≠ 0) := by
  have hmove (r r' : Runtime) (hb : r.Base)
      (h : (r.opts.breakpointRunner = false → r.Untouched) ∧ r.Budget) (hm : Move {} r r') :
      (r'.opts.breakpointRunner = false → r'.Untouched) ∧ r'.Budget :=
    ⟨fun hno => (h.1 (hm.opts ▸ hno)).move (hm.opts ▸ hno) hm, h.2.move hb hm⟩
  obtain ⟨hb, hunt, hbud⟩ := moves_invariant hmove
    ⟨fun _ => untouched_new opts, budget_new opts⟩ (Guard.admits_all _ _) hru
  refine ⟨hbud.once, fun evidence b r' hsam hst hfe hob hfou hnn => ?_⟩
  have hlive : r.faulted = false := by
    by_contra hf
    have hid := hb.waits (by simpa using hf)
    simp [sampled, hid] at hsam
  rw [step_scheduled hb hlive hunt hsam hst hfe hob hfou]
  constructor
  · intro heq hzero
    -- the stop epoch has not passed zero, and neither has the last cleanup
    have hmono : r.models.reducer.stopEpoch ≤ (r.fed evidence).models.reducer.stopEpoch :=
      fed_stopEpoch_le hb hlive
    have hle := UInt64.le_trans (hbud.reached false) hmono
    rw [(hb.fed_stamp hlive hfe hob).2, hzero] at hle
    rw [hzero, if_pos (UInt64.le_antisymm hle (by simp))] at heq
    simp at heq
  intro hne
  rw [if_neg]
  intro heq
  rcases hbud.noted false with hzero | hnt
  · exact hne (heq.symm.trans hzero)
  · exact hnn (heq ▸ hnt)

/-- A session with a breakpoint runner and a source index. -/
def indexed : Options := { breakpointRunner := true, sourceIndex := true }

/-- The placement of a breakpoint, up to the reply. -/
def placing (token : Nat) (hint : UInt32) (line : Int) : List Input :=
  [.dispatch token .read, .dispatch token (.submit none), .completion none, .worker .take,
    .worker (.transact (.clear none)), .worker (.transact (.token hint)),
    .worker (.transact (.set { actualLine := line } none)), .worker (.transact (.clear none)),
    .worker .finish, .dispatch token .collect, .completion none]

/-- A frontend sets a breakpoint on the only core of a stopped target. -/
def breakpointSet (stamp : UInt64) : List Input :=
  bootstrap (stampedEvidence .stopped stamp) ++
    [.command (.attach "a" 1), .command (.acquire "a" 2),
      .command (.setBreakpoints "a" { key := "main.c" } [10] [⟨0, .present⟩] 3)] ++ placing 4 7 10

/-- Then it detaches while a sample of the same stop is under way. Only the completion of the sample
is still to come. -/
def detachWithBreakpoint (stamp : UInt64) : List Input :=
  breakpointSet stamp ++ [.stateTick, .command (.detach "a" inOrder 4)] ++
    (perform 5 (.ok (.evidence (stampedEvidence .stopped stamp)))).dropLast

theorem cleanup_budget_first_stop :
    ∃ r r', run step (new indexed) (detachWithBreakpoint 1) = some r ∧
      r.sampled = some (stampedEvidence .stopped 1) ∧ r.step (.completion none) = some r' ∧
      (r.fed (stampedEvidence .stopped 1)).failure = none ∧
      r.world.store.pendingCount + r.world.store.orphanCount = 1 ∧
      r.scheduled = [(true, 1)] ∧ r'.scheduled = r.scheduled ++ [(false, 1)] := by
  obtain ⟨r, hru, hsam, hfe, hfou, hsch, hst⟩ : ∃ r,
      run step (new indexed) (detachWithBreakpoint 1) = some r ∧
      r.sampled = some (stampedEvidence .stopped 1) ∧
      (r.fed (stampedEvidence .stopped 1)).failure.isNone ∧
      r.world.store.pendingCount + r.world.store.orphanCount = 1 ∧ r.scheduled = [(true, 1)] ∧
      (r.step (.completion none)).isSome :=
    exists_run (by decide +kernel)
  rw [isNone_iff_eq_none] at hfe
  obtain ⟨r', hst⟩ := isSome_iff_exists.mp hst
  have hiff := (cleanup_budget hru).2 _ none r' hsam hst hfe rfl (by simp [hfou])
    (by rw [hsch]; decide)
  exact ⟨r, r', hru, hsam, hst, hfe, hfou, hsch, hiff.mpr (by decide)⟩

/-- The same in the stop with epoch zero: there is something to clean up and there was no cleanup,
but neither the detach nor the sample schedules one. -/
theorem no_cleanup_in_stop_zero : ∃ r r', run step (new indexed) (detachWithBreakpoint 0) = some r ∧
      r.sampled = some (stampedEvidence .stopped 0) ∧ r.step (.completion none) = some r' ∧
      (r.fed (stampedEvidence .stopped 0)).failure = none ∧
      r.world.store.pendingCount + r.world.store.orphanCount = 1 ∧
      r.scheduled = [] ∧ r'.scheduled = [] := by
  obtain ⟨r, hru, hsam, hfe, hfou, hsch, hst⟩ : ∃ r,
      run step (new indexed) (detachWithBreakpoint 0) = some r ∧
      r.sampled = some (stampedEvidence .stopped 0) ∧
      (r.fed (stampedEvidence .stopped 0)).failure.isNone ∧
      r.world.store.pendingCount + r.world.store.orphanCount = 1 ∧ r.scheduled = [] ∧
      (r.step (.completion none)).map (·.scheduled) = some [] :=
    exists_run (by decide +kernel)
  rw [isNone_iff_eq_none] at hfe
  obtain ⟨r', hst, hnn⟩ := map_eq_some_iff.mp hst
  exact ⟨r, r', hru, hsam, hst, hfe, hfou, hsch, hnn⟩

end Runtime

end MultiDap.Actor
