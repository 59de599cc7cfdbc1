import MultiDap.Actor.Models

/-!
# Where the two models agree

The runs of the two models on any list of samples and hints. Their epochs agree, and the turns
they report agree, except for one kind of missed cycle each.
-/

namespace MultiDap.Actor.Models

open Session Stop Machine Reducer

/-- What reaches the two models: a state sample, or a hint datagram. -/
inductive Input where
  | sample (resolver : Resolver) (evidence : StateEvidence)
  | hint (resolver : Resolver) (token : UInt32)

def accept (m : Models) : Input → Fed
  | .sample resolver evidence => m.feed resolver evidence
  | .hint resolver token =>
    { models := { m with stopper := (m.stopper.noteHint resolver token).1 } }

def machine : Mealy Models Input Fed where
  step m i := ((m.accept i).models, m.accept i)

/-- A running sample with an admissible stamp that is not the last stop's: the target stopped and
resumed since that stop, unseen. -/
def RunsPastStop (m : Models) : Input → Prop
  | .hint _ _ => False
  | .sample _ ev =>
    m.Live ∧ m.reducer.hasStop = true ∧ Reducer.observedState ev.state.status = .running ∧
      m.reducer.Admits (sessionObservation ev.state) ∧
      (sessionObservation ev.state).stopStamp ≠ m.reducer.stopEpoch

def MissesCycle (m : Models) (i : Input) : Prop :=
  m.reducer.state = .running ∧ m.RunsPastStop i

def MissesResume (m : Models) (i : Input) : Prop :=
  m.reducer.state = .stopped ∧ m.RunsPastStop i

/-- Whenever neither model has faulted, their epochs are equal. -/
def Agrees (m : Models) : Prop :=
  m.Live → m.reducer.executionEpoch = m.stopper.exec ∧
    m.reducer.stopEpoch = m.stopper.currentStopEpoch

/-! ### One input -/

/-- What an input that faults neither model does to the execution epochs and reports. -/
structure Takes (m : Models) (i : Input) (t : Transition) : Prop where
  live : m.Live
  reducerEpoch : (m.accept i).models.reducer.executionEpoch =
    m.reducer.executionEpoch + UInt64.ofNat t.resumes
  stopperEpoch : (m.accept i).models.stopper.exec = m.stopper.exec + UInt64.ofNat t.bumps
  configuring : (m.accept i).models.reducer.configuring = m.reducer.configuring
  actions : m.reducer.configuring = false → Session.turns (m.accept i).actions = t.turns
  effects : Stop.turns (m.accept i).effects = t.reported
  failure : (m.accept i).models.verifyArbiterSnapshot = none → (m.accept i).failure = none
  alternates : Turn.Alternates (Transition.expected m.reducer.state) t.turns
  after : Turn.after (Transition.expected m.reducer.state) t.turns =
    Transition.expected (m.accept i).models.reducer.state
  missedCycle : t = .missedCycle ↔ m.MissesCycle i
  missedResume : t = .missedResume ↔ m.MissesResume i

variable {m : Models} {i : Input}

lemma takes_quiet {m' : Models} {failure : Option Failure}
    (ha : m.accept i = { models := m', failure := failure }) (hlive : m.Live)
    (hexec : m'.reducer.executionEpoch = m.reducer.executionEpoch)
    (hexec' : m'.stopper.exec = m.stopper.exec)
    (hcfg : m'.reducer.configuring = m.reducer.configuring)
    (hst : m'.reducer.state = m.reducer.state)
    (hfail : m'.verifyArbiterSnapshot = none → failure = none) (hru : ¬ m.RunsPastStop i) :
    m.Takes i .quiet where
  live := hlive
  reducerEpoch := by simp [ha, hexec, Transition.resumes, Transition.turns]
  stopperEpoch := by simp [ha, hexec', Transition.bumps]
  configuring := by simp [ha, hcfg]
  actions := fun _ => by simp [ha, Transition.turns]
  effects := by simp [ha, Transition.reported, Transition.turns, Stop.turns]
  failure := by simpa [ha] using hfail
  alternates := trivial
  after := by simp [ha, hst, Transition.turns, Turn.after]
  missedCycle := by simp [MissesCycle, hru]
  missedResume := by simp [MissesResume, hru]

variable {o : Session.Observation}

lemma transition_eq_missedCycle {r : Reducer} : r.transition o = .missedCycle ↔
      r.state = .running ∧ r.hasStop = true ∧ Reducer.observedState o.status = .running ∧
        o.stopStamp ≠ r.stopEpoch := by
  unfold transition
  cases observedState o.status <;> cases r.state <;> cases r.hasStop <;>
    by_cases h : o.stopStamp = r.stopEpoch <;> simp [Transition.between, h]

lemma transition_eq_missedResume {r : Reducer} : r.transition o = .missedResume ↔
      r.state = .stopped ∧ r.hasStop = true ∧ Reducer.observedState o.status = .running ∧
        o.stopStamp ≠ r.stopEpoch := by
  unfold transition
  cases observedState o.status <;> cases r.state <;> cases r.hasStop <;>
    by_cases h : o.stopStamp = r.stopEpoch <;> simp [Transition.between, h]

lemma takes (ht : m.Live → m.Tied) (h : (m.accept i).models.Live) : ∃ t, m.Takes i t := by
  cases i with
  | hint rs tok =>
    obtain ⟨hints, ha⟩ := m.stopper.noteHint_eq rs tok
    have hac : m.accept (.hint rs tok) =
        { models := { m with stopper := m.stopper.withHints hints } } := by
      simp [accept, ha]
    rw [hac] at h
    exact ⟨.quiet, takes_quiet hac h rfl rfl rfl rfl (fun _ => rfl) id⟩
  | sample rs ev =>
    have habs := absorbed ht rs ev
    generalize hac : m.feed rs ev = fed at habs
    change m.accept (.sample rs ev) = fed at hac
    rw [hac] at h
    cases habs with
    | refused _ hdead => exact absurd h hdead
    | unknown _ _ hl hn hr =>
      refine ⟨.quiet, ?_⟩
      have hru : ¬ m.RunsPastStop (.sample rs ev) := by
        rintro ⟨-, -, hru, -⟩
        rw [hn] at hru
        cases hru
      rcases hr with rfl | ⟨-, rfl⟩
      · exact takes_quiet hac hl rfl rfl rfl rfl (fun hv => by simp [hv]) hru
      · exact takes_quiet hac hl rfl rfl rfl rfl (fun hv => by simp [hv]) hru
    | moved _ hl hn had htr =>
      have hwf := (ht hl).reducer
      have htr' := (ht hl).transition_eq ev
      obtain ⟨halt, haft⟩ := hwf.alternates hl.2 hn htr
      refine ⟨m.reducer.transition (sessionObservation ev.state), ?_⟩
      constructor
      case live => exact hl
      case reducerEpoch => rw [hac]; rfl
      case stopperEpoch =>
        rw [hac, ← htr']
        rfl
      case configuring => rw [hac]; rfl
      case actions =>
        intro hcfg
        simp only [hac]
        rw [publish_actions (by exact hcfg), turns_actions]
      case effects => rw [hac, Arbiter.turns_emitted, Arbiter.transition_withHints, htr']
      case failure => simp +contextual [hac]
      case alternates => exact halt
      case after => rw [hac]; exact haft
      case missedCycle =>
        rw [transition_eq_missedCycle]
        simp only [MissesCycle, RunsPastStop, hl, had, true_and]
        rfl
      case missedResume =>
        rw [transition_eq_missedResume]
        simp only [MissesResume, RunsPastStop, hl, had, true_and]
        rfl

lemma accept_dead (ht : m.Live → m.Tied) (h : ¬ (m.accept i).models.Live) :
    Stop.turns (m.accept i).effects = [] ∧ Session.turns (m.accept i).actions = [] ∧
      (∀ err, (m.accept i).failure ≠ some (.disagreement err)) ∧ ¬ m.RunsPastStop i := by
  cases i with
  | hint => exact ⟨rfl, rfl, fun _ => by simp [accept], id⟩
  | sample rs ev =>
    have habs := absorbed ht rs ev
    simp only [accept] at h ⊢
    generalize m.feed rs ev = fed at habs h ⊢
    cases habs with
    | refused _ _ heff hat hfail hwhy =>
      refine ⟨by rw [heff]; rfl, hat, ?_, ?_⟩
      · intro err hrr
        obtain ⟨e, he | he⟩ := hfail <;> simp [he] at hrr
      · rintro ⟨hl, hstop, hru, had, hne⟩
        exact hwhy ⟨hl, had, transition_ne_unmoved hru⟩
    | unknown _ _ hl _ hr =>
      refine absurd ⟨hl.1, ?_⟩ h
      rcases hr with rfl | ⟨-, rfl⟩ <;> exact hl.2
    | moved _ hl hn =>
      refine absurd ⟨hl.1, ?_⟩ h
      rcases hn with hn | hn <;> simp [moved, move, hn]

lemma tied_accept (ht : m.Live → m.Tied) (i : Input)
    (h : (m.accept i).models.Live) : (m.accept i).models.Tied := by
  cases i with
  | sample rs ev => exact tied_feed ht rs ev h
  | hint rs tok =>
    obtain ⟨hints, ha⟩ := m.stopper.noteHint_eq rs tok
    simp only [accept, ha] at h ⊢
    exact (ht h).withHints hints

/-! ### Runs -/

lemma tied_final (b : Bool) (is : List Input) (h : (machine.final (fresh b) is).Live) :
    (machine.final (fresh b) is).Tied :=
  machine.final_induction (P := fun m => m.Live → m.Tied) (fun _ => tied_fresh b)
    (fun _ i ht => tied_accept ht i) is h

lemma verify_eq_none : m.verifyArbiterSnapshot = none ↔ m.reducer.executionEpoch = m.stopper.exec ∧
        m.reducer.stopEpoch = m.stopper.currentStopEpoch := by
  simp only [verifyArbiterSnapshot, ite_eq_right_iff, reduceCtorEq, imp_false, not_or,
    Decidable.not_not]
  exact and_comm

lemma agrees_accept_iff (ht : m.Live → m.Tied) (hag : m.Agrees) (i : Input) :
    (m.accept i).models.Agrees ↔ ¬ m.MissesCycle i := by
  by_cases h : (m.accept i).models.Live
  · obtain ⟨t, htk⟩ := takes ht h
    have hexec := (hag htk.live).1
    have hsp := (tied_accept ht i h).stopEpoch
    rw [← htk.missedCycle]
    constructor
    · rintro hag' rfl
      -- the reducer counts the missed resumption, the arbiter counts two
      have := (hag' h).1
      rw [htk.reducerEpoch, htk.stopperEpoch, hexec] at this
      cases (UInt64.add_right_inj _).mp this
    intro hne _
    rw [htk.reducerEpoch, htk.stopperEpoch, hexec, Transition.bumps_eq_resumes hne]
    exact ⟨rfl, hsp.symm⟩
  · refine ⟨fun _ hmiss => (accept_dead ht h).2.2.2 hmiss.2, fun _ hl => absurd hl h⟩

lemma agrees_fresh (b : Bool) : (fresh b).Agrees := fun _ => ⟨rfl, rfl⟩

lemma final_snoc (m : Models) (is : List Input) (i : Input) :
    machine.final m (is ++ [i]) = ((machine.final m is).accept i).models := by
  rw [machine.final_append]
  rfl

/-- The epochs of the two models agree, and the actor is never failed closed by a disagreement
between them, in exactly those runs in which no sample misses a cycle between running samples. -/
theorem epochs_agree_iff (b : Bool) (is : List Input) :
    ((∀ pre, pre <+: is → (machine.final (fresh b) pre).Agrees) ∧
        ∀ e ∈ machine.history (fresh b) is, ∀ err, e.2.failure ≠ some (.disagreement err)) ↔
      ∀ pre i, pre ++ [i] <+: is → ¬ (machine.final (fresh b) pre).MissesCycle i := by
  have htied := tied_final b
  constructor
  · rintro ⟨hag, -⟩ pre i hpre
    rw [← agrees_accept_iff (htied pre) (hag pre ((List.prefix_append pre [i]).trans hpre)),
      ← final_snoc]
    exact hag _ hpre
  intro hno
  have hag : ∀ pre, pre <+: is → (machine.final (fresh b) pre).Agrees := by
    intro pre
    induction pre using List.reverseRecOn with
    | nil => exact fun _ => agrees_fresh b
    | append_singleton pre i ih =>
      intro hpre
      rw [final_snoc, agrees_accept_iff (htied pre)
        (ih ((List.prefix_append pre [i]).trans hpre))]
      exact hno pre i hpre
  refine ⟨hag, ?_⟩
  intro e he err
  obtain ⟨pre, i, hpre, rfl⟩ := machine.mem_history.mp he
  change ((machine.final (fresh b) pre).accept i).failure ≠ _
  by_cases h : ((machine.final (fresh b) pre).accept i).models.Live
  · obtain ⟨t, htk⟩ := takes (htied pre) h
    have hagr := hag _ hpre
    rw [final_snoc] at hagr
    simp [htk.failure (verify_eq_none.mpr (hagr h))]
  · exact (accept_dead (htied pre) h).2.2.1 err

def Input.of (status : Status) (stamp : UInt64) : Input :=
  .sample none { state := { status := status, processInfo := { stopStamp := some stamp } } }

/-- A stop, its resumption, and a later stop that is already over: neither model faults, and the
arbiter has counted one resumption more than the reducer. -/
theorem epochs_disagree :
    let is := [Input.of .stopped 1, .of .running 1, .of .running 2]
    let m := machine.final (fresh false) is
    m.Live ∧ m.reducer.executionEpoch = 2 ∧ m.stopper.exec = 3 ∧
      m.verifyArbiterSnapshot.isSome = true := by
  decide

/-! ### What a client is told -/

/-- The turns that the effects of a run report, in order. -/
def effectTurns (h : List (Input × Fed)) : List Turn := h.flatMap fun e => Stop.turns e.2.effects

/-- The turns that the actions of a run report, in order. -/
def actionTurns (h : List (Input × Fed)) : List Turn := h.flatMap fun e => Session.turns e.2.actions

/-- What the reducer has reported and the state it is in fit together. -/
structure Reports (h : List (Input × Fed)) (m : Models) : Prop where
  alternates : Turn.Alternates .suspend (actionTurns h)
  tied : m.Live → m.Tied
  noBarrier : m.Live → m.reducer.configuring = false
  after : m.Live → Turn.after .suspend (actionTurns h) = Transition.expected m.reducer.state

lemma reports_fresh (b : Bool) : Reports [] (fresh b) where
  alternates := trivial
  tied := fun _ => tied_fresh b
  noBarrier := fun _ => rfl
  after := fun _ => rfl

lemma Reports.accept {h : List (Input × Fed)} (hr : Reports h m) (i : Input) :
    Reports (h ++ [(i, m.accept i)]) (m.accept i).models := by
  have happ : actionTurns (h ++ [(i, m.accept i)]) =
      actionTurns h ++ Session.turns (m.accept i).actions := by
    simp [actionTurns]
  by_cases hlive : (m.accept i).models.Live
  · obtain ⟨t, htk⟩ := takes hr.tied hlive
    have hcfg := hr.noBarrier htk.live
    rw [htk.actions hcfg] at happ
    constructor
    case alternates =>
      rw [happ, Turn.alternates_append, hr.after htk.live]
      exact ⟨hr.alternates, htk.alternates⟩
    case tied => exact tied_accept hr.tied i
    case noBarrier => exact fun _ => htk.configuring.trans hcfg
    case after =>
      intro _
      rw [happ, Turn.after_append, hr.after htk.live]
      exact htk.after
  · constructor
    case alternates =>
      rw [happ, (accept_dead hr.tied hlive).2.1, List.append_nil]
      exact hr.alternates
    all_goals exact fun hl => absurd hl hlive

lemma reports (b : Bool) (is : List Input) :
    Reports (machine.history (fresh b) is) (machine.final (fresh b) is) :=
  machine.history_induction (reports_fresh b) (fun _ _ i hr => hr.accept i) is

/-- The models report the same turns for an input exactly when it is not a running sample past a
stop that follows a stopped one. -/
lemma effects_eq_actions_iff (ht : m.Live → m.Tied)
    (hcfg : m.Live → m.reducer.configuring = false) (i : Input) :
    Stop.turns (m.accept i).effects = Session.turns (m.accept i).actions ↔ ¬ m.MissesResume i := by
  by_cases h : (m.accept i).models.Live
  · obtain ⟨t, htk⟩ := takes ht h
    rw [htk.effects, htk.actions (hcfg htk.live), ← htk.missedResume]
    refine ⟨?_, Transition.reported_eq_turns⟩
    rintro heq rfl
    cases heq
  obtain ⟨heff, hat, -, hru⟩ := accept_dead ht h
  rw [heff, hat]
  exact iff_of_true rfl fun hmiss => hru hmiss.2

/-- Outside a configuration barrier the effects of the arbiter are, sample by sample, in order and
in kind, the actions of the reducer, and no client is told of two stops in a row, in exactly those
runs in which no running sample reveals a missed stop right after a stopped sample. -/
theorem effects_match_actions_iff (b : Bool) (is : List Input) :
    ((∀ e ∈ machine.history (fresh b) is, Stop.turns e.2.effects = Session.turns e.2.actions) ∧
        ∀ xs ys, effectTurns (machine.history (fresh b) is) ≠ xs ++ .suspend :: .suspend :: ys) ↔
      ∀ pre i, pre ++ [i] <+: is → ¬ (machine.final (fresh b) pre).MissesResume i := by
  have hiff := fun pre => effects_eq_actions_iff (reports b pre).tied (reports b pre).noBarrier
  constructor
  · rintro ⟨heq, -⟩ pre i hpre
    rw [← hiff]
    exact heq _ (machine.mem_history.mpr ⟨pre, i, hpre, rfl⟩)
  intro hno
  have heq : ∀ e ∈ machine.history (fresh b) is,
      Stop.turns e.2.effects = Session.turns e.2.actions := by
    intro e he
    obtain ⟨pre, i, hpre, rfl⟩ := machine.mem_history.mp he
    exact (hiff pre i).mpr (hno pre i hpre)
  refine ⟨heq, fun xs ys => ?_⟩
  have hsm : effectTurns (machine.history (fresh b) is) =
      actionTurns (machine.history (fresh b) is) :=
    List.flatMap_congr heq
  rw [hsm]
  exact (reports b is).alternates.not_two_suspends xs ys

/-- A stop, and then a running sample with a newer stop behind it: the arbiter reports two stops in
a row where the reducer reports the resumption between them. -/
theorem effects_repeat_stop :
    let h := machine.history (fresh false) [Input.of .stopped 1, .of .running 2]
    effectTurns h = [.suspend, .suspend, .resume] ∧
      actionTurns h = [.suspend, .resume, .suspend, .resume] := by
  decide

end MultiDap.Actor.Models
