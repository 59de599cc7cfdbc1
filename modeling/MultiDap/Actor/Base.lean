import MultiDap.Actor.Move

/-!
# The course of a session

What every move keeps: the order of the bootstrap, and the relation between the two models. Before
the session is open at most one operation is queued or in flight and no state has been observed, and
a session that has failed closed waits for nothing.
-/

namespace MultiDap.Actor

open Machine Inspection Stop Session Relation Subscriber

variable {m : Models}

lemma Models.Tied.control (h : m.Tied) (configuring : Bool) (leaseOwner : ControllerID) :
    Models.Tied { m with reducer := { m.reducer with configuring, leaseOwner } } where
  reducer := { h.reducer with }
  stopper := h.stopper
  state := h.state
  hasStop := h.hasStop
  stopEpoch := h.stopEpoch
  lastStamp := h.lastStamp

lemma Models.agrees_of_dead (h : ¬ m.Live) : m.Agrees := fun hl => absurd hl h

namespace Runtime

/-! ### Accepted samples -/

def effectEvent (r : Runtime) (snapshot : Session.Snapshot) (effect : Effect) : Event :=
  match effect.kind with
  | .invalidateSuspended => { kind := .invalidated, snapshot }
  | .continued => { kind := .resumed, snapshot, threadID := r.representativeThread }
  | .stopped => r.stoppedEvent effect snapshot

def invalidates (effects : List Effect) : Bool := effects.any (·.kind == .invalidateSuspended)

/-- The last stop among the effects, or else the one remembered. -/
def lastStopAfter (effects : List Effect) (last : Option Effect) : Option Effect :=
  effects.foldl (fun last effect => if effect.kind = .stopped then some effect else last) last

lemma foldl_applyStopEffect (snap : Session.Snapshot) (effects : List Effect) (r : Runtime) :
    effects.foldl (applyStopEffect snap) r = { r with
        lastStop := lastStopAfter effects r.lastStop
        ledger := if invalidates effects then r.ledger.dropStopBound else r.ledger
        valid := if invalidates effects then [] else r.valid
        subs := r.subs.map (·.offerAll r.opts.eventBuffer (effects.map (r.effectEvent snap)))
        published := r.published ++ effects.map (r.effectEvent snap) } := by
  induction effects generalizing r with
  | nil => simp [lastStopAfter, invalidates, offerAll]
  | cons eff _ ih =>
    rw [List.foldl_cons, ih]
    -- the event of an effect depends on the threads alone, which no effect changes
    have hthr : (applyStopEffect snap r eff).effectEvent snap = r.effectEvent snap := by
      unfold applyStopEffect
      split <;> rfl
    rw [hthr]
    unfold applyStopEffect
    split <;> rename_i hk <;>
      simp [hk, lastStopAfter, invalidates, offerAll, publish, dropStopBound,
        effectEvent, stoppedEvent, Handle.Ledger.dropStopBound, Handle.Store.dropStopBound]

def sampleEvents (r : Runtime) (fed : Fed) : List Event :=
  (passedOn fed.models.reducer.configuring fed.effects).map
    (r.effectEvent fed.models.reducer.snapshot)

lemma absorb_eq (r : Runtime) (fed : Fed) : r.absorb fed = { r with
        models := fed.models
        stops := r.stops ++ fed.effects.filter (·.kind == .stopped)
        lastStop := lastStopAfter (passedOn fed.models.reducer.configuring fed.effects) r.lastStop
        ledger := if invalidates fed.effects then r.ledger.dropStopBound else r.ledger
        valid := if invalidates fed.effects then [] else r.valid
        subs := r.subs.map (·.offerAll r.opts.eventBuffer (r.sampleEvents fed))
        published := r.published ++ r.sampleEvents fed } := by
  have hinv : invalidates (passedOn fed.models.reducer.configuring fed.effects) =
      invalidates fed.effects := by
    unfold passedOn
    split_ifs
    · simp [invalidates, List.any_filter]
    · rfl
  rw [absorb, foldl_applyStopEffect]
  simp only [Reducer.snapshot, hinv]
  rfl

/-- The event an action of the reducer is published as. -/
def actionEvent (r : Runtime) (snapshot : Session.Snapshot) (cause : Option Error)
    (action : Action) : Event :=
  match action.kind with
  | .invalidateSuspendedReferences => { kind := .invalidated, snapshot, cause }
  | .executionResumed =>
    { kind := .resumed, snapshot, threadID := r.representativeThread, cause }
  | .executionSuspended => { kind := .stopped, snapshot, cause }
  | .reconciliationRequired => { kind := .reconciliationRequired, snapshot, cause }

def invalidating (actions : List Action) : Bool :=
  actions.any (·.kind == .invalidateSuspendedReferences)

lemma actions_eq (snap : Session.Snapshot) (cause : Option Error)
    (acts : List Action) (r : Runtime) : r.applyReducerActions acts snap cause = { r with
        ledger := if invalidating acts then r.ledger.dropStopBound else r.ledger
        valid := if invalidating acts then [] else r.valid
        subs := r.subs.map (·.offerAll r.opts.eventBuffer (acts.map (r.actionEvent snap cause)))
        published := r.published ++ acts.map (r.actionEvent snap cause) } := by
  unfold applyReducerActions
  induction acts generalizing r with
  | nil => simp [invalidating, offerAll]
  | cons action _ ih =>
    rw [List.foldl_cons, ih]
    have hthr : (applyReducerAction snap cause r action).actionEvent snap cause =
        r.actionEvent snap cause := by
      unfold applyReducerAction
      split <;> rfl
    rw [hthr]
    unfold applyReducerAction
    split <;> rename_i hk <;>
      simp [hk, invalidating, offerAll, publish, dropStopBound, actionEvent,
        Handle.Ledger.dropStopBound, Handle.Store.dropStopBound]

lemma withLedger_eq (r : Runtime) (led : Handle.Ledger Payload) : r.withLedger led = { r with
        ledger := led
        counted := (r.withLedger led).counted
        valid := (r.withLedger led).valid } := by
  unfold withLedger
  split_ifs <;> rfl

/-! ### The invariant -/

/-- The operations that are queued or in flight. -/
def load (r : Runtime) : Nat := r.pending.length + r.inflight.toList.length

lemma kind_lastStopAfter {effects : List Effect} {last : Option Effect}
    (h : ∀ eff, last = some eff → eff.kind = .stopped) :
    ∀ eff, lastStopAfter effects last = some eff → eff.kind = .stopped := by
  unfold lastStopAfter
  induction effects generalizing last with
  | nil => exact h
  | cons _ _ ih =>
    apply ih
    intro eff he
    dsimp only at he
    split_ifs at he with hk
    · cases he
      exact hk
    · exact h eff he

structure Base (r : Runtime) : Prop where
  unopened : r.opening = true → r.opened = false
  single : r.opened = false → r.faulted = false → r.load ≤ 1
  idle : r.opened = false → r.faulted = false → r.opening = false → r.load = 0
  unseen : r.opened = false → r.faulted = false →
    r.models.reducer.state = .unknown ∨ r.models.reducer.state = .faulted
  waits : r.faulted = true → r.inflight = none
  tied : r.faulted = false → r.models.Live → r.models.Tied
  agrees : r.faulted = false → r.models.Agrees
  last : ∀ effect, r.lastStop = some effect → effect.kind = .stopped

lemma base_new (opts : Options) : (new opts).Base where
  unopened := by simp [new]
  single := by simp [new, load]
  idle := by simp [new, load]
  unseen := by simp [new, Models.fresh, Reducer.new]
  waits := by simp [new]
  tied := fun _ _ => Models.tied_fresh _
  agrees := fun _ => Models.agrees_fresh _
  last := by simp [new]

section fed

variable {r : Runtime} {ev : StateEvidence}

lemma Base.fed_ok (hb : r.Base) (hlive : r.faulted = false) (h : (r.fed ev).failure = none) :
    ((r.fed ev).models.Live → (r.fed ev).models.Tied) ∧ (r.fed ev).models.Agrees := by
  refine ⟨Models.tied_feed (hb.tied hlive) _ _, fun hl => ?_⟩
  -- agreement is what the epoch comparison has just confirmed
  have habs := Models.absorbed (hb.tied hlive) r.resolver ev
  change Models.Absorbed _ _ (r.fed ev) at habs
  generalize r.fed ev = fed at h habs hl ⊢
  cases habs with
  | refused _ hdead => exact absurd hl hdead
  | unknown | moved =>
    exact Models.verify_eq_none.mp (by simpa using h)

/-- What an accepted sample does to the models. -/
inductive Taken (m : Models) (evidence : StateEvidence) : Fed → Prop where
  | unknown (reducer : Reducer) (hints : List PendingHint) (actions : List Action)
      (failure : Option Failure) (hl : m.Live)
      (hn : Reducer.observedState evidence.state.status = .unknown)
      (hr : reducer = m.reducer ∨ reducer = m.reducer.stamped (sessionObservation evidence.state)) :
      Taken m evidence ⟨⟨reducer, m.stopper.withHints hints⟩, [], actions, failure⟩
  | moved (hints : List PendingHint) (actions : List Action) (failure : Option Failure)
      (hl : m.Live)
      (hn : Reducer.observedState evidence.state.status = .stopped ∨
        Reducer.observedState evidence.state.status = .running)
      (htr : m.reducer.transition (sessionObservation evidence.state) ≠ .unmoved) :
      Taken m evidence ⟨m.moved hints evidence, (m.stopper.withHints hints).emitted
        (stopObservation evidence.state evidence.halt evidence.hasHalt), actions, failure⟩

lemma Base.taken (hb : r.Base) (hlive : r.faulted = false)
    (hok : (r.fed ev).failure = none) : Taken r.models ev (r.fed ev) := by
  have habs := Models.absorbed (hb.tied hlive) r.resolver ev
  change Models.Absorbed _ _ (r.fed ev) at habs
  generalize r.fed ev = fed at hok habs ⊢
  cases habs with
  | refused _ _ _ _ hfail =>
    obtain ⟨err, h | h⟩ := hfail <;> simp [h] at hok
  | unknown reducer hints hl hn hr =>
    exact .unknown reducer hints _ _ hl hn (hr.imp_right And.right)
  | moved hints hl hn _ htr => exact .moved hints _ _ hl hn htr

lemma Base.fed_stamp (hb : r.Base) (hlive : r.faulted = false) (hok : (r.fed ev).failure = none)
    (hob : Reducer.observedState ev.state.status = .stopped) :
    (r.fed ev).models.reducer.state = .stopped ∧
      (r.fed ev).models.reducer.stopEpoch = (sessionObservation ev.state).stopStamp := by
  have htak := hb.taken hlive hok
  generalize r.fed ev = fed at htak ⊢
  cases htak with
  | unknown _ _ _ _ _ hn => simp [hob] at hn
  | moved _ _ _ hl _ htr =>
    refine ⟨hob, ?_⟩
    -- a stopped sample of a new stamp is a stop, and any other repeats the stamp
    have hseen : r.models.reducer.hasStop = true → r.models.reducer.state ≠ .unknown :=
      (hb.tied hlive hl).reducer.known_of_hasStop
    simp only [Models.moved, Reducer.move]
    revert htr
    simp only [Reducer.transition, hob, sessionObservation]
    have hdead := hl.2
    cases hs : r.models.reducer.state <;> cases hst : r.models.reducer.hasStop <;>
      by_cases he : ev.state.processInfo.stopStamp.getD 0 = r.models.reducer.stopEpoch <;>
      simp_all [Transition.between, Transition.stops, Transition.turns]

lemma Base.fed_unfaulted (hb : r.Base) (hlive : r.faulted = false)
    (hok : (r.fed ev).failure = none) :
    r.models.reducer.state ≠ .faulted ∧ (r.fed ev).models.reducer.state ≠ .faulted := by
  have htak := hb.taken hlive hok
  generalize r.fed ev = fed at htak ⊢
  cases htak with
  | unknown _ _ _ _ hl _ hr =>
    rcases hr with rfl | rfl <;> exact ⟨hl.2, hl.2⟩
  | moved _ _ _ hl hn =>
    refine ⟨hl.2, ?_⟩
    rcases hn with hn | hn <;> simp [Models.moved, Reducer.move, sessionObservation, hn]

variable {err : Error}

lemma fed_arbiterErr (h : (r.fed ev).failure = some (.arbiter err)) :
    (r.fed ev).models.reducer = r.models.reducer := by
  simp only [fed, Models.feed] at h ⊢
  cases ho : ((r.models.noteHalt r.resolver ev).observe
      (stopObservation ev.state ev.halt ev.hasHalt)).err with
  | some err' => simp
  | none =>
    simp only [ho] at h
    cases hr : (r.models.reducer.observe (sessionObservation ev.state)).err with
    | some | none => simp [hr] at h

lemma Base.fed_dead (hb : r.Base) (hlive : r.faulted = false)
    (h : (∃ err, (r.fed ev).failure = some (.arbiter err)) ∨
      ∃ err, (r.fed ev).failure = some (.reducer err)) : ¬ (r.fed ev).models.Live := by
  have habs := Models.absorbed (hb.tied hlive) r.resolver ev
  change Models.Absorbed _ _ (r.fed ev) at habs
  generalize r.fed ev = fed at h habs ⊢
  cases habs with
  | refused _ hdead => exact hdead
  | unknown | moved => simp at h

lemma fed_refused (h : (r.fed ev).failure = some (.reducer err)) :
    (r.models.reducer.observe (sessionObservation ev.state)).err = some err ∧
      (r.fed ev).models.reducer = (r.models.reducer.observe (sessionObservation ev.state)).reducer ∧
      (r.fed ev).actions = (r.models.reducer.observe (sessionObservation ev.state)).actions := by
  simp only [fed, Models.feed] at h ⊢
  cases ho : ((r.models.noteHalt r.resolver ev).observe
      (stopObservation ev.state ev.halt ev.hasHalt)).err with
  | some err' => simp [ho] at h
  | none =>
    simp only [ho] at h ⊢
    cases hr : (r.models.reducer.observe (sessionObservation ev.state)).err with
    | none => simp [hr] at h
    | some err' =>
      obtain rfl : err' = err := by simpa [hr] using h
      exact ⟨rfl, rfl, rfl⟩

lemma fed_reducerErr (h : (r.fed ev).failure = some (.reducer err)) :
    (r.fed ev).models.reducer.state = .faulted := by
  obtain ⟨hrr, hred, -⟩ := fed_refused h
  rw [hred]
  exact Reducer.faulted_of_err hrr

lemma is_reconciliationRequired_of_reducerErr (h : (r.fed ev).failure = some (.reducer err)) :
    err.is .reconciliationRequired = true := by
  have hrr := (fed_refused h).1
  rcases Reducer.observe_err hrr with ⟨-, heq⟩ | ⟨r', cause, heq⟩
  · rw [heq] at hrr
    cases hrr
    rfl
  rw [heq] at hrr
  cases hrr
  rfl

lemma Base.fed_clash (hb : r.Base) (hlive : r.faulted = false)
    (h : (r.fed ev).failure = some (.disagreement err)) :
    r.models.reducer.state = .running ∧ r.models.reducer.hasStop = true ∧
      (r.fed ev).models.reducer.state = .running ∧ (r.fed ev).models.Live := by
  have htied := hb.tied hlive
  by_cases hl : (r.fed ev).models.Live
  · have hmiss : r.models.MissesCycle (.sample r.resolver ev) := by
      by_contra hno
      have hag := (Models.agrees_accept_iff htied (hb.agrees hlive) _).mpr hno
      obtain ⟨t, htk⟩ := Models.takes htied (i := .sample r.resolver ev) hl
      have := htk.failure (Models.verify_eq_none.mpr (hag hl))
      change (r.fed ev).failure = none at this
      rw [this] at h
      cases h
    obtain ⟨hru, -, hsp, hob, -, -⟩ := hmiss
    refine ⟨hru, hsp, ?_, hl⟩
    have habs := Models.absorbed htied r.resolver ev
    change Models.Absorbed _ _ (r.fed ev) at habs
    generalize r.fed ev = fed at h habs hl ⊢
    cases habs with
    | refused _ hdead => exact absurd hl hdead
    | unknown _ _ _ hn =>
      rw [hob] at hn
      cases hn
    | moved => exact hob
  · exact absurd h ((Models.accept_dead htied (i := .sample r.resolver ev) hl).2.2.1 err)

end fed

/-! ### Moves keep it -/

variable {G : Guard} {r r' : Runtime}

lemma noteHint_models (m : Models) (rs : Resolver) (tok : UInt32) :
    ∃ hints, { m with stopper := (m.stopper.noteHint rs tok).1 } =
      (⟨m.reducer, m.stopper.withHints hints⟩ : Models) := by
  obtain ⟨hints, h⟩ := m.stopper.noteHint_eq rs tok
  exact ⟨hints, by rw [h]⟩

lemma base_of_faulted (hf : r.faulted = true) (hin : r.inflight = none)
    (ho : r.opening = true → r.opened = false)
    (hl : ∀ eff, r.lastStop = some eff → eff.kind = .stopped) : r.Base where
  unopened := ho
  single := fun _ h => nomatch hf.symm.trans h
  idle := fun _ h => nomatch hf.symm.trans h
  unseen := fun _ h => nomatch hf.symm.trans h
  waits := fun _ => hin
  tied := fun h => nomatch hf.symm.trans h
  agrees := fun h => nomatch hf.symm.trans h
  last := hl

lemma Base.withModels (h : r.Base) (htied : m.Live → m.Tied) (hagr : m.Agrees)
    (huns : r.opened = false → r.faulted = false →
      m.reducer.state = .unknown ∨ m.reducer.state = .faulted) : Base { r with models := m } :=
  { h with unseen := huns, tied := fun _ => htied, agrees := fun _ => hagr }

theorem Base.move (h : r.Base) (hm : Move G r r') : r'.Base := by
  cases hm with
  | control configuring leaseOwner =>
    exact { h with tied := fun hf hl => (h.tied hf hl).control configuring leaseOwner }
  | hint tok =>
    obtain ⟨hints, heq⟩ := noteHint_models r.models r.resolver tok
    rw [heq]
    exact { h with tied := fun hf hl => (h.tied hf hl).withHints hints }
  | sample _ hop hlive _ _ _ hfe =>
    have hok := h.fed_ok hlive hfe
    rw [absorb_eq]
    refine { h with
      unseen := ?_
      tied := fun _ => hok.1
      agrees := fun _ => hok.2
      last := kind_lastStopAfter h.last }
    exact fun ho => nomatch hop.symm.trans ho
  | bootstrap _ _ hlive _ _ _ hfe =>
    have hok := h.fed_ok hlive hfe
    rw [absorb_eq]
    constructor
    case unopened => exact fun ho => by cases ho
    case single => exact fun ho => by cases ho
    case idle => exact fun ho => by cases ho
    case unseen => exact fun ho => by cases ho
    case waits => exact h.waits
    case tied => exact fun _ => hok.1
    case agrees => exact fun _ => hok.2
    case last => exact kind_lastStopAfter h.last
  | arbiterErr _ err hlive _ hfe =>
    have hdead := h.fed_dead hlive (.inl ⟨err, hfe⟩)
    refine h.withModels (fun hl => absurd hl hdead) (Models.agrees_of_dead hdead) ?_
    rw [fed_arbiterErr hfe]
    exact h.unseen
  | reducerErr _ err _ hlive _ hfe =>
    have hdead := h.fed_dead hlive (.inr ⟨err, hfe⟩)
    have hsa := fed_reducerErr hfe
    rw [actions_eq]
    exact { h with
      unseen := fun _ _ => .inr hsa
      tied := fun _ hl => absurd hl hdead
      agrees := fun _ => Models.agrees_of_dead hdead }
  | clash _ _ hopeni hlive _ hfe =>
    -- before the first observation there is no cycle to miss
    have hru := (h.fed_clash hlive hfe).1
    have hno := h.unseen (h.unopened hopeni) hlive
    simp [hru] at hno
  | reducerFault _ _ _ hid =>
    rw [actions_eq]
    exact base_of_faulted rfl hid h.unopened h.last
  | fault _ _ _ _ _ _ _ hopeni =>
    exact base_of_faulted rfl rfl (fun ho => h.unopened (hopeni ho)) h.last
  | allocate => rw [withLedger_eq]; exact { h with }
  | enqueue _ hq =>
    -- an operation is queued before the session is open only if nothing else is under way
    have hload : r.opened = false → r.faulted = false → r.opening = true ∧ r.load = 0 := by
      intro ho hf
      rcases hq.ready with h' | ⟨h', hp, hin⟩
      · simp [ho] at h'
      · exact ⟨h', by simp [load, hp, hin]⟩
    refine { h with single := ?_, idle := ?_ }
    · intro ho hf
      have := (hload ho hf).2
      simp only [load, Runtime.enqueue, List.length_append, List.length_singleton] at this ⊢
      omega
    · intro ho hf hno
      cases (hload ho hf).1.symm.trans hno
  | schedule _ hop =>
    -- a cleanup is scheduled in a session that is open or has failed closed
    have hope : r.opened = false → r.faulted = false → False := by
      intro ho hf
      simp [ho, hf] at hop
    exact { h with
      single := fun ho hf => (hope ho hf).elim
      idle := fun ho hf => (hope ho hf).elim }
  | pop _ rest hp =>
    have hload : Runtime.load { r with pending := rest } ≤ r.load := by simp [load, hp]
    exact { h with
      single := fun ho hf => hload.trans (h.single ho hf)
      idle := fun ho hf hno => Nat.le_zero.mp (hload.trans (h.idle ho hf hno).le) }
  | launch work rest hlive hid hp =>
    have hload : Runtime.load ({ r with pending := rest }.launch work) = r.load := by
      simp [load, Runtime.launch, hp, hid]
    exact { h with
      single := fun ho hf => hload.le.trans (h.single ho hf)
      idle := fun ho hf hno => hload.trans (h.idle ho hf hno)
      waits := fun hf => nomatch hlive.symm.trans hf }
  | acknowledge fl _ rest _ hin =>
    have hload : ∀ in',
        Runtime.load { r with complete := rest, inflight := some in' } = r.load := by
      simp [load, hin]
    exact { h with
      single := fun ho hf => (hload _).le.trans (h.single ho hf)
      idle := fun ho hf hno => (hload _).trans (h.idle ho hf hno)
      waits := fun hf => by simp [h.waits hf] at hin }
  | settle fl _ rest =>
    have hload : Runtime.load { r with complete := rest, inflight := none } ≤ r.load := by
      simp [load]
    exact { h with
      single := fun ho hf => hload.trans (h.single ho hf)
      idle := fun ho hf hno => Nat.le_zero.mp (hload.trans (h.idle ho hf hno).le)
      waits := fun _ => rfl }
  | begin _ hope =>
    exact { h with unopened := fun _ => hope, idle := fun _ _ hno => nomatch hno }
  | abandon ha =>
    refine { h with unopened := (fun ho => by cases ho), idle := ?_ }
    intro ho hf _
    rcases ha with hf' | ⟨hp, hin⟩
    · cases hf.symm.trans hf'
    · simp [load, hp, hin]
  | dispatch _ _ _ htn => cases htn <;> exact { h with }
  | worker _ htn =>
    cases htn with
    | inspect => rw [withLedger_eq]; exact { h with }
    | _ => exact { h with }
  | _ => exact { h with }

theorem Base.moves (h : r.Base) (hm : Moves G r r') : r'.Base := by
  induction hm with
  | refl => exact h
  | tail _ hst ih => exact ih.move hst

end Runtime

end MultiDap.Actor
