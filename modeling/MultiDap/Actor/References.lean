import MultiDap.Actor.Traffic

/-!
# References into a stopped target

A handle is valid from the moment it is minted until the next invalidation is published, the session
fails closed, or it is closed. The actor also drops all handles when an inspection request turns out
to be stale. In most runs that request is answered before anything is minted in the new stop, but a
frontend that allocates a handle directly does not wait for the queue, and then a handle of the
current stop is lost. `handle_lifetime` is about the runs in which that does not happen.
-/

namespace MultiDap.Actor

open Machine Inspection Stop Session Relation Handle List Option Reducer Work

/-- No handle is allocated while a stale inspection request waits for its answer. -/
def noStaleAllocation : Guard where
  allocate r := ¬ r.StaleInspection

namespace Runtime

/-- The stop epochs of the inspection requests that are not answered, the oldest first. -/
def epochs (r : Runtime) : List UInt64 :=
  ((r.inflight.map Inflight.work).toList ++ r.pending).filterMap Work.inspects

structure References (r : Runtime) : Prop where
  balanced : r.ledger.Balanced
  minting : ∀ job program, r.worker = some ⟨job, .inspect program⟩ →
    ∃ epoch, job.work.inspects = some epoch ∧
      Prog.Within Inspection.env (Mints epoch) (fun _ => True) program
  ordered : r.epochs.Pairwise (· ≤ ·)
  bounded : ∀ epoch ∈ r.epochs, epoch ≤ r.models.reducer.stopEpoch
  current : r.faulted = false → ∀ inflight epoch, r.inflight = some inflight →
    inflight.work.inspects = some epoch → r.sameStoppedEpoch epoch = true
  stopped : ∀ h ∈ r.valid, r.faulted = false ∧ r.sameStoppedEpoch h.stopEpoch = true
  fresh : r.valid ≠ [] → ¬ r.StaleInspection
  counted : ∀ h ∈ r.valid, h ∈ r.counted
  issued : ∀ h ∈ r.counted, h ∈ r.ledger.issued
  held : ∀ h ∈ r.valid, r.ledger.store.m h.id = some h
  gone : ∀ h ∈ r.counted, h ∉ r.valid → r.ledger.store.m h.id = none

lemma references_new (opts : Options) : (new opts).References where
  balanced := Ledger.balanced_init
  minting := by simp [new]
  ordered := by simp [new, epochs]
  bounded := by simp [new, epochs]
  current := by simp [new]
  stopped := by simp [new]
  fresh := by simp [new]
  counted := by simp [new]
  issued := by simp [new]
  held := by simp [new]
  gone := by simp [new]

variable {G : Guard} {r r' : Runtime}
variable {ep : UInt64}

lemma sameStoppedEpoch_iff : r.sameStoppedEpoch ep = true ↔
      r.models.reducer.state = .stopped ∧ r.models.reducer.stopEpoch = ep := by
  simp [sameStoppedEpoch, snapshot, Reducer.snapshot]

lemma mem_epochs : ep ∈ r.epochs ↔ ∃ work, work.inspects = some ep ∧
      (work ∈ r.pending ∨ ∃ fl, r.inflight = some fl ∧ fl.work = work) := by
  simp only [epochs, mem_filterMap, mem_append, mem_toList, map_eq_some_iff]
  constructor
  · rintro ⟨work, h, he⟩
    exact ⟨work, he, h.symm⟩
  · rintro ⟨work, he, h⟩
    exact ⟨work, h.symm, he⟩

lemma staleInspection_iff : r.StaleInspection ↔ ∃ ep ∈ r.epochs, r.sameStoppedEpoch ep = false := by
  constructor
  · rintro ⟨work, ep, hw, hs, h⟩
    exact ⟨ep, mem_epochs.mpr ⟨work, hw, h⟩, hs⟩
  rintro ⟨ep, he, hs⟩
  obtain ⟨work, hw, h⟩ := mem_epochs.mp he
  exact ⟨work, ep, hw, hs, h⟩

instance (r : Runtime) : Decidable r.StaleInspection :=
  decidable_of_iff _ staleInspection_iff.symm

/-! ### Dropping and minting -/

lemma References.cleared (h : r.References) :
    References { r with ledger := r.ledger.dropStopBound, valid := [] } :=
  { h with
    balanced := h.balanced.drop
    stopped := by simp
    fresh := by simp
    counted := by simp
    held := by simp
    gone := fun _ _ _ => rfl }

lemma References.drop (h : r.References) (hv : r.valid = []) : r.dropStopBound.References := by
  have := h.cleared
  rw [← hv] at this
  exact this

lemma withLedger_self : r.withLedger r.ledger = r := by
  unfold withLedger
  split_ifs <;> simp

lemma References.withLedger (h : r.References) {led : Ledger Payload}
    (hm : Ledger.Minted ep r.ledger led)
    (hcur : r.models.reducer.state = .stopped → r.faulted = false →
      r.models.reducer.stopEpoch = ep ∧ ¬ r.StaleInspection) : (r.withLedger led).References := by
  cases hm with
  | refused =>
    rw [withLedger_self]
    exact h
  | minted g _ hep hnew led hm hissued hbal =>
    have hother : ∀ g' ∈ r.ledger.issued, led.store.m g'.id = r.ledger.store.m g'.id := by
      intro g' hg'
      rw [hm, Function.update_of_ne (hnew g' hg').ne]
    have hself : led.store.m g.id = some g := by rw [hm, Function.update_self]
    unfold Runtime.withLedger
    rw [hissued, drop_left]
    split_ifs with hs
    · obtain ⟨he, hsa⟩ := hcur hs.1 hs.2
      have hold : ∀ g' ∈ r.valid, g' ∈ r.ledger.issued := fun g' hg' =>
        h.issued g' (h.counted g' hg')
      refine { h with
        balanced := hbal, stopped := ?_, fresh := fun _ => hsa, counted := ?_, issued := ?_
        held := ?_, gone := ?_ }
      · intro g' hg'
        rcases mem_concat.mp hg' with hg' | rfl
        · exact h.stopped g' hg'
        · exact ⟨hs.2, sameStoppedEpoch_iff.mpr ⟨hs.1, he.trans hep.symm⟩⟩
      · exact fun g' hg' => mem_append.mpr ((mem_append.mp hg').imp_left (h.counted g'))
      · intro g' hg'
        rw [hissued]
        exact mem_append.mpr ((mem_append.mp hg').imp_left (h.issued g'))
      · intro g' hg'
        rcases mem_concat.mp hg' with hg' | rfl
        · exact (hother g' (hold g' hg')).trans (h.held g' hg')
        · exact hself
      intro g' hg' hn
      simp only [mem_append, not_or] at hn
      rcases mem_append.mp hg' with hg' | hg'
      · exact (hother g' (h.issued g' hg')).trans (h.gone g' hg' hn.1)
      · exact absurd hg' hn.2
    · refine { h with balanced := hbal, issued := ?_, held := ?_, gone := ?_ }
      · intro g' hg'
        rw [hissued]
        exact mem_append_left _ (h.issued g' hg')
      · exact fun g' hg' => (hother g' (h.issued g' (h.counted g' hg'))).trans (h.held g' hg')
      · exact fun g' hg' hn => (hother g' (h.issued g' hg')).trans (h.gone g' hg' hn)

/-! ### Samples -/

section sample

variable {ev : StateEvidence}

lemma fed_stopEpoch_le (hb : r.Base) (hlive : r.faulted = false) :
    r.models.reducer.stopEpoch ≤ (r.fed ev).models.reducer.stopEpoch := by
  simp only [fed, Models.feed]
  split
  · exact UInt64.le_refl _
  have hle : r.models.reducer.stopEpoch ≤
      (r.models.reducer.observe (sessionObservation ev.state)).reducer.stopEpoch := by
    by_cases hf : r.models.reducer.state = .faulted
    · rw [observe_faulted hf]
      exact UInt64.le_refl _
    rename_i hok
    -- the arbiter has not refused, so that both models are alive
    have hsp : r.models.stopper.faulted = false := by
      obtain ⟨hints, ha⟩ := r.models.noteHalt_eq r.resolver ev
      by_contra hno
      have hno' : (r.models.noteHalt r.resolver ev).faulted = true := by
        rw [ha]
        simpa using hno
      simp [Arbiter.observe_faulted hno'] at hok
    exact (hb.tied hlive ⟨hsp, hf⟩).reducer.stopEpoch_le_observe _
  split <;> exact hle

lemma fed_kept (hb : r.Base) (hlive : r.faulted = false)
    (hok : (r.fed ev).failure = none) (hs : r.models.reducer.state = .stopped)
    (hinv : invalidates (r.fed ev).effects = false) : (r.fed ev).models.reducer.state = .stopped ∧
      (r.fed ev).models.reducer.stopEpoch = r.models.reducer.stopEpoch := by
  have htak := hb.taken hlive hok
  generalize r.fed ev = fed at htak hinv ⊢
  cases htak with
  | unknown _ _ _ _ _ _ hr =>
    rcases hr with rfl | rfl <;> exact ⟨hs, rfl⟩
  | moved hints _ _ hl hn htr =>
    have htied := hb.tied hlive hl
    have hsp := htied.reducer.hasStop_of_stopped hs
    have hemit := htied.transition_eq ev
    rw [← Arbiter.transition_withHints _ hints] at hemit
    -- of the transitions from a stop, only the quiet one invalidates nothing
    have hqu : r.models.reducer.transition (sessionObservation ev.state) = .quiet ∧
        observedState ev.state.status = .stopped := by
      simp only [Arbiter.emitted, hemit] at hinv
      revert hinv htr
      simp only [transition, hs, hsp, sessionObservation]
      rcases hn with hn | hn <;> rw [hn] <;>
        by_cases hne : ev.state.processInfo.stopStamp.getD 0 = r.models.reducer.stopEpoch <;>
        simp [Transition.between, hne, invalidates, Arbiter.invalidateAt]
    refine ⟨hqu.2, ?_⟩
    simp [Models.moved, move, hqu.1, Transition.stops, Transition.turns]

lemma fed_reducerErr_invalidates {err : Error} (h : (r.fed ev).failure = some (.reducer err)) :
    r.models.reducer.state = .faulted ∨ invalidating (r.fed ev).actions = true := by
  obtain ⟨hrr, -, hac⟩ := fed_refused h
  refine (invalidates_of_err hrr).imp_right ?_
  rintro ⟨a, ha, hk⟩
  rw [hac]
  simp only [invalidating, List.any_eq_true]
  exact ⟨a, ha, by simp [hk]⟩

end sample

/-! ### Moves -/

section

variable (h : r.References)

include h

lemma References.valid_nil (hs : r.models.reducer.state ≠ .stopped) : r.valid = [] := by
  rw [eq_nil_iff_forall_not_mem]
  intro g hg
  exact hs (sameStoppedEpoch_iff.mp (h.stopped g hg).2).1

lemma References.withModels (hid : r.inflight = none) {m : Models}
    (hle : r.models.reducer.stopEpoch ≤ m.reducer.stopEpoch)
    (hkp : r.valid ≠ [] → m.reducer.state = r.models.reducer.state ∧
      m.reducer.stopEpoch = r.models.reducer.stopEpoch) : References { r with models := m } := by
  have hsm : r.valid ≠ [] → ∀ ep,
      sameStoppedEpoch { r with models := m } ep = r.sameStoppedEpoch ep := by
    intro hv ep
    simp only [sameStoppedEpoch, snapshot, Reducer.snapshot, (hkp hv).1, (hkp hv).2]
  refine { h with bounded := ?_, current := ?_, stopped := ?_, fresh := ?_ }
  · exact fun ep he => UInt64.le_trans (h.bounded ep he) hle
  · intro _ fl ep hin
    simp [hid] at hin
  · intro g hg
    rw [hsm (ne_nil_of_mem hg)]
    exact h.stopped g hg
  intro hv hsa
  obtain ⟨ep, he, hs⟩ := staleInspection_iff.mp hsa
  rw [hsm hv] at hs
  exact h.fresh hv (staleInspection_iff.mpr ⟨ep, he, hs⟩)

lemma References.absorb (hb : r.Base) (hlive : r.faulted = false)
    (hid : r.inflight = none) {ev : StateEvidence}
    (hok : (r.fed ev).failure = none) : (r.absorb (r.fed ev)).References := by
  have hle : r.models.reducer.stopEpoch ≤ (r.fed ev).models.reducer.stopEpoch :=
    fed_stopEpoch_le hb hlive
  rw [absorb_eq]
  cases hinv : invalidates (r.fed ev).effects with
  | true =>
    have := h.cleared.withModels hid hle (fun hv => absurd rfl hv)
    exact { this with }
  | false =>
    have := h.withModels hid hle fun hv => by
      obtain ⟨g, hg⟩ := exists_mem_of_ne_nil _ hv
      have hs := (sameStoppedEpoch_iff.mp (h.stopped g hg).2).1
      rw [hs]
      exact fed_kept hb hlive hok hs hinv
    exact { this with }

lemma References.reducerErr (hb : r.Base) (hlive : r.faulted = false)
    (hid : r.inflight = none) {ev : StateEvidence} {err : Error}
    (hfe : (r.fed ev).failure = some (.reducer err)) :
    ({ r with models := (r.fed ev).models }.applyReducerActions (r.fed ev).actions
      (r.fed ev).models.reducer.snapshot (some err)).References := by
  have hle : r.models.reducer.stopEpoch ≤ (r.fed ev).models.reducer.stopEpoch :=
    fed_stopEpoch_le hb hlive
  rw [actions_eq]
  cases hinv : invalidating (r.fed ev).actions with
  | true =>
    have := h.cleared.withModels hid hle (fun hv => absurd rfl hv)
    exact { this with }
  | false =>
    have hs : r.models.reducer.state = .faulted := by
      simpa [hinv] using fed_reducerErr_invalidates hfe
    have := h.withModels hid hle fun hv => absurd (h.valid_nil (by simp [hs])) hv
    exact { this with }

lemma References.publish {evt : Event} (hk : evt.kind ≠ .invalidated) :
    (r.publish evt).References := by
  rw [Runtime.publish, if_neg hk]
  exact { h with }

lemma References.fault (models : Models) (opening : Bool)
    (complete : List Completion) (op : Operation) (cause : Error) :
    ({ r with models, opening, complete, inflight := none }.fault op cause).References :=
  { h.cleared with
    ordered := by simp [Runtime.fault, epochs]
    bounded := by simp [Runtime.fault, epochs]
    current := by simp [Runtime.fault]
    stopped := by simp [Runtime.fault]
    fresh := by simp [Runtime.fault] }

lemma References.enqueue {work : Work}
    (hcur : ∀ ep, work.inspects = some ep → ep = r.models.reducer.stopEpoch) :
    (r.enqueue work).References := by
  have hepoc : (r.enqueue work).epochs = r.epochs ++ work.inspects.toList := by
    simp only [epochs, Runtime.enqueue, ← append_assoc]
    rw [filterMap_append]
    cases hw : work.inspects <;> simp [hw]
  have hnew : ∀ ep ∈ work.inspects.toList, ep = r.models.reducer.stopEpoch := by
    intro ep he
    exact hcur ep (by simpa using he)
  refine { h with ordered := ?_, bounded := ?_, fresh := ?_ }
  · rw [hepoc, pairwise_append]
    refine ⟨h.ordered, ?_, fun a ha b hb => hnew b hb ▸ h.bounded a ha⟩
    cases work.inspects <;> simp
  · intro ep he
    rw [hepoc] at he
    rcases mem_append.mp he with he | he
    · exact h.bounded ep he
    · exact hnew ep he ▸ UInt64.le_refl _
  intro hv hsa
  obtain ⟨ep, he, hs⟩ := staleInspection_iff.mp hsa
  rw [hepoc] at he
  rcases mem_append.mp he with he | he
  · exact h.fresh hv (staleInspection_iff.mpr ⟨ep, he, hs⟩)
  -- something is valid, so that the target is stopped and the request is about this stop
  obtain ⟨g, hg⟩ := exists_mem_of_ne_nil _ hv
  have hsp := (sameStoppedEpoch_iff.mp (h.stopped g hg).2).1
  rw [hnew ep he] at hs
  have : r.sameStoppedEpoch r.models.reducer.stopEpoch = true :=
    sameStoppedEpoch_iff.mpr ⟨hsp, rfl⟩
  cases this.symm.trans hs

lemma References.answered {pending : List Work} {inflight : Option Inflight}
    {complete : List Completion}
    (hsub : (epochs { r with pending, inflight, complete }).Sublist r.epochs)
    (hcur : r.faulted = false → ∀ i epoch, inflight = some i → i.work.inspects = some epoch →
      r.sameStoppedEpoch epoch = true) : References { r with pending, inflight, complete } :=
  { h with
    ordered := h.ordered.sublist hsub
    bounded := fun epoch he => h.bounded epoch (hsub.subset he)
    current := hcur
    fresh := fun hv hsa => by
      obtain ⟨epoch, he, hs⟩ := staleInspection_iff.mp hsa
      exact h.fresh hv (staleInspection_iff.mpr ⟨epoch, hsub.subset he, hs⟩) }

end

variable {prog : Prog (Ledger Payload) Query Query.Answer (Except Error Value)}

lemma minting_task {opts : Options} {work : Work} (h : work.task opts = .inspect prog) :
    ∃ ep, work.inspects = some ep ∧ Prog.Within Inspection.env (Mints ep) (fun _ => True) prog := by
  cases work with
  | inspection stop call =>
    refine ⟨stop.stopEpoch, rfl, ?_⟩
    simp only [task] at h
    split at h
    · obtain rfl := Task.inspect.inj h
      cases call with
      | stack => exact (MintsOnly.stack _ _ _).map _
      | scopes => exact (MintsOnly.scopes _).map _
      | variablePage => exact (MintsOnly.variablePage _ _ _).map _
      | evaluate => exact (MintsOnly.evaluate _ _ _).map _
    · obtain rfl := Task.inspect.inj h
      trivial
  | _ => simp [task] at h

lemma References.mints (h : r.References) (ht : r.Traffic) {job : Job}
    (hw : r.worker = some ⟨job, .inspect prog⟩)
    (hep : job.work.inspects = some ep) (hlive : r.faulted = false) :
    r.models.reducer.stopEpoch = ep ∧ ¬ r.StaleInspection := by
  have hkd : job.work.kind = .inspection := by
    cases hjo : job.work <;> simp [hjo, inspects] at hep
    rfl
  obtain ⟨fl, hin, hwk⟩ : ∃ i, r.inflight = some i ∧ i.work = job.work := by
    simpa [hkd] using ht.worker hlive hw
  have hcur := sameStoppedEpoch_iff.mp (h.current hlive fl ep hin (hwk ▸ hep))
  refine ⟨hcur.2, fun hsa => ?_⟩
  obtain ⟨e, he, hs⟩ := staleInspection_iff.mp hsa
  -- the request in flight is the oldest one and its epoch is the last one
  have hhead : ∃ rest, r.epochs = ep :: rest := by
    refine ⟨r.pending.filterMap inspects, ?_⟩
    simp [epochs, hin, hwk, hep]
  obtain ⟨rest, hrs⟩ := hhead
  have hle : ep ≤ e := by
    rw [hrs] at he
    rcases mem_cons.mp he with rfl | he
    · exact UInt64.le_refl _
    have := h.ordered
    rw [hrs, pairwise_cons] at this
    exact this.1 e he
  have heq : r.models.reducer.stopEpoch = e :=
    hcur.2.trans (UInt64.le_antisymm hle (hcur.2 ▸ h.bounded e he))
  have := sameStoppedEpoch_iff.mpr ⟨hcur.1, heq⟩
  cases this.symm.trans hs

theorem References.move (hb : r.Base) (ht : r.Traffic) (h : r.References)
    (hm : Move noStaleAllocation r r') : r'.References := by
  cases hm with
  | release _ hi =>
    refine h.publish ?_
    cases hi <;> simp [stoppedEvent]
  | sample _ _ hlive hid _ _ hfe => exact h.absorb hb hlive hid hfe
  | bootstrap _ _ hlive hid _ _ hfe =>
    exact { h.absorb hb hlive hid hfe with }
  | arbiterErr _ _ _ hid hfe =>
    refine h.withModels hid ?_ fun _ => ?_ <;> rw [fed_arbiterErr hfe]
    · exact UInt64.le_refl _
    · exact ⟨rfl, rfl⟩
  | reducerErr _ _ _ hlive hid hfe => exact h.reducerErr hb hlive hid hfe
  | reducerFault ev err hlive hid hfe =>
    have h₁ := h.reducerErr hb hlive hid hfe
    have hid₁ : ({ r with models := (r.fed ev).models }.applyReducerActions
        (r.fed ev).actions (r.fed ev).models.reducer.snapshot
        (some err)).inflight = none := by
      rw [actions_eq]
      exact hid
    generalize { r with models := (r.fed ev).models }.applyReducerActions
      (r.fed ev).actions (r.fed ev).models.reducer.snapshot (some err) = r₁
      at h₁ hid₁ ⊢
    have := h₁.fault r₁.models r₁.opening r₁.complete .state err
    rw [← hid₁] at this
    exact this
  | clash _ _ _ hlive hid hfe =>
    -- the target was running, and nothing was valid
    have hru := (hb.fed_clash hlive hfe).1
    exact h.withModels hid (fed_stopEpoch_le hb hlive) fun hv =>
      absurd (h.valid_nil (by simp [hru])) hv
  | fault models opening complete operation cause =>
    exact { h.fault models opening complete operation cause with }
  | drop hd =>
    refine h.drop ?_
    by_contra hv
    rcases hd with hf | hsa
    · obtain ⟨g, hg⟩ := exists_mem_of_ne_nil _ hv
      cases hf.symm.trans (h.stopped g hg).1
    · exact h.fresh hv hsa
  | allocate kind core value _ hg =>
    exact h.withLedger (h.balanced.alloc kind core _ value) fun _ _ => ⟨rfl, hg⟩
  | enqueue _ hq => exact h.enqueue hq.current
  | schedule =>
    have hcur : ∀ epoch, (breakpointCleanup r.models.reducer.stopEpoch).inspects = some epoch →
        epoch = r.models.reducer.stopEpoch := by simp [inspects]
    exact { h.enqueue hcur with }
  | pop work rest hp =>
    refine h.answered ?_ h.current
    simp only [epochs, hp]
    exact (List.Sublist.append_left (sublist_cons_self work rest) _).filterMap _
  | launch work rest _ hid hp hbound =>
    have : References { r with
        pending := rest
        inflight := some
          { token := r.nextToken + 1
            work := work
            generation := if work.isolated then r.executor.generation else 0 } } := by
      refine h.answered (by simp [epochs, hid, hp]) ?_
      rintro - _ epoch ⟨⟩ he
      exact hbound epoch he
    exact { this with }
  | acknowledge inflight _ _ _ hin =>
    refine h.answered ?_ ?_
    · simp [epochs, hin]
    · rintro hf _ epoch ⟨⟩ he
      exact h.current hf inflight epoch hin he
  | settle =>
    refine h.answered ?_ (by simp)
    simp only [epochs]
    exact (sublist_append_right _ _).filterMap _
  | close => exact { h.cleared with }
  | dispatch _ _ _ htn => cases htn <;> exact { h with }
  | worker _ htn =>
    cases htn with
    | take job =>
      refine { h with minting := ?_ }
      intro job' program hw
      obtain ⟨rfl, htask⟩ : job = job' ∧ job.work.task r.opts = .inspect program := by
        simpa using hw
      exact minting_task htask
    | transact _ program =>
      refine { h with minting := ?_ }
      rintro job' program ⟨⟩
    | inspect job program _ _ _ hw hst =>
      obtain ⟨epoch, hep, hwit⟩ := h.minting job program hw
      obtain ⟨hmint, hnx⟩ := hwit.advance hst
      have := h.withLedger (hmint h.balanced) fun _ hlive => h.mints ht hw hep hlive
      refine { this with minting := ?_ }
      rintro job' program' ⟨⟩
      exact ⟨epoch, hep, hnx⟩
    | report =>
      refine { h with minting := ?_ }
      rintro job' program ⟨⟩
  | _ => exact { h with }

end Runtime

end MultiDap.Actor
