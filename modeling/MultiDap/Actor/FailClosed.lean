import MultiDap.Actor.Submission

/-!
# Failing closed

A session that fails closed reports one fault, tells each frontend once, and is over: it starts no
operation, publishes no state and knows no handle. Most commands look at the flag that records it.
The end of the configuration barrier and the direct allocation of a handle look at the reducer
instead, and an inspection request that the worker has begun goes on. `fail_closed` is about the
runs in which none of these come afterwards.
-/

namespace MultiDap.Actor

open Machine Inspection Stop Session Relation List Option

/-- The announcements that a frontend was sent. -/
def Subscriber.told (sub : Subscriber) : Nat :=
  (sub.received ++ sub.events).countP (·.kind == .reconciliationRequired)

/-- Nobody attaches to a session whose reducer has faulted. In a session that has failed closed, no
barrier ends in a known state, no handle is allocated and no inspection request goes on. -/
def nothingAfterFault : Guard where
  attach r _ := r.models.reducer.state ≠ .faulted
  allocate r := r.faulted = false
  configured faulted := faulted = false
  inspected faulted := faulted = false

instance : nothingAfterFault.Checkable where
  attach _ _ := inferInstanceAs (Decidable (_ ≠ _))
  allocate _ := inferInstanceAs (Decidable (_ = _))
  configured _ := inferInstanceAs (Decidable (_ = _))
  inspected _ := inferInstanceAs (Decidable (_ = _))

namespace Runtime

variable {r r' : Runtime}

/-! ### Announcements -/

variable {subs : List Subscriber}

lemma told_offerAll {n buffer : Nat}
    (h : ∀ sub ∈ subs, sub.closed = false → sub.told = n) (es : List Event) :
    ∀ sub ∈ subs.map (·.offerAll buffer es), sub.closed = false →
      sub.told = n + es.countP (·.kind == .reconciliationRequired) := by
  intro sub hsub hop
  obtain ⟨sub₀, hsu₀, rfl⟩ := mem_map.mp hsub
  obtain ⟨hop₀, heq⟩ := Subscriber.offerAll_eq hop
  rw [heq, ← h sub₀ hsu₀ hop₀]
  simp [Subscriber.told, countP_append, countP_map, Function.comp_def, Nat.add_assoc]

lemma told_other {n buffer : Nat}
    (h : ∀ sub ∈ subs, sub.closed = false → sub.told = n) {es : List Event}
    (hother : ∀ e ∈ es, e.kind ≠ .reconciliationRequired) :
    ∀ sub ∈ subs.map (·.offerAll buffer es), sub.closed = false → sub.told = n := by
  have hnn : es.countP (·.kind == .reconciliationRequired) = 0 := by
    simpa [countP_eq_zero] using hother
  have htold := @told_offerAll subs n buffer h es
  rwa [hnn] at htold

lemma kind_sampleEvents (fed : Fed) :
    ∀ e ∈ r.sampleEvents fed, e.kind ≠ .reconciliationRequired := by
  intro e he
  obtain ⟨eff, -, rfl⟩ := mem_map.mp he
  unfold effectEvent
  split <;> simp [stoppedEvent]

/-- The announcements that were made: one as soon as the actor has failed closed, or the reducer. -/
def announced (r : Runtime) : Nat :=
  if r.faulted = true ∨ r.models.reducer.state = .faulted then 1 else 0

/-- What failing closed leaves behind: one fault, one announcement for everybody who listens, and no
handle. -/
structure Closed (r : Runtime) : Prop where
  once : r.faults.length = r.faulted.toNat
  told : ∀ sub ∈ r.subs, sub.closed = false → sub.told = r.announced
  empty : r.faulted = true → ∀ id, r.ledger.store.m id = none

lemma closed_new (opts : Options) : (new opts).Closed := by
  constructor <;> simp [new]

lemma Closed.live (h : r.Closed) (hlive : r.faulted = false) (hsm : r'.faulted = r.faulted)
    (hfa : r'.faults = r.faults)
    (htold : ∀ sub ∈ r'.subs, sub.closed = false → sub.told = r'.announced) : r'.Closed where
  once := by rw [hfa, hsm, h.once]
  told := htold
  empty := fun hf => nomatch hlive.symm.trans (hsm.symm.trans hf)

lemma announced_of_live (hlive : r.faulted = false) :
    r.announced = if r.models.reducer.state = .faulted then 1 else 0 := by
  simp [announced, hlive]

lemma Closed.absorb (h : r.Closed) (hb : r.Base) (hlive : r.faulted = false)
    {ev : StateEvidence} (hok : (r.fed ev).failure = none) : (r.absorb (r.fed ev)).Closed := by
  obtain ⟨hbe, haft⟩ := hb.fed_unfaulted hlive hok
  have hsm : r.announced = announced { r with models := (r.fed ev).models } := by
    simp [announced, hbe, haft]
  have htold := h.told
  rw [hsm] at htold
  rw [absorb_eq]
  exact h.live hlive rfl rfl (told_other htold (kind_sampleEvents (r.fed ev)))

lemma Closed.refused (h : r.Closed) (hlive : r.faulted = false) {ev : StateEvidence}
    {err : Error} (hfe : (r.fed ev).failure = some (.reducer err)) :
    ∀ sub ∈ ({ r with models := (r.fed ev).models }.applyReducerActions
      (r.fed ev).actions (r.fed ev).models.reducer.snapshot (some err)).subs,
      sub.closed = false → sub.told = 1 := by
  obtain ⟨hrr, -, hac⟩ := fed_refused hfe
  have htold := h.told
  rw [actions_eq, hac]
  rcases Reducer.observe_err hrr with ⟨hf, heq⟩ | ⟨reducer, cause, heq⟩
  · -- a reducer that has faulted before says nothing more
    have hbe : r.announced = 1 := by simp [announced, hf]
    rw [hbe] at htold
    rw [heq]
    exact told_other htold (by simp [Reducer.reject])
  have hbe : r.announced = 0 := by
    have hne : r.models.reducer.state ≠ .faulted := by
      intro hf
      simp [Reducer.observe_faulted hf, Reducer.reject, Reducer.fault] at heq
    simp [announced, hlive, hne]
  rw [hbe] at htold
  rw [heq]
  exact told_offerAll htold _

lemma told_announce {cause : Error} (h : ∀ sub ∈ r.subs, sub.closed = false →
      sub.told = if r.models.reducer.state = .faulted then 1 else 0) :
    ∀ sub ∈ (r.announce cause).subs, sub.closed = false → sub.told = 1 := by
  by_cases hf : r.models.reducer.state = .faulted
  · have hnn : r.announcement cause = [] := if_pos hf
    simp only [announce, hnn]
    exact told_other (by simpa [hf] using h) (by simp)
  have hone : r.announcement cause =
      [{ kind := .reconciliationRequired, snapshot := r.snapshot, cause := some cause }] :=
    if_neg hf
  simp only [announce, hone]
  exact told_offerAll (by simpa [hf] using h) _

lemma Closed.fault (h : r.Closed) (hlive : r.faulted = false) (op : Operation) (cause : Error)
    (htold : ∀ sub ∈ subs, sub.closed = false → sub.told = 1) :
    Closed { r.fault op cause with subs } where
  once := by simp [Runtime.fault, h.once, hlive]
  told := htold
  empty := fun _ _ => rfl

lemma Closed.withLedger (h : r.Closed) (hlive : r.faulted = false)
    (led : Handle.Ledger Payload) : (r.withLedger led).Closed := by
  rw [withLedger_eq]
  exact h.live hlive rfl rfl h.told

theorem Closed.move (hb : r.Base) (h : r.Closed) (hm : Move nothingAfterFault r r') :
    r'.Closed := by
  cases hm with
  | release evt hi =>
    have hkd : ∀ e ∈ [evt], e.kind ≠ .reconciliationRequired := by
      cases hi <;> simp [stoppedEvent]
    exact { h with told := told_other h.told hkd }
  | sample _ _ hlive _ _ _ hfe =>
    exact h.absorb hb hlive hfe
  | bootstrap _ _ hlive _ _ _ hfe =>
    exact { h.absorb hb hlive hfe with }
  | arbiterErr _ _ hlive _ hfe =>
    refine h.live hlive rfl rfl ?_
    simpa [announced, fed_arbiterErr hfe] using h.told
  | reducerErr ev _ _ hlive _ hfe =>
    have hone : announced { r with models := (r.fed ev).models } = 1 := by
      simp [announced, fed_reducerErr hfe]
    have htold := h.refused hlive hfe
    rw [actions_eq] at htold ⊢
    refine h.live hlive rfl rfl fun sub hsub hop => ?_
    exact (htold sub hsub hop).trans hone.symm
  | reducerFault _ err hlive _ hfe =>
    have htold := h.refused hlive hfe
    rw [actions_eq] at htold ⊢
    exact { h.fault hlive .state err htold with }
  | clash _ _ _ hlive _ hfe =>
    obtain ⟨hbe, -, haft, -⟩ := hb.fed_clash hlive hfe
    refine h.live hlive rfl rfl ?_
    simpa [announced, hbe, haft] using h.told
  | fault models _ _ op cause hlive hmod =>
    have hsm : models.reducer.state = .faulted ↔ r.models.reducer.state = .faulted := by
      rcases hmod with rfl | ⟨ev, err, hfe, rfl⟩
      · rfl
      · obtain ⟨hbe, -, haft, -⟩ := hb.fed_clash hlive hfe
        simp [hbe, haft]
    refine { h.fault hlive op cause (told_announce ?_) with }
    have htold := h.told
    rw [announced_of_live hlive] at htold
    by_cases hf : r.models.reducer.state = .faulted
    · simpa [Runtime.fault, hf, hsm.mpr hf] using htold
    · simpa [Runtime.fault, hf, mt hsm.mp hf] using htold
  | output evt _ he =>
    refine { h with told := ?_ }
    intro sub hsub hop
    obtain ⟨sub₀, hsu₀, rfl⟩ := mem_map.mp hsub
    split_ifs at hop ⊢
    · have hkd : ∀ e ∈ [evt], e.kind ≠ .reconciliationRequired := by simp [he]
      exact told_other h.told hkd _ (mem_map_of_mem hsu₀) hop
    · exact h.told sub₀ hsu₀ hop
  | attach _ hlive hg =>
    refine { h with told := ?_ }
    intro sub hsub hop
    rcases mem_concat.mp hsub with hsub | rfl
    · exact h.told sub hsub hop
    · have hne : r.models.reducer.state ≠ .faulted := hg
      exact (show r.announced = 0 by simp [announced, hlive, hne]).symm
  | silence =>
    refine { h with told := ?_ }
    intro sub hsub hop
    obtain ⟨sub₀, hsu₀, rfl⟩ := mem_map.mp hsub
    split_ifs at hop ⊢
    · cases hop
    · exact h.told sub₀ hsu₀ hop
  | drop => exact { h with empty := fun _ _ => rfl }
  | allocate _ _ _ _ hg => exact h.withLedger hg _
  | close =>
    refine { h with told := ?_, empty := fun _ _ => rfl }
    intro sub hsub hop
    obtain ⟨sub₀, -, rfl⟩ := mem_map.mp hsub
    cases hop
  | dispatch _ _ _ htn => cases htn <;> exact { h with }
  | worker _ htn hg =>
    cases htn with
    | inspect job prog _ led rp hw hst =>
      have hlive : r.faulted = false := hg job prog rp hw (by simp [hst])
      exact { h.withLedger hlive led with }
    | _ => exact { h with }
  | receive =>
    refine { h with told := ?_ }
    intro sub hsub hop
    obtain ⟨sub₀, hsu₀, rfl⟩ := mem_map.mp hsub
    have hsm := h.told sub₀ hsu₀
    cases hev : sub₀.events with
    | nil =>
      simp only [hev] at hop ⊢
      exact hsm hop
    | cons =>
      simp only [hev] at hop ⊢
      split_ifs at hop ⊢ with hid
      · -- the event changes sides
        refine Eq.trans ?_ (hsm hop)
        simp [Subscriber.told, hev]
      · exact hsm hop
  | _ => exact { h with }

/-! ### Afterwards -/

/-- What a session that has failed closed does not change any more. -/
structure Sealed (r r' : Runtime) : Prop where
  faults : r'.faults = r.faults
  published : r'.published = r.published
  nextToken : r'.nextToken = r.nextToken
  issued : r'.ledger.issued = r.ledger.issued

lemma Sealed.trans {r'' : Runtime} (h : r.Sealed r') (h' : r'.Sealed r'') : r.Sealed r'' where
  faults := h'.faults.trans h.faults
  published := h'.published.trans h.published
  nextToken := h'.nextToken.trans h.nextToken
  issued := h'.issued.trans h.issued

lemma Move.sealed (hm : Move nothingAfterFault r r') (hf : r.faulted = true) : r.Sealed r' := by
  have hover : ¬ r.faulted = false := by simp [hf]
  cases hm with
  | release _ _ hg => exact absurd hg hover
  | sample _ _ hlive => exact absurd hlive hover
  | bootstrap _ _ hlive => exact absurd hlive hover
  | arbiterErr _ _ hlive => exact absurd hlive hover
  | reducerErr _ _ _ hlive => exact absurd hlive hover
  | reducerFault _ _ hlive => exact absurd hlive hover
  | clash _ _ _ hlive => exact absurd hlive hover
  | fault _ _ _ _ _ hlive => exact absurd hlive hover
  | allocate _ _ _ _ hg => exact absurd hg hover
  | launch _ _ hlive => exact absurd hlive hover
  | dispatch _ _ _ htn => cases htn <;> exact ⟨rfl, rfl, rfl, rfl⟩
  | worker _ htn hg =>
    cases htn with
    | inspect job prog _ _ rp hw hst =>
      exact absurd (hg job prog rp hw (by simp [hst])) hover
    | _ => exact ⟨rfl, rfl, rfl, rfl⟩
  | _ => exact ⟨rfl, rfl, rfl, rfl⟩

lemma Moves.sealed (hm : Moves nothingAfterFault r r') (hf : r.faulted = true) : r.Sealed r' := by
  induction hm with
  | refl => exact ⟨rfl, rfl, rfl, rfl⟩
  | tail hpre hla ih => exact ih.trans (hla.sealed (Moves.faulted hpre hf))

/-- After a session has failed closed there is one fault, and everybody who still listens was told
once. Nothing is published, started or submitted, and no handle is minted or resolved. -/
theorem fail_closed {opts : Options} {inputs later : List Input}
    (hru : run step (new opts) inputs = some r) (hf : r.faulted = true)
    (hlt : run step r later = some r')
    (hqu : Along step nothingAfterFault.Admits (new opts) (inputs ++ later)) :
    r.faults.length = 1 ∧ r.Sealed r' ∧ r'.inflight = none ∧
      (∀ sub ∈ r'.subs, sub.closed = false → sub.told = 1) ∧ (∀ i, r'.submits i = none) ∧
      ∀ id stopEpoch stopped, r'.ledger.store.resolve id stopEpoch stopped =
        .error (.under s!"handle {id}" (.of .staleHandle)) := by
  obtain ⟨hbe, haft⟩ := (along_append hru).mp hqu
  have hinv (r r' : Runtime) (hb : r.Base) (h : r.Traffic ∧ r.Closed)
      (hm : Move nothingAfterFault r r') : r'.Traffic ∧ r'.Closed :=
    ⟨h.1.move hm, h.2.move hb hm⟩
  obtain ⟨hb, htr, hcl⟩ :=
    moves_invariant hinv ⟨traffic_new opts, closed_new opts⟩ hbe hru
  have hmov : Moves nothingAfterFault r r' := run_moves hb haft hlt
  have hf' : r'.faulted = true := hmov.faulted hf
  have hidle : r'.inflight = none := (hb.moves hmov).waits hf'
  obtain ⟨htr', hcl'⟩ := hmov.invariant hinv hb ⟨htr, hcl⟩
  refine ⟨by simp [hcl.once, hf], hmov.sealed hf, hidle, ?_, ?_, ?_⟩
  · intro sub hsub hop
    rw [hcl'.told sub hsub hop]
    simp [announced, hf']
  · intro i
    by_contra hsome
    obtain ⟨work, hsub⟩ := ne_none_iff_exists'.mp hsome
    obtain ⟨⟨d, hd, hear, -⟩, -⟩ := submits_spec hsub
    exact htr'.none_early (by simp [hidle]) d hd hear
  · intro id stopEpoch stopped
    exact Handle.Store.resolve_of_none (hcl'.empty hf' id) stopEpoch stopped

/-- A frontend configures a stopped target, and a poll poisons the bridge. -/
def configuringPoisoned : List Input :=
  bootstrap (stampedEvidence .stopped 1) ++
    [.command (.attach "a" 1), .command (.acquire "a" 2), .command (.beginConfiguration 3),
      .command (.poll 4)] ++ perform 4 (.error (.of .poisoned))

/-- The frontend gives up the configuration and goes on asking. -/
def givesUp : List Input :=
  [.command (.cancelConfiguration 5), .command (.configurationDone 6), .command (.poll 7),
    .command (.detach "a" inOrder 8)]

theorem fail_closed_given_up :
    ∃ r r', run step (new {}) configuringPoisoned = some r ∧ run step r givesUp = some r' ∧
      Along step nothingAfterFault.Admits (new {}) (configuringPoisoned ++ givesUp) ∧
      r.faulted = true ∧ r.faults.length = 1 ∧ r.Sealed r' ∧
      (∀ sub ∈ r.subs, sub.closed = false → sub.told = 1) ∧ ∀ i, r'.submits i = none := by
  have hqu : Along step nothingAfterFault.Admits (new {}) (configuringPoisoned ++ givesUp) := by
    decide +kernel
  obtain ⟨r, hru, hf, hsome⟩ : ∃ r, run step (new {}) configuringPoisoned = some r ∧
      r.faulted = true ∧ (run step r givesUp).isSome := exists_run (by decide +kernel)
  obtain ⟨r', hlt⟩ := isSome_iff_exists.mp hsome
  have hnow := fail_closed hru hf (show run step r [] = some r from rfl) (by
    rw [append_nil]
    exact ((along_append hru).mp hqu).1)
  have hthen := fail_closed hru hf hlt hqu
  exact ⟨r, r', hru, hlt, hqu, hf, hnow.1, hthen.2.1, hnow.2.2.2.1, hthen.2.2.2.2.1⟩

/-- The frontend ends the configuration instead, and is told that the target has stopped. It even
gets a handle, which resolves. -/
theorem stop_after_fault :
    ∃ r r', run step (new {}) configuringPoisoned = some r ∧ r.faulted = true ∧
      run step r [.command (.configurationDone 5),
        .command (.allocateHandle .frame 0 (.frame 0) 6)] = some r' ∧
      r'.published.map Event.kind = r.published.map Event.kind ++ [.stopped] ∧
      (r'.ledger.store.resolve 1 1 true).toOption.isSome := by
  obtain ⟨r, hru, hf, hlt⟩ : ∃ r, run step (new {}) configuringPoisoned = some r ∧
      r.faulted = true ∧ ((run step r [.command (.configurationDone 5),
        .command (.allocateHandle .frame 0 (.frame 0) 6)]).any fun r' => decide
          (r'.published.map Event.kind = r.published.map Event.kind ++ [EventKind.stopped] ∧
            (r'.ledger.store.resolve 1 1 true).toOption.isSome)) = true :=
    exists_run (by decide +kernel)
  obtain ⟨r', hst, hbad⟩ := exists_run hlt
  exact ⟨r, r', hru, hf, hst, hbad⟩

end Runtime

end MultiDap.Actor
