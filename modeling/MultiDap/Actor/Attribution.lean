import MultiDap.Actor.Barrier
import MultiDap.Actor.Scheduling
import MultiDap.Actor.Transactions
import MultiDap.Stop.Hints

/-!
# Whose breakpoints a stop names

A stop event names the breakpoints that were hit and goes to every frontend that listens. The ids
come from the live breakpoints, from resolved hints, and from the last stop, repeated at the end of
a configuration; none of these forgets a frontend when it detaches. `stops_name_own` is about the
runs in which a frontend attaches only when everything that may still be named is its own, and sets
breakpoints only while nobody else listens.
-/

namespace MultiDap.Actor

open Machine Inspection Stop Session Relation List Option

namespace Runtime

variable {G : Guard} {r r' : Runtime}

/-- The operations that may still be executed. -/
def underway (r : Runtime) : List Work := r.waiting ++ r.accepted.map Job.work

/-- Whatever a stop may still be credited with belongs to this frontend. -/
structure Speaks (r : Runtime) (owner : ControllerID) : Prop where
  live : ∀ l ∈ r.world.store.live, l.owner = owner
  hints : ∀ p ∈ r.models.stopper.pending, 0 < p.target.breakpointID →
    (p.target.breakpointID, owner) ∈ r.world.issued
  /-- The stop that the end of a configuration would repeat. -/
  last : r.models.reducer.state = .stopped → ∀ effect, r.lastStop = some effect →
    effect.stopEpoch = r.models.reducer.stopEpoch →
    ∀ id ∈ effect.hitBreakpointIDs, (id, owner) ∈ r.world.issued
  /-- A frontend that has detached gets no breakpoint any more. -/
  works : ∀ work ∈ r.underway, ∀ other, work.owner = some other →
    other = owner ∨ r.world.store.cleanupOwners other = true

instance (r : Runtime) (owner : ControllerID) : Decidable (r.Speaks owner) :=
  have : Decidable (∀ l ∈ r.world.store.live, l.owner = owner) := inferInstance
  have : Decidable (∀ p ∈ r.models.stopper.pending, 0 < p.target.breakpointID →
    (p.target.breakpointID, owner) ∈ r.world.issued) := inferInstance
  have : Decidable (∀ effect, r.lastStop = some effect →
    effect.stopEpoch = r.models.reducer.stopEpoch →
    ∀ id ∈ effect.hitBreakpointIDs, (id, owner) ∈ r.world.issued) := inferInstance
  have : Decidable (∀ work ∈ r.underway, ∀ other, work.owner = some other →
    other = owner ∨ r.world.store.cleanupOwners other = true) := inferInstance
  decidable_of_iff (_ ∧ _ ∧ (r.models.reducer.state = .stopped → _) ∧ _)
    ⟨fun ⟨h₁, h₂, h₃, h₄⟩ => ⟨h₁, h₂, h₃, h₄⟩, fun h => ⟨h.live, h.hints, h.last, h.works⟩⟩

/-- Everybody who listens is this frontend. -/
def Alone (r : Runtime) (owner : ControllerID) : Prop :=
  ∀ sub ∈ r.subs, sub.closed = false → sub.owner = owner

instance (r : Runtime) (owner : ControllerID) : Decidable (r.Alone owner) :=
  inferInstanceAs (Decidable (∀ sub ∈ r.subs, _))

end Runtime

/-- A frontend attaches when nothing of anybody else may be named, and it sets breakpoints when
nobody else listens. -/
def oneFrontend : Guard where
  attach r owner := r.Speaks owner
  breakpoints r owner := r.Alone owner

instance : oneFrontend.Checkable where
  attach r owner := inferInstanceAs (Decidable (r.Speaks owner))
  breakpoints r owner := inferInstanceAs (Decidable (r.Alone owner))

namespace Runtime

variable {G : Guard} {r r' : Runtime}

/-! ### What may be named -/

lemma Move.accepted (hm : Move G r r') {j : Job} (hj : j ∈ r'.accepted) :
    j ∈ r.accepted ∨ j.work ∈ r.waiting := by
  cases hm with
  | sample | bootstrap => rw [absorb_eq] at hj; exact .inl hj
  | reducerErr | reducerFault => rw [actions_eq] at hj; exact .inl hj
  | allocate => rw [withLedger_eq] at hj; exact .inl hj
  | dispatch d _ hd htn =>
    cases htn with
    | submit _ _ _ hphase =>
      rcases mem_append.mp hj with hj | hj
      · exact .inl (mem_append_left _ hj)
      rcases mem_concat.mp hj with hj | rfl
      · exact .inl (mem_append_right _ hj)
      · exact .inr (mem_waiting.mpr (.inr ⟨d, hd, by simp [hphase, Phase.Unsubmitted], rfl⟩))
    | _ => exact .inl hj
  | worker _ htn =>
    cases htn with
    | take _ _ hidle hjobs =>
      left
      simpa [accepted, hidle, hjobs] using hj
    | transact _ _ _ _ _ hw =>
      left
      simpa [accepted, hw] using hj
    | inspect _ _ _ _ _ hw =>
      left
      rw [withLedger_eq] at hj
      simpa [accepted, hw] using hj
    | report =>
      left
      simp only [accepted, Runtime.report, map_none, toList_none, nil_append] at hj
      exact mem_append_right _ hj
  | _ => exact .inl hj

lemma Move.underway (hta : r.Traffic) (hm : Move G r r') {work : Work}
    (hwk : work ∈ r'.underway) (hon : work.owner ≠ none) : work ∈ r.underway ∨ r.Queues G work := by
  rcases mem_append.mp hwk with hwk | hwk
  · cases hm.awaited hta hwk with
    | before h => exact .inl (mem_append_left _ h)
    | queued h => exact .inr h
    | scheduled _ hcleanup => simp [hcleanup, Work.owner] at hon
  obtain ⟨j, hj, rfl⟩ := mem_map.mp hwk
  left
  rcases hm.accepted hj with hj | hj
  · exact mem_append_right _ (mem_map_of_mem hj)
  · exact mem_append_left _ hj

variable {owner : ControllerID}

lemma Speaks.resolver (h : r.Speaks owner) (hs : r.world.Sound) {tok : UInt32}
    {tgt : Breakpoint.HintTarget} (hlook : r.world.store.lookupHint tok = some tgt)
    (hpos : 0 < tgt.dapID) : (tgt.dapID, owner) ∈ r.world.issued := by
  rcases (hs.hints tok (by simp) tgt).mp hlook with ⟨l, hl, p, hp, -, rfl⟩ | ⟨x, hx, -, rfl⟩
  · have := hs.issuedTo l hl
    rwa [h.live l hl] at this
  · simp at hpos

/-- A hint that waits, or that would be recorded now. -/
def Known (r : Runtime) (p : PendingHint) : Prop :=
  p ∈ r.models.stopper.pending ∨ ∃ token target,
    r.world.store.lookupHint token = some target ∧ p.target.breakpointID = target.dapID

variable {p : PendingHint}

lemma Speaks.known (h : r.Speaks owner) (hs : r.world.Sound) (hp : r.Known p)
    (hpos : 0 < p.target.breakpointID) : (p.target.breakpointID, owner) ∈ r.world.issued := by
  rcases hp with hp | ⟨tok, tgt, hlook, heq⟩
  · exact h.hints p hp hpos
  · rw [heq] at hpos ⊢
    exact h.resolver hs hlook hpos

lemma known_noteHint {tok : UInt32}
    (hp : p ∈ (r.models.stopper.noteHint r.resolver tok).1.pending) : r.Known p := by
  rcases r.models.stopper.noteHint_cases r.resolver tok with heq | ⟨_, tgt, ⟨⟩, ht, heq⟩
  · exact .inl (heq ▸ hp)
  rw [heq] at hp
  rcases mem_concat.mp hp with hp | rfl
  · exact .inl hp
  · obtain ⟨found, hfou, rfl⟩ := map_eq_some_iff.mp ht
    exact .inr ⟨tok, found, hfou, rfl⟩

variable {ev : StateEvidence}

lemma known_noteHalt (hp : p ∈ (r.models.noteHalt r.resolver ev).pending) : r.Known p := by
  unfold Models.noteHalt at hp
  split_ifs at hp
  · split at hp
    · exact known_noteHint hp
    · exact .inl hp
  · exact .inl hp

lemma fed_known : (∀ p ∈ (r.fed ev).models.stopper.pending, r.Known p) ∧
      ∀ e ∈ (r.fed ev).effects, ∀ id ∈ e.hitBreakpointIDs,
        0 < id ∧ ∃ p, r.Known p ∧ p.target.breakpointID = id := by
  have hcre := Arbiter.credits_observe (r.models.noteHalt r.resolver ev)
    (stopObservation ev.state ev.halt ev.hasHalt)
  have hpen : ∀ p ∈ (r.fed ev).models.stopper.pending, r.Known p := by
    intro p hp
    refine known_noteHalt (hcre.1 p ?_)
    simp only [fed, Models.feed] at hp
    split at hp
    · exact hp
    · split at hp <;> exact hp
  refine ⟨hpen, fun e he id hid => ?_⟩
  obtain ⟨hpos, p, hp, heq⟩ := hcre.2 e (by
    simp only [fed, Models.feed] at he
    split at he
    · simp at he
    split at he
    · simp at he
    · exact he) id hid
  exact ⟨hpos, p, known_noteHalt hp, heq⟩

lemma Speaks.hits (h : r.Speaks owner) (hs : r.world.Sound)
    {e : Effect} (he : e ∈ (r.fed ev).effects) {id : Int} (hid : id ∈ e.hitBreakpointIDs) :
    (id, owner) ∈ r.world.issued := by
  obtain ⟨hpos, p, hp, rfl⟩ := fed_known.2 e he id hid
  exact h.known hs hp hpos

/-! ### The invariant -/

/-- Every stop that a frontend was told of names breakpoints of its own, and whatever may still be
named belongs to everybody who listens. -/
structure Attributed (r : Runtime) : Prop where
  heard : ∀ sub ∈ r.subs, ∀ e ∈ sub.received ++ sub.events, e.kind = .stopped →
    ∀ id ∈ e.hitBreakpointIDs, (id, sub.owner) ∈ r.world.issued
  speaks : ∀ sub ∈ r.subs, sub.closed = false → r.Speaks sub.owner
  /-- The stop that is remembered is not younger than the last one. -/
  past : r.faulted = false → r.models.reducer.state ≠ .faulted → ∀ effect,
    r.lastStop = some effect → r.models.reducer.hasStop = true ∧
      effect.stopEpoch ≤ r.models.reducer.stopEpoch

lemma attributed_new (opts : Options) : (new opts).Attributed := by
  constructor <;> simp [new]

lemma Attributed.works (h : r.Attributed) (ht : r.Traffic) (hm : Move oneFrontend r r')
    {sub : Subscriber} (hsub : sub ∈ r.subs) (hop : sub.closed = false) :
    ∀ work ∈ r'.underway, ∀ other, work.owner = some other →
      other = sub.owner ∨ r.world.store.cleanupOwners other = true := by
  intro work hwk other hother
  rcases hm.underway ht hwk (by simp [hother]) with hbe | hq
  · exact (h.speaks sub hsub hop).works work hbe other hother
  · exact .inl ((hq.owner other hother).1 sub hsub hop).symm

/-- The events name breakpoints of this frontend. -/
def Quotes (r : Runtime) (owner : ControllerID) (events : List Event) : Prop :=
  ∀ e ∈ events, e.kind = .stopped → ∀ id ∈ e.hitBreakpointIDs, (id, owner) ∈ r.world.issued

/-- The frontends are as before, but for events that were sent to those who listen. -/
def Sends (r r' : Runtime) (events : List Event) : Prop :=
  ∀ sub' ∈ r'.subs, ∃ sub ∈ r.subs, sub'.owner = sub.owner ∧
    (sub'.closed = false → sub.closed = false) ∧
    ∀ e ∈ sub'.received ++ sub'.events, e ∈ sub.received ++ sub.events ∨
      sub.closed = false ∧ ∃ e₀ ∈ events, e.kind = e₀.kind ∧
        e.hitBreakpointIDs = e₀.hitBreakpointIDs

lemma sends_same (es : List Event) (h : r'.subs = r.subs) : r.Sends r' es := by
  intro sub hsub
  rw [h] at hsub
  exact ⟨sub, hsub, rfl, id, fun e he => .inl he⟩

lemma sends_map (es : List Event) {f : Subscriber → Subscriber} (hf : r'.subs = r.subs.map f)
    (h : ∀ sub, (f sub).owner = sub.owner ∧ ((f sub).closed = false → sub.closed = false) ∧
      ∀ e ∈ (f sub).received ++ (f sub).events, e ∈ sub.received ++ sub.events ∨
        sub.closed = false ∧ ∃ e₀ ∈ es, e.kind = e₀.kind ∧
          e.hitBreakpointIDs = e₀.hitBreakpointIDs) : r.Sends r' es := by
  intro sub' hsu'
  rw [hf] at hsu'
  obtain ⟨sub, hsub, rfl⟩ := mem_map.mp hsu'
  exact ⟨sub, hsub, h sub⟩

lemma sent (sub : Subscriber) (buffer : Nat) (es : List Event) :
    (sub.offerAll buffer es).owner = sub.owner ∧
      ((sub.offerAll buffer es).closed = false → sub.closed = false) ∧
      ∀ e ∈ (sub.offerAll buffer es).received ++ (sub.offerAll buffer es).events,
        e ∈ sub.received ++ sub.events ∨ sub.closed = false ∧ ∃ e₀ ∈ es, e.kind = e₀.kind ∧
          e.hitBreakpointIDs = e₀.hitBreakpointIDs := by
  refine ⟨Subscriber.offerAll_owner _ _ _, fun hop => (Subscriber.offerAll_eq hop).1,
    fun e he => ?_⟩
  rcases Subscriber.mem_offerAll he with he | ⟨hop, e₀, he₀, rfl⟩
  · exact .inl he
  · exact .inr ⟨hop, e₀, he₀, rfl, rfl⟩

lemma sends_offerAll (es : List Event)
    (hf : r'.subs = r.subs.map (·.offerAll r.opts.eventBuffer es)) : r.Sends r' es :=
  sends_map es hf fun sub => sent sub _ es

lemma sends_close (es : List Event) {p : Subscriber → Bool}
    (hf : r'.subs = r.subs.map fun sub => if p sub then sub.close else sub) : r.Sends r' es := by
  refine sends_map es hf fun sub => ?_
  split_ifs
  · exact ⟨rfl, fun hop => (by cases hop), fun e he => .inl he⟩
  · exact ⟨rfl, id, fun e he => .inl he⟩

lemma Attributed.next (h : r.Attributed) (ht : r.Traffic) (hm : Move oneFrontend r r')
    {es : List Event} (hsen : r.Sends r' es) (hwo : r'.world = r.world)
    (hnew : ∀ owner, r.Speaks owner → r.Quotes owner es ∧
      (∀ p ∈ r'.models.stopper.pending, 0 < p.target.breakpointID →
        (p.target.breakpointID, owner) ∈ r.world.issued) ∧
      (r'.models.reducer.state = .stopped → ∀ eff, r'.lastStop = some eff →
        eff.stopEpoch = r'.models.reducer.stopEpoch →
        ∀ id ∈ eff.hitBreakpointIDs, (id, owner) ∈ r.world.issued))
    (hpast : r'.faulted = false → r'.models.reducer.state ≠ .faulted → ∀ eff,
      r'.lastStop = some eff → r'.models.reducer.hasStop = true ∧
        eff.stopEpoch ≤ r'.models.reducer.stopEpoch) : r'.Attributed where
  heard := by
    intro sub' hsu' e he hk id hid
    obtain ⟨sub, hsub, hon, -, hstr⟩ := hsen sub' hsu'
    rw [hwo, hon]
    rcases hstr e he with he | ⟨hop, e₀, he₀, hkd, hids⟩
    · exact h.heard sub hsub e he hk id hid
    · exact (hnew sub.owner (h.speaks sub hsub hop)).1 e₀ he₀ (hkd ▸ hk) id (hids ▸ hid)
  speaks := by
    intro sub' hsu' hop
    obtain ⟨sub, hsub, hon, hback, -⟩ := hsen sub' hsu'
    have hspe := h.speaks sub hsub (hback hop)
    obtain ⟨-, hhin, hla⟩ := hnew sub.owner hspe
    rw [hon]
    exact
      { live := by rw [hwo]; exact hspe.live
        hints := by rw [hwo]; exact hhin
        last := by rw [hwo]; exact hla
        works := by rw [hwo]; exact h.works ht hm hsub (hback hop) }
  past := hpast

lemma Attributed.kept (h : r.Attributed) (ht : r.Traffic) (hm : Move oneFrontend r r')
    {es : List Event} (hsen : r.Sends r' es) (hquo : ∀ owner, r.Speaks owner → r.Quotes owner es)
    (hwo : r'.world = r.world) (hhin : r'.models.stopper.pending = r.models.stopper.pending)
    (hsa : r'.models.reducer.state = r.models.reducer.state)
    (hep : r'.models.reducer.stopEpoch = r.models.reducer.stopEpoch)
    (hhas : r'.models.reducer.hasStop = r.models.reducer.hasStop)
    (hla : r'.lastStop = r.lastStop) (hfa : r'.faulted = r.faulted) : r'.Attributed := by
  refine h.next ht hm hsen hwo (fun owner hspe => ⟨hquo owner hspe, ?_, ?_⟩) ?_
  · rw [hhin]
    exact hspe.hints
  · rw [hsa, hep, hla]
    exact hspe.last
  · rw [hfa, hsa, hep, hhas, hla]
    exact h.past

lemma Attributed.same (h : r.Attributed) (ht : r.Traffic) (hm : Move oneFrontend r r')
    (hsubs : r'.subs = r.subs) (hwo : r'.world = r.world) (hmod : r'.models = r.models)
    (hla : r'.lastStop = r.lastStop) (hfa : r'.faulted = r.faulted) : r'.Attributed :=
  h.kept ht hm (sends_same [] hsubs) (by simp [Quotes]) hwo (by rw [hmod])
    (by rw [hmod]) (by rw [hmod]) (by rw [hmod]) hla hfa

/-! ### Samples -/

variable {eff : Effect}
variable {effects : List Effect}

lemma mem_lastStopAfter {last : Option Effect} (h : lastStopAfter effects last = some eff) :
    (eff ∈ effects ∧ eff.kind = .stopped) ∨ last = some eff := by
  unfold lastStopAfter at h
  induction effects generalizing last with
  | nil => exact .inr h
  | cons e _ ih =>
    rcases ih h with ⟨hme, hk⟩ | hla
    · exact .inl ⟨mem_cons_of_mem e hme, hk⟩
    dsimp only at hla
    split_ifs at hla with hk
    · cases hla
      exact .inl ⟨mem_cons_self, hk⟩
    · exact .inr hla

lemma mem_passedOn {configuring : Bool} {e : Effect}
    (h : e ∈ passedOn configuring effects) : e ∈ effects := by
  unfold passedOn at h
  split_ifs at h
  · exact mem_of_mem_filter h
  · exact h

lemma fed_stops (hb : r.Base) (hlv : r.faulted = false) (hok : (r.fed ev).failure = none) :
    (∀ e ∈ (r.fed ev).effects, e.kind = .stopped → (r.fed ev).models.reducer.hasStop = true ∧
        e.stopEpoch = (r.fed ev).models.reducer.stopEpoch) ∧
      (r.models.reducer.hasStop = true → (r.fed ev).models.reducer.hasStop = true) := by
  have htak := hb.taken hlv hok
  generalize r.fed ev = fed at htak ⊢
  cases htak with
  | unknown _ _ _ _ _ _ hr =>
    refine ⟨by simp, fun hsp => ?_⟩
    rcases hr with rfl | rfl <;> exact hsp
  | moved hints _ _ hl =>
    have hemit := (hb.tied hlv hl).transition_eq ev
    rw [← Arbiter.transition_withHints _ hints] at hemit
    refine ⟨fun e he hk => ?_, fun hsp => by simp [Models.moved, Reducer.move, hsp]⟩
    obtain ⟨hsto, he⟩ := Arbiter.stopped_of_emitted he hk
    rw [hemit] at hsto
    refine ⟨by simp [Models.moved, Reducer.move, hsto], ?_⟩
    have hstamp : e.stopEpoch = (stopObservation ev.state ev.halt ev.hasHalt).stopStamp := by
      rcases he with ⟨⟨exec, rfl⟩, -⟩ | ⟨⟨exec, rfl⟩, -⟩ <;> rfl
    rw [hstamp]
    simp only [Models.moved, Reducer.move, hsto, if_true]
    rfl

lemma Speaks.quotes_sample (h : r.Speaks owner) (hs : r.world.Sound) :
    r.Quotes owner (r.sampleEvents (r.fed ev)) := by
  intro evt hevent hk id hid
  obtain ⟨e, he, rfl⟩ := mem_map.mp hevent
  have hids : id ∈ e.hitBreakpointIDs := by
    unfold effectEvent at hid
    split at hid
    · simp at hid
    · simp at hid
    · exact hid
  exact h.hits hs (mem_passedOn he) hids

/-- The last stop after an accepted sample: a stop that was remembered before is not repeated as
another one. -/
lemma Speaks.last_sample (h : r.Speaks owner) (hs : r.world.Sound) (hb : r.Base)
    (hattr : r.Attributed) (hlv : r.faulted = false) (hok : (r.fed ev).failure = none)
    (hstopp : (r.fed ev).models.reducer.state = .stopped)
    (hla : lastStopAfter (passedOn (r.fed ev).models.reducer.configuring
      (r.fed ev).effects) r.lastStop = some eff)
    (hep : eff.stopEpoch = (r.fed ev).models.reducer.stopEpoch) :
    ∀ id ∈ eff.hitBreakpointIDs, (id, owner) ∈ r.world.issued := by
  intro id hid
  rcases mem_lastStopAfter hla with ⟨he, -⟩ | hold
  · exact h.hits hs (mem_passedOn he) hid
  rcases fed_stopped hb hlv hok hstopp with ⟨-, hsa, heq⟩ | ⟨⟨hob, hnew⟩, -⟩
  · exact h.last hsa eff hold (hep.trans heq) id hid
  -- the remembered stop would have the epoch of the stop that was there and of the new one
  obtain ⟨hsp, hle⟩ := hattr.past hlv (hb.fed_unfaulted hlv hok).1 eff hold
  have hsm : (r.fed ev).models.reducer.stopEpoch = r.models.reducer.stopEpoch :=
    UInt64.le_antisymm (hep ▸ hle) (fed_stopEpoch_le hb hlv)
  rcases hnew with hno | hne
  · simp [hno] at hsp
  · exact absurd ((hb.fed_stamp hlv hok hob).2.symm.trans hsm) hne

lemma Attributed.past_sample (h : r.Attributed) (hb : r.Base) (hlv : r.faulted = false)
    (hok : (r.fed ev).failure = none)
    (hla : lastStopAfter (passedOn (r.fed ev).models.reducer.configuring
      (r.fed ev).effects) r.lastStop = some eff) : (r.fed ev).models.reducer.hasStop = true ∧
      eff.stopEpoch ≤ (r.fed ev).models.reducer.stopEpoch := by
  obtain ⟨hsto, hgro⟩ := fed_stops hb hlv hok
  rcases mem_lastStopAfter hla with ⟨he, hk⟩ | hold
  · obtain ⟨hsp, heq⟩ := hsto eff (mem_passedOn he) hk
    exact ⟨hsp, heq ▸ UInt64.le_refl _⟩
  · obtain ⟨hsp, hle⟩ := h.past hlv (hb.fed_unfaulted hlv hok).1 eff hold
    exact ⟨hgro hsp, UInt64.le_trans hle (fed_stopEpoch_le hb hlv)⟩

lemma quotes_actions (r : Runtime) (owner : ControllerID) (models : Models)
    (acts : List Action) (snap : Session.Snapshot) (cause : Option Error) :
    r.Quotes owner (acts.map (Runtime.actionEvent { r with models } snap cause)) := by
  intro evt hevent hk id hid
  obtain ⟨a, ha, rfl⟩ := mem_map.mp hevent
  unfold actionEvent at hid
  split at hid <;> simp at hid

/-! ### Moves -/

lemma Initial.quotes {evt : Event} (h : r.Initial evt) (hspe : r.Speaks owner) :
    r.Quotes owner [evt] := by
  intro e he hk id hid
  obtain rfl := mem_singleton.mp he
  cases h with
  | replayed eff hla hep hsa => exact hspe.last hsa eff hla hep id hid
  | bare | resumed => simp at hid

variable {world : Breakpoint.World}

lemma Attributed.withWorld (h : r.Attributed) (worker : Option Running)
    (hiss : ∀ i ∈ r.world.issued, i ∈ world.issued)
    (hfen : ∀ other, r.world.store.cleanupOwners other = true →
      world.store.cleanupOwners other = true) (hworks : ∀ sub ∈ r.subs, sub.closed = false →
      (∀ l ∈ world.store.live, l.owner = sub.owner) ∧
      ∀ work ∈ Runtime.underway { r with world, worker }, ∀ other, work.owner = some other →
        other = sub.owner ∨ r.world.store.cleanupOwners other = true) :
    Attributed { r with world, worker } where
  heard := fun sub hsub e he hk id hid => hiss _ (h.heard sub hsub e he hk id hid)
  speaks := by
    intro sub hsub hop
    have hspe := h.speaks sub hsub hop
    obtain ⟨hlv, hwk⟩ := hworks sub hsub hop
    exact
      { live := hlv
        hints := fun p hp hpos => hiss _ (hspe.hints p hp hpos)
        last := fun hs eff hl he id hid => hiss _ (hspe.last hs eff hl he id hid)
        works := fun work hw other ho => (hwk work hw other ho).imp_right (hfen other) }
  past := h.past

/-- A transaction of the worker changes the breakpoints of its own frontend alone, and that
frontend is the one that listens, or it has detached and gets no breakpoint. -/
lemma Attributed.transact (h : r.Attributed) (ht : r.Traffic) (htr : r.Transacts) {job : Job}
    {prog next : Breakpoint.Transact (Except Error Value)}
    {rp : Breakpoint.Reply} (hw : r.worker = some ⟨job, .transact prog⟩)
    (hst : prog.advance Breakpoint.World.env r.world rp = some (world, next))
    (hm : Move oneFrontend r { r with world, worker := some ⟨job, .transact next⟩ }) :
    Attributed { r with world, worker := some ⟨job, .transact next⟩ } := by
  have hguar := htr.guarantee hw hst
  have hunf := (htr.move hm).sound.unfenced
  have hjo : job.work ∈ r.underway :=
    mem_append_right _ (mem_map_of_mem (by simp [accepted, hw]))
  -- what a replacement for `other` does
  have htouc : ∀ other, job.work.owner = some other →
      Breakpoint.World.Touches other r.world world →
      Attributed { r with world, worker := some ⟨job, .transact next⟩ } := by
    intro other hother htou
    obtain ⟨ids, hids, -⟩ := htou.issued
    refine h.withWorld _ (fun i hi => by rw [hids]; exact mem_append_left _ hi)
      (fun o ho => by rw [htou.cleanupOwners]; exact ho) fun sub hsub hop => ⟨?_, ?_⟩
    · intro l hl
      have hspe := h.speaks sub hsub hop
      by_cases heq : l.owner = other
      · rcases hspe.works _ hjo other hother with hsm | hfence
        · exact heq.trans hsm
        · have hno := hunf l hl
          rw [htou.cleanupOwners, heq, hfence] at hno
          cases hno
      have hme : l ∈ world.store.live.filter (·.owner != other) :=
        mem_filter.mpr ⟨hl, by simpa using heq⟩
      rw [htou.live] at hme
      exact hspe.live l (mem_of_mem_filter hme)
    · exact h.works ht hm hsub hop
  have hswee : Breakpoint.World.Sweeps r.world world →
      Attributed { r with world, worker := some ⟨job, .transact next⟩ } := by
    intro hswe
    refine h.withWorld _ (fun i hi => by rw [hswe.issued]; exact hi)
      (fun o ho => by rw [hswe.cleanupOwners]; exact ho) fun sub hsub hop => ⟨?_, ?_⟩
    · rw [hswe.live]
      exact (h.speaks sub hsub hop).live
    · exact h.works ht hm hsub hop
  cases hwk : job.work with
  | breakpoints other => rw [hwk] at hguar; exact htouc other (by rw [hwk]; rfl) hguar
  | sourceResolution other => rw [hwk] at hguar; exact htouc other (by rw [hwk]; rfl) hguar
  | _ => rw [hwk] at hguar; exact hswee hguar

lemma Attributed.sample (h : r.Attributed) (hb : r.Base) (ht : r.Traffic) (hs : r.world.Sound)
    (hlv : r.faulted = false) (opening opened : Bool) (hok : (r.fed ev).failure = none)
    (hm : Move oneFrontend r { r.absorb (r.fed ev) with opening, opened }) :
    Attributed { r.absorb (r.fed ev) with opening, opened } := by
  rw [absorb_eq] at hm ⊢
  refine h.next ht hm (sends_offerAll _ rfl) rfl (fun owner hspe => ⟨?_, ?_, ?_⟩) ?_
  · exact hspe.quotes_sample hs
  · exact fun p hp => hspe.known hs (fed_known.1 p hp)
  · exact fun hst e hl he => hspe.last_sample hs hb h hlv hok hst hl he
  · exact fun _ _ e hl => h.past_sample hb hlv hok hl

theorem Attributed.move (hb : r.Base) (ht : r.Traffic) (htr : r.Transacts) (h : r.Attributed)
    (hm : Move oneFrontend r r') : r'.Attributed := by
  have hs := htr.sound
  have hmove := hm
  cases hm with
  | control =>
    exact h.kept ht hmove (sends_same [] rfl) (by simp [Quotes]) rfl rfl rfl rfl rfl rfl rfl
  | release evt hi =>
    exact h.kept ht hmove (sends_offerAll [evt] rfl) (fun _ => hi.quotes) rfl rfl rfl
      rfl rfl rfl rfl
  | hint =>
    refine h.next ht hmove (sends_same [] rfl) rfl (fun owner hspe => ?_) h.past
    exact ⟨by simp [Quotes], fun p hp => hspe.known hs (known_noteHint hp), hspe.last⟩
  | sample _ _ hlv _ _ _ hfe =>
    exact h.sample hb ht hs hlv _ _ hfe hmove
  | bootstrap _ _ hlv _ _ _ hfe =>
    exact h.sample hb ht hs hlv _ _ hfe hmove
  | arbiterErr _ _ _ _ hfe =>
    have hsm := fed_arbiterErr hfe
    refine h.next ht hmove (sends_same [] rfl) rfl (fun owner hspe => ⟨by simp [Quotes],
      fun p hp => hspe.known hs (fed_known.1 p hp), ?_⟩) ?_
    · rw [hsm]
      exact hspe.last
    · rw [hsm]
      exact h.past
  | reducerErr _ _ _ _ _ hfe =>
    have hsa := fed_reducerErr hfe
    rw [actions_eq] at hmove ⊢
    refine h.next ht hmove (sends_offerAll _ rfl) rfl (fun owner hspe => ⟨?_, ?_, ?_⟩) ?_
    · exact quotes_actions _ _ _ _ _ _
    · exact fun p hp => hspe.known hs (fed_known.1 p hp)
    · exact fun hst => by simp [hsa] at hst
    · exact fun _ hst => absurd hsa hst
  | reducerFault _ _ _ _ hfe =>
    have hsa := fed_reducerErr hfe
    rw [actions_eq] at hmove ⊢
    refine h.next ht hmove (sends_offerAll _ rfl) rfl (fun owner hspe => ⟨?_, ?_, ?_⟩) ?_
    · exact quotes_actions _ _ _ _ _ _
    · exact fun p hp => hspe.known hs (fed_known.1 p hp)
    · exact fun hst => by simp [fault, hsa] at hst
    · exact fun hf => by cases hf
  | clash _ _ hopening hlv _ hfe =>
    -- before the first observation there is no cycle to miss
    have hru := (hb.fed_clash hlv hfe).1
    have hno := hb.unseen (hb.unopened hopening) hlv
    simp [hru] at hno
  | fault _ _ _ _ _ hlv hmod =>
    refine h.next ht hmove (sends_offerAll _ rfl) rfl (fun owner hspe => ⟨?_, ?_⟩)
      (fun hf => by cases hf)
    · intro e he hk
      unfold announcement at he
      split_ifs at he
      · cases he
      · obtain rfl := mem_singleton.mp he
        cases hk
    rcases hmod with rfl | ⟨ev, err, hfe, rfl⟩
    · exact ⟨hspe.hints, hspe.last⟩
    refine ⟨fun p hp => hspe.known hs (fed_known.1 p hp), fun hst => ?_⟩
    have hru := (hb.fed_clash hlv hfe).2.2.1
    cases hru.symm.trans hst
  | output evt _ hk =>
    refine h.kept ht hmove (sends_map [evt] rfl fun sub => ?_)
      (fun owner _ e he hsp => ?_) rfl rfl rfl rfl rfl rfl rfl
    · split_ifs
      · exact sent sub _ [evt]
      · exact ⟨rfl, id, fun e he => .inl he⟩
    · obtain rfl := mem_singleton.mp he
      cases hk.symm.trans hsp
  | attach _ _ hspe =>
    refine ⟨fun sub hsub e he hk id hid => ?_, fun sub hsub hop => ?_, h.past⟩
    · rcases mem_concat.mp hsub with hsub | rfl
      · exact h.heard sub hsub e he hk id hid
      · simp at he
    have hspe' : r.Speaks sub.owner := by
      rcases mem_concat.mp hsub with hsub | rfl
      · exact h.speaks sub hsub hop
      · exact hspe
    exact { hspe' with }
  | silence =>
    exact h.kept ht hmove (sends_close [] rfl) (by simp [Quotes]) rfl rfl rfl rfl rfl rfl rfl
  | withdraw =>
    refine h.withWorld r.worker (fun i hi => hi) (fun other hf => ?_)
      fun sub hsub hop => ⟨fun l hl => ?_, h.works ht hmove hsub hop⟩
    · rw [Breakpoint.Config.cleanupOwners_detach]
      split_ifs
      · exact hf
      · simp [Function.update_apply, hf]
    · exact (h.speaks sub hsub hop).live l (Breakpoint.World.mem_live_of_detach hl)
  | allocate => rw [withLedger_eq] at hmove ⊢; exact h.same ht hmove rfl rfl rfl rfl rfl
  | close =>
    refine h.kept ht hmove (sends_map [] rfl fun sub => ?_) (by simp [Quotes]) rfl rfl
      rfl rfl rfl rfl rfl
    exact ⟨rfl, fun hop => (by cases hop), fun e he => .inl he⟩
  | dispatch _ _ _ htn => cases htn <;> exact h.same ht hmove rfl rfl rfl rfl rfl
  | worker _ htn =>
    cases htn with
    | transact _ _ _ _ _ hw hstep => exact h.transact ht htr hw hstep hmove
    | inspect => rw [withLedger_eq] at hmove ⊢; exact h.same ht hmove rfl rfl rfl rfl rfl
    | _ => exact h.same ht hmove rfl rfl rfl rfl rfl
  | receive =>
    refine h.kept ht hmove (sends_map [] rfl fun sub => ?_) (by simp [Quotes]) rfl rfl
      rfl rfl rfl rfl rfl
    cases hev : sub.events with
    | nil => exact ⟨rfl, fun hop => hop, fun e he => .inl (by simpa [hev] using he)⟩
    | cons =>
      dsimp only
      split_ifs
      · exact ⟨rfl, fun hop => hop, fun e he => .inl (by simpa using he)⟩
      · exact ⟨rfl, fun hop => hop, fun e he => .inl (by simpa [hev] using he)⟩
  | _ => exact h.same ht hmove rfl rfl rfl rfl rfl

/-- Every breakpoint id in a stop that a frontend was told of was issued to this frontend, in every
run in which a frontend attaches and sets breakpoints only when nobody else can be named. -/
theorem stops_name_own {opts : Options} {inputs : List Input}
    (hru : run step (new opts) inputs = some r)
    (hone : Along step oneFrontend.Admits (new opts) inputs) :
    ∀ sub ∈ r.subs, ∀ e ∈ sub.received ++ sub.events, e.kind = .stopped →
      ∀ id ∈ e.hitBreakpointIDs, (id, sub.owner) ∈ r.world.issued := by
  have hmove (r r' : Runtime) (hb : r.Base) (h : r.Traffic ∧ r.Transacts ∧ r.Attributed)
      (hm : Move oneFrontend r r') : r'.Traffic ∧ r'.Transacts ∧ r'.Attributed :=
    ⟨h.1.move hm, h.2.1.move hm, h.2.2.move hb h.1 h.2.1 hm⟩
  obtain ⟨-, -, -, hattr⟩ := moves_invariant hmove
    ⟨traffic_new opts, transacts_new opts, attributed_new opts⟩ hone hru
  exact hattr.heard

/-- A frontend sets a breakpoint in a stopped target, which then runs into it. -/
def breakpointHit : List Input :=
  breakpointSet 1 ++ [.command (.noteHint 7 none), .stateTick] ++
    perform 5 (.ok (.evidence (stampedEvidence .stopped 2)))

theorem stops_name_own_one : ∃ r sub e, run step (new indexed) breakpointHit = some r ∧
      Along step oneFrontend.Admits (new indexed) breakpointHit ∧ sub ∈ r.subs ∧
      e ∈ sub.events ∧ e.kind = .stopped ∧ e.hitBreakpointIDs = [1] ∧
      (1, sub.owner) ∈ r.world.issued := by
  have hone : Along step oneFrontend.Admits (new indexed) breakpointHit := by decide +kernel
  obtain ⟨r, hru, sub, hsub, e, he, hk, hids⟩ : ∃ r,
      run step (new indexed) breakpointHit = some r ∧
      ∃ sub ∈ r.subs, ∃ e ∈ sub.events, e.kind = .stopped ∧ e.hitBreakpointIDs = [1] :=
    exists_run (by decide +kernel)
  refine ⟨r, sub, e, hru, hone, hsub, he, hk, hids, ?_⟩
  exact stops_name_own hru hone sub hsub e (mem_append_right _ he) hk 1 (by simp [hids])

/-- The frontend detaches in this stop, and another one takes its place. The stop that it is told of
when it has been configured names the breakpoint of the first. -/
theorem replacement_blamed : ∃ r, run step (new indexed) (breakpointHit ++
        [.command (.detach "a" inOrder 5), .command (.attach "b" 6), .command (.acquire "b" 7),
          .command (.beginConfiguration 8), .command (.configurationDone 9)]) = some r ∧
      ∃ sub ∈ r.subs, sub.owner = "b" ∧ ∃ e ∈ sub.events, e.kind = .stopped ∧
        e.hitBreakpointIDs = [1] ∧ r.world.issued = [(1, "a")] :=
  exists_run (by decide +kernel)

/-- No breakpoint id is issued twice, and the live breakpoints have ids of their own owners and
lines of their own, one each; none is of a detached owner. -/
theorem breakpoint_ids_unique {opts : Options} {inputs : List Input}
    (hru : run step (new opts) inputs = some r) :
    (r.world.issued.map Prod.fst).Nodup ∧ (r.world.store.live.map (·.dapID)).Nodup ∧
      (r.world.store.live.map (·.key)).Nodup ∧ ∀ l ∈ r.world.store.live,
        (l.dapID, l.owner) ∈ r.world.issued ∧ r.world.store.cleanupOwners l.owner = false := by
  have h := (moves_invariant (fun _ _ _ => Transacts.move) (transacts_new opts)
    (Guard.admits_all _ _) hru).2.sound
  exact ⟨h.ids, h.liveIds, h.keys, fun l hl => ⟨h.issuedTo l hl, h.unfenced l hl⟩⟩

/-- The frontend then asks for another line as well. -/
def breakpointAdded : List Input :=
  breakpointHit ++ .command (.setBreakpoints "a" { key := "main.c" } [10, 12] [⟨0, .present⟩] 6) ::
    placing 6 8 12

theorem breakpoint_ids_unique_hit : ∃ r, run step (new indexed) breakpointAdded = some r ∧
    r.world.store.live.length = 2 ∧ (r.world.store.live.map (·.dapID)).Nodup := by
  obtain ⟨r, hru, hlive⟩ : ∃ r, run step (new indexed) breakpointAdded = some r ∧
      r.world.store.live.length = 2 := exists_run (by decide +kernel)
  exact ⟨r, hru, hlive, (breakpoint_ids_unique hru).2.1⟩

end Runtime

end MultiDap.Actor
