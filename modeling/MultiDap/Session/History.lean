import MultiDap.Machine.Mealy
import MultiDap.Session.Observe

/-!
# The history of a reducer

A fresh reducer fed any list of observations outside a configuration barrier. `Consistent` ties
its state and both epochs to everything it has reported so far; it is preserved by one
observation, and so it holds of every run.
-/

namespace MultiDap.Session.Reducer

open Machine List Transition

/-- The reducer as a machine: it answers an observation with the actions for the actor. -/
def machine : Mealy Reducer Observation (List Action) where
  step r o := ((r.observe o).reducer, (r.observe o).actions)

/-- One entry of a history: an observation and the actions reported for it. -/
abbrev Entry := Observation × List Action

/-- All turns reported in a history, in order. -/
def trace (h : List Entry) : List Turn := h.flatMap fun e => turns e.2

/-- The entries that reported a suspension. -/
def suspensions (h : List Entry) : List Entry := h.filter fun e => (turns e.2).contains .suspend

def lastStamp (os : List Observation) : Option UInt64 :=
  ((os.filter (·.hasStopStamp)).map (·.stopStamp)).getLast?

/-- The last known state that was observed. -/
def lastKnown (os : List Observation) : Option TargetState :=
  ((os.map fun o => observedState o.status).filter (· ≠ .unknown)).getLast?

/-- A resumption that is the first turn of its result comes after an invalidation. -/
def Covered (as : List Action) : Prop :=
  ∀ xs a ys, as = xs ++ a :: ys → a.turn = some .resume → turns xs = [] →
    ∃ i ∈ xs, i.kind = .invalidateSuspendedReferences

/-- The observation `o` cannot be interpreted after the history `h`: a known state without a
stamp, a stamp that regresses, or a stop after running that repeats the last stop's generation. -/
def Breaks (h : List Entry) (o : Observation) : Prop :=
  (observedState o.status ≠ .unknown ∧ o.hasStopStamp = false) ∨
  (∃ l, lastStamp (h.map (·.1)) = some l ∧ o.hasStopStamp = true ∧ o.stopStamp < l) ∨
  (observedState o.status = .stopped ∧ lastKnown (h.map (·.1)) = some .running ∧
    ∃ e, (suspensions h).getLast? = some e ∧ o.hasStopStamp = true ∧ o.stopStamp = e.1.stopStamp)

/-! ### Appending one entry -/

@[simp] lemma trace_snoc (h : List Entry) (e : Entry) :
    trace (h ++ [e]) = trace h ++ turns e.2 := by
  simp [trace]

lemma suspensions_snoc (h : List Entry) (e : Entry) : suspensions (h ++ [e]) =
      if (turns e.2).contains .suspend then suspensions h ++ [e] else suspensions h := by
  simp only [suspensions, filter_append, filter_cons, filter_nil]
  split_ifs <;> simp

lemma lastStamp_snoc (os : List Observation) (o : Observation) :
    lastStamp (os ++ [o]) = if o.hasStopStamp then some o.stopStamp else lastStamp os := by
  cases hs : o.hasStopStamp <;> simp [lastStamp, hs]

lemma lastKnown_snoc (os : List Observation) (o : Observation) :
    lastKnown (os ++ [o]) = if observedState o.status = .unknown then lastKnown os
      else some (observedState o.status) := by
  by_cases hs : observedState o.status = .unknown <;> simp [lastKnown, hs]

lemma covered_actions (t : Transition) (r : Reducer) : Covered (t.actions r) := by
  intro xs a ys h ha hxs
  cases xs with
  | nil =>
    -- no transition starts with a resumption
    cases t <;> simp only [actions, nil_append, List.cons.injEq, reduceCtorEq] at h
    all_goals
      obtain ⟨rfl, -⟩ := h
      simp [Action.turn, suspendedAction, invalidateAction] at ha
  | cons x =>
    refine ⟨x, mem_cons_self, ?_⟩
    -- the first action is an invalidation, or a suspension, which `hxs` excludes
    cases t <;> simp only [actions, cons_append, List.cons.injEq, reduceCtorEq] at h
    all_goals
      obtain ⟨rfl, -⟩ := h
      first
        | rfl
        | simp [turns, Action.turn, suspendedAction] at hxs

/-! ### The invariant -/

/-- The state and the epochs agree with everything reported so far. -/
structure Consistent (h : List Entry) (r : Reducer) : Prop where
  wellFormed : r.WellFormed
  noBarrier : r.configuring = false
  alternates : Turn.Alternates .suspend (trace h)
  expected : r.state ≠ .faulted → Turn.after .suspend (trace h) = Transition.expected r.state
  executionEpoch : r.executionEpoch = UInt64.ofNat ((trace h).count .resume)
  increasing : ((suspensions h).map (·.1.stopStamp)).Pairwise (· < ·)
  bounded : ∀ e ∈ suspensions h, e.1.stopStamp ≤ r.stopEpoch
  stopEpoch : ∀ e, (suspensions h).getLast? = some e → r.stopEpoch = e.1.stopStamp
  hasStop : r.hasStop = true ↔ suspensions h ≠ []
  covered : ∀ e ∈ h, Covered e.2
  lastStamp : r.state ≠ .faulted →
    lastStamp (h.map (·.1)) = if r.hasStopStamp then some r.lastStopStamp else none
  lastKnown : r.state ≠ .faulted →
    lastKnown (h.map (·.1)) = if r.state = .unknown then none else some r.state

lemma consistent_new (b : Bool) : Consistent [] (new b) := by
  constructor
  case wellFormed => exact wellFormed_new b
  all_goals simp [new, trace, suspensions, Turn.Alternates, Turn.after, expected,
    Reducer.lastStamp, Reducer.lastKnown]

variable {r : Reducer} {h : List Entry}

/-- An entry that reports no turn, and a reducer that differs at most in its stamp or by having
faulted, keep the agreement. -/
lemma Consistent.quiet {r' : Reducer} (hc : Consistent h r) (o : Observation)
    {as : List Action} (hwf : r'.WellFormed) (has : turns as = []) (hcov : Covered as)
    (hcfg : r'.configuring = r.configuring) (hexec : r'.executionEpoch = r.executionEpoch)
    (hep : r'.stopEpoch = r.stopEpoch) (hsp : r'.hasStop = r.hasStop)
    (hlive : r'.state ≠ .faulted → r'.state = r.state ∧ observedState o.status = .unknown ∧
      (if o.hasStopStamp then some o.stopStamp else Reducer.lastStamp (h.map (·.1))) =
        if r'.hasStopStamp then some r'.lastStopStamp else none) :
    Consistent (h ++ [(o, as)]) r' := by
  have hsusp : suspensions (h ++ [(o, as)]) = suspensions h := by simp [suspensions_snoc, has]
  have htr : trace (h ++ [(o, as)]) = trace h := by simp [has]
  constructor
  case wellFormed => exact hwf
  case noBarrier => rw [hcfg, hc.noBarrier]
  case alternates => rw [htr]; exact hc.alternates
  case expected =>
    intro hl
    rw [htr, (hlive hl).1]
    exact hc.expected ((hlive hl).1 ▸ hl)
  case executionEpoch => rw [htr, hexec, hc.executionEpoch]
  case increasing => rw [hsusp]; exact hc.increasing
  case bounded => rw [hsusp, hep]; exact hc.bounded
  case stopEpoch => rw [hsusp, hep]; exact hc.stopEpoch
  case hasStop => rw [hsusp, hsp]; exact hc.hasStop
  case covered =>
    intro e he
    rcases mem_append.mp he with he | he
    · exact hc.covered e he
    · rw [mem_singleton.mp he]
      exact hcov
  case lastStamp =>
    intro hl
    rw [map_append, map_singleton, lastStamp_snoc]
    exact (hlive hl).2.2
  case lastKnown =>
    intro hl
    obtain ⟨hstate, hn, -⟩ := hlive hl
    rw [map_append, map_singleton, lastKnown_snoc, if_pos hn, hstate]
    exact hc.lastKnown (hstate ▸ hl)

lemma covered_of_turns_nil {as : List Action} (h : turns as = []) : Covered as := by
  rintro xs a ys rfl ha -
  simp [turns, ha] at h

variable {o : Observation}

lemma Consistent.move (hc : Consistent h r)
    {next : TargetState} (hlive : r.state ≠ .faulted) (hn : observedState o.status = next)
    (hk : next = .stopped ∨ next = .running) (hs : r.Admits o) (ht : r.transition o ≠ .unmoved) :
    Consistent (h ++ [(o, (r.transition o).actions (r.move (r.transition o) next o.stopStamp))])
      (r.move (r.transition o) next o.stopStamp) := by
  have hwf := hc.wellFormed
  subst hn
  obtain ⟨halt, haft⟩ := hwf.alternates hlive hk ht
  have hexp := hc.expected hlive
  -- a sample that establishes a stop has a stamp above every earlier one
  have hnew : (r.transition o).stops = true → ∀ e ∈ suspensions h, e.1.stopStamp < o.stopStamp := by
    intro hst e he
    have hseen : r.hasStop = true := hc.hasStop.mpr (ne_nil_of_mem he)
    have hmov : o.stopStamp ≠ r.stopEpoch := by
      simpa [hseen] using moved_of_stops hst
    have hle := UInt64.le_trans (hwf.stopEpoch_le hseen) (hs.2 (hwf.stamped_of_hasStop hseen))
    exact UInt64.lt_of_le_of_lt (hc.bounded e he) (UInt64.lt_of_le_of_ne hle hmov.symm)
  have hsto : (turns ((r.transition o).actions
      (r.move (r.transition o) (observedState o.status) o.stopStamp))).contains .suspend =
        (r.transition o).stops := by
    rw [turns_actions]; rfl
  constructor
  case wellFormed => exact hwf.move rfl hk hs ht
  case noBarrier => exact hc.noBarrier
  case alternates =>
    rw [trace_snoc, turns_actions, Turn.alternates_append, hexp]
    exact ⟨hc.alternates, halt⟩
  case expected =>
    intro _
    rw [trace_snoc, turns_actions, Turn.after_append, hexp]
    exact haft
  case executionEpoch =>
    rw [trace_snoc, turns_actions, count_append, UInt64.ofNat_add, ← hc.executionEpoch]
    rfl
  case increasing =>
    rw [suspensions_snoc, hsto]
    split_ifs with hst
    · rw [map_append, pairwise_append]
      refine ⟨hc.increasing, by simp, ?_⟩
      intro a ha b hb
      obtain ⟨e, he, rfl⟩ := mem_map.mp ha
      obtain rfl : b = o.stopStamp := by simpa using hb
      exact hnew hst e he
    · exact hc.increasing
  case bounded =>
    intro e he
    rw [suspensions_snoc, hsto] at he
    simp only [Reducer.move]
    split_ifs at he ⊢ with hst
    · rcases mem_append.mp he with he | he
      · exact UInt64.le_of_lt (hnew hst e he)
      · rw [mem_singleton.mp he]
        exact UInt64.le_refl _
    · exact hc.bounded e he
  case stopEpoch =>
    intro e he
    rw [suspensions_snoc, hsto] at he
    simp only [Reducer.move]
    split_ifs at he ⊢ with hst
    · obtain rfl : _ = e := by simpa using he
      rfl
    · exact hc.stopEpoch e he
  case hasStop =>
    rw [suspensions_snoc, hsto]
    simp only [Reducer.move, Bool.or_eq_true]
    split_ifs with hst
    · simp [hst]
    · simpa [hst] using hc.hasStop
  case covered =>
    intro e he
    rcases mem_append.mp he with he | he
    · exact hc.covered e he
    · rw [mem_singleton.mp he]
      exact covered_actions _ _
  case lastStamp =>
    intro _
    rw [map_append, map_singleton, lastStamp_snoc, if_pos hs.1]
    rfl
  case lastKnown =>
    intro _
    have hne : observedState o.status ≠ .unknown := by rcases hk with h | h <;> simp [h]
    rw [map_append, map_singleton, lastKnown_snoc, if_neg hne]
    simp [Reducer.move, hne]

lemma Consistent.observe (hc : Consistent h r) (o : Observation) :
    Consistent (h ++ [(o, (r.observe o).actions)]) (r.observe o).reducer := by
  have hwf := hc.wellFormed.observe o
  have hob := observed hc.wellFormed o
  generalize r.observe o = out at hob hwf ⊢
  cases hob with
  | dead hd => exact hc.quiet o hwf rfl (covered_of_turns_nil rfl) rfl rfl rfl rfl (absurd hd)
  | refused | unmoved =>
    exact hc.quiet o hwf rfl (covered_of_turns_nil rfl) rfl rfl rfl rfl (fun h => absurd rfl h)
  | unknown _ hl hn hs =>
    rcases acceptStopStamp_unknown hs with ⟨hno, hno', rfl⟩ | ⟨had, rfl⟩
    · refine hc.quiet o hwf rfl (covered_of_turns_nil rfl) rfl rfl rfl rfl fun _ => ⟨rfl, hn, ?_⟩
      simpa [hno, hno', result] using hc.lastStamp hl
    · refine hc.quiet o hwf rfl (covered_of_turns_nil rfl) rfl rfl rfl rfl fun _ => ⟨rfl, hn, ?_⟩
      simp [had.1, result, stamped]
  | moved _ hl hn hk hs ht =>
    rw [publish_reducer, publish_actions (by exact hc.noBarrier)]
    exact hc.move hl hn hk hs ht

/-- Every run of a fresh reducer is consistent with its history. -/
theorem consistent (b : Bool) (os : List Observation) :
    Consistent (machine.history (new b) os) (machine.final (new b) os) :=
  machine.history_induction (consistent_new b) (fun _ _ o hc => hc.observe o) os

/-! ### Faults -/

lemma Consistent.faulted_of_breaks (hc : Consistent h r)
    (hb : Breaks h o) : (r.observe o).reducer.state = .faulted := by
  have hob := observed hc.wellFormed o
  generalize r.observe o = out at hob ⊢
  cases hob with
  | dead hd => exact hd
  | refused => rfl
  | unmoved => rfl
  | unknown _ hl hn hs =>
    exfalso
    have hsa := hc.lastStamp hl
    rcases hb with ⟨hkn, -⟩ | ⟨l, hla, hst, hlt⟩ | ⟨hsp, -⟩
    · exact hkn hn
    · rcases acceptStopStamp_unknown hs with ⟨hno, -⟩ | ⟨had, -⟩
      · simp [hst] at hno
      rw [hla] at hsa
      split_ifs at hsa with hhas
      obtain rfl : l = r.lastStopStamp := by simpa using hsa
      exact absurd (had.2 hhas) (UInt64.not_le.mpr hlt)
    · rw [hn] at hsp
      cases hsp
  | moved _ hl _ _ hs ht =>
    exfalso
    have hsa := hc.lastStamp hl
    rcases hb with ⟨-, hno⟩ | ⟨l, hla, -, hlt⟩ | ⟨hsp, hru, e, he, -, heq⟩
    · simp [hs.1] at hno
    · rw [hla] at hsa
      split_ifs at hsa with hhas
      obtain rfl : l = r.lastStopStamp := by simpa using hsa
      exact absurd (hs.2 hhas) (UInt64.not_le.mpr hlt)
    apply ht
    have hstate : r.state = .running := by
      have := hc.lastKnown hl
      rw [hru] at this
      split_ifs at this
      simpa using this.symm
    have hseen : r.hasStop = true :=
      hc.hasStop.mpr (ne_nil_of_mem (mem_of_getLast? he))
    simp [transition, hsp, hstate, hseen, heq, hc.stopEpoch e he, between]

lemma final_faulted (h : r.state = .faulted) (os : List Observation) :
    (machine.final r os).state = .faulted :=
  machine.final_induction (P := fun r => r.state = .faulted) h
    (fun t o ht => by simpa [machine, observe_faulted ht, reject] using ht) os

lemma turns_of_mem_history_faulted (h : r.state = .faulted) (os : List Observation) :
    ∀ e ∈ machine.history r os, turns e.2 = [] := by
  induction os generalizing r with
  | nil => simp
  | cons o _ ih =>
    have hst : machine.step r o = (r, []) := by simp [machine, observe_faulted h, reject]
    intro e he
    rw [Mealy.history_cons, hst] at he
    rcases mem_cons.mp he with rfl | he
    · rfl
    · exact ih h e he

lemma turns_observe_of_faulted (hwf : r.WellFormed)
    (h : (r.observe o).reducer.state = .faulted) : turns (r.observe o).actions = [] := by
  have hob := observed hwf o
  generalize r.observe o = out at hob h ⊢
  cases hob with
  | dead | refused | unmoved | unknown => rfl
  | moved _ _ _ hk =>
    rw [publish_reducer] at h
    rcases hk with rfl | rfl <;> cases h

/-- The history of a fresh reducer outside a configuration barrier: its turns alternate and start
with a suspension, the execution epoch counts the resumptions, the stop epoch is the strictly
increasing stamp of the suspending samples, no resumption leaves an earlier sample's suspended
world without an invalidation, and a sample that breaks the observation stream ends it. -/
theorem observe_history (b : Bool) (os : List Observation) :
    let h := machine.history (new b) os
    let r := machine.final (new b) os
    Turn.Alternates .suspend (trace h) ∧ r.executionEpoch = UInt64.ofNat ((trace h).count .resume) ∧
    (∀ e, (suspensions h).getLast? = some e → r.stopEpoch = e.1.stopStamp) ∧
    ((suspensions h).map (·.1.stopStamp)).Pairwise (· < ·) ∧ (∀ e ∈ h, Covered e.2) ∧
    ∀ pre o post, os = pre ++ o :: post → Breaks (machine.history (new b) pre) o →
      r.state = .faulted ∧ ∀ e ∈ h.drop pre.length, turns e.2 = [] := by
  have hc := consistent b os
  refine ⟨hc.alternates, hc.executionEpoch, hc.stopEpoch, hc.increasing, hc.covered, ?_⟩
  rintro pre o post rfl hb
  have hpre := consistent b pre
  have hf := hpre.faulted_of_breaks hb
  have hlen : (machine.history (new b) pre).length = pre.length := machine.length_history _ _
  rw [machine.final_append, machine.history_append, drop_left' hlen]
  refine ⟨final_faulted hf post, ?_⟩
  intro e he
  rcases mem_cons.mp he with rfl | he
  · exact turns_observe_of_faulted hpre.wellFormed hf
  · exact turns_of_mem_history_faulted hf post e he

end MultiDap.Session.Reducer
