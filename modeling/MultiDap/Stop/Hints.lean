import MultiDap.Machine.Mealy
import MultiDap.Stop.Observe

/-!
# Which hints a stop is credited with

The arbiter resolves a hint when it is received and credits it when a stop is confirmed. Between
the two it keeps the resolved targets with the stop epoch they were received in. `Heard` says
which hints should count without looking at that list: those that resolved after the last sample
of a known state. `Tracks` is the invariant that the list holds exactly them.
-/

namespace MultiDap.Stop

open Machine List Option

/-- A call of the actor on its arbiter. The resolver of a hint reads the live store, so every
hint comes with its own. -/
inductive Call where
  | hint (resolver : Option (UInt32 → Option HintTarget)) (token : UInt32)
  | sample (ob : Observation)

namespace Call

def known : Call → Bool
  | .hint _ _ => false
  | .sample ob => ob.state != .unknown

def resolved : Call → Option HintTarget
  | .hint (some resolve) token => resolve token
  | _ => none

end Call

/-- The hint at position `k` resolved after the last sample of a known state. A hint before the
first such sample is refused without asking the resolver. -/
def Heard (calls : List Call) (k : Nat) (target : HintTarget) : Prop :=
  ∃ before call after, calls = before ++ call :: after ∧ before.length = k ∧
    call.resolved = some target ∧ (∃ c ∈ before, c.known = true) ∧ ∀ c ∈ after, c.known = false

/-- `ids` lists, in ascending order and without repetition, the positive ids in `P`. -/
structure Lists (ids : List Int) (P : Int → Prop) : Prop where
  ascending : ids.Pairwise (· < ·)
  mem_iff : ∀ id, id ∈ ids ↔ 0 < id ∧ P id

/-! ### The window -/

section Heard

variable {calls : List Call} {k : Nat} {target : HintTarget} {c : Call}

lemma exists_known_snoc (hc : c.known = false) :
    (∃ d ∈ calls ++ [c], d.known = true) ↔ ∃ d ∈ calls, d.known = true := by
  simp [hc]

lemma heard_snoc (hc : c.known = false) : Heard (calls ++ [c]) k target ↔ Heard calls k target ∨
      k = calls.length ∧ c.resolved = some target ∧ ∃ c ∈ calls, c.known = true := by
  constructor
  · rintro ⟨before, call, after, heq, hk, hres, hkn, haft⟩
    rcases eq_nil_or_concat after with rfl | ⟨after, last, rfl⟩
    · obtain ⟨rfl, hcl⟩ := append_inj' heq rfl
      obtain rfl : c = call := by simpa using hcl
      exact .inr ⟨hk.symm, hres, hkn⟩
    have heq' : calls ++ [c] = (before ++ call :: after) ++ [last] := by simpa using heq
    obtain ⟨rfl, -⟩ := append_inj' heq' rfl
    exact .inl ⟨before, call, after, rfl, hk, hres, hkn, fun d hd =>
      haft d (by simp [hd])⟩
  · rintro (⟨before, call, after, rfl, hk, hres, hkn, haft⟩ | ⟨rfl, hres, hkn⟩)
    · refine ⟨before, call, after ++ [c], by simp, hk, hres, hkn, fun d hd => ?_⟩
      rcases mem_append.mp hd with hd | hd
      · exact haft d hd
      · rwa [mem_singleton.mp hd]
    · exact ⟨calls, c, [], rfl, rfl, hres, hkn, by simp⟩

lemma not_heard_of_known {before rest : List Call} (hc : c.known = true)
    (hk : k ≤ before.length) : ¬ Heard (before ++ c :: rest) k target := by
  rintro ⟨pre, call, after, heq, rfl, hres, -, haft⟩
  rcases append_eq_append_iff.mp heq with ⟨mid, rfl, hmid⟩ | ⟨mid, rfl, hmid⟩
  · cases mid with
    | nil =>
      obtain ⟨rfl, rfl⟩ : c = call ∧ rest = after := by simpa using hmid
      cases c <;> simp_all [Call.known, Call.resolved]
    | cons => simp only [length_append, length_cons] at hk; omega
  cases mid with
  | nil =>
    obtain ⟨rfl, rfl⟩ : call = c ∧ after = rest := by simpa using hmid
    cases call <;> simp_all [Call.known, Call.resolved]
  | cons d mid =>
    obtain ⟨rfl, rfl⟩ : call = d ∧ after = mid ++ c :: rest := by simpa using hmid
    have := haft c (by simp)
    rw [hc] at this
    cases this

lemma Heard.lt_length (h : Heard calls k target) : k < calls.length := by
  obtain ⟨before, call, after, rfl, rfl, -⟩ := h
  simp

end Heard

/-! ### The ids of a stopped effect -/

lemma mem_compactInts {id : Int} {ids : List Int} : id ∈ compactInts ids ↔ id ∈ ids := by
  induction ids using compactInts.induct with
  | case1 | case2 => simp [compactInts]
  | case3 _ _ ih => simp [compactInts, ih]
  | case4 _ _ _ hab ih => simp [compactInts, hab, ih]

lemma pairwise_compactInts {ids : List Int} (h : ids.Pairwise (· ≤ ·)) :
    (compactInts ids).Pairwise (· < ·) := by
  induction ids using compactInts.induct with
  | case1 | case2 => simp [compactInts]
  | case3 _ _ ih => simpa [compactInts] using ih h.of_cons
  | case4 a b _ hab ih =>
    simp only [compactInts, if_neg hab, pairwise_cons, mem_compactInts]
    refine ⟨fun c hc => ?_, ih h.of_cons⟩
    -- everything behind `b` is at least `b`, and `a` is strictly below it
    have hlt : a < b := lt_of_le_of_ne ((pairwise_cons.mp h).1 b (by simp)) hab
    rcases mem_cons.mp hc with rfl | hc
    · exact hlt
    · exact hlt.trans_le ((pairwise_cons.mp h.of_cons).1 c hc)

namespace Arbiter

lemma lists_stopEffect (exec : UInt64) (hints : List PendingHint) (ob : Observation) :
    Lists (stopEffect exec hints ob).hitBreakpointIDs fun id =>
      ∃ p ∈ hints, p.base < ob.stopStamp ∧ p.target.breakpointID = id where
  ascending := pairwise_compactInts (List.pairwise_insertionSort _ _)
  mem_iff := fun id => by
    simp only [stopEffect, stopped, pendingFor, mem_compactInts, List.mem_insertionSort,
      List.mem_filter, List.mem_map, decide_eq_true_eq]
    constructor
    · rintro ⟨⟨p, ⟨hp, hb⟩, rfl⟩, hpos⟩
      exact ⟨hpos, p, hp, hb, rfl⟩
    · rintro ⟨hpos, p, hp, hb, rfl⟩
      exact ⟨⟨p, ⟨hp, hb⟩, rfl⟩, hpos⟩

variable {ob : Observation} {a : Arbiter}

lemma state_of_stop
    (h : a.transition ob = .stop ∨ a.transition ob = .missedStop) : ob.state = .stopped := by
  revert h
  simp only [transition]
  cases ob.state <;> cases a.state <;> cases a.hasStop <;>
    cases (ob.stopStamp != a.currentStopEpoch) <;> simp [Transition.between, State.target]

lemma state_of_missed (h : a.transition ob = .missedResume ∨ a.transition ob = .missedCycle) :
    ob.state = .running := by
  revert h
  simp only [transition]
  cases ob.state <;> cases a.state <;> cases a.hasStop <;>
    cases (ob.stopStamp != a.currentStopEpoch) <;> simp [Transition.between, State.target]

variable {e : Effect}

/-- The stopped effect of a sample is offered the waiting hints only if the sample is a stopped
one: a running sample has already dropped them. -/
lemma stopped_of_emitted (he : e ∈ a.emitted ob)
    (hk : e.kind = .stopped) : (a.transition ob).stops = true ∧
      ((∃ exec, e = stopEffect exec a.pending ob) ∧ ob.state = .stopped ∨
        (∃ exec, e = stopEffect exec [] ob) ∧ ob.state = .running) := by
  cases ht : a.transition ob with
  | quiet | unmoved => simp [emitted, ht] at he
  | resume =>
    simp only [emitted, ht, mem_cons, not_mem_nil, or_false] at he
    rcases he with rfl | rfl <;> cases hk
  | stop =>
    simp only [emitted, ht, mem_singleton] at he
    exact ⟨rfl, .inl ⟨⟨_, he⟩, state_of_stop (.inl ht)⟩⟩
  | missedStop =>
    simp only [emitted, ht, mem_cons, not_mem_nil, or_false] at he
    rcases he with rfl | rfl | rfl
    · cases hk
    · cases hk
    · exact ⟨rfl, .inl ⟨⟨_, rfl⟩, state_of_stop (.inr ht)⟩⟩
  | missedResume | missedCycle =>
    simp only [emitted, ht, mem_cons, not_mem_nil, or_false] at he
    have hru : ob.state = .running := state_of_missed (a := a) (by simp [ht])
    rcases he with rfl | rfl | rfl
    · cases hk
    · exact ⟨rfl, .inr ⟨⟨_, rfl⟩, hru⟩⟩
    · cases hk

lemma length_stopped_emitted (a : Arbiter) (ob : Observation) :
    ((a.emitted ob).filter (·.kind = .stopped)).length ≤ 1 := by
  cases ht : a.transition ob <;>
    simp [emitted, ht, invalidateAt, continuedAt, stopEffect, stopped]

/-- No hint is added, and a stop is credited only with hints that wait. -/
def Credits (hints : List PendingHint) (out : Outcome) : Prop :=
  (∀ p ∈ out.arbiter.pending, p ∈ hints) ∧ ∀ e ∈ out.effects, ∀ id ∈ e.hitBreakpointIDs,
    0 < id ∧ ∃ p ∈ hints, p.target.breakpointID = id

lemma stopped_hits {id : Int} (h : id ∈ (a.stopped ob).2.hitBreakpointIDs) :
    0 < id ∧ ∃ p ∈ a.pending, p.target.breakpointID = id := by
  obtain ⟨hpos, p, hp, -, hid⟩ := ((lists_stopEffect a.exec a.pending ob).mem_iff id).mp h
  exact ⟨hpos, p, hp, hid⟩

lemma credits_missedRun (a : Arbiter) (ob : Observation) : Credits a.pending (a.missedRun ob) := by
  refine ⟨by simp [missedRun, result, stopped], fun e he id hid => ?_⟩
  simp only [missedRun, result, mem_cons, not_mem_nil, or_false] at he
  rcases he with rfl | rfl | rfl
  · simp [invalidate] at hid
  · exact stopped_hits hid
  · simp [continued] at hid

lemma credits_missedStop (a : Arbiter) (ob : Observation) :
    Credits a.pending (a.missedStop ob) := by
  refine ⟨by simp [missedStop, result, stopped], fun e he id hid => ?_⟩
  simp only [missedStop, result, mem_cons, not_mem_nil, or_false] at he
  rcases he with rfl | rfl | rfl
  · simp [invalidate] at hid
  · simp [continued] at hid
  · exact stopped_hits hid

lemma credits_stopped (a : Arbiter) (ob : Observation) :
    Credits a.pending ((a.stopped ob).1.result [(a.stopped ob).2]) := by
  refine ⟨by simp [result, stopped], fun e he id hid => ?_⟩
  obtain rfl := mem_singleton.mp he
  exact stopped_hits hid

lemma Credits.mono {hints hints' : List PendingHint} {out : Outcome} (h : Credits hints out)
    (hsub : ∀ p ∈ hints, p ∈ hints') : Credits hints' out := by
  refine ⟨fun p hp => hsub p (h.1 p hp), fun e he id hid => ?_⟩
  obtain ⟨hpos, p, hp, heq⟩ := h.2 e he id hid
  exact ⟨hpos, p, hsub p hp, heq⟩

lemma credits_observeRunning (a : Arbiter) (ob : Observation) :
    Credits [] (a.observeRunning ob) := by
  simp only [observeRunning]
  split_ifs
  · exact ⟨by simp [result], by simp [result]⟩
  · exact ⟨by simp [result], by simp [result, invalidate, continued]⟩
  · exact credits_missedRun _ ob
  · exact credits_missedRun _ ob
  · exact ⟨by simp [result], by simp [result]⟩

lemma credits_observeStopped (a : Arbiter) (ob : Observation) :
    Credits a.pending (a.observeStopped ob) := by
  simp only [observeStopped]
  split_ifs
  · exact credits_stopped { a with state := .stopped, hasStop := true } ob
  · refine ⟨fun p hp => mem_of_mem_filter hp, by simp [result]⟩
  · exact credits_missedStop { a with state := .stopped } ob
  · exact ⟨fun p hp => hp, by simp [fault]⟩
  · exact credits_stopped { a with state := .stopped } ob
  · exact ⟨fun p hp => hp, by simp [result]⟩
  · exact credits_missedStop { a with state := .stopped } ob

theorem credits_observe (a : Arbiter) (ob : Observation) : Credits a.pending (a.observe ob) := by
  have hnn : ∀ out : Outcome, out.arbiter.pending = a.pending → out.effects = [] →
      Credits a.pending out := by
    intro out hp he
    exact ⟨fun p h => hp ▸ h, by simp [he]⟩
  unfold observe
  split_ifs
  · exact hnn _ rfl rfl
  · exact hnn _ rfl rfl
  · exact hnn _ rfl rfl
  · exact hnn _ rfl rfl
  split
  · exact (credits_observeRunning _ ob).mono (by simp)
  · exact credits_observeStopped { a with lastStamp := ob.stopStamp } ob
  · exact hnn _ rfl rfl

/-! ### The invariant -/

/-- What an unfaulted arbiter knows about the calls made on it. -/
structure Tracks (calls : List Call) (a : Arbiter) : Prop where
  wellFormed : a.WellFormed
  known : a.state ≠ .unknown ↔ ∃ c ∈ calls, c.known = true
  /-- The last accepted stamp is the one of the last stop. -/
  current : a.hasStop = true → a.lastStamp = a.stopEpoch
  /-- No hint outlives the stop epoch it was received in. -/
  based : ∀ p ∈ a.pending, p.base = a.currentStopEpoch
  heard : ∀ target, (∃ p ∈ a.pending, p.target = target) ↔ ∃ k, Heard calls k target

lemma tracks_new : Tracks [] new where
  wellFormed := wellFormed_new
  known := by simp [new]
  current := by simp [new]
  based := by simp [new]
  heard := fun target => by simp [new, Heard]

variable {rs : Option (UInt32 → Option HintTarget)}

lemma noteHint_ignored
    {tok : UInt32} (h : a.state = .unknown ∨ (Call.hint rs tok).resolved = none) :
    (a.noteHint rs tok).1 = a := by
  cases rs with
  | none => rfl
  | some =>
    rcases h with h | h
    · simp [noteHint, h]
    · simp only [Call.resolved] at h
      simp [noteHint, h]

lemma mem_pending_noteHint (hf : a.faulted = false) (hk : a.state ≠ .unknown)
    {tok : UInt32} {target : HintTarget}
    (h : (Call.hint rs tok).resolved = some target) (p : PendingHint) :
    p ∈ (a.noteHint rs tok).1.pending ↔ p ∈ a.pending ∨ p = ⟨target, a.currentStopEpoch⟩ := by
  cases rs with
  | none => cases h
  | some =>
    simp only [Call.resolved] at h
    simp only [noteHint, hf, h, Bool.false_or, beq_iff_eq, hk, if_false, contains_iff_mem]
    split_ifs with hme
    · exact ⟨.inl, fun hp => hp.elim id fun hp => hp ▸ hme⟩
    · simp

variable {calls : List Call}

lemma Tracks.quiet (h : Tracks calls a) {c : Call}
    (hc : c.known = false) (hno : a.state = .unknown ∨ c.resolved = none) :
    Tracks (calls ++ [c]) a where
  wellFormed := h.wellFormed
  known := h.known.trans (exists_known_snoc hc).symm
  current := h.current
  based := h.based
  heard := fun target => by
    simp only [h.heard, heard_snoc hc]
    refine exists_congr fun k => (or_iff_left ?_).symm
    rintro ⟨-, hres, hkn⟩
    rcases hno with hun | hnn
    · exact h.known.mpr hkn hun
    · rw [hres] at hnn
      cases hnn

lemma Tracks.hint (h : Tracks calls a) (hf : a.faulted = false)
    (rs : Option (UInt32 → Option HintTarget)) (tok : UInt32) :
    Tracks (calls ++ [.hint rs tok]) (a.noteHint rs tok).1 := by
  by_cases hno : a.state = .unknown ∨ (Call.hint rs tok).resolved = none
  · rw [noteHint_ignored hno]
    exact h.quiet rfl hno
  obtain ⟨hk, hres⟩ := not_or.mp hno
  obtain ⟨target, hres⟩ := ne_none_iff_exists'.mp hres
  have hme := mem_pending_noteHint hf hk hres
  obtain ⟨hints, heq⟩ := a.noteHint_eq rs tok
  rw [heq] at hme ⊢
  exact {
    wellFormed := h.wellFormed.withHints hints
    known := h.known.trans (exists_known_snoc rfl).symm
    current := h.current
    based := fun p hp => by
      rcases (hme p).mp hp with hp | rfl
      · exact h.based p hp
      · rfl
    heard := fun other => by
      simp only [hme, heard_snoc (show (Call.hint rs tok).known = false from rfl), hres]
      simp only [or_and_right, exists_or, h.heard, Option.some.injEq]
      refine or_congr Iff.rfl ⟨?_, ?_⟩
      · rintro ⟨p, rfl, rfl⟩
        exact ⟨_, rfl, rfl, h.known.mp hk⟩
      · rintro ⟨k, -, rfl, -⟩
        exact ⟨_, rfl, rfl⟩ }

lemma Tracks.base_lt (h : Tracks calls a)
    (hs : a.Admits ob) (ht : (a.transition ob).stops = true) (hpos : 0 < ob.stopStamp)
    {p : PendingHint} (hp : p ∈ a.pending) : p.base < ob.stopStamp := by
  rw [h.based p hp]
  cases hst : a.hasStop with
  | false => simpa [currentStopEpoch, hst] using hpos
  | true =>
    have hmov : ob.stopStamp ≠ a.stopEpoch := by
      rcases Transition.moved_of_stops ht with hno | hmov
      · simp [hst] at hno
      · simpa [currentStopEpoch, hst] using hmov
    have hle : a.stopEpoch ≤ ob.stopStamp := h.current hst ▸ hs.2 hst
    simp only [currentStopEpoch, hst, Bool.not_true, Bool.false_eq_true, if_false]
    exact UInt64.lt_of_le_of_ne hle hmov.symm

lemma stopStamp_eq_of_not_stops (hwf : a.WellFormed)
    (hn : ob.state ≠ .unknown) (hst : a.hasStop = true) (ht : (a.transition ob).stops = false) :
    ob.stopStamp = a.currentStopEpoch := by
  have hkn := hwf.known_of_hasStop hst
  by_contra hne
  have hmov : (ob.stopStamp != a.currentStopEpoch) = true := by simpa using hne
  simp only [transition, hst, hmov] at ht
  cases hs : a.state <;> cases hob : ob.state <;>
    simp_all [Transition.between, State.target, Transition.stops, Transition.turns]

lemma Tracks.pending_move (h : Tracks calls a)
    (hn : ob.state ≠ .unknown) : (a.move ob).pending = [] := by
  change a.remaining ob = []
  rw [remaining]
  split_ifs with hqu
  · obtain ⟨hsp, hqu⟩ := hqu
    -- a quiet stopped sample repeats the stamp that every waiting hint is based on
    have hst : a.hasStop = true := by
      have hst := (wellFormed_move (a := a) hn (by simp [hqu])).hasStop_of_stopped hsp
      simpa [move, hqu, Transition.stops, Transition.turns] using hst
    have heq := stopStamp_eq_of_not_stops h.wellFormed hn hst (by rw [hqu]; rfl)
    refine filter_eq_nil_iff.mpr fun p hp => ?_
    simp [h.based p hp, heq]
  · rfl

lemma Tracks.move (h : Tracks calls a)
    (hn : ob.state ≠ .unknown) (ht : a.transition ob ≠ .unmoved) :
    Tracks (calls ++ [.sample ob]) (a.move ob) where
  wellFormed := wellFormed_move hn ht
  known := iff_of_true hn ⟨.sample ob, by simp, by simpa [Call.known] using hn⟩
  current := fun hst => by
    cases hsto : (a.transition ob).stops with
    | true => simp [Arbiter.move, hsto]
    | false =>
      simp only [Arbiter.move, hsto, Bool.or_false] at hst
      simpa [Arbiter.move, hsto, currentStopEpoch, hst] using
        stopStamp_eq_of_not_stops h.wellFormed hn hst hsto
  based := by simp [h.pending_move hn]
  heard := fun target => by
    have hco : ∀ k, ¬ Heard (calls ++ [.sample ob]) k target := fun k hk =>
      not_heard_of_known (by simpa [Call.known] using hn)
        (by simpa [Nat.lt_succ_iff] using hk.lt_length) hk
    simp [h.pending_move hn, hco]

/-! ### Runs -/

/-- The arbiter as a machine. `NoteHint` returns no effects. -/
def machine : Mealy Arbiter Call (List Effect) where
  step a
    | .hint resolver token => ((a.noteHint resolver token).1, [])
    | .sample ob => ((a.observe ob).arbiter, (a.observe ob).effects)

/-- A fault is final; up to it the arbiter keeps exactly the hints that should count. -/
theorem tracks (calls : List Call) :
    (machine.final new calls).faulted = true ∨ Tracks calls (machine.final new calls) := by
  induction calls using List.reverseRecOn with
  | nil => exact .inr tracks_new
  | append_singleton calls c ih =>
    rw [machine.final_append, Mealy.final_cons, Mealy.final_nil]
    generalize machine.final new calls = a at ih
    cases hf : a.faulted with
    | true =>
      left
      cases c with
      | hint rs tok =>
        obtain ⟨hints, heq⟩ := a.noteHint_eq rs tok
        simp [machine, heq, hf]
      | sample => simp [machine, observe_faulted hf, hf]
    | false =>
      have h := ih.resolve_left (by simp [hf])
      cases c with
      | hint rs tok => exact .inr (h.hint hf rs tok)
      | sample ob =>
        change (a.observe ob).arbiter.faulted = true ∨ Tracks _ (a.observe ob).arbiter
        have hob := a.observed h.wellFormed ob
        generalize a.observe ob = out at hob ⊢
        cases hob with
        | dead hd => simp [hf] at hd
        | unknown _ hn => exact .inr (h.quiet (by simp [Call.known, hn]) (.inr rfl))
        | refused | unmoved => exact .inl rfl
        | moved _ hn _ ht => exact .inr (h.move hn ht)

/-- The hint at position `k` counts among the ids of the stop reported at position `i`. -/
def Credited (calls : List Call) (k i : Nat) : Prop :=
  ∃ before ob target e, before ++ [.sample ob] <+: calls ∧ before.length = i ∧
    Heard before k target ∧ e ∈ ((machine.final new before).observe ob).effects ∧
    e.kind = .stopped ∧ target.breakpointID ∈ e.hitBreakpointIDs

lemma effect_cases (he : e ∈ ((machine.final new calls).observe ob).effects) :
    Tracks calls (machine.final new calls) ∧ (machine.final new calls).Admits ob ∧
      ((machine.final new calls).observe ob).effects = (machine.final new calls).emitted ob := by
  have htr := tracks calls
  generalize machine.final new calls = a at he htr ⊢
  cases hf : a.faulted with
  | true => simp [observe_faulted hf] at he
  | false =>
    have h := htr.resolve_left (by simp [hf])
    have hob := a.observed h.wellFormed ob
    generalize a.observe ob = out at he hob ⊢
    cases hob with
    | dead | unknown | refused | unmoved => simp [result, fault] at he
    | moved _ _ hs => exact ⟨h, hs, rfl⟩

lemma lists_of_effect
    (he : e ∈ ((machine.final new calls).observe ob).effects) (hk : e.kind = .stopped) :
    Lists e.hitBreakpointIDs fun id => ob.state = .stopped ∧ 0 < ob.stopStamp ∧
      ∃ k target, Heard calls k target ∧ target.breakpointID = id := by
  obtain ⟨h, hs, heq⟩ := effect_cases he
  rw [heq] at he
  obtain ⟨hsto, ⟨⟨exec, rfl⟩, hst⟩ | ⟨⟨exec, rfl⟩, hru⟩⟩ := stopped_of_emitted he hk
  · have hlis := lists_stopEffect exec (machine.final new calls).pending ob
    refine ⟨hlis.ascending, fun id => (hlis.mem_iff id).trans (and_congr_right fun _ => ?_)⟩
    constructor
    · rintro ⟨p, hp, hlt, rfl⟩
      obtain ⟨k, hhe⟩ := (h.heard p.target).mp ⟨p, hp, rfl⟩
      exact ⟨hst, UInt64.lt_of_le_of_lt UInt64.zero_le hlt, k, p.target, hhe, rfl⟩
    rintro ⟨-, hpos, k, target, hhe, rfl⟩
    obtain ⟨p, hp, rfl⟩ := (h.heard target).mpr ⟨k, hhe⟩
    exact ⟨p, hp, h.base_lt hs hsto hpos hp, rfl⟩
  · have hlis := lists_stopEffect exec [] ob
    refine ⟨hlis.ascending, fun id => (hlis.mem_iff id).trans (and_congr_right fun _ => ?_)⟩
    simp [hru]

lemma Credited.not_lt {k i j : Nat} (hi : Credited calls k i)
    (hj : Credited calls k j) : ¬ i < j := by
  rintro hlt
  obtain ⟨before, ob, target, e, hpre, rfl, hhe, he, hk, -⟩ := hi
  obtain ⟨later, ob', tgt', -, hpre', rfl, hhe', -⟩ := hj
  have hpref : before ++ [.sample ob] <+: later :=
    prefix_of_prefix_length_le hpre ((prefix_append later _).trans hpre') (by simpa)
  obtain ⟨rest, rfl⟩ := hpref
  have hkn : (Call.sample ob).known = true := by
    obtain ⟨-, -, heq⟩ := effect_cases he
    rw [heq] at he
    obtain ⟨-, ⟨-, hst⟩ | ⟨-, hst⟩⟩ := stopped_of_emitted he hk <;> simp [Call.known, hst]
  rw [append_assoc, singleton_append] at hhe'
  exact not_heard_of_known hkn (Nat.le_of_lt hhe.lt_length) hhe'

/-- After any calls: a hint changes nothing but the list of waiting hints; a sample reports at most
one stop; a stop reported by a stopped sample with a positive stamp carries exactly the positive
ids of the hints heard since the last known sample; one reported by a running sample carries none;
and no hint is credited to two stops. -/
theorem hits_are_heard (calls : List Call) :
    (∀ resolver token, ∃ hints, machine.step (machine.final new calls) (.hint resolver token) =
      ((machine.final new calls).withHints hints, [])) ∧
    (∀ ob, (((machine.final new calls).observe ob).effects.filter (·.kind = .stopped)).length ≤ 1) ∧
    (∀ ob, ∀ e ∈ ((machine.final new calls).observe ob).effects, e.kind = .stopped →
      (ob.state = .stopped → 0 < ob.stopStamp → Lists e.hitBreakpointIDs fun id =>
        ∃ k target, Heard calls k target ∧ target.breakpointID = id) ∧
      (ob.state = .running → e.hitBreakpointIDs = [])) ∧
    ∀ k i j, Credited calls k i → Credited calls k j → i = j := by
  refine ⟨fun resolver token => ?_, fun ob => ?_, fun ob e he hk => ⟨fun hst hpos => ?_,
    fun hru => ?_⟩, ?_⟩
  · obtain ⟨hints, heq⟩ := (machine.final new calls).noteHint_eq resolver token
    exact ⟨hints, Prod.ext heq rfl⟩
  · rcases eq_nil_or_concat ((machine.final new calls).observe ob).effects with hnil | hcons
    · simp [hnil]
    obtain ⟨es, e, hes⟩ := hcons
    have he : e ∈ ((machine.final new calls).observe ob).effects := by simp [hes]
    obtain ⟨-, -, heq⟩ := effect_cases he
    rw [heq]
    exact length_stopped_emitted _ _
  · have hlis := lists_of_effect he hk
    refine ⟨hlis.ascending, fun id => (hlis.mem_iff id).trans ?_⟩
    simp [hst, hpos]
  · have hlis := lists_of_effect he hk
    refine eq_nil_iff_forall_not_mem.mpr fun id hid => ?_
    have := ((hlis.mem_iff id).mp hid).2.1
    simp [hru] at this
  · intro k i j hi hj
    exact Nat.le_antisymm (Nat.not_lt.mp (hj.not_lt hi)) (Nat.not_lt.mp (hi.not_lt hj))

end Arbiter

end MultiDap.Stop
