import MultiDap.TimeMachine.Ledger

/-!
# The size of a report

A packet causes two discontinuities at most: the clock may jump back at it, and it may be a barrier
by itself. Only the first packet of a segment may stand for a third one, if the segment conflicts
with the packet that ends it; and that packet causes none.
-/

namespace MultiDap.TimeMachine

open List Option

open Normalizer (delimiter)

namespace Normalizer

variable {n n' : Normalizer} {o : Observation} {ctx : Option Context}

lemma advanceClock_cases (n : Normalizer) (o : Observation) :
    n.epoch = o.clockEpoch ∧ n.advanceClock o = n ∨ n.advanceClock o =
        { n with epoch := o.clockEpoch }.barrier o.generation o.index .clockRegression := by
  unfold advanceClock
  split_ifs with hep
  · exact .inr rfl
  · exact .inl ⟨(not_not.mp hep).symm, rfl⟩

@[simp] lemma barrier_discontinuities (gen idx : Nat) (why : Reason) :
    (n.barrier gen idx why).report.discontinuities.length =
      n.report.discontinuities.length + 1 := by
  simp [barrier]

@[simp] lemma keep_observations :
    (n.keep o).report.observations.length = n.report.observations.length + 1 := by
  simp [keep]

lemma approach_report (n : Normalizer) (ctx : Option Context) (o : Observation) :
    (n.approach ctx o).report.discontinuities = (n.advanceClock o).report.discontinuities := by
  unfold approach advanceClock
  cases ctx <;> simp only [Option.isNone, if_true, count] <;> split_ifs <;> rfl

lemma ObserveStep.discontinuities (h : ObserveStep n ctx o n') :
    n'.report.discontinuities.length ≤ n.report.discontinuities.length + 1 := by
  cases h with
  | other => omega
  | unknownClock => simp [count]
  | unknownContext => simp
  | function _ _ _ hst =>
    cases hst with
    | entered | unmatched | completed => exact Nat.le_succ _
    | mismatched | regressed => simp [count]

end Normalizer

/-! ### Discontinuities -/

/-- The discontinuities so far. While a segment is under way, the one that stands for its next
packet may have been found already; the frames are forgotten then. -/
def Budget (k : Nat) (b : Bool) (rest : List Observation) (n : Normalizer) : Prop :=
  n.report.discontinuities.length ≤ 2 * n.report.observations.length + k + b.toNat ∨
    n.report.discontinuities.length ≤ 2 * n.report.observations.length + k + b.toNat + 1 ∧
      n.openFrames = 0 ∧ ∃ o ∈ rest.head?, n.epoch = o.clockEpoch

namespace Budget

variable {k : Nat} {b b' : Bool} {rest rest' : List Observation} {n n' : Normalizer}
  {o : Observation}

lemma clock_le (h : Budget k b (o :: rest) n) : (n.advanceClock o).report.discontinuities.length ≤
      2 * n.report.observations.length + k + b.toNat + 1 := by
  obtain ⟨hep, heq⟩ | heq := n.advanceClock_cases o
  · rw [heq]
    obtain h | h := h <;> omega
  rw [heq, Normalizer.barrier_discontinuities]
  obtain h | ⟨h, -, o', ho', hep⟩ := h
  · exact Nat.succ_le_succ h
  cases ho'
  unfold Normalizer.advanceClock at heq
  rw [if_neg (not_not.mpr hep.symm)] at heq
  have := congrArg (·.report.discontinuities.length) heq
  simp at this

lemma clock (h : Budget k b (o :: rest) n) : Budget k b (o :: rest) (n.advanceClock o) := by
  have hle := h.clock_le
  have hep := n.advanceClock_epoch o
  obtain ⟨-, heq⟩ | heq := n.advanceClock_cases o
  · rw [heq]
    exact h
  · rw [heq] at hle hep ⊢
    exact .inr ⟨hle, rfl, o, rfl, hep⟩

lemma pass (h : Budget k b (o :: rest) n)
    (hobser : n'.report.observations.length = n.report.observations.length + 1)
    (hdis : n'.report.discontinuities.length + b.toNat ≤
      (n.advanceClock o).report.discontinuities.length + 1 + b'.toNat) : Budget k b' rest' n' := by
  have := h.clock_le
  exact .inl (by omega)

lemma stable (k : Nat) : Normalizer.Stable (Budget k) where
  clock h := h.clock
  conflict {o _ n} h hep := by
    obtain h | ⟨h, -, -⟩ := h
    · refine .inl ?_
      simp only [Normalizer.barrier_discontinuities]
      change n.report.discontinuities.length + 1 ≤ 2 * n.report.observations.length + k + 1
      simpa using h
    refine .inr ⟨?_, rfl, o, rfl, hep⟩
    simp only [Normalizer.barrier_discontinuities]
    change n.report.discontinuities.length + 1 ≤ 2 * n.report.observations.length + k + 1 + 1
    simpa using h
  unknown {b o _ n} h hep hop := by
    obtain h | ⟨-, hnn, -⟩ := h
    · refine .inr ⟨?_, rfl, o, rfl, hep⟩
      rw [Normalizer.barrier_discontinuities]
      exact Nat.succ_le_succ h
    · omega
  enter h _ := h
  observe {b o _ n n' ctx evidence} h _ _ hst := by
    refine h.pass ?_ ?_
    · rw [Normalizer.keep_observations, hst.observations]
    have hle := hst.discontinuities
    rw [Normalizer.approach_report] at hle
    exact Nat.add_le_add_right hle _
  pid h _ := h.pass (by simp [Normalizer.advance_observations]) (by simp [Normalizer.keep])
  previousPid {b _ _ _} h _ := by
    refine h.pass (by simp [Normalizer.advance_observations]) ?_
    have := b.toNat_le
    simp only [Normalizer.keep, Bool.toNat_false]
    omega
  barrier {o _ n} h _ := by
    refine h.pass ?_ ?_
    · unfold Normalizer.passBarrier
      rw [Normalizer.keep_observations]
      exact congrArg (·.length + 1) (n.advance_observations o)
    · simp [Normalizer.passBarrier, Normalizer.keep, Normalizer.count]

end Budget

/-! ### Units -/

structure Units (u : TimeUnit) (rest : List Observation) (n : Normalizer) : Prop where
  coming : ∀ o ∈ rest, ∀ timestamp, o.timestamp = some timestamp → timestamp.timeUnit = u
  frames : ∀ c, ∀ f ∈ n.frameStacks c, f.timestamp.map Timestamp.timeUnit = some u
  spans : ∀ s ∈ n.report.spans, s.timeUnit = some u

variable {c : Context}

namespace Units

variable {u : TimeUnit} {rest : List Observation} {n n' : Normalizer} {o o' : Observation}

lemma forget (h : Units u rest n) (hsa : ∀ c, n'.frameStacks c = [])
    (hspa : n'.report.spans = n.report.spans) : Units u rest n' :=
  ⟨h.coming, by simp [hsa], hspa ▸ h.spans⟩

lemma advanceClock (h : Units u rest n) (o : Observation) : Units u rest (n.advanceClock o) := by
  obtain ⟨-, heq⟩ | heq := n.advanceClock_cases o
  · exact heq.symm ▸ h
  · exact heq.symm ▸ h.forget (fun _ => rfl) rfl

lemma keep (h : Units u (o :: rest) n) : Units u rest (n.keep o') :=
  ⟨fun a ha => h.coming a (mem_cons_of_mem _ ha), h.frames, h.spans⟩

lemma update {stack : List Observation} (h : Units u rest n)
    (hstack : ∀ f ∈ stack, f.timestamp.map Timestamp.timeUnit = some u) (c' : Context) :
    ∀ f ∈ Function.update n.frameStacks c stack c',
      f.timestamp.map Timestamp.timeUnit = some u := by
  by_cases hc : c' = c
  · subst hc
    rw [Function.update_self]
    exact hstack
  · rw [Function.update_of_ne hc]
    exact h.frames c'

lemma function (h : Units u rest n) (hst : Normalizer.FunctionStep n c o n')
    (ho : o.timestamp.map Timestamp.timeUnit = some u) : Units u rest n' := by
  cases hst with
  | entered => exact ⟨h.coming, h.update (forall_mem_cons.mpr ⟨ho, h.frames c⟩), h.spans⟩
  | unmatched => exact ⟨h.coming, h.frames, h.spans⟩
  | mismatched | regressed => exact h.forget (fun _ => rfl) rfl
  | completed _ hstack =>
    obtain ⟨het, hbel⟩ := forall_mem_cons.mp (hstack ▸ h.frames c)
    refine ⟨h.coming, h.update hbel, fun s hs => ?_⟩
    rcases Machine.mem_concat.mp hs with hs | rfl
    · exact h.spans s hs
    · exact het

lemma observe {ctx : Option Context} (h : Units u (o :: rest) n)
    (htime : o'.timestamp = o.timestamp) (hst : Normalizer.ObserveStep n ctx o' n') :
    Units u rest (n'.keep o') := by
  suffices h' : Units u (o :: rest) n' from h'.keep
  cases hst with
  | other => exact h
  | unknownClock | unknownContext => exact h.forget (fun _ => rfl) rfl
  | function _ hvalue _ hst =>
    refine h.function hst ?_
    cases htim : o.timestamp with
    | none => exact absurd (by simp [Observation.value, htime, htim]) hvalue
    | some timestamp =>
      rw [htime, htim, map_some, h.coming o mem_cons_self timestamp htim]

lemma stable (u : TimeUnit) : Normalizer.Stable fun _ => Units u where
  clock h := h.advanceClock _
  conflict h _ := h.forget (fun _ => rfl) rfl
  unknown h _ _ := h.forget (fun _ => rfl) rfl
  enter h _ := { h with }
  observe {_ o rest n _ ctx evidence} h _ _ hst := by
    have happ : Units u (o :: rest) (n.approach ctx (Normalizer.attributed ctx evidence o)) := by
      refine Units.advanceClock ?_ _
      split_ifs
      · exact ⟨h.coming, h.frames, h.spans⟩
      · exact h
    exact happ.observe rfl hst
  pid h _ := (h.advanceClock _).keep
  previousPid h _ := (h.advanceClock _).keep
  barrier {o _ _} h _ := Units.keep (o := o) ((h.advanceClock o).forget (fun _ => rfl) rfl)

end Units

/-! ### Reports -/

lemma assignedContext_some {declared : Option Context} {before after : List Packet}
    (h : assignedContext declared before after = some c) : knownContext c = true ∧
      (declared = some c ∨ ∃ pkt ∈ before ++ after, pkt.context = some c) := by
  have hfor (hf : forwardContext declared before = some c) : knownContext c = true ∧
      (declared = some c ∨ ∃ pkt ∈ before ++ after, pkt.context = some c) := by
    unfold forwardContext at hf
    split at hf
    · obtain ⟨heq, hkn⟩ := filter_eq_some_iff.mp hf
      exact ⟨hkn, .inl heq⟩
    next pkt hfind =>
    split_ifs at hf
    obtain ⟨heq, hkn⟩ := filter_eq_some_iff.mp hf
    have hme := mem_reverse.mp (mem_of_find?_eq_some hfind)
    exact ⟨hkn, .inr ⟨pkt, mem_append_left _ hme, heq⟩⟩
  unfold assignedContext at h
  dsimp only at h
  split at h
  · exact hfor h
  next pkt hfind =>
  split_ifs at h
  · exact hfor h
  split at h
  · cases h
  next backward hba =>
  split_ifs at h
  cases h
  obtain ⟨heq, hkn⟩ := filter_eq_some_iff.mp hba
  exact ⟨hkn, .inr ⟨pkt, mem_append_right _ (mem_of_find?_eq_some hfind), heq⟩⟩

/-- What the report of a capture with this information looks like. -/
structure Report.Regular (info : Info) (r : Report) : Prop where
  numbered : ∀ o ∈ r.observations, o.generation ≠ 0 ∧ o.clockEpoch ≠ 0
  timestamps : ∀ o ∈ r.observations, ∀ timestamp, o.timestamp = some timestamp →
    ∃ tag, -2 ^ 63 ≤ tag ∧ tag < 2 ^ 64 ∧ timestamp = normalizeTimestamp tag info
  contexts : ∀ o ∈ r.observations, o.timestamp ≠ none → ∀ c, o.context = some c →
    validContext c = true ∧ knownContext c = true
  units : ∀ s ∈ r.spans, s.timeUnit = some info.timeUnit
  observations : r.observations.length ≤ maxCapturePackets
  spans : r.spans.length ≤ maxCapturePackets
  discontinuities : r.discontinuities.length ≤ 2 * maxCapturePackets + maxGenerations

lemma validateSource_context {src : Source} (h : validateSource src = .ok ())
    (hc : src.initialContext = some c) : validContext c = true := by
  by_contra hinvalid
  have hany : src.initialContext.any (fun ctx => !validContext ctx) = true := by
    simpa [hc] using hinvalid
  unfold validateSource at h
  simp only [hany, if_true] at h
  repeat (split at h <;> try cases h)

namespace Normalizer

variable {pf : Profile} {info : Info} {src : Source} {n n' : Normalizer} {first : Bool}
variable {gens : List Generation}

lemma generations_reported (hnumb : ∀ gen ∈ gens, gen.Numberable)
    (hru : n.generations pf info src first gens = .ok n') {o : Observation}
    (ho : o ∈ n'.report.observations) : o ∈ n.report.observations ∨ ∃ gen ∈ gens, ∃ first rep,
      Reported pf info src first gen rep ∧ o ∈ rep := by
  induction gens generalizing n first with
  | nil => exact .inl (Except.ok.inj hru ▸ ho)
  | cons gen _ ih =>
    obtain ⟨n₁, hn₁, hru⟩ := bind_eq_ok.mp hru
    obtain ⟨rep, hre, hge⟩ :=
      generation_reported (hnumb gen mem_cons_self) hn₁
    rcases ih (fun g hg => hnumb g (mem_cons_of_mem _ hg)) hru with ho | ⟨g, hg, ho⟩
    · rw [hre] at ho
      rcases mem_append.mp ho with ho | ho
      · exact .inl ho
      · exact .inr ⟨gen, mem_cons_self, first, rep, hge, ho⟩
    · exact .inr ⟨g, mem_cons_of_mem _ hg, ho⟩

lemma generations_bounds {k : Nat} (hnumb : ∀ gen ∈ gens, gen.Numberable)
    (hsa : ∀ c, n.frameStacks c = [])
    (hdis : n.report.discontinuities.length ≤ 2 * n.report.observations.length + k)
    (hspa : ∀ s ∈ n.report.spans, s.timeUnit = some info.timeUnit)
    (hru : n.generations pf info src first gens = .ok n') : n'.report.discontinuities.length ≤
        2 * n'.report.observations.length + k + gens.length ∧
      ∀ s ∈ n'.report.spans, s.timeUnit = some info.timeUnit := by
  induction gens generalizing n first k with
  | nil =>
    cases hru
    exact ⟨hdis, hspa⟩
  | cons gen _ ih =>
    obtain ⟨n₁, hn₁, hru⟩ := bind_eq_ok.mp hru
    obtain ⟨obs, st, n₂, hobse, hloop, rfl⟩ := generation_cases hn₁
    have henter : (n.enterGeneration first gen).report.discontinuities.length ≤
        n.report.discontinuities.length + 1 ∧
        (n.enterGeneration first gen).report.observations = n.report.observations ∧
        (n.enterGeneration first gen).report.spans = n.report.spans ∧
        ∀ c, (n.enterGeneration first gen).frameStacks c = [] := by
      unfold enterGeneration
      dsimp only
      split_ifs
      · exact ⟨by simp [count], rfl, rfl, fun _ => rfl⟩
      · exact ⟨Nat.le_succ _, rfl, rfl, hsa⟩
    obtain ⟨hdisc, hob, hspa', hsa'⟩ := henter
    generalize n.enterGeneration first gen = n₀ at *
    have hbud : Budget (k + 1) false obs (n₀.count fun _ => st) := by
      refine .inl ?_
      simp only [count, hob, Bool.toNat_false]
      omega
    have huni : Units info.timeUnit obs (n₀.count fun _ => st) := by
      refine ⟨fun o ho timestamp htim => ?_, by simp [count, hsa'], hspa' ▸ hspa⟩
      obtain ⟨-, hdeco⟩ := observePackets_numbered (by exact (hnumb gen mem_cons_self).2) hobse
      obtain ⟨tag, -, rfl⟩ :=
        map_eq_some_iff.mp ((hdeco o ho).2.2.2.symm.trans htim)
      rfl
    have hen := (Budget.stable _).generationLoop hbud (by simp) hloop
    have hen' := (Units.stable _).generationLoop huni (by simp) hloop
    obtain hen | ⟨-, -, o, ho, -⟩ := hen
    · have hsa'' (c : Context) : n₂.leaveGeneration.frameStacks c = [] := rfl
      obtain ⟨hrs, huni⟩ := ih (fun g hg => hnumb g (mem_cons_of_mem _ hg)) hsa'' hen hen'.spans hru
      refine ⟨?_, huni⟩
      rw [length_cons]
      omega
    · cases ho

end Normalizer

lemma numbered_length (pf : Profile) (gen : Generation) : (gen.numbered pf).length = gen.size := by
  simp [Generation.numbered, Generation.numberedFrom, Generation.size]

lemma Reported.context_valid {pf : Profile} {info : Info} {src : Source} {first : Bool}
    {gen : Generation} {rep : List Observation} (h : Reported pf info src first gen rep)
    (hso : ∀ c, src.initialContext = some c → validContext c = true) {o : Observation}
    (ho : o ∈ rep) (htimed : o.timestamp ≠ none) (hc : o.context = some c) :
    validContext c = true ∧ knownContext c = true := by
  obtain ⟨hsane, -, htim⟩ := h.decoded o ho
  cases hdel : delimiter o.packet with
  | true =>
    -- a delimiter that names a task has no time, and the others have no context
    rw [h.delimited o ho hdel, delimiterContext] at hc
    split_ifs at hc with hkd
    rw [htim, hsane.untimed hkd] at htimed
    exact absurd rfl htimed
  | false =>
    obtain ⟨before, after, rfl⟩ := mem_iff_append.mp ho
    rw [h.context before o after rfl hdel] at hc
    obtain ⟨hkn, hdec | ⟨pkt, hpac, hco⟩⟩ := assignedContext_some hc
    · unfold Normalizer.declared at hdec
      split_ifs at hdec
      exact ⟨hso c hdec, hkn⟩
    rw [← map_append] at hpac
    obtain ⟨a, ha, rfl⟩ := mem_map.mp hpac
    have hme : a ∈ before ++ o :: after := by
      simp only [mem_append, mem_cons] at ha ⊢
      tauto
    exact ⟨(h.decoded a hme).1.context c hco, hkn⟩

lemma Capture.Accepted.regular {cap : Capture} {pf : Profile} {info : Info}
    {n : Normalizer} (h : cap.Accepted pf info)
    (hru : Normalizer.generations pf info cap.source {} true cap.generations = .ok n) :
    n.report.Regular info := by
  obtain ⟨hnumb, hsize⟩ := validateGenerations_ok (Nat.zero_le _) h.generations
  obtain ⟨rep, hre, hnumbe⟩ := Normalizer.generations_numbered hnumb hru
  obtain ⟨hled, -⟩ := ledger_zero.generations between_zero rfl (Nat.zero_le _) h.generations hru
  obtain ⟨hdis, huni⟩ :=
    Normalizer.generations_bounds (k := 0) hnumb (fun _ => rfl) (Nat.zero_le _) (by simp) hru
  have hlen : n.report.observations.length ≤ maxCapturePackets := by
    have hlen := congrArg List.length hnumbe
    simp only [length_map, length_flatMap, numbered_length] at hlen
    rw [hre, length_append, hlen]
    simpa using hsize
  have hfrom {o : Observation} (ho : o ∈ n.report.observations) :=
    (Normalizer.generations_reported hnumb hru ho).resolve_left (by simp)
  refine ⟨fun o ho => ?_, fun o ho timestamp htim => ?_, fun o ho htimed c hc => ?_, huni,
    hlen, ?_, ?_⟩
  · obtain ⟨gen, hge, first, rep, hre, ho⟩ := hfrom ho
    have hnum : o.number ∈ gen.numbered pf :=
      hre.numbered ▸ mem_map_of_mem ho
    obtain ⟨⟨text, i⟩, -, heq⟩ := mem_map.mp hnum
    have hg : gen.id.toNat = o.generation := congrArg Prod.fst heq
    have := (hnumb gen hge).1
    have := (hre.decoded o ho).2.1
    omega
  · obtain ⟨gen, hge, first, rep, hre, ho⟩ := hfrom ho
    obtain ⟨hsane, -, htime⟩ := hre.decoded o ho
    obtain ⟨tag, htag, rfl⟩ := map_eq_some_iff.mp (htime.symm.trans htim)
    exact ⟨tag, (hsane.tag tag htag).1, (hsane.tag tag htag).2, rfl⟩
  · obtain ⟨gen, hge, first, rep, hre, ho⟩ := hfrom ho
    exact hre.context_valid (fun c => validateSource_context h.source) ho htimed hc
  · rw [← hled.exits.completed]
    exact Nat.le_trans countP_le_length hlen
  · have := h.count
    omega

end MultiDap.TimeMachine
