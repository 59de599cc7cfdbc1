import MultiDap.TimeMachine.Normalize

/-!
# What the normalizer does with a packet

`FunctionStep` and `ObserveStep` list everything that a packet of a segment can do. `Stable` lists
what has to be shown of a property so that the normalizer keeps it through a whole generation: one
case for each place where the loops of the source change the state.
-/

namespace MultiDap.TimeMachine

open List Option

namespace Normalizer

/-! ### Single packets -/

/-- The ways of a function packet with a known time, in the context `c`. -/
inductive FunctionStep (n : Normalizer) (c : Context) (o : Observation) : Normalizer → Prop
  | entered (hen : o.packet.function = some .entry) :
      FunctionStep n c o { n with
        frameStacks := Function.update n.frameStacks c (o :: n.frameStacks c)
        openFrames := n.openFrames + 1 }
  | unmatched (hexit : o.packet.function ≠ some .entry) (hsa : n.frameStacks c = []) :
      FunctionStep n c o (n.count fun s => { s with unmatchedExits := s.unmatchedExits + 1 })
  | mismatched {entry : Observation} {below : List Observation}
      (hexit : o.packet.function ≠ some .entry) (hsa : n.frameStacks c = entry :: below)
      (hadd : entry.packet.address ≠ o.packet.address) :
      FunctionStep n c o ((n.count fun s =>
        { s with mismatchedExits := s.mismatchedExits + 1 }).barrier
        o.generation o.index .functionExitMismatch)
  | regressed {entry : Observation} {below : List Observation}
      (hexit : o.packet.function ≠ some .entry) (hsa : n.frameStacks c = entry :: below)
      (hadd : entry.packet.address = o.packet.address)
      (htime : entry.value.getD 0 > o.value.getD 0) :
      FunctionStep n c o
        ((n.count fun s => { s with clockRegressions := s.clockRegressions + 1 }).barrier
          o.generation o.index .functionClockRegression)
  | completed {entry : Observation} {below : List Observation}
      (hexit : o.packet.function ≠ some .entry) (hsa : n.frameStacks c = entry :: below)
      (hadd : entry.packet.address = o.packet.address) :
      FunctionStep n c o { n with
        report := { n.report with
          spans := n.report.spans ++
            [span c entry o (entry.value.getD 0) (o.value.getD 0) below.length] }
        frameStacks := Function.update n.frameStacks c below
        openFrames := n.openFrames - 1 }

/-- The clock is brought forward to a packet of a segment. -/
def approach (n : Normalizer) (context : Option Context) (o : Observation) : Normalizer :=
  (if context.isNone then
    n.count fun s => { s with unattributedPackets := s.unattributedPackets + 1 }
  else n).advanceClock o

/-- The ways of a packet of a segment, once the clock is brought forward to it. -/
inductive ObserveStep (n : Normalizer) (context : Option Context) (o : Observation) :
    Normalizer → Prop
  | other (hfun : o.packet.function = none) : ObserveStep n context o n
  | unknownClock (hfun : o.packet.function ≠ none) (hva : o.value = none) : ObserveStep n context o
        ((n.count fun s => { s with unknownClockEvents := s.unknownClockEvents + 1 }).barrier
          o.generation o.index .unknownFunctionClock)
  | unknownContext (hfun : o.packet.function ≠ none) (hva : o.value ≠ none) (hco : context = none) :
      ObserveStep n context o (n.barrier o.generation o.index .unknownFunctionContext)
  | function {c : Context} {n' : Normalizer} (hfun : o.packet.function ≠ none)
      (hva : o.value ≠ none) (hco : context = some c) (hst : FunctionStep n c o n') :
        ObserveStep n context o n'

section Cases

variable {n n' : Normalizer} {o : Observation} {c : Context} {context : Option Context}

lemma function_cases (h : n.function c o = .ok n') : FunctionStep n c o n' := by
  unfold Normalizer.function at h
  split_ifs at h with hen
  · exact Except.ok.inj h ▸ .entered hen
  split at h
  · next hsa => exact Except.ok.inj h ▸ .unmatched hen hsa
  next ent below hsa =>
  dsimp only at h
  split_ifs at h with hadd htime
  · exact Except.ok.inj h ▸ .mismatched hen hsa hadd
  · exact Except.ok.inj h ▸ .regressed hen hsa (not_not.mp hadd) htime
  · exact Except.ok.inj h ▸ .completed hen hsa (not_not.mp hadd)

lemma observe_eq (n : Normalizer) (context : Option Context) (o : Observation) :
    n.observe context o = if o.packet.function.isNone then .ok (n.approach context o)
      else if o.value.isNone then .ok (((n.approach context o).count fun s =>
          { s with unknownClockEvents := s.unknownClockEvents + 1 }).barrier
            o.generation o.index .unknownFunctionClock)
      else
        match context with
        | none => .ok ((n.approach context o).barrier o.generation o.index .unknownFunctionContext)
        | some c => (n.approach context o).function c o := by
  cases context <;> rfl

lemma observe_cases (h : n.observe context o = .ok n') :
    ObserveStep (n.approach context o) context o n' := by
  rw [observe_eq] at h
  generalize n.approach context o = n₁ at h ⊢
  split_ifs at h with hfun hva
  · exact Except.ok.inj h ▸ .other (isNone_iff_eq_none.mp hfun)
  · exact Except.ok.inj h ▸ .unknownClock (by simpa using hfun) (isNone_iff_eq_none.mp hva)
  have hfun : o.packet.function ≠ none := by simpa using hfun
  have hva : o.value ≠ none := by simpa using hva
  cases context with
  | none => exact Except.ok.inj h ▸ .unknownContext hfun hva rfl
  | some => exact .function hfun hva rfl (function_cases h)

@[simp] lemma advanceClock_contexts : (n.advanceClock o).contexts = n.contexts := by
  unfold advanceClock
  split_ifs <;> rfl

@[simp] lemma approach_contexts : (n.approach context o).contexts = n.contexts := by
  unfold approach
  split_ifs <;> simp [count]

lemma advanceClock_epoch (n : Normalizer) (o : Observation) :
    (n.advanceClock o).epoch = o.clockEpoch := by
  unfold advanceClock
  split_ifs with hep
  · rfl
  · exact (not_not.mp hep).symm

lemma ObserveStep.contexts (h : ObserveStep n context o n') : n'.contexts = n.contexts := by
  cases h with
  | other | unknownClock | unknownContext => rfl
  | function _ _ _ hst => cases hst <;> rfl

lemma enter_cases (h : n.enter c = .ok n') :
    c ∈ n'.contexts ∧ (n' = n ∨ c ∉ n.contexts ∧
      n' = { n with contexts := n.contexts ++ [c] }) := by
  unfold Normalizer.enter at h
  split_ifs at h with hkn
  · exact Except.ok.inj h ▸ ⟨contains_iff_mem.mp hkn, .inl rfl⟩
  · cases h
    exact ⟨by simp, .inr ⟨fun hme => hkn (contains_iff_mem.mpr hme), rfl⟩⟩

end Cases

/-! ### Generations -/

def delimiter (packet : Packet) : Bool :=
  packet.kind == .pid || packet.kind == .previousPid || packetBarrier packet

/-- A packet that names a task, as it is reported. -/
def marked (evidence : Evidence) (o : Observation) : Observation :=
  { o with context := o.packet.context, contextEvidence := evidence }

/-- A packet that is a barrier is reported as it is. -/
def passBarrier (n : Normalizer) (o : Observation) : Normalizer :=
  (((n.advanceClock o).count fun s => { s with
    unknownFunctionEvents := s.unknownFunctionEvents +
      (barrierReason o.packet == .unknownFunctionEvent).toNat }).barrier o.generation o.index
    (barrierReason o.packet)).keep o

/-- A property of the normalizer and of the packets of a generation that it has not reported yet is
kept all through the generation. The mark says that the packets of a segment were found to conflict
with the packet that ends it. -/
structure Stable (P : Bool → List Observation → Normalizer → Prop) : Prop where
  clock {b : Bool} {o : Observation} {rest : List Observation} {n : Normalizer} :
    P b (o :: rest) n → P b (o :: rest) (n.advanceClock o)
  conflict {o : Observation} {rest : List Observation} {n : Normalizer} :
    P false (o :: rest) n → n.epoch = o.clockEpoch → P true (o :: rest)
        ((n.count fun s => { s with attributionConflicts := s.attributionConflicts + 1 }).barrier
          o.generation o.index .attributionConflict)
  unknown {b : Bool} {o : Observation} {rest : List Observation} {n : Normalizer} :
    P b (o :: rest) n → n.epoch = o.clockEpoch → 0 < n.openFrames →
      P b (o :: rest) (n.barrier o.generation o.index .unknownContext)
  enter {b : Bool} {rest : List Observation} {n : Normalizer} {c : Context} :
    P b rest n → c ∉ n.contexts → P b rest { n with contexts := n.contexts ++ [c] }
  observe {b : Bool} {o : Observation} {rest : List Observation} {n n' : Normalizer}
      {context : Option Context} {evidence : Evidence} :
    P b (o :: rest) n → delimiter o.packet = false →
      (∀ c, context = some c → knownContext c = true ∧ c ∈ n.contexts) →
      ObserveStep (n.approach context (attributed context evidence o)) context
        (attributed context evidence o) n' →
      P b rest (n'.keep (attributed context evidence o))
  pid {o : Observation} {rest : List Observation} {n : Normalizer} :
    P false (o :: rest) n → o.packet.kind = .pid →
      P false rest ((n.advanceClock o).keep (marked .nativePidForFollowingPackets o))
  previousPid {b : Bool} {o : Observation} {rest : List Observation} {n : Normalizer} :
    P b (o :: rest) n → o.packet.kind = .previousPid →
      P false rest ((n.advanceClock o).keep (marked .nativePreviousPidForPrecedingPackets o))
  barrier {o : Observation} {rest : List Observation} {n : Normalizer} :
    P false (o :: rest) n → packetBarrier o.packet = true → P false rest (n.passBarrier o)

variable {ev : Evidence} {backward : Option Context} {forward : Option Context}

lemma attribution_known {c : Context}
    (h : (attribution forward ev backward).1 = some c) : knownContext c = true := by
  unfold attribution at h
  generalize hfor : forward.filter knownContext = forward at h
  cases backward with
  | none => exact (filter_eq_some_iff.mp (hfor.trans h)).2
  | some backward =>
    by_cases hkn : knownContext backward = true
    · cases forward with
      | none =>
        have heq : backward = c := by simpa [hkn] using h
        exact heq ▸ hkn
      | some forward =>
        by_cases hsm : forward = backward
        · have heq : backward = c := by simpa [hkn, hsm] using h
          exact heq ▸ hkn
        · simp [hkn, hsm] at h
    · simp [hkn] at h

namespace Stable

variable {P : Bool → List Observation → Normalizer → Prop} {n n' : Normalizer} {b : Bool}
  {waiting rest : List Observation}

lemma segmentLoop (hP : Stable P) {context : Option Context}
    (h : P b (waiting ++ rest) n) (hpac : ∀ o ∈ waiting, delimiter o.packet = false)
    (hco : ∀ c, context = some c → knownContext c = true ∧ c ∈ n.contexts)
    (hru : Normalizer.segmentLoop context ev n waiting = .ok n') : P b rest n' := by
  induction waiting generalizing n with
  | nil => exact Except.ok.inj hru ▸ h
  | cons o _ ih =>
    obtain ⟨n₁, hob, hru⟩ := bind_eq_ok.mp hru
    have hst := observe_cases hob
    refine ih (hP.observe h (hpac o mem_cons_self) hco hst)
      (fun a ha => hpac a (mem_cons_of_mem _ ha)) (fun c hc => ?_) hru
    have hcont : n₁.contexts = n.contexts := hst.contexts.trans approach_contexts
    exact ⟨(hco c hc).1, hcont ▸ (hco c hc).2⟩

lemma segment (hP : Stable P)
    (h : P false (waiting ++ rest) n) (hpac : ∀ o ∈ waiting, delimiter o.packet = false)
    (hru : n.segment waiting forward ev backward = .ok n') :
    ∃ b, P b rest n' ∧ (backward = none → b = false) := by
  unfold Normalizer.segment at hru
  cases waiting with
  | nil => exact ⟨false, Except.ok.inj hru ▸ h, fun _ => rfl⟩
  | cons first waiting =>
    have h₁ := hP.clock h
    have hep := n.advanceClock_epoch first
    dsimp only at hru
    generalize n.advanceClock first = n₁ at h₁ hep hru
    -- the mark is set by the conflict, which needs a context from behind
    obtain ⟨b, n₂, hn₂, hba, hep₂, h₂⟩ :
      ∃ b n₂, (if Normalizer.conflict forward backward = true then
        (n₁.count fun s => { s with attributionConflicts := s.attributionConflicts + 1 }).barrier
          first.generation first.index .attributionConflict else n₁) = n₂ ∧
        (backward = none → b = false) ∧ n₂.epoch = first.clockEpoch ∧
        P b (first :: waiting ++ rest) n₂ := by
      split_ifs with hconf
      · refine ⟨true, _, rfl, ?_, hep, hP.conflict h₁ hep⟩
        rintro rfl
        simp [Normalizer.conflict] at hconf
      · exact ⟨false, _, rfl, fun _ => rfl, hep, h₁⟩
    rw [hn₂] at hru
    refine ⟨b, ?_, hba⟩
    split at hru
    · next hnn =>
      obtain ⟨n₃, hn₃, hru⟩ := bind_eq_ok.mp hru
      cases hn₃
      refine hP.segmentLoop ?_ hpac (by simp [hnn]) hru
      split_ifs with hop
      · exact hP.unknown h₂ hep₂ hop
      · exact h₂
    next c hsome =>
    obtain ⟨n₃, hn₃, hru⟩ := bind_eq_ok.mp hru
    obtain ⟨hme, hn₃⟩ := enter_cases hn₃
    refine hP.segmentLoop ?_ hpac (fun c' hc' => ?_) hru
    · obtain rfl | ⟨hne, rfl⟩ := hn₃
      · exact h₂
      · exact hP.enter h₂ hne
    · exact ⟨attribution_known hc', Option.some.inj (hsome.symm.trans hc') ▸ hme⟩

lemma generationLoop (hP : Stable P) {current : Option Context}
    (h : P false (waiting ++ rest) n) (hpac : ∀ o ∈ waiting, delimiter o.packet = false)
    (hru : n.generationLoop waiting current ev rest = .ok n') : P false [] n' := by
  induction rest generalizing n waiting current ev with
  | nil =>
    obtain ⟨b, hseg, hb⟩ := hP.segment h hpac hru
    exact hb rfl ▸ hseg
  | cons _ rest ih =>
    have ih' {n₁ : Normalizer} {current : Option Context} {ev : Evidence}
        (h₁ : P false rest n₁) (hru : n₁.generationLoop [] current ev rest = .ok n') :
        P false [] n' := by
      have h₂ : P false ([] ++ rest) n₁ := h₁
      exact ih h₂ (by simp) hru
    unfold Normalizer.generationLoop at hru
    split at hru
    case h_1 hkd =>
      obtain ⟨n₁, hseg, hru⟩ := bind_eq_ok.mp hru
      obtain ⟨b, h₁, hb⟩ := hP.segment h hpac hseg
      exact ih' (hP.pid (hb rfl ▸ h₁) hkd) hru
    case h_2 hkd =>
      obtain ⟨n₁, hseg, hru⟩ := bind_eq_ok.mp hru
      obtain ⟨b, h₁, -⟩ := hP.segment h hpac hseg
      exact ih' (hP.previousPid h₁ hkd) hru
    case h_3 hpid hpre =>
      split_ifs at hru with hbar
      · obtain ⟨n₁, hseg, hru⟩ := bind_eq_ok.mp hru
        obtain ⟨b, h₁, hb⟩ := hP.segment h hpac hseg
        exact ih' (hP.barrier (hb rfl ▸ h₁) hbar) hru
      refine ih (by simpa using h) (fun a ha => ?_) hru
      rcases mem_append.mp ha with ha | ha
      · exact hpac a ha
      · simpa [mem_singleton.mp ha, delimiter, hbar] using ⟨hpid, hpre⟩

end Stable

/-! ### The borders of a generation -/

/-- A generation begins. Only the first one may be known to be complete. -/
def enterGeneration (n : Normalizer) (first : Bool) (generation : Generation) : Normalizer :=
  let n := { n.count fun s => { s with
      generations := s.generations + 1, clockEpochs := s.clockEpochs + 1 } with epoch := 1 }
  if !first || generation.reason != .initial || generation.firstIndex != 0 then
    n.barrier generation.id.toNat generation.firstIndex.toNat (.generation generation.reason)
  else n

/-- A generation is over, with the frames that it has left open. -/
def leaveGeneration (n : Normalizer) : Normalizer :=
  { n.count fun s => { s with unfinishedFrames := s.unfinishedFrames + n.openFrames } with
    frameStacks := fun _ => [], openFrames := 0 }

/-- The context that is declared for a generation. -/
def declared (source : Source) (first : Bool) (generation : Generation) : Option Context :=
  if first && generation.reason == .initial then source.initialContext else none

lemma generation_cases {pf : Profile} {info : Info} {src : Source} {n n' : Normalizer}
    {first : Bool} {gen : Generation} (h : n.generation pf info src first gen = .ok n') :
    ∃ obs st n₁, observePackets pf info gen (n.enterGeneration first gen).report.statistics
        0 none 1 (gen.packetsHex.getD []) = .ok (obs, st) ∧
      ((n.enterGeneration first gen).count fun _ => st).generationLoop []
        (declared src first gen) .operatorDeclared obs = .ok n₁ ∧ n' = n₁.leaveGeneration := by
  obtain ⟨⟨obs, st⟩, hob, h⟩ := bind_eq_ok.mp h
  obtain ⟨n₁, hloop, h⟩ := bind_eq_ok.mp h
  exact ⟨obs, st, n₁, hob, hloop, (Except.ok.inj h).symm⟩

end Normalizer

end MultiDap.TimeMachine
