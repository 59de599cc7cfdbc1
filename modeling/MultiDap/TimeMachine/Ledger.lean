import MultiDap.TimeMachine.Attribution
import MultiDap.TimeMachine.Spans

/-!
# What is counted

Every function packet with a known context and a known time ends up in one counter of the report.
`Ledger` is the balance that the normalizer keeps: the frames that were opened are closed by a span,
were forgotten at a barrier, or are on a stack still.
-/

namespace MultiDap.TimeMachine

open List Option Function

/-- A function packet with a known context and a known time. -/
def Observation.Counts (o : Observation) (kind : FunctionKind) : Bool :=
  o.packet.function == some kind && o.context.any knownContext && o.value.isSome

/-! ### Exits -/

namespace Report

def completes (r : Report) (o : Observation) : Bool :=
  r.spans.any fun s => s.generation == o.generation && s.exitIndex == o.index

/-- The packet was found not to belong to the innermost frame. -/
def mismatches (r : Report) (o : Observation) : Bool :=
  r.discontinuities.any fun d =>
    d.reason == .functionExitMismatch && d.generation == o.generation && d.index == o.index

/-- Every exit is counted once: as the end of a span, as a mismatch, or as neither of them. -/
structure Exits (r : Report) : Prop where
  completed : r.observations.countP (fun o => o.Counts .exit && r.completes o) = r.spans.length
  mismatched : r.observations.countP (fun o => o.Counts .exit && r.mismatches o) =
    r.statistics.mismatchedExits
  unmatched : r.observations.countP
    (fun o => o.Counts .exit && (!r.completes o && !r.mismatches o)) = r.statistics.unmatchedExits
  once : ∀ o ∈ r.observations, o.Counts .exit = true → (r.completes o && r.mismatches o) = false
  found : ∀ d ∈ r.discontinuities, d.reason = .functionExitMismatch →
    ∃ o ∈ r.observations, o.generation = d.generation ∧ o.index = d.index

lemma exits_empty : Exits {} := ⟨rfl, rfl, rfl, by simp, by simp⟩

namespace Exits

variable {r r' : Report} {o : Observation}

lemma total (h : r.Exits) : r.observations.countP (·.Counts .exit) =
    r.spans.length + r.statistics.unmatchedExits + r.statistics.mismatchedExits := by
  rw [← h.completed, ← h.mismatched, ← h.unmatched]
  have honce := h.once
  generalize r.observations = observations at honce ⊢
  induction observations with
  | nil => rfl
  | cons o _ ih =>
    have hrs := ih fun a ha => honce a (mem_cons_of_mem _ ha)
    have ho := honce o List.mem_cons_self
    simp only [countP_cons]
    cases hco : o.Counts .exit
    · simp [hrs]
    · cases hcom : r.completes o <;> cases hmis : r.mismatches o <;>
        simp [hco, hcom, hmis] at ho ⊢ <;> omega

lemma same (h : r.Exits) (hob : r'.observations = r.observations) (hspa : r'.spans = r.spans)
    (hdis : ∀ d ∈ r'.discontinuities, d.reason = .functionExitMismatch → d ∈ r.discontinuities)
    (hkp : ∀ d ∈ r.discontinuities, d ∈ r'.discontinuities)
    (hmism : r'.statistics.mismatchedExits = r.statistics.mismatchedExits)
    (hunm : r'.statistics.unmatchedExits = r.statistics.unmatchedExits) : r'.Exits := by
  have hmis : r'.mismatches = r.mismatches := by
    funext a
    rw [Bool.eq_iff_iff]
    simp only [mismatches, List.any_eq_true, Bool.and_eq_true, beq_iff_eq]
    constructor
    · rintro ⟨d, hd, ⟨hre, hg⟩, hi⟩
      exact ⟨d, hdis d hd hre, ⟨hre, hg⟩, hi⟩
    · rintro ⟨d, hd, hmat⟩
      exact ⟨d, hkp d hd, hmat⟩
  have hcom : r'.completes = r.completes := by
    funext a
    rw [completes, hspa, completes]
  refine ⟨?_, ?_, ?_, ?_, fun d hd hre => ?_⟩
  · rw [hob, hcom, hspa, h.completed]
  · rw [hob, hmis, hmism, h.mismatched]
  · rw [hob, hcom, hmis, hunm, h.unmatched]
  · rw [hob, hcom, hmis]
    exact h.once
  · rw [hob]
    exact h.found d (hdis d hd hre) hre

lemma append (h : r.Exits) (ends differs : Bool) (hob : r'.observations = r.observations ++ [o])
    (hcom : ∀ a ∈ r.observations, r'.completes a = r.completes a)
    (hmis : ∀ a ∈ r.observations, r'.mismatches a = r.mismatches a)
    (hends : o.Counts .exit = true → r'.completes o = ends)
    (hdif : o.Counts .exit = true → r'.mismatches o = differs) (honce : (ends && differs) = false)
    (hspa : r'.spans.length = r.spans.length + (o.Counts .exit && ends).toNat)
    (hmism : r'.statistics.mismatchedExits =
      r.statistics.mismatchedExits + (o.Counts .exit && differs).toNat)
    (hunm : r'.statistics.unmatchedExits =
      r.statistics.unmatchedExits + (o.Counts .exit && (!ends && !differs)).toNat)
    (hfou : ∀ d ∈ r'.discontinuities, d.reason = .functionExitMismatch →
      d ∈ r.discontinuities ∨ o.generation = d.generation ∧ o.index = d.index) : r'.Exits := by
  have hcount {p q : Observation → Bool} {b : Bool}
      (hold : ∀ a ∈ r.observations, (a.Counts .exit && p a) = (a.Counts .exit && q a))
      (hnew : o.Counts .exit = true → p o = b) :
      r'.observations.countP (fun a => a.Counts .exit && p a) =
        r.observations.countP (fun a => a.Counts .exit && q a) + (o.Counts .exit && b).toNat := by
    rw [hob, countP_append, countP_congr fun a ha => by rw [hold a ha], countP_singleton]
    cases hco : o.Counts .exit
    · rfl
    · rw [hnew hco]
      cases b <;> rfl
  refine ⟨?_, ?_, ?_, fun a ha hco => ?_, fun d hd hre => ?_⟩
  · rw [hcount (fun a ha => by rw [hcom a ha]) hends, h.completed, hspa]
  · rw [hcount (fun a ha => by rw [hmis a ha]) hdif, h.mismatched, hmism]
  · rw [hcount (fun a ha => by rw [hcom a ha, hmis a ha])
      (fun hco => by rw [hends hco, hdif hco]), h.unmatched, hunm]
  · rw [hob] at ha
    rcases Machine.mem_concat.mp ha with ha | rfl
    · rw [hcom a ha, hmis a ha]
      exact h.once a ha hco
    · rw [hends hco, hdif hco, honce]
  rw [hob]
  rcases hfou d hd hre with hd | hd
  · obtain ⟨a, ha, hpl⟩ := h.found d hd hre
    exact ⟨a, mem_append_left _ ha, hpl⟩
  · exact ⟨o, mem_append_right _ (mem_singleton_self _), hd⟩

lemma append_other (h : r.Exits) (ho : o.Counts .exit = false) :
    ({ r with observations := r.observations ++ [o] } : Report).Exits :=
  h.append false false rfl (fun _ _ => rfl) (fun _ _ => rfl) (by simp [ho])
    (by simp [ho]) rfl (by simp) (by simp) (by simp [ho]) (fun _ hd _ => .inl hd)

end Exits

end Report

/-! ### Frames -/

variable {c : Context}

lemma sum_update {contexts : List Context} (stk : Context → List Observation)
    (stack : List Observation) (hnod : contexts.Nodup) (hme : c ∈ contexts) :
    (contexts.map fun c' => (Function.update stk c stack c').length).sum + (stk c).length =
      (contexts.map fun c' => (stk c').length).sum + stack.length := by
  induction contexts with
  | nil => cases hme
  | cons c' rest ih =>
    obtain ⟨hnew, hnod⟩ := nodup_cons.mp hnod
    simp only [map_cons, sum_cons]
    rcases mem_cons.mp hme with rfl | hme
    · have hrs : (rest.map fun c' => (update stk c stack c').length) =
          rest.map fun c' => (stk c').length := by
        refine map_congr_left fun d hd => ?_
        rw [update_of_ne (ne_of_mem_of_not_mem hd hnew)]
      rw [hrs, update_self]
      omega
    have hne : c' ≠ c := fun heq => hnew (heq ▸ hme)
    have := ih hnod hme
    rw [update_of_ne hne]
    omega

/-- The counters that a balance is made of. -/
def Statistics.balance (s : Statistics) : Nat × Nat × Nat × Nat × Nat :=
  (s.unmatchedExits, s.mismatchedExits, s.invalidatedOpenFrames, s.unfinishedFrames, s.clockEpochs)

lemma Tracks.number_ne {g : Nat} {n : Normalizer} {o o' : Observation} {rest : List Observation}
    (h : Tracks g (o :: rest) n) (hpl : o'.place = o.place) {a : Observation}
    (ha : a ∈ n.report.observations) (hg : o'.generation = a.generation) : o'.index ≠ a.index := by
  have hind : o'.index = o.index := congrArg Place.index hpl
  have hog : o'.generation = o.generation := congrArg Place.generation hpl
  have := h.index_lt ha List.mem_cons_self
    (hg.symm.trans (hog.trans (h.here o List.mem_cons_self).1))
  omega

/-- The balance of the normalizer. The number of open frames is the size of all stacks. -/
structure Ledger (k : Nat) (n : Normalizer) : Prop where
  distinct : n.contexts.Nodup
  stacked : ∀ c, n.frameStacks c ≠ [] → c ∈ n.contexts
  total : n.openFrames = (n.contexts.map fun c => (n.frameStacks c).length).sum
  entries : n.report.observations.countP (·.Counts .entry) =
    n.report.spans.length + n.report.statistics.invalidatedOpenFrames +
      n.report.statistics.unfinishedFrames + n.openFrames
  exits : n.report.Exits
  epochs : n.report.statistics.clockEpochs = k

variable {idx : Nat}

namespace Ledger

variable {k g : Nat} {n n' : Normalizer} {o o' : Observation} {rest : List Observation}

section

variable (h : Ledger k n)

include h

variable {f : Statistics → Statistics}

lemma count (hf : ∀ s, (f s).balance = s.balance) : Ledger k (n.count f) := by
  simp only [Statistics.balance, Prod.mk.injEq] at hf
  obtain ⟨hunm, hmism, hinv, hunf, hepoc⟩ := hf n.report.statistics
  refine ⟨h.distinct, h.stacked, h.total, ?_, ?_, hepoc.trans h.epochs⟩
  · simp only [Normalizer.count, hinv, hunf]
    exact h.entries
  · exact h.exits.same rfl rfl (fun _ hd _ => hd) (fun _ hd => hd) hmism hunm

lemma barrier (ep : Nat) {gen : Nat} {why : Reason} (hre : why ≠ .functionExitMismatch) :
    Ledger k ({ n with epoch := ep }.barrier gen idx why) where
  distinct := h.distinct
  stacked := by simp [Normalizer.barrier]
  total := by simp [Normalizer.barrier]
  entries := by
    have := h.entries
    simp only [Normalizer.barrier]
    omega
  exits := by
    refine h.exits.same rfl rfl (fun d hd hmisma => ?_) (fun d hd => mem_append_left _ hd) rfl rfl
    rcases Machine.mem_concat.mp hd with hd | rfl
    · exact hd
    · exact absurd hmisma hre
  epochs := h.epochs

lemma count_barrier {gen : Nat} {why : Reason} (hf : ∀ s, (f s).balance = s.balance)
    (hre : why ≠ .functionExitMismatch) : Ledger k ((n.count f).barrier gen idx why) :=
  (h.count hf).barrier n.epoch hre

lemma advanceClock (o : Observation) : Ledger k (n.advanceClock o) := by
  unfold Normalizer.advanceClock
  split_ifs
  · exact h.barrier o.clockEpoch (by simp)
  · exact h

lemma approach (ctx : Option Context) (o : Observation) : Ledger k (n.approach ctx o) := by
  refine Ledger.advanceClock ?_ o
  split_ifs
  · exact h.count fun _ => rfl
  · exact h

lemma enter (hnew : c ∉ n.contexts) : Ledger k { n with contexts := n.contexts ++ [c] } where
  distinct := by
    refine nodup_append.mpr ⟨h.distinct, by simp, fun a ha b hb heq => ?_⟩
    exact hnew (mem_singleton.mp hb ▸ heq ▸ ha)
  stacked := fun c' hc' => mem_append_left _ (h.stacked c' hc')
  total := by
    have hemp : n.frameStacks c = [] := not_not.mp fun hne => hnew (h.stacked c hne)
    simp [h.total, hemp]
  entries := h.entries
  exits := h.exits
  epochs := h.epochs

lemma keep (hco : ∀ kind, kind ≠ .unknown → o.Counts kind = false) : Ledger k (n.keep o) where
  distinct := h.distinct
  stacked := h.stacked
  total := h.total
  entries := by
    simpa [Normalizer.keep, countP_append, hco .entry (by simp)] using h.entries
  exits := h.exits.append_other (hco .exit (by simp))
  epochs := h.epochs

lemma fresh (htr : Tracks g (o :: rest) n) (hpl : o'.place = o.place) :
    n.report.completes o' = false ∧ n.report.mismatches o' = false := by
  have hind : o'.index = o.index := congrArg Place.index hpl
  have hg : o'.generation = g :=
    (congrArg Place.generation hpl).trans (htr.here o List.mem_cons_self).1
  simp only [Report.completes, Report.mismatches, List.any_eq_false, Bool.and_eq_true, beq_iff_eq,
    not_and]
  refine ⟨fun s hs hsg hexit => ?_, fun d hd hre hdi => ?_⟩
  · have := htr.exit_lt hs (hsg.trans hg) List.mem_cons_self
    omega
  obtain ⟨a, ha, hag, hai⟩ := h.exits.found d hd hre.1
  have := htr.index_lt ha List.mem_cons_self (hag.trans (hre.2.trans hg))
  omega

lemma entered (hc : c ∈ n.contexts)
    (hco : o.Counts .entry = true) (hexit : o.Counts .exit = false) :
    Ledger k (Normalizer.keep { n with
      frameStacks := Function.update n.frameStacks c (o :: n.frameStacks c)
      openFrames := n.openFrames + 1 } o) where
  distinct := h.distinct
  stacked := by
    intro c' hne
    by_cases heq : c' = c
    · exact heq ▸ hc
    · exact h.stacked c' (by simpa [Normalizer.keep, heq] using hne)
  total := by
    have hsum := sum_update n.frameStacks (o :: n.frameStacks c) h.distinct hc
    have := h.total
    simp only [Normalizer.keep, length_cons] at hsum ⊢
    omega
  entries := by
    have := h.entries
    simp only [Normalizer.keep, countP_append, countP_singleton, hco, if_true]
    omega
  exits := h.exits.append_other hexit
  epochs := h.epochs

section

variable (htr : Tracks g (o :: rest) n)

include htr

lemma unmatched (hpl : o'.place = o.place)
    (hen : o'.Counts .entry = false) (hexit : o'.Counts .exit = true) :
    Ledger k ((n.count fun s => { s with unmatchedExits := s.unmatchedExits + 1 }).keep o') := by
  obtain ⟨hcom, hmis⟩ := h.fresh htr hpl
  refine ⟨h.distinct, h.stacked, h.total, ?_, ?_, h.epochs⟩
  · simpa [Normalizer.keep, Normalizer.count, countP_append, hen] using h.entries
  refine h.exits.append false false rfl (fun _ _ => rfl) (fun _ _ => rfl) (fun _ => hcom)
    (fun _ => hmis) rfl ?_ ?_ ?_ (fun _ hd _ => .inl hd)
  all_goals simp [Normalizer.keep, Normalizer.count, hexit]

lemma mismatched (hpl : o'.place = o.place)
    (hen : o'.Counts .entry = false) (hexit : o'.Counts .exit = true) :
    Ledger k (((n.count fun s => { s with mismatchedExits := s.mismatchedExits + 1 }).barrier
      o'.generation o'.index .functionExitMismatch).keep o') := by
  obtain ⟨hcom, -⟩ := h.fresh htr hpl
  refine ⟨h.distinct, by simp [Normalizer.keep, Normalizer.barrier],
    by simp [Normalizer.keep, Normalizer.barrier], ?_, ?_, h.epochs⟩
  · have := h.entries
    simp [Normalizer.keep, Normalizer.count, Normalizer.barrier, countP_append, hen]
    omega
  refine h.exits.append false true rfl (fun _ _ => rfl) (fun a ha => ?_) (fun _ => hcom)
    (fun _ => ?_) rfl ?_ ?_ ?_ (fun d hd _ => ?_)
  · have hne := htr.number_ne hpl ha
    simpa [Report.mismatches, Normalizer.keep, Normalizer.barrier, Normalizer.count]
      using fun hg hi => absurd hi (hne hg)
  · simp [Report.mismatches, Normalizer.keep, Normalizer.barrier]
  · simp [Normalizer.keep, Normalizer.count, Normalizer.barrier]
  · simp [Normalizer.keep, Normalizer.count, Normalizer.barrier, hexit]
  · simp [Normalizer.keep, Normalizer.count, Normalizer.barrier]
  rcases Machine.mem_concat.mp hd with hd | rfl
  · exact .inl hd
  · exact .inr ⟨rfl, rfl⟩

lemma completed {ent : Observation} {below : List Observation} {span : Span}
    (hpl : o'.place = o.place)
    (hen : o'.Counts .entry = false) (hexit : o'.Counts .exit = true)
    (hsa : n.frameStacks c = ent :: below) (hspan : span.generation = o'.generation)
    (hind : span.exitIndex = o'.index) : Ledger k (Normalizer.keep { n with
      report := { n.report with spans := n.report.spans ++ [span] }
      frameStacks := Function.update n.frameStacks c below
      openFrames := n.openFrames - 1 } o') := by
  have hc : c ∈ n.contexts := h.stacked c (by simp [hsa])
  have hsum := sum_update n.frameStacks below h.distinct hc
  rw [hsa, length_cons] at hsum
  have htot := h.total
  obtain ⟨-, hmis⟩ := h.fresh htr hpl
  refine ⟨h.distinct, fun c' hne => ?_, ?_, ?_, ?_, h.epochs⟩
  · by_cases heq : c' = c
    · exact heq ▸ hc
    · exact h.stacked c' (by simpa [Normalizer.keep, heq] using hne)
  · simp only [Normalizer.keep]
    omega
  · have := h.entries
    simp [Normalizer.keep, countP_append, hen]
    omega
  refine h.exits.append true false rfl (fun a ha => ?_) (fun _ _ => rfl) (fun _ => ?_)
    (fun _ => hmis) rfl ?_ ?_ ?_ (fun _ hd _ => .inl hd)
  · have hne := htr.number_ne hpl ha
    simpa [Report.completes, Normalizer.keep, hspan, hind] using fun hg hi => absurd hi (hne hg)
  · simp [Report.completes, Normalizer.keep, hspan, hind]
  all_goals simp [Normalizer.keep, hexit]

lemma observe {ctx : Option Context} (hpl : o'.place = o.place) (hep : n.epoch = o'.clockEpoch)
    (hpac : Normalizer.packetBarrier o'.packet = false) (hcn : o'.context = ctx)
    (hkn : ∀ c, ctx = some c → knownContext c = true ∧ c ∈ n.contexts)
    (hst : Normalizer.ObserveStep n ctx o' n') : Ledger k (n'.keep o') := by
  cases hst with
  | other hfun => exact h.keep fun kind _ => by simp [Observation.Counts, hfun]
  | unknownClock _ hva =>
    refine Ledger.keep (h.count_barrier (fun _ => rfl) (by simp)) fun kind _ => ?_
    simp [Observation.Counts, hva]
  | unknownContext _ _ hnn =>
    refine (h.barrier n.epoch (by simp)).keep fun kind _ => ?_
    simp [Observation.Counts, hcn, hnn]
  | @function c _ hfun hva hsome hst =>
    have hva : o'.value.isSome = true := isSome_iff_ne_none.mpr hva
    have hco (kind : FunctionKind) : o'.Counts kind = (o'.packet.function == some kind) := by
      simp [Observation.Counts, hcn, hsome, (hkn c hsome).1, hva]
    -- a function packet that is no entry is an exit
    have hexit (hne : o'.packet.function ≠ some .entry) : o'.packet.function = some .exit := by
      obtain ⟨kind, hkd⟩ := ne_none_iff_exists'.mp hfun
      cases kind with
      | unknown => simp [Normalizer.packetBarrier, hkd] at hpac
      | entry => exact absurd hkd hne
      | exit => exact hkd
    cases hst with
    | entered hen =>
      exact h.entered (hkn c hsome).2 (by simp [hco, hen]) (by simp [hco, hen])
    | unmatched hne =>
      exact h.unmatched htr hpl (by simp [hco, hexit hne]) (by simp [hco, hexit hne])
    | mismatched hne =>
      exact h.mismatched htr hpl (by simp [hco, hexit hne]) (by simp [hco, hexit hne])
    | regressed _ hsa _ htime =>
      obtain ⟨startTime, endTime, hstart, hed, hle⟩ :=
        htr.time_le hpl hep hva (hsa ▸ List.mem_cons_self)
      simp only [hstart, hed, getD_some] at htime
      omega
    | completed hne hsa =>
      exact h.completed htr hpl (by simp [hco, hexit hne]) (by simp [hco, hexit hne]) hsa rfl rfl

end

lemma keep_delimiter (hpr : o.packet.Proper)
    (hdel : Normalizer.delimiter o.packet = true) (hpac : o'.packet = o.packet) :
    Ledger k (n.keep o') := by
  refine h.keep fun kind hkd => ?_
  cases hfun : o.packet.function with
  | none => simp [Observation.Counts, hpac, hfun]
  | some kind' =>
    obtain ⟨hfunc, heve⟩ := hpr (by simp [hfun])
    have hunk : kind' = .unknown := by
      simpa [Normalizer.delimiter, Normalizer.packetBarrier, hfunc, heve, hfun] using hdel
    simp [Observation.Counts, hpac, hfun, hunk, hkd.symm]

end

lemma stable (g k : Nat) : Normalizer.Stable fun _ rest n => Tracks g rest n ∧ Ledger k n where
  clock h := ⟨(Tracks.stable g).clock (b := false) h.1, h.2.advanceClock _⟩
  conflict h hep := ⟨(Tracks.stable g).conflict h.1 hep, h.2.count_barrier (fun _ => rfl) (by simp)⟩
  unknown h hep hop := ⟨(Tracks.stable g).unknown (b := false) h.1 hep hop, h.2.barrier _ (by simp)⟩
  enter h hnew := ⟨(Tracks.stable g).enter (b := false) h.1 hnew, h.2.enter hnew⟩
  observe h hdel hcn hst := by
    refine ⟨(Tracks.stable g).observe (b := false) h.1 hdel hcn hst, ?_⟩
    refine (h.2.approach _ _).observe (h.1.approach rfl) rfl (Normalizer.advanceClock_epoch _ _)
      (Bool.or_eq_false_iff.mp hdel).2 rfl (fun c hc => ⟨(hcn c hc).1, ?_⟩) hst
    rw [Normalizer.approach_contexts]
    exact (hcn c hc).2
  pid h hkd := ⟨(Tracks.stable g).pid h.1 hkd, (h.2.advanceClock _).keep_delimiter
    (h.1.here _ List.mem_cons_self).2 (by simp [Normalizer.delimiter, hkd]) rfl⟩
  previousPid h hkd := ⟨(Tracks.stable g).previousPid (b := false) h.1 hkd,
    (h.2.advanceClock _).keep_delimiter (h.1.here _ List.mem_cons_self).2
      (by simp [Normalizer.delimiter, hkd]) rfl⟩
  barrier {o _ _} h hbar := by
    refine ⟨(Tracks.stable g).barrier h.1 hbar, Ledger.keep_delimiter
      ((h.2.advanceClock o).count_barrier (fun _ => rfl) ?_)
      (h.1.here _ List.mem_cons_self).2 (by simp [Normalizer.delimiter, hbar]) rfl⟩
    unfold Normalizer.barrierReason
    split <;> simp

end Ledger

/-! ### Captures -/

/-- How often a tag is smaller than the one before it. -/
def tagDecreases : List Int → Nat
  | last :: raw :: rest => (decide (raw < last)).toNat + tagDecreases (raw :: rest)
  | _ => 0

/-- The tags of some packets, as far as they have one. -/
def packetTags (profile : Profile) (encoded : List (List Char)) : List Int :=
  encoded.filterMap fun text =>
    (decodePacket profile ((decodeHex text).getD [])).toOption.bind Packet.tag

/-- How often the clock of a generation jumps back. -/
def Generation.regressions (profile : Profile) (generation : Generation) : Nat :=
  tagDecreases (packetTags profile (generation.packetsHex.getD []))

variable {obs : List Observation}

lemma observePackets_balance {pf : Profile} {info : Info} {gen : Generation}
    {enc : List (List Char)} {st st' : Statistics} {cep : Nat} {lastTag : Option Int}
    (hru : observePackets pf info gen st idx lastTag cep enc = .ok (obs, st')) :
    st'.balance = ({ st with
        clockEpochs := st.clockEpochs + tagDecreases (lastTag.toList ++ packetTags pf enc) } :
          Statistics).balance := by
  induction enc generalizing st st' idx lastTag cep obs with
  | nil =>
    obtain ⟨-, rfl⟩ := Prod.mk.inj (Except.ok.inj hru)
    cases lastTag <;> simp [packetTags, tagDecreases]
  | cons text enc ih =>
    obtain ⟨pkt, hpac, hru⟩ := bind_eq_ok.mp hru
    obtain ⟨⟨tail, _⟩, hrs, hru⟩ := bind_eq_ok.mp hru
    obtain ⟨-, rfl⟩ := Prod.mk.inj (Except.ok.inj hru)
    rw [ih hrs]
    have htags : packetTags pf (text :: enc) = pkt.tag.toList ++ packetTags pf enc := by
      cases htag : pkt.tag <;> simp [packetTags, hpac, Except.toOption, htag]
    rw [htags]
    cases pkt.tag with
    | none => simp [Statistics.balance, clockRegressed]
    | some =>
      cases lastTag with
      | none => simp [Statistics.balance, clockRegressed]
      | some => simp [Statistics.balance, clockRegressed, tagDecreases, Nat.add_assoc]

/-- The balance of a report: its observations are the packets of the capture, and every function
packet with a known context and time is accounted for. -/
structure Report.Conserves (capture : Capture) (profile : Profile) (r : Report) : Prop where
  observations : r.observations.map Observation.number =
    capture.generations.flatMap (Generation.numbered profile)
  range : ∀ generation ∈ capture.generations, ∀ i < generation.size,
    generation.firstIndex.toNat + i < 2 ^ 64
  entries : r.observations.countP (·.Counts .entry) = r.statistics.completedFunctionSpans +
    r.statistics.invalidatedOpenFrames + r.statistics.unfinishedFrames
  exits : r.observations.countP (·.Counts .exit) = r.statistics.completedFunctionSpans +
    r.statistics.unmatchedExits + r.statistics.mismatchedExits
  once : r.Exits
  completed : r.statistics.completedFunctionSpans = r.spans.length
  epochs : r.statistics.clockEpochs = capture.generations.length +
    (capture.generations.map (Generation.regressions profile)).sum

namespace Ledger

variable {pf : Profile} {info : Info} {src : Source} {n n' : Normalizer} {first : Bool}
  {gen : Generation} {k g total : Nat} {previousID : UInt64}

lemma enterGeneration {st : Statistics} (h : Ledger k n) (hobse : observePackets pf info gen
      (n.enterGeneration first gen).report.statistics 0 none 1
      (gen.packetsHex.getD []) = .ok (obs, st)) :
    Ledger (k + 1 + gen.regressions pf) ((n.enterGeneration first gen).count fun _ => st) := by
  have hbeg : Ledger (k + 1) (n.enterGeneration first gen) := by
    have hcount : Ledger (k + 1) (n.count fun s => { s with
        generations := s.generations + 1, clockEpochs := s.clockEpochs + 1 }) :=
      ⟨h.distinct, h.stacked, h.total, h.entries,
        h.exits.same rfl rfl (fun _ hd _ => hd) (fun _ hd => hd) rfl rfl,
        congrArg (· + 1) h.epochs⟩
    unfold Normalizer.enterGeneration
    dsimp only
    split_ifs
    · exact hcount.barrier 1 (by simp)
    · exact { hcount with }
  have hbal := observePackets_balance hobse
  generalize n.enterGeneration first gen = n₁ at hbeg hbal ⊢
  simp only [Statistics.balance, Prod.mk.injEq, toList_none, nil_append] at hbal
  obtain ⟨hunm, hmism, hinv, hunf, hepoc⟩ := hbal
  refine ⟨hbeg.distinct, hbeg.stacked, hbeg.total, ?_, ?_, ?_⟩
  · simp only [Normalizer.count, hinv, hunf]
    exact hbeg.entries
  · exact hbeg.exits.same rfl rfl (fun _ hd _ => hd) (fun _ hd => hd) hmism hunm
  · exact hepoc.trans (by rw [hbeg.epochs]; rfl)

lemma leaveGeneration (h : Ledger k n) : Ledger k n.leaveGeneration where
  distinct := h.distinct
  stacked := by simp [Normalizer.leaveGeneration]
  total := by simp [Normalizer.leaveGeneration]
  entries := by
    have := h.entries
    simp only [Normalizer.leaveGeneration, Normalizer.count]
    omega
  exits := h.exits.same rfl rfl (fun _ hd _ => hd) (fun _ hd => hd) rfl rfl
  epochs := h.epochs

lemma generations {rest : List Generation} (h : Ledger k n) (hbet : Between g n)
    (hop : n.openFrames = 0) (hg : g ≤ previousID.toNat)
    (hvalid : validateGenerations pf previousID total rest = .ok ())
    (hru : n.generations pf info src first rest = .ok n') :
    Ledger (k + rest.length + (rest.map (Generation.regressions pf)).sum) n' ∧
      n'.openFrames = 0 := by
  induction rest generalizing n first g previousID total k with
  | nil => exact Except.ok.inj hru ▸ ⟨h, hop⟩
  | cons gen rest ih =>
    obtain ⟨pkts, hpack, hvalid⟩ := bind_eq_ok.mp hvalid
    obtain ⟨n₁, hn₁, hru⟩ := bind_eq_ok.mp hru
    obtain ⟨obs, st, n₂, hobse, hloop, rfl⟩ := Normalizer.generation_cases hn₁
    have hstart : Tracks gen.id.toNat obs _ ∧ Ledger _ _ :=
      ⟨hbet.enterGeneration hg hpack hobse, h.enterGeneration hobse⟩
    have hled := ((stable _ _).generationLoop hstart (by simp) hloop).2.leaveGeneration
    obtain ⟨hrs, hed⟩ :=
      ih hled (hbet.generation hg hpack hn₁) rfl (Nat.le_refl _) hvalid hru
    refine ⟨?_, hed⟩
    have hsum : k + (gen :: rest).length +
        ((gen :: rest).map (Generation.regressions pf)).sum =
        k + 1 + gen.regressions pf + rest.length + (rest.map (Generation.regressions pf)).sum := by
      simp only [length_cons, map_cons, sum_cons]
      omega
    exact hsum ▸ hrs

end Ledger

lemma ledger_zero : Ledger 0 {} :=
  ⟨by simp, by simp, rfl, rfl, Report.exits_empty, rfl⟩

/-- The report of a capture that is accepted holds its packets in order, with their own numbers.
Every entry with a known context and time is the beginning of a span, was forgotten at a barrier or
was left open by its generation; every such exit is the end of a span, has found no frame or has
found another one. The epochs of the clock are the generations and the tags that get smaller. -/
theorem normalize_conserves {capture : Capture} {report : Report}
    (h : normalize capture = .ok report) :
    ∃ profile, profileForVersion capture.multiVersion = .ok profile ∧
      report.Conserves capture profile := by
  obtain ⟨⟨profile, info⟩, hvalid, h⟩ := bind_eq_ok.mp h
  obtain ⟨n, hru, h⟩ := bind_eq_ok.mp h
  cases h
  have hac := validateCapture_ok hvalid
  obtain ⟨hnum, -⟩ := validateGenerations_ok (Nat.zero_le _) hac.generations
  obtain ⟨reported, hrepo, hnumb⟩ := Normalizer.generations_numbered hnum hru
  obtain ⟨hled, hop⟩ :=
    ledger_zero.generations between_zero rfl (Nat.zero_le _) hac.generations hru
  refine ⟨profile, hac.version, ?_⟩
  exact {
    observations := by
      change n.report.observations.map _ = _
      rw [hrepo, ← hnumb]
      rfl
    range := fun generation hgeneration i hi => by
      have := (hnum generation hgeneration).2 (by omega)
      omega
    entries := by
      have := hled.entries
      simp only [Normalizer.count]
      omega
    exits := hled.exits.total
    once := hled.exits.same rfl rfl (fun _ hd _ => hd) (fun _ hd => hd) rfl rfl
    completed := rfl
    epochs := by
      have := hled.epochs
      simp only [Normalizer.count]
      omega }

theorem normalize_conserves_nested : ∃ report, normalize nestedCapture = .ok report ∧
    report.observations.countP (·.Counts .entry) = 2 ∧
    ∃ profile, report.Conserves nestedCapture profile := by
  obtain ⟨report, hrp, hcount⟩ : ∃ report, normalize nestedCapture = .ok report ∧
      report.observations.countP (·.Counts .entry) = 2 := exists_ok (by decide +kernel)
  obtain ⟨profile, -, hcons⟩ := normalize_conserves hrp
  exact ⟨report, hrp, hcount, profile, hcons⟩

end MultiDap.TimeMachine
