import MultiDap.TimeMachine.Frames
import MultiDap.TimeMachine.Steps

/-!
# The spans of a capture

`Tracks` goes through the segments of a generation, and from one generation to the next. The
observations of a generation are in order: the indices do not wrap around since the capture was
checked, and the clock of an epoch does not run backwards since a smaller tag begins another epoch.
-/

namespace MultiDap.TimeMachine

open List Option

namespace Tracks

variable {g : Nat} {rest : List Observation} {n n' : Normalizer} {o o' : Observation}

section

variable (h : Tracks g (o :: rest) n)

include h

section

variable (hpl : o'.place = o.place)

include hpl

lemma keep_other (hfun : o'.packet.function ≠ some .entry) : Tracks g rest (n.keep o') :=
  h.keep hpl fun _ hope => hfun hope.1

lemma barrier_at {why : Reason} (hre : why ≠ .functionClockRegression) :
    Tracks g (o :: rest) (n.barrier o'.generation o'.index why) := by
  have hind : o'.index = o.index := congrArg Place.index hpl
  have hg : o'.generation = o.generation := congrArg Place.generation hpl
  rw [hg, hind]
  exact h.barrier_next n.epoch hre

lemma time_le {c : Context}
    (hep : n.epoch = o'.clockEpoch) (hvalue : o'.value.isSome = true) {ent : Observation}
    (het : ent ∈ n.frameStacks c) :
    ∃ startTime endTime, ent.value = some startTime ∧ o'.value = some endTime ∧
      startTime ≤ endTime := by
  have hg : o'.generation = o.generation := congrArg Place.generation hpl
  obtain ⟨hkp, hlive⟩ := h.mem_stacks het
  obtain ⟨startTime, hsa⟩ := isSome_iff_exists.mp hlive.2.1.2.2
  obtain ⟨endTime, hen⟩ := isSome_iff_exists.mp hvalue
  have hbe := h.before hkp mem_cons_self
  rw [← hpl] at hbe
  exact ⟨startTime, endTime, hsa, hen,
    hbe.2 (hlive.1.trans (hg.trans (h.here o mem_cons_self).1).symm)
      ((h.frames c ent het).1.trans hep) startTime endTime hsa hen⟩

lemma function {c : Context} (hep : n.epoch = o'.clockEpoch) (hkn : knownContext c = true)
    (hco : o'.context = some c) (hvalue : o'.value.isSome = true)
    (hkd : o'.packet.function = some .entry ∨ o'.packet.function = some .exit)
    (hst : Normalizer.FunctionStep n c o' n') : Tracks g rest (n'.keep o') := by
  have hind : o'.index = o.index := congrArg Place.index hpl
  have hg : o'.generation = o.generation := congrArg Place.generation hpl
  have htime {ent : Observation} {below : List Observation}
      (hstack : n.frameStacks c = ent :: below) :=
    h.time_le hpl hep hvalue (hstack ▸ mem_cons_self : ent ∈ n.frameStacks c)
  cases hst with
  | entered het =>
    have hope (c' : Context) : o'.Opens c' ↔ c' = c := by
      simp [Observation.Opens, het, hvalue, hco, eq_comm]
    refine h.kept hpl (n.openFrames + 1) (fun c' => ?_) (fun c' hc' => ?_)
    · by_cases hc : c' = c
      · subst hc
        simp [(hope c').mpr rfl]
      · simp [hc, hope]
    · exact ⟨hep.symm, (hope c').mp hc' ▸ hkn⟩
  | unmatched hexit => exact (h.count _).keep_other hpl hexit
  | mismatched hexit =>
    exact ((h.count _).barrier_at hpl (by simp)).keep_other hpl hexit
  | regressed _ hstack _ hreg =>
    obtain ⟨startTime, endTime, hsa, hen, hle⟩ := htime hstack
    simp only [hsa, hen, getD_some] at hreg
    omega
  | completed hexit hstack haddress =>
    obtain ⟨startTime, endTime, hsa, hen, hle⟩ := htime hstack
    simp only [hsa, hen, getD_some]
    refine (h.keep_other hpl hexit).closed hstack (mem_append_right _ (mem_singleton_self _))
      (hg.trans (h.here o mem_cons_self).1) hep.symm (hkd.resolve_left hexit) hco
      haddress hsa hen hle (fun f c' hf => ?_) (fun s hs hsg => ?_) _
    · have hf := h.mem_stacks hf
      exact hind ▸ h.index_lt hf.1 mem_cons_self hf.2.1
    · exact hind ▸ h.exit_lt hs hsg mem_cons_self

variable {ctx : Option Context}

lemma approach : Tracks g (o :: rest) (n.approach ctx o') := by
  have hcl (n : Normalizer) : n.advanceClock o' = n.advanceClock o := by
    have hind : o'.index = o.index := congrArg Place.index hpl
    have hg : o'.generation = o.generation := congrArg Place.generation hpl
    have hep : o'.clockEpoch = o.clockEpoch := congrArg Place.clockEpoch hpl
    simp only [Normalizer.advanceClock, hind, hg, hep]
  rw [Normalizer.approach, hcl]
  split_ifs
  · exact (h.count _).advanceClock.1
  · exact h.advanceClock.1

lemma observe (hep : n.epoch = o'.clockEpoch) (hpac : Normalizer.packetBarrier o'.packet = false)
    (hco : o'.context = ctx) (hkn : ∀ c, ctx = some c → knownContext c = true)
    (hst : Normalizer.ObserveStep n ctx o' n') : Tracks g rest (n'.keep o') := by
  cases hst with
  | other hfun => exact h.keep_other hpl (by simp [hfun])
  | unknownClock _ hvalue =>
    refine ((h.count _).barrier_at hpl (by simp)).keep hpl fun c hope => ?_
    exact absurd hope.2.2 (by simp [hvalue])
  | unknownContext _ _ hnn =>
    refine (h.barrier_at hpl (by simp)).keep hpl fun c hope => ?_
    cases hnn.symm.trans (hco.symm.trans hope.2.1)
  | @function c _ hfun hvalue hsome hst =>
    refine h.function hpl hep (hkn c hsome) (hco.trans hsome) (isSome_iff_ne_none.mpr hvalue) ?_ hst
    obtain ⟨kind, hkd⟩ := ne_none_iff_exists'.mp hfun
    cases kind with
    | unknown => simp [Normalizer.packetBarrier, hkd] at hpac
    | entry => exact .inl hkd
    | exit => exact .inr hkd

end

lemma marker {ev : Evidence} (hkd : o.packet.kind ≠ .function) :
    Tracks g rest ((n.advanceClock o).keep (Normalizer.marked ev o)) := by
  refine h.advanceClock.1.keep_other rfl fun (hfun : o.packet.function = _) => hkd ?_
  exact ((h.here o mem_cons_self).2 (by simp [hfun])).1

lemma passBarrier
    (hbar : Normalizer.packetBarrier o.packet = true) : Tracks g rest (n.passBarrier o) := by
  refine ((h.advanceClock.1.count _).barrier_at rfl ?_).keep_other rfl ?_
  · unfold Normalizer.barrierReason
    split <;> simp
  intro hfun
  have hpr := (h.here o mem_cons_self).2 (by simp [hfun])
  simp [Normalizer.packetBarrier, hpr, hfun] at hbar

end

lemma stable (g : Nat) : Normalizer.Stable fun _ => Tracks g where
  clock h := h.advanceClock.1
  conflict h _ := (h.count _).barrier_at rfl (by simp)
  unknown h _ _ := h.barrier_at rfl (by simp)
  enter h _ := { h with }
  observe h hpac hco hst := by
    refine (h.approach rfl).observe rfl (Normalizer.advanceClock_epoch _ _) ?_ rfl
      (fun c hc => (hco c hc).1) hst
    exact (Bool.or_eq_false_iff.mp hpac).2
  pid h hkd := h.marker (by simp [hkd])
  previousPid h hkd := h.marker (by simp [hkd])
  barrier h hbar := h.passBarrier hbar

end Tracks

/-- The normalizer between two generations. -/
structure Between (g : Nat) (n : Normalizer) : Prop where
  order : (n.report.observations.map Observation.place).Pairwise Place.Before
  past : ∀ o ∈ n.report.observations, o.generation ≤ g
  discontinuities : ∀ d ∈ n.report.discontinuities, d.generation ≤ g
  sound : n.report.Sound
  frameStacks : ∀ c, n.frameStacks c = []

variable {n : Normalizer}

lemma Between.count {g : Nat} (h : Between g n) (f : Statistics → Statistics) :
    Between g (n.count f) :=
  ⟨h.order, h.past, h.discontinuities, { h.sound with }, h.frameStacks⟩

lemma Between.start {g g' : Nat} (h : Between g n) (hlt : g < g')
    {rest : List Observation} (hord : (rest.map Observation.place).Pairwise Place.Before)
    (hrs : ∀ o ∈ rest, o.generation = g' ∧ o.packet.Proper) (ep : Nat) :
    Tracks g' rest { n with epoch := ep } where
  order := by
    rw [map_append, pairwise_append]
    refine ⟨h.order, hord, fun a ha b hb => ?_⟩
    obtain ⟨a, ha', rfl⟩ := mem_map.mp ha
    obtain ⟨b, hb', rfl⟩ := mem_map.mp hb
    have hge : a.generation < b.generation := by
      have := h.past a ha'
      have := (hrs b hb').1
      omega
    exact ⟨.inl hge, fun heq => absurd heq (Nat.ne_of_lt hge)⟩
  here := hrs
  past := fun o ho => Nat.le_of_lt (Nat.lt_of_le_of_lt (h.past o ho) hlt)
  discontinuities := fun d hd => .inl (Nat.lt_of_le_of_lt (h.discontinuities d hd) hlt)
  sound := h.sound
  frames := by simp [h.frameStacks]
  frameStacks := by
    intro c
    refine (h.frameStacks c).trans (reverse_eq_nil_iff.mpr ?_).symm
    refine filter_eq_nil_iff.mpr fun o ho hlive => ?_
    have := h.past o ho
    have := (of_decide_eq_true hlive).1
    omega
  below := by simp [h.frameStacks]
  apart := by simp [h.frameStacks]

lemma Tracks.finish {g : Nat} (h : Tracks g [] n) (f : Statistics → Statistics) :
    Between g { n.count f with frameStacks := fun _ => [], openFrames := 0 } where
  order := by simpa [Normalizer.count] using h.order
  past := h.past
  discontinuities := fun d hd => (h.discontinuities d hd).elim Nat.le_of_lt fun hd =>
    Nat.le_of_eq hd.1
  sound := (h.count f).sound
  frameStacks := fun _ => rfl

/-! ### The order of the packets -/

/-- The observation comes behind an index, an epoch and the last tag of this epoch. -/
def Behind (index : Nat) (lastTag : Option Int) (clockEpoch : Nat) (o : Observation) : Prop :=
  index ≤ o.index ∧ clockEpoch ≤ o.clockEpoch ∧
    (o.clockEpoch = clockEpoch → ∀ last tag, lastTag = some last → o.packet.tag = some tag →
      last ≤ tag)

variable {pf : Profile} {info : Info}
variable {gen : Generation} {obs : List Observation}

lemma observePackets_ordered {enc : List (List Char)} {st st' : Statistics} {idx cep : Nat}
    {lastTag : Option Int} (hind : enc ≠ [] → gen.firstIndex.toNat + idx + enc.length ≤ 2 ^ 64)
    (hru : observePackets pf info gen st idx lastTag cep enc = .ok (obs, st')) :
    (obs.map Observation.place).Pairwise Place.Before ∧
      ∀ o ∈ obs, o.generation = gen.id.toNat ∧ o.packet.Proper ∧
        o.timestamp = o.packet.tag.map (normalizeTimestamp · info) ∧
        Behind (gen.firstIndex.toNat + idx) lastTag cep o := by
  induction enc generalizing st st' idx lastTag cep obs with
  | nil =>
    obtain ⟨rfl, -⟩ := Prod.mk.inj (Except.ok.inj hru)
    simp
  | cons _ enc ih =>
    obtain ⟨pkt, hpac, hru⟩ := bind_eq_ok.mp hru
    obtain ⟨⟨tail, _⟩, hrs, hru⟩ := bind_eq_ok.mp hru
    obtain ⟨rfl, -⟩ := Prod.mk.inj (Except.ok.inj hru)
    have hbou := hind (by simp)
    simp only [length_cons] at hbou
    have hnx : enc ≠ [] →
        gen.firstIndex.toNat + (idx + 1) + enc.length ≤ 2 ^ 64 := fun _ => by omega
    obtain ⟨hord, htail⟩ := ih hnx hrs
    clear ih hru hrs hind hnx
    generalize hep : (if clockRegressed pkt.tag lastTag = true then cep + 1 else cep) = epoch
      at htail ⊢
    have hle : cep ≤ epoch := by
      rw [← hep]
      split_ifs <;> omega
    -- within an epoch the tag does not get smaller
    have hsm (heq : epoch = cep) (last raw : Int) (hla : lastTag = some last)
        (hraw : pkt.tag = some raw) : last ≤ raw := by
      by_contra hlt
      simp [clockRegressed, hraw, hla, Int.not_le.mp hlt] at hep
      omega
    have hwrap : (gen.firstIndex.toNat + idx) % 2 ^ 64 =
        gen.firstIndex.toNat + idx := Nat.mod_eq_of_lt (by omega)
    constructor
    · refine pairwise_cons.mpr ⟨fun place hpl => ?_, hord⟩
      obtain ⟨o, ho, rfl⟩ := mem_map.mp hpl
      obtain ⟨hg, -, htime, hi, he, htag⟩ := htail o ho
      refine ⟨.inr ⟨hg.symm, ?_⟩, fun _ heq s t hs ht => ?_⟩
      · change (gen.firstIndex.toNat + idx) % 2 ^ 64 < o.index
        omega
      change (pkt.tag.map _).bind Timestamp.value = some s at hs
      change o.timestamp.bind Timestamp.value = some t at ht
      rw [htime] at ht
      cases hraw : pkt.tag with
      | none => simp [hraw] at hs
      | some raw =>
        cases htag' : o.packet.tag with
        | none => simp [htag'] at ht
        | some tag =>
          rw [hraw] at hs
          rw [htag'] at ht
          exact normalizeTimestamp_mono (htag heq.symm raw tag (by simp [hraw]) htag') hs ht
    · intro o ho
      rcases mem_cons.mp ho with rfl | ho
      · refine ⟨rfl, decodePacket_proper hpac, rfl, ?_, hle, hsm⟩
        exact Nat.le_of_eq hwrap.symm
      obtain ⟨hg, hpr, htime, hi, he, htag⟩ := htail o ho
      refine ⟨hg, hpr, htime, by omega, by omega, fun heq last tag hla htag' => ?_⟩
      cases hraw : pkt.tag with
      | none => exact htag (by omega) last tag (by simp [hraw, hla]) htag'
      | some raw =>
        calc last ≤ raw := hsm (by omega) last raw hla hraw
          _ ≤ tag := htag (by omega) raw tag (by simp [hraw]) htag'

/-! ### Captures -/

variable {previousID : UInt64} {g total : Nat}

variable {first : Bool}
variable {pkts : List (List Char)}

lemma Between.enterGeneration {st : Statistics} (h : Between g n) (hg : g ≤ previousID.toNat)
    (hva : validateGeneration pf previousID total gen = .ok pkts)
    (hobse : observePackets pf info gen (n.enterGeneration first gen).report.statistics 0 none 1
      (gen.packetsHex.getD []) = .ok (obs, st)) :
    Tracks gen.id.toNat obs ((n.enterGeneration first gen).count fun _ => st) := by
  obtain ⟨hid, hpack, hbou, -⟩ := validateGeneration_ok hva
  rw [hpack, getD_some] at hobse
  obtain ⟨hord, hob⟩ := observePackets_ordered hbou hobse
  have hlt : g < gen.id.toNat := Nat.lt_of_le_of_lt hg (UInt64.lt_iff_toNat_lt.mp hid)
  have hsa := (h.count fun s => { s with
    generations := s.generations + 1, clockEpochs := s.clockEpochs + 1 }).start hlt hord
    (fun o ho => ⟨(hob o ho).1, (hob o ho).2.1⟩) 1
  refine Tracks.count ?_ _
  unfold Normalizer.enterGeneration
  dsimp only
  split_ifs
  · have hre : Reason.generation gen.reason ≠ .functionClockRegression := by simp
    refine hsa.barrier 1 (fun o ho => (hob o ho).2.2.2.1) (fun o ho heq => ?_) hre
    have := h.past o ho
    omega
  · exact hsa

lemma Between.generation {src : Source} {n n' : Normalizer}
    (h : Between g n) (hg : g ≤ previousID.toNat)
    (hva : validateGeneration pf previousID total gen = .ok pkts)
    (hru : n.generation pf info src first gen = .ok n') : Between gen.id.toNat n' := by
  obtain ⟨obs, st, n₁, hobse, hloop, rfl⟩ := Normalizer.generation_cases hru
  have hsa := h.enterGeneration hg hva hobse
  exact ((Tracks.stable _).generationLoop hsa (by simp) hloop).finish _

lemma Between.generations {src : Source} {rest : List Generation} {n n' : Normalizer}
    (h : Between g n) (hg : g ≤ previousID.toNat)
    (hva : validateGenerations pf previousID total rest = .ok ())
    (hru : n.generations pf info src first rest = .ok n') : n'.report.Sound := by
  induction rest generalizing n first g previousID total with
  | nil => exact Except.ok.inj hru ▸ h.sound
  | cons _ _ ih =>
    obtain ⟨pkts, hpack, hva⟩ := bind_eq_ok.mp hva
    obtain ⟨n₁, hn₁, hru⟩ := bind_eq_ok.mp hru
    exact ih (h.generation hg hpack hn₁) (Nat.le_refl _) hva hru

lemma between_zero : Between 0 {} := ⟨by simp, by simp, by simp, Report.sound_empty, fun _ => rfl⟩

/-- Every span of a capture that is accepted pairs an entry with a later exit, in one epoch and one
known context; nothing that makes this doubtful lies between them; the spans of a context are nested
and their depth is the number of frames that are open where they begin; and the clock of a function
never runs backwards. -/
theorem normalize_sound {capture : Capture} {report : Report}
    (h : normalize capture = .ok report) : report.Sound := by
  obtain ⟨⟨profile, info⟩, hva, h⟩ := bind_eq_ok.mp h
  obtain ⟨n, hru, h⟩ := bind_eq_ok.mp h
  cases h
  have hso := between_zero.generations (Nat.zero_le _) (validateCapture_ok hva).generations hru
  exact { hso with }

/-- A function that calls another one, in a task that is named first. -/
def nestedCapture : Capture :=
  fixtureCapture 2 [
    packetHex 5 0 [7, 0, 0, 0, 0, 0, 0, 0, 9, 0, 0, 0, 0, 0, 0, 0],
    packetHex 10 16 [0, 0, 0, 0, 0, 0, 0, 0, 0, 1, 0, 0, 0, 0, 0, 0],
    packetHex 10 32 [0, 0, 0, 0, 0, 0, 0, 0, 0, 2, 0, 0, 0, 0, 0, 0],
    packetHex 10 32 [1, 0, 0, 0, 0, 0, 0, 0, 0, 5, 0, 0, 0, 0, 0, 0],
    packetHex 10 16 [1, 0, 0, 0, 0, 0, 0, 0, 0, 9, 0, 0, 0, 0, 0, 0]]

theorem normalize_sound_nested : ∃ report, normalize nestedCapture = .ok report ∧
    report.spans.map (fun s => (s.entryIndex, s.exitIndex, s.elapsed, s.depth)) =
      [(2, 3, 3, 1), (1, 4, 8, 0)] ∧ report.Sound := by
  obtain ⟨report, hrp, hspa⟩ : ∃ report, normalize nestedCapture = .ok report ∧
      report.spans.map (fun s => (s.entryIndex, s.exitIndex, s.elapsed, s.depth)) =
        [(2, 3, 3, 1), (1, 4, 8, 0)] := exists_ok (by decide +kernel)
  exact ⟨report, hrp, hspa, normalize_sound hrp⟩

end MultiDap.TimeMachine
