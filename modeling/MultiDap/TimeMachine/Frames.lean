import MultiDap.TimeMachine.Normalize

/-!
# What a span stands for

A span pairs the entry and the exit of a function. `Sound` says what the spans of a report have to
do with its observations and discontinuities, in terms of the report alone: in particular the depth
of a span is the number of frames that are open where it begins. `Tracks` is the invariant of the
normalizer while it works through one generation.
-/

namespace MultiDap.TimeMachine

open List Function Machine Observation

/-! ### Reports -/

/-- The observation begins a function of the context, at a known time. -/
def Observation.Opens (o : Observation) (c : Context) : Prop :=
  o.packet.function = some .entry ∧ o.context = some c ∧ o.value.isSome = true

instance (o : Observation) (c : Context) : Decidable (o.Opens c) :=
  inferInstanceAs (Decidable (_ ∧ _))

namespace Report

/-- The function that begins at `o` has not come to its end before the index, and nothing has made
its end doubtful. -/
def OpenAt (r : Report) (g : Nat) (c : Context) (index : Nat) (o : Observation) : Prop :=
  o.generation = g ∧ o.Opens c ∧ o.index < index ∧
    (∀ d ∈ r.discontinuities, d.generation = g → ¬ (o.index < d.index ∧ d.index ≤ index)) ∧
    ∀ s ∈ r.spans, s.generation = g → s.entryIndex = o.index → ¬ s.exitIndex < index

instance (r : Report) (g : Nat) (c : Context) (index : Nat) (o : Observation) :
    Decidable (r.OpenAt g c index o) := inferInstanceAs (Decidable (_ ∧ _))

/-- The frames that are open in a context where its packet of this index is found. -/
def framesAt (r : Report) (g : Nat) (c : Context) (index : Nat) : List Observation :=
  r.observations.filter fun o => r.OpenAt g c index o

def Pairs (r : Report) (s : Span) (entry exit : Observation) : Prop :=
  entry ∈ r.observations ∧ exit ∈ r.observations ∧
    entry.packet.function = some .entry ∧ exit.packet.function = some .exit ∧
    (entry.generation = s.generation ∧ exit.generation = s.generation) ∧
    (entry.clockEpoch = s.clockEpoch ∧ exit.clockEpoch = s.clockEpoch) ∧
    (entry.context = some s.context ∧ exit.context = some s.context) ∧
    (entry.packet.address = s.address ∧ exit.packet.address = s.address) ∧
    (entry.index = s.entryIndex ∧ exit.index = s.exitIndex) ∧
    (entry.value = some s.startTime ∧ exit.value = some s.endTime)

/-- Of two spans of a context, the one that ends first lies before the other or inside it. -/
def Nests (s s' : Span) : Prop :=
  s.generation = s'.generation → s.context = s'.context →
    s.exitIndex < s'.entryIndex ∨ s'.entryIndex < s.entryIndex ∧ s.exitIndex < s'.exitIndex

structure Sound (r : Report) : Prop where
  pairs : ∀ s ∈ r.spans, ∃ entry exit, r.Pairs s entry exit
  known : ∀ s ∈ r.spans, knownContext s.context = true
  later : ∀ s ∈ r.spans, s.entryIndex < s.exitIndex
  elapsed : ∀ s ∈ r.spans, s.startTime ≤ s.endTime ∧ s.elapsed = s.endTime - s.startTime
  /-- A discontinuity at the entry itself was found before it. -/
  undisturbed : ∀ s ∈ r.spans, ∀ d ∈ r.discontinuities, d.generation = s.generation →
    ¬ (s.entryIndex < d.index ∧ d.index ≤ s.exitIndex)
  nested : r.spans.Pairwise Nests
  depth : ∀ s ∈ r.spans, s.depth = (r.framesAt s.generation s.context s.entryIndex).length
  forward : ∀ d ∈ r.discontinuities, d.reason ≠ .functionClockRegression

lemma sound_empty : Sound {} where
  pairs := by simp
  known := by simp
  later := by simp
  elapsed := by simp
  undisturbed := by simp
  nested := by simp
  depth := by simp
  forward := by simp

/-- What is added to a report lies behind the index. -/
structure Extends (g index : Nat) (r r' : Report) : Prop where
  observations : ∃ new, r'.observations = r.observations ++ new ∧
    ∀ o ∈ new, o.generation = g → index ≤ o.index
  discontinuities : ∃ new, r'.discontinuities = r.discontinuities ++ new ∧
    ∀ d ∈ new, d.generation = g → index < d.index
  spans : ∃ new, r'.spans = r.spans ++ new ∧ ∀ s ∈ new, s.generation = g → index ≤ s.exitIndex

variable {r r' : Report}

lemma Extends.framesAt_eq {g idx : Nat} (h : Extends g idx r r') (c : Context) :
    r'.framesAt g c idx = r.framesAt g c idx := by
  obtain ⟨os, hos, hos'⟩ := h.observations
  obtain ⟨ds, hds, hds'⟩ := h.discontinuities
  obtain ⟨ss, hss, hss'⟩ := h.spans
  have hop (o : Observation) : r'.OpenAt g c idx o ↔ r.OpenAt g c idx o := by
    unfold OpenAt
    rw [hds, hss]
    constructor
    · rintro ⟨hg, hope, hlt, hd, hs⟩
      exact ⟨hg, hope, hlt, fun d hd' => hd d (mem_append_left _ hd'),
        fun s hs' => hs s (mem_append_left _ hs')⟩
    rintro ⟨hg, hope, hlt, hd, hs⟩
    refine ⟨hg, hope, hlt, fun d hd' hdg => ?_, fun s hs' hsg => ?_⟩
    · rcases mem_append.mp hd' with hd' | hd'
      · exact hd d hd' hdg
      · exact fun hbet => absurd (hds' d hd' hdg) (by omega)
    rcases mem_append.mp hs' with hs' | hs'
    · exact hs s hs' hsg
    · exact fun _ => absurd (hss' s hs' hsg) ∘ Nat.not_le.mpr
  have hnew : os.filter (fun o => r.OpenAt g c idx o) = [] := by
    refine filter_eq_nil_iff.mpr fun o ho => ?_
    simp only [decide_eq_true_eq]
    rintro ⟨hg, -, hlt, -⟩
    exact absurd (hos' o ho hg) (by omega)
  unfold framesAt
  simp only [hop, hos, filter_append, hnew, append_nil]

variable {s : Span}

lemma Pairs.mono {ent exit : Observation} (h : r.Pairs s ent exit)
    (hsub : ∀ o ∈ r.observations, o ∈ r'.observations) : r'.Pairs s ent exit := by
  obtain ⟨hen, hexit, h⟩ := h
  exact ⟨hsub ent hen, hsub exit hexit, h⟩

lemma Sound.extend (h : r.Sound) (hspa : r'.spans = r.spans)
    (hob : ∀ o ∈ r.observations, o ∈ r'.observations)
    (hdis : ∀ d ∈ r'.discontinuities, d ∈ r.discontinuities ∨ d.reason ≠ .functionClockRegression ∧
        ∀ s ∈ r.spans, d.generation = s.generation → s.exitIndex < d.index)
    (hext : ∀ s ∈ r.spans, Extends s.generation s.entryIndex r r') : r'.Sound where
  pairs := by
    rw [hspa]
    intro s hs
    obtain ⟨ent, exit, hpai⟩ := h.pairs s hs
    exact ⟨ent, exit, hpai.mono hob⟩
  known := hspa ▸ h.known
  later := hspa ▸ h.later
  elapsed := hspa ▸ h.elapsed
  undisturbed := by
    rw [hspa]
    intro s hs d hd hg
    rcases hdis d hd with hd | ⟨-, hd⟩
    · exact h.undisturbed s hs d hd hg
    · exact fun hbet => absurd (hd s hs hg) (by omega)
  nested := hspa ▸ h.nested
  depth := by
    rw [hspa]
    intro s hs
    rw [(hext s hs).framesAt_eq]
    exact h.depth s hs
  forward := by
    intro d hd
    rcases hdis d hd with hd | ⟨hd, -⟩
    · exact h.forward d hd
    · exact hd

def withSpan (r : Report) (s : Span) : Report := { r with spans := r.spans ++ [s] }

lemma extends_withSpan {g idx : Nat} (r : Report)
    (h : s.generation = g → idx ≤ s.exitIndex) : Extends g idx r (r.withSpan s) := by
  refine ⟨⟨[], by simp [withSpan], by simp⟩, ⟨[], by simp [withSpan], by simp⟩, ⟨_, rfl, ?_⟩⟩
  intro s' hs'
  obtain rfl := mem_singleton.mp hs'
  exact h

lemma Sound.withSpan {r : Report} (h : r.Sound)
    (hpai : ∃ ent exit, r.Pairs s ent exit) (hkn : knownContext s.context = true)
    (hat : s.entryIndex < s.exitIndex)
    (hela : s.startTime ≤ s.endTime ∧ s.elapsed = s.endTime - s.startTime)
    (hund : ∀ d ∈ r.discontinuities, d.generation = s.generation → d.index ≤ s.entryIndex)
    (hnes : ∀ s' ∈ r.spans, Nests s' s)
    (hdep : s.depth = (r.framesAt s.generation s.context s.entryIndex).length)
    (hla : ∀ s' ∈ r.spans, s.generation = s'.generation → s'.exitIndex < s.exitIndex) :
    (r.withSpan s).Sound where
  pairs := by
    intro s' hs'
    rcases mem_append.mp hs' with hs' | hs'
    · exact h.pairs s' hs'
    · exact mem_singleton.mp hs' ▸ hpai
  known := by
    intro s' hs'
    rcases mem_append.mp hs' with hs' | hs'
    · exact h.known s' hs'
    · exact mem_singleton.mp hs' ▸ hkn
  later := by
    intro s' hs'
    rcases mem_append.mp hs' with hs' | hs'
    · exact h.later s' hs'
    · exact mem_singleton.mp hs' ▸ hat
  elapsed := by
    intro s' hs'
    rcases mem_append.mp hs' with hs' | hs'
    · exact h.elapsed s' hs'
    · exact mem_singleton.mp hs' ▸ hela
  undisturbed := by
    intro s' hs' d hd hg hbet
    rcases mem_concat.mp hs' with hs' | rfl
    · exact h.undisturbed s' hs' d hd hg hbet
    · exact absurd (hund d hd hg) (Nat.not_le.mpr hbet.1)
  nested := by
    refine pairwise_append.mpr ⟨h.nested, pairwise_singleton _ _, fun s' hs' t ht => ?_⟩
    exact mem_singleton.mp ht ▸ hnes s' hs'
  depth := by
    intro s' hs'
    rw [(r.extends_withSpan fun hg => ?_).framesAt_eq]
    · rcases mem_append.mp hs' with hs' | hs'
      · exact h.depth s' hs'
      · exact mem_singleton.mp hs' ▸ hdep
    rcases mem_concat.mp hs' with hs' | rfl
    · have := h.later s' hs'
      have := hla s' hs' hg
      omega
    · exact Nat.le_of_lt hat
  forward := h.forward

end Report

/-! ### The order of the observations -/

structure Place where
  generation : Nat
  index : Nat
  clockEpoch : Nat
  value : Option Int

def Observation.place (o : Observation) : Place := ⟨o.generation, o.index, o.clockEpoch, o.value⟩

/-- The one place comes later than the other, and within an epoch of the clock its time is not
smaller. -/
def Place.Before (a b : Place) : Prop :=
  (a.generation < b.generation ∨ a.generation = b.generation ∧ a.index < b.index) ∧
    (a.generation = b.generation → a.clockEpoch = b.clockEpoch →
      ∀ s t, a.value = some s → b.value = some t → s ≤ t)

def Packet.Proper (p : Packet) : Prop := p.function ≠ none → p.kind = .function ∧ p.event = none

lemma decodePacket_proper {pf : Profile} {data : List UInt8} {pkt : Packet}
    (h : decodePacket pf data = .ok pkt) : pkt.Proper := by
  unfold decodePacket at h
  iterate 3
    split at h
    · cases h
  dsimp only at h
  intro hfun
  -- only packets of type 10 have a function kind
  split at h <;> (try split at h) <;>
    first
    | (obtain rfl := Except.ok.inj h; simp at hfun ⊢)
    | cases h

lemma normalizeTimestamp_mono {info : Info} {a b s t : Int} (hab : a ≤ b)
    (hs : (normalizeTimestamp a info).value = some s)
    (ht : (normalizeTimestamp b info).value = some t) : s ≤ t := by
  unfold normalizeTimestamp at hs ht
  dsimp only at hs ht
  split_ifs at hs ht
  · cases hs
    cases ht
    rw [Int.shiftRight_eq_div_pow, Int.shiftRight_eq_div_pow]
    exact Int.ediv_le_ediv (by decide) hab
  cases hs
  cases ht
  exact hab

/-! ### The normalizer within a generation -/

/-- The frame is open still: no span ends it, and no discontinuity lies behind it. -/
def Report.Live (r : Report) (g : Nat) (c : Context) (o : Observation) : Prop :=
  o.generation = g ∧ o.Opens c ∧
    (∀ d ∈ r.discontinuities, d.generation = g → d.index ≤ o.index) ∧
    ∀ s ∈ r.spans, s.generation = g → s.entryIndex ≠ o.index

instance (r : Report) (g : Nat) (c : Context) (o : Observation) : Decidable (r.Live g c o) :=
  inferInstanceAs (Decidable (_ ∧ _))

/-- The normalizer has worked through a part of generation `g`, and `rest` is the other part of its
packets. -/
structure Tracks (g : Nat) (rest : List Observation) (n : Normalizer) : Prop where
  order : ((n.report.observations ++ rest).map Observation.place).Pairwise Place.Before
  here : ∀ o ∈ rest, o.generation = g ∧ o.packet.Proper
  past : ∀ o ∈ n.report.observations, o.generation ≤ g
  discontinuities : ∀ d ∈ n.report.discontinuities,
    d.generation < g ∨ d.generation = g ∧ ∀ o ∈ rest, d.index ≤ o.index
  sound : n.report.Sound
  frames : ∀ c, ∀ f ∈ n.frameStacks c, f.clockEpoch = n.epoch ∧ knownContext c = true
  frameStacks : ∀ c, n.frameStacks c = (n.report.observations.filter (n.report.Live g c ·)).reverse
  below : ∀ c above f below, n.frameStacks c = above ++ f :: below →
    below.length = (n.report.framesAt g c f.index).length
  apart : ∀ s ∈ n.report.spans, s.generation = g → ∀ f ∈ n.frameStacks s.context,
    f.index < s.entryIndex ∨ s.exitIndex < f.index

namespace Tracks

variable {g : Nat} {rest : List Observation} {n : Normalizer} {a b : Observation}

lemma before (h : Tracks g rest n) (ha : a ∈ n.report.observations)
    (hb : b ∈ rest) : a.place.Before b.place := by
  have hord := h.order
  rw [map_append, pairwise_append] at hord
  exact hord.2.2 _ (mem_map_of_mem ha) _ (mem_map_of_mem hb)

lemma index_lt (h : Tracks g rest n) (ha : a ∈ n.report.observations)
    (hb : b ∈ rest) (hg : a.generation = g) : a.index < b.index := by
  obtain hlt | ⟨-, hlt⟩ := (h.before ha hb).1
  · exact absurd hlt (by simp [place, hg, (h.here b hb).1])
  · exact hlt

lemma mem_stacks (h : Tracks g rest n) {c : Context} {f : Observation} (hf : f ∈ n.frameStacks c) :
    f ∈ n.report.observations ∧ n.report.Live g c f := by
  rw [h.frameStacks c, mem_reverse, mem_filter] at hf
  exact ⟨hf.1, of_decide_eq_true hf.2⟩

lemma span_ends (h : Tracks g rest n) {s : Span} (hs : s ∈ n.report.spans) :
    ∃ ent ∈ n.report.observations, ∃ exit ∈ n.report.observations,
      ent.generation = s.generation ∧ exit.generation = s.generation ∧
        ent.index = s.entryIndex ∧ exit.index = s.exitIndex := by
  obtain ⟨ent, exit, hen, hexit, -, -, ⟨hg, hg'⟩, -, -, -, ⟨hi, hi'⟩, -⟩ := h.sound.pairs s hs
  exact ⟨ent, hen, exit, hexit, hg, hg', hi, hi'⟩

variable {o : Observation}

lemma exit_lt (h : Tracks g rest n) {s : Span} (hs : s ∈ n.report.spans)
    (hg : s.generation = g) (ho : o ∈ rest) : s.exitIndex < o.index := by
  obtain ⟨-, -, exit, hexit, -, hg', -, hi⟩ := h.span_ends hs
  exact hi ▸ h.index_lt hexit ho (hg'.trans hg)

lemma count (h : Tracks g rest n) (f : Statistics → Statistics) : Tracks g rest (n.count f) where
  order := h.order
  here := h.here
  past := h.past
  discontinuities := h.discontinuities
  sound := { h.sound with }
  frames := h.frames
  frameStacks := h.frameStacks
  below := h.below
  apart := h.apart

lemma barrier (h : Tracks g rest n) (ep : Nat) {idx : Nat} {why : Reason}
    (hrs : ∀ o ∈ rest, idx ≤ o.index)
    (hkp : ∀ o ∈ n.report.observations, o.generation = g → o.index < idx)
    (hre : why ≠ .functionClockRegression) :
    Tracks g rest ({ n with epoch := ep }.barrier g idx why) where
  order := h.order
  here := h.here
  past := h.past
  discontinuities := by
    intro d hd
    rcases mem_concat.mp hd with hd | rfl
    · exact h.discontinuities d hd
    · exact .inr ⟨rfl, hrs⟩
  sound := by
    have hends : ∀ s ∈ n.report.spans, g = s.generation → s.exitIndex < idx := by
      intro s hs hg
      obtain ⟨-, -, exit, hexit, -, hg', -, hi⟩ := h.span_ends hs
      exact hi ▸ hkp exit hexit (hg'.trans hg.symm)
    refine h.sound.extend rfl (fun _ ho => ho) (fun d hd => ?_) (fun s hs => ?_)
    · rcases mem_concat.mp hd with hd | rfl
      · exact .inl hd
      · exact .inr ⟨hre, hends⟩
    refine ⟨⟨[], by simp [Normalizer.barrier], by simp⟩, ⟨_, rfl, fun d hd hg => ?_⟩,
      ⟨[], by simp [Normalizer.barrier], by simp⟩⟩
    obtain rfl := mem_singleton.mp hd
    exact Nat.lt_trans (h.sound.later s hs) (hends s hs hg)
  frames := by simp [Normalizer.barrier]
  frameStacks := by
    intro c
    refine (reverse_eq_nil_iff.mpr (filter_eq_nil_iff.mpr fun o ho hlive => ?_)).symm
    obtain ⟨hg, -, hd, -⟩ := of_decide_eq_true hlive
    have hle := hd ⟨g, ep, idx, why⟩ (mem_append_right _ (mem_singleton_self _)) rfl
    exact absurd (hkp o ho hg) (Nat.not_lt.mpr hle)
  below := by simp [Normalizer.barrier]
  apart := by simp [Normalizer.barrier]

lemma barrier_next (h : Tracks g (o :: rest) n) (ep : Nat) {why : Reason}
    (hre : why ≠ .functionClockRegression) :
    Tracks g (o :: rest) ({ n with epoch := ep }.barrier o.generation o.index why) := by
  have ho := h.here o mem_cons_self
  rw [ho.1]
  refine h.barrier ep (fun a ha => ?_) (fun a ha hg => h.index_lt ha mem_cons_self hg) hre
  rcases mem_cons.mp ha with rfl | ha'
  · exact Nat.le_refl _
  have hord := h.order
  rw [map_append, pairwise_append, map_cons, pairwise_cons] at hord
  obtain hlt | ⟨-, hlt⟩ := (hord.2.1.1 _ (mem_map_of_mem ha')).1
  · exact absurd hlt (by simp [place, ho.1, (h.here a ha).1])
  · exact Nat.le_of_lt hlt

lemma advanceClock (h : Tracks g (o :: rest) n) :
    Tracks g (o :: rest) (n.advanceClock o) ∧ (n.advanceClock o).epoch = o.clockEpoch := by
  unfold Normalizer.advanceClock
  split_ifs with hep
  · exact ⟨h.barrier_next o.clockEpoch (by simp), rfl⟩
  · exact ⟨h, (not_not.mp hep).symm⟩

lemma framesAt_next (h : Tracks g (o :: rest) n) (c : Context) :
    n.report.framesAt g c o.index = (n.frameStacks c).reverse := by
  rw [h.frameStacks c, reverse_reverse]
  refine filter_congr fun a ha => decide_eq_decide.mpr ?_
  constructor
  · rintro ⟨hg, hope, hlt, hd, hs⟩
    refine ⟨hg, hope, fun d hd' hdg => ?_, fun s hs' hsg heq => ?_⟩
    · obtain hlt' | ⟨-, hle⟩ := h.discontinuities d hd'
      · omega
      · have := hd d hd' hdg
        have := hle o mem_cons_self
        omega
    · exact hs s hs' hsg heq (h.exit_lt hs' hsg mem_cons_self)
  rintro ⟨hg, hope, hd, hs⟩
  refine ⟨hg, hope, h.index_lt ha mem_cons_self hg, fun d hd' hdg => ?_,
    fun s hs' hsg heq => absurd heq (hs s hs' hsg)⟩
  have := hd d hd' hdg
  omega

lemma kept {o o' : Observation} (h : Tracks g (o :: rest) n) (hpl : o'.place = o.place)
    {stk : Context → List Observation} (openFrames : Nat)
    (hstac : ∀ c, stk c = if o'.Opens c then o' :: n.frameStacks c else n.frameStacks c)
    (hope : ∀ c, o'.Opens c → o'.clockEpoch = n.epoch ∧ knownContext c = true) :
    Tracks g rest { n.keep o' with frameStacks := stk, openFrames := openFrames } := by
  have ho : o ∈ o :: rest := mem_cons_self
  have hind : o'.index = o.index := congrArg Place.index hpl
  have hg : o'.generation = g := (congrArg Place.generation hpl).trans (h.here o ho).1
  have hext {k idx : Nat} (hk : k = g → idx ≤ o.index) :
      Report.Extends k idx n.report (n.keep o').report := by
    refine ⟨⟨[o'], rfl, fun a ha ha' => ?_⟩, ⟨[], by simp [Normalizer.keep], by simp⟩,
      ⟨[], by simp [Normalizer.keep], by simp⟩⟩
    obtain rfl := mem_singleton.mp ha
    exact hind ▸ hk (ha'.symm.trans hg)
  have hlive (c : Context) : n.report.Live g c o' ↔ o'.Opens c := by
    refine ⟨fun hlive => hlive.2.1, fun hope => ⟨hg, hope, fun d hd hdg => ?_, fun s hs hsg => ?_⟩⟩
    · obtain hlt | ⟨-, hle⟩ := h.discontinuities d hd
      · omega
      · exact hind ▸ hle o ho
    have := h.sound.later s hs
    have := h.exit_lt hs hsg ho
    omega
  have hme {c : Context} {f : Observation} (hf : f ∈ stk c) :
      f = o' ∧ o'.Opens c ∨ f ∈ n.frameStacks c := by
    rw [hstac] at hf
    split_ifs at hf with hope
    · exact (mem_cons.mp hf).imp (⟨·, hope⟩) id
    · exact .inr hf
  exact {
    order := by
      have hord := h.order
      simp only [map_append, map_cons, ← hpl] at hord
      simpa [Normalizer.keep] using hord
    here := fun a ha => h.here a (mem_cons_of_mem _ ha)
    past := by
      intro a ha
      rcases mem_concat.mp ha with ha | rfl
      · exact h.past a ha
      · exact Nat.le_of_eq hg
    discontinuities := fun d hd =>
      (h.discontinuities d hd).imp_right fun ⟨hdg, hle⟩ =>
        ⟨hdg, fun a ha => hle a (mem_cons_of_mem _ ha)⟩
    sound := by
      refine h.sound.extend rfl (fun _ ha => mem_append_left _ ha) (fun d hd => .inl hd)
        (fun s hs => hext fun hsg => ?_)
      have := h.sound.later s hs
      have := h.exit_lt hs hsg ho
      omega
    frames := by
      intro c f hf
      rcases hme hf with ⟨rfl, hf⟩ | hf
      · exact hope c hf
      · exact h.frames c f hf
    frameStacks := by
      intro c
      change stk c = ((n.report.observations ++ [o']).filter (n.report.Live g c ·)).reverse
      rw [hstac, filter_append, reverse_append, ← h.frameStacks]
      by_cases hc : o'.Opens c <;> simp [hlive, hc]
    below := by
      intro c above f below (hf : stk c = _)
      change below.length = ((n.keep o').report.framesAt g c f.index).length
      rw [hstac] at hf
      have hold {above : List Observation} (hf : n.frameStacks c = above ++ f :: below) :
          below.length = ((n.keep o').report.framesAt g c f.index).length := by
        have hkp := h.mem_stacks (hf ▸ mem_append_right _ mem_cons_self)
        have hlt := h.index_lt hkp.1 ho hkp.2.1
        rw [(hext fun _ => Nat.le_of_lt hlt).framesAt_eq]
        exact h.below c above f below hf
      split_ifs at hf
      · cases above with
        | nil =>
          obtain ⟨rfl, rfl⟩ := List.cons.inj hf
          rw [(hext fun _ => Nat.le_of_eq hind).framesAt_eq, hind, h.framesAt_next, length_reverse]
        | cons => exact hold (List.cons.inj hf).2
      · exact hold hf
    apart := by
      intro s hs hsg f hf
      rcases hme hf with ⟨rfl, -⟩ | hf
      · exact .inr (hind ▸ h.exit_lt hs hsg ho)
      · exact h.apart s hs hsg f hf }

lemma keep {o o' : Observation} (h : Tracks g (o :: rest) n) (hpl : o'.place = o.place)
    (hope : ∀ c, ¬ o'.Opens c) : Tracks g rest (n.keep o') :=
  h.kept hpl n.openFrames (fun c => by rw [if_neg (hope c)]) (fun c hc => absurd hc (hope c))

lemma sorted (h : Tracks g rest n) (c : Context) :
    (n.frameStacks c).Pairwise fun a b => b.index < a.index := by
  rw [h.frameStacks c, pairwise_reverse]
  have hord := h.order
  rw [map_append, pairwise_append, pairwise_map] at hord
  refine (hord.1.filter _).imp_of_mem fun ha hb hbe => ?_
  have hga := (of_decide_eq_true (mem_filter.mp ha).2).1
  have hgb := (of_decide_eq_true (mem_filter.mp hb).2).1
  obtain hlt | ⟨-, hlt⟩ := hbe.1
  · exact absurd hlt (by simp [place, hga, hgb])
  · exact hlt

lemma eq_of_index (h : Tracks g rest n) (ha : a ∈ n.report.observations)
    (hb : b ∈ n.report.observations) (hg : a.generation = b.generation) (hi : a.index = b.index) :
    a = b := by
  have hord := h.order
  rw [map_append, pairwise_append, pairwise_map] at hord
  by_contra hne
  let Apart (a b : Observation) : Prop := ¬ (a.generation = b.generation ∧ a.index = b.index)
  have hsymm : Std.Symm Apart := ⟨fun _ _ hne heq => hne ⟨heq.1.symm, heq.2.symm⟩⟩
  have hapa : n.report.observations.Pairwise Apart := hord.1.imp fun hbe heq => by
    obtain hlt | ⟨-, hlt⟩ := hbe.1 <;> simp [place, heq] at hlt
  exact hapa.forall ha hb hne ⟨hg, hi⟩

/-- The innermost frame of a context ends with the packet `o`. -/
lemma closed {c : Context} {ent o : Observation} {below : List Observation}
    (h : Tracks g rest n) (hst : n.frameStacks c = ent :: below)
    (ho : o ∈ n.report.observations) (hg : o.generation = g) (hep : o.clockEpoch = n.epoch)
    (hexit : o.packet.function = some .exit) (hco : o.context = some c)
    (hadd : ent.packet.address = o.packet.address) {startTime endTime : Int}
    (hstart : ent.value = some startTime) (hed : o.value = some endTime)
    (htime : startTime ≤ endTime) (hla : ∀ f c, f ∈ n.frameStacks c → f.index < o.index)
    (hspa : ∀ s ∈ n.report.spans, s.generation = g → s.exitIndex < o.index) (openFrames : Nat) :
    Tracks g rest { n with
      report := n.report.withSpan (Normalizer.span c ent o startTime endTime below.length)
      frameStacks := Function.update n.frameStacks c below
      openFrames := openFrames } := by
  have hen : ent ∈ n.frameStacks c := hst ▸ mem_cons_self
  obtain ⟨hkp, hge, hope, hden, -⟩ := h.mem_stacks hen
  have hsor := h.sorted c
  rw [hst, pairwise_cons] at hsor
  have hsub {c' : Context} {f : Observation} (hf : f ∈ update n.frameStacks c below c') :
      f ∈ n.frameStacks c' := by
    by_cases hc : c' = c
    · subst hc
      rw [update_self] at hf
      exact hst ▸ mem_cons_of_mem _ hf
    · rwa [update_of_ne hc] at hf
  have hbel := h.below c [] ent below hst
  exact {
    order := h.order
    here := h.here
    past := h.past
    discontinuities := h.discontinuities
    sound := by
      refine h.sound.withSpan ⟨ent, o, hkp, ho, hope.1, hexit, ⟨hge.trans hg.symm, rfl⟩,
        ⟨(h.frames c ent hen).1.trans hep.symm, rfl⟩, ⟨hope.2.1, hco⟩,
        ⟨rfl, hadd.symm⟩, ⟨rfl, rfl⟩, ⟨hstart, hed⟩⟩ (h.frames c ent hen).2
        (hla ent c hen) ⟨htime, rfl⟩ (fun d hd hdg => hden d hd (hdg.trans hg)) ?_
        (hbel.trans (by rw [← hg]; rfl))
        (fun s hs hsg => hspa s hs (hsg.symm.trans hg))
      intro s hs hsg hsc
      have hsg : s.generation = g := hsg.trans hg
      have hsc : s.context = c := hsc
      exact (h.apart s hs hsg ent (hsc ▸ hen)).symm.imp_right (⟨·, hspa s hs hsg⟩)
    frames := fun c' f hf => h.frames c' f (hsub hf)
    frameStacks := by
      intro c'
      have hlive (a : Observation) :
          (n.report.withSpan (Normalizer.span c ent o startTime endTime below.length)).Live g c' a ↔
            a.index ≠ ent.index ∧ n.report.Live g c' a := by
        simp [Report.Live, Report.withSpan, Normalizer.span, or_imp, forall_and, hg]
        tauto
      simp only [hlive, Bool.decide_and]
      rw [← filter_filter, ← filter_reverse]
      change _ = List.filter _ (n.report.observations.filter _).reverse
      rw [← h.frameStacks]
      by_cases hc : c' = c
      · subst hc
        rw [update_self, hst, filter_cons_of_neg (by simp)]
        refine (filter_eq_self.mpr fun f hf => decide_eq_true ?_).symm
        exact Nat.ne_of_lt (hsor.1 f hf)
      rw [update_of_ne hc]
      refine (filter_eq_self.mpr fun f hf => decide_eq_true ?_).symm
      intro hind
      apply hc
      -- a packet belongs to one context only
      obtain ⟨hf, hgf, hf', -⟩ := h.mem_stacks hf
      obtain rfl := h.eq_of_index hf hkp (hgf.trans hge.symm) hind
      exact Option.some.inj (hf'.2.1.symm.trans hope.2.1)
    below := by
      intro c' above f below' (hf : update n.frameStacks c below c' = _)
      have hme := hsub (hf ▸ mem_append_right _ mem_cons_self)
      rw [(n.report.extends_withSpan fun _ => Nat.le_of_lt (hla f c' hme)).framesAt_eq]
      by_cases hc : c' = c
      · subst hc
        rw [update_self] at hf
        exact h.below c' (ent :: above) f below' (by rw [hst, hf, cons_append])
      · rw [update_of_ne hc] at hf
        exact h.below c' above f below' hf
    apart := by
      intro s hs hsg f hf
      rcases mem_concat.mp hs with hs | rfl
      · exact h.apart s hs hsg f (hsub hf)
      have hf : f ∈ update n.frameStacks c below c := hf
      rw [update_self] at hf
      exact .inl (hsor.1 f hf) }

end Tracks

end MultiDap.TimeMachine
