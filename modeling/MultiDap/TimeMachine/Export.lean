import MultiDap.Machine.Decimal
import MultiDap.TimeMachine.Bounds
import MultiDap.TimeMachine.Chrome

/-!
# What the export shows

A normalized report of picoseconds is refused only if it has too many clocks or too many tasks. What
is shown is exact: the text of a time stands for the difference to the smallest time of its clock.
-/

namespace MultiDap.TimeMachine

open List Option Int Machine Prod

/-! ### Texts -/

/-- The text stands for a number of picoseconds, in microseconds. -/
def Shows (text : List Char) (picoseconds : Int) : Prop :=
  0 ≤ picoseconds ∧ Decimal.value text = some ((picoseconds : ℚ) / 1000000)

lemma signedText_natCast (n : Nat) : signedText n = Nat.toDigits 10 n := by
  unfold signedText
  rw [if_neg (by omega), natAbs_natCast]

lemma picoseconds_shows {val : Int} (h : 0 ≤ val) :
    ∃ text, picosecondsToMicroseconds val = .ok text ∧ Shows text val := by
  obtain ⟨d, rfl⟩ := eq_ofNat_of_zero_le h
  have hquo : (d : Int).tdiv 1000000 = (d / 1000000 : Nat) := by
    rw [tdiv_eq_ediv_of_nonneg (by omega)]
    norm_cast
  have hrem : (d : Int).tmod 1000000 = (d % 1000000 : Nat) := by
    rw [tmod_eq_emod_of_nonneg (by omega)]
    norm_cast
  have hspl : (d : ℚ) = 1000000 * (d / 1000000 : Nat) + (d % 1000000 : Nat) := by
    exact_mod_cast (Nat.div_add_mod d 1000000).symm
  unfold picosecondsToMicroseconds
  simp only [hquo, hrem, signedText_natCast]
  split_ifs with hzero hlong
  · refine ⟨_, rfl, h, ?_⟩
    have hzero : d % 1000000 = 0 := by exact_mod_cast hzero
    rw [Decimal.value_toDigits, cast_natCast, hspl, hzero]
    norm_num
  · have hshort : (Nat.toDigits 10 (d % 1000000)).length ≤ 6 :=
      (Nat.length_toDigits_le_iff (by omega) (by omega)).mpr (by omega)
    omega
  refine ⟨_, rfl, h, ?_⟩
  have hne : d % 1000000 ≠ 0 := by exact_mod_cast hzero
  have hva := Decimal.fraction_pad (Nat.le_of_not_lt hlong)
  rw [← Decimal.fraction_rdropWhile] at hva
  rw [Decimal.value_point, hva, cast_natCast]
  · congr 1
    rw [eq_div_iff (by norm_num)]
    rw [hspl]
    ring
  · intro hnil
    rw [hnil] at hva
    have : ((d % 1000000 : Nat) : ℚ) = 0 := by
      have h0 : Decimal.fraction [] = 0 := by simp [Decimal.fraction]
      rw [h0] at hva
      field_simp at hva
      simpa using hva.symm
    exact hne (by exact_mod_cast this)
  intro c hc
  have hc := ( rdropWhile_prefix _ _).subset hc
  rcases mem_append.mp hc with hc | hc
  · rw [eq_of_mem_replicate hc]
    rfl
  · exact Decimal.isDigit_toDigits hc

lemma signedText_length {val : Int} (hlow : -2 ^ 63 ≤ val) (hhigh : val < 2 ^ 64) :
    (signedText val).length ≤ 21 := by
  have hdig : (Nat.toDigits 10 val.natAbs).length ≤ 20 :=
    (Nat.length_toDigits_le_iff (by omega) (by omega)).mpr (by omega)
  unfold signedText
  split_ifs
  · exact Nat.succ_le_succ hdig
  · omega

/-! ### Clocks -/

lemma lookup_isSome {α β : Type} [DecidableEq α] {l : List (α × β)} {a : α} :
    (l.lookup a).isSome = true ↔ a ∈ l.map Prod.fst := by
  simp [List.lookup_isSome_iff, List.mem_map]

def IsOrigin (observations : List Observation) (domain : ClockDomain) (origin : Int) : Prop :=
  (∃ o ∈ observations, o.domain = domain ∧ o.value = some origin) ∧
    ∀ o ∈ observations, o.domain = domain → ∀ value, o.value = some value → origin ≤ value

namespace IsOrigin

variable {seen : List Observation} {o : Observation} {domain : ClockDomain} {origin val : Int}

lemma append (h : IsOrigin seen domain origin) (ho : o.domain = domain → o.value = none) :
    IsOrigin (seen ++ [o]) domain origin := by
  obtain ⟨⟨a, ha, hfou⟩, hla⟩ := h
  refine ⟨⟨a, mem_append_left _ ha, hfou⟩, fun b hb hdom val hva => ?_⟩
  rcases mem_concat.mp hb with hb | rfl
  · exact hla b hb hdom val hva
  · exact absurd hva (by simp [ho hdom])

lemma first (h : ∀ a ∈ seen, a.domain = o.domain → a.value = none) (ho : o.value = some val) :
    IsOrigin (seen ++ [o]) o.domain val := by
  refine ⟨⟨o, by simp, rfl, ho⟩, fun b hb hdom val' hva' => ?_⟩
  rcases mem_concat.mp hb with hb | rfl
  · exact absurd hva' (by simp [h b hb hdom])
  · exact le_of_eq (Option.some.inj (ho.symm.trans hva'))

lemma lower (h : IsOrigin seen o.domain origin) (ho : o.value = some val) :
    IsOrigin (seen ++ [o]) o.domain (min val origin) := by
  obtain ⟨⟨a, ha, hdom, hva⟩, hla⟩ := h
  constructor
  · by_cases hle : val ≤ origin
    · exact ⟨o, by simp, rfl, by rw [ho, min_eq_left hle]⟩
    · exact ⟨a, mem_append_left _ ha, hdom,
        by rw [hva, min_eq_right (le_of_lt (not_le.mp hle))]⟩
  intro b hb hdom' val' hva'
  rcases mem_concat.mp hb with hb | rfl
  · exact le_trans (min_le_right _ _) (hla b hb hdom' val' hva')
  · exact Option.some.inj (ho.symm.trans hva') ▸ min_le_left _ _

end IsOrigin

/-- The observation passes the checks of the export. -/
structure Observation.Exportable (o : Observation) : Prop where
  numbered : o.generation ≠ 0 ∧ o.clockEpoch ≠ 0
  physical : ∀ timestamp, o.timestamp = some timestamp →
    ∃ value, physicalTimestamp timestamp = .ok value ∧ o.value = some value
  context : o.timestamp ≠ none → ∀ c, o.context = some c →
    validContext c = true ∧ knownContext c = true

/-- The clocks of the packets that have been seen. -/
structure Clocks.Of (seen : List Observation) (clocks : Clocks) : Prop where
  distinct : (clocks.map Prod.fst).Nodup
  domains : ∀ domain, domain ∈ clocks.map Prod.fst ↔ domain ∈ seen.map Observation.domain
  origins : ∀ domain origin, clocks.origin domain = some origin → IsOrigin seen domain origin
  untimed : ∀ domain, clocks.origin domain = none → ∀ o ∈ seen, o.domain = domain → o.value = none

namespace Clocks

variable {clocks clocks' : Clocks} {seen rest : List Observation} {o : Observation}
  {domain d : ClockDomain}

lemma map_fst_lower (clocks : Clocks) (domain : ClockDomain) (val : Int) :
    (clocks.lower domain val).map Prod.fst = clocks.map Prod.fst := by
  rw [lower, List.map_map]
  refine List.map_congr_left fun ent _ => ?_
  simp only [Function.comp]
  split_ifs <;> rfl

lemma origin_lower_ne (val : Int) (hne : d ≠ domain) :
    (clocks.lower domain val).origin d = clocks.origin d := by
  unfold origin lower
  congr 1
  induction clocks with
  | nil => rfl
  | cons ent _ ih =>
    obtain ⟨id, origin⟩ := ent
    by_cases heq : d = id
    · subst heq
      simp [List.lookup, hne]
    have hne' : (d == id) = false := by simpa using heq
    by_cases hid : id = domain
    · subst hid
      simp [List.lookup, hne', ih]
    · simp [List.lookup, hne', hid, ih]

lemma origin_lower_self (val : Int) (hme : domain ∈ clocks.map Prod.fst) :
    (clocks.lower domain val).origin domain = some ((clocks.origin domain).elim val (min val)) := by
  unfold origin lower
  induction clocks with
  | nil => simp at hme
  | cons ent rest ih =>
    obtain ⟨id, origin⟩ := ent
    by_cases heq : domain = id
    · subst heq
      simp [List.lookup]
    have hne : (domain == id) = false := by simpa using heq
    have hme' : domain ∈ rest.map fst := by simpa [heq] using hme
    simpa [List.lookup, hne, Ne.symm heq] using ih hme'

lemma origin_append (hnew : domain ∉ clocks.map Prod.fst) (d : ClockDomain) :
    Clocks.origin (clocks ++ [(domain, none)]) d = clocks.origin d := by
  unfold origin
  rw [lookup_append]
  cases hloo : clocks.lookup d with
  | some => rfl
  | none =>
    by_cases heq : d = domain
    · subst heq
      simp [List.lookup]
    · have hne : (d == domain) = false := by simpa using heq
      simp [List.lookup, hne]

lemma visit_cases (clocks : Clocks) (domain : ClockDomain) :
    (∃ clocks', clocks.visit domain = .ok clocks' ∧
      (clocks' = clocks ∧ domain ∈ clocks.map Prod.fst ∨
        clocks' = clocks ++ [(domain, none)] ∧ domain ∉ clocks.map Prod.fst)) ∨
      clocks.visit domain = .error (.new "timemachine: report clock-domain limit exceeded") ∧
        domain ∉ clocks.map Prod.fst ∧ maxTraceTracks ≤ clocks.length := by
  unfold visit
  split_ifs with hseen hfull
  · exact .inl ⟨clocks, rfl, .inl ⟨rfl, lookup_isSome.mp hseen⟩⟩
  · exact .inr ⟨rfl, fun hme => hseen (lookup_isSome.mpr hme), hfull⟩
  · exact .inl ⟨_, rfl, .inr ⟨rfl, fun hme => hseen (lookup_isSome.mpr hme)⟩⟩

namespace Of

lemma nil : Of [] [] := ⟨by simp, by simp, by simp [Clocks.origin], by simp⟩

lemma visited (h : Of seen clocks) (hvis : clocks.visit o.domain = .ok clocks') :
    (clocks'.map Prod.fst).Nodup ∧
      (∀ domain, domain ∈ clocks'.map Prod.fst ↔ domain ∈ (seen ++ [o]).map Observation.domain) ∧
      ∀ domain, clocks'.origin domain = clocks.origin domain := by
  obtain ⟨clocks'', hok, hcas⟩ | ⟨hrr, -⟩ := clocks.visit_cases o.domain
  · obtain rfl := Except.ok.inj (hvis.symm.trans hok)
    obtain ⟨rfl, hme⟩ | ⟨rfl, hnew⟩ := hcas
    · refine ⟨h.distinct, fun domain => ?_, fun _ => rfl⟩
      rw [h.domains, map_append, mem_append]
      refine ⟨.inl, fun hdom => hdom.elim id fun hdom => ?_⟩
      rw [mem_singleton.mp hdom]
      exact (h.domains _).mp hme
    refine ⟨?_, fun domain => ?_, origin_append hnew⟩
    · rw [map_append, nodup_append]
      refine ⟨h.distinct, by simp, fun a ha b hb heq => hnew ?_⟩
      exact (mem_singleton.mp hb : b = o.domain) ▸ heq ▸ ha
    · rw [map_append, map_append, mem_append, mem_append, h.domains]
      rfl
  · cases hvis.symm.trans hrr

lemma untimed_packet (h : Of seen clocks) (hvis : clocks.visit o.domain = .ok clocks')
    (hva : o.value = none) : Of (seen ++ [o]) clocks' := by
  obtain ⟨hdis, hdoma, hori⟩ := h.visited hvis
  refine ⟨hdis, hdoma, fun domain origin hsome => ?_, fun domain hnn a ha hdom => ?_⟩
  · exact (h.origins domain origin (hori domain ▸ hsome)).append fun _ => hva
  rcases mem_append.mp ha with ha | ha
  · exact h.untimed domain (hori domain ▸ hnn) a ha hdom
  · exact mem_singleton.mp ha ▸ hva

lemma timed_packet {val : Int} (h : Of seen clocks) (hvis : clocks.visit o.domain = .ok clocks')
    (hva : o.value = some val) : Of (seen ++ [o]) (clocks'.lower o.domain val) := by
  obtain ⟨hdis, hdoma, hori⟩ := h.visited hvis
  have hme : o.domain ∈ clocks'.map fst := (hdoma _).mpr (by simp)
  refine ⟨?_, fun domain => ?_, fun domain origin hsome => ?_, fun domain hnn a ha hdom => ?_⟩
  · rwa [map_fst_lower]
  · rw [map_fst_lower, hdoma]
  · by_cases heq : domain = o.domain
    · subst heq
      rw [origin_lower_self val hme, hori] at hsome
      cases hsome
      cases hold : clocks.origin o.domain with
      | none => exact .first (h.untimed o.domain hold) hva
      | some origin => exact (h.origins o.domain origin hold).lower hva
    · rw [origin_lower_ne val heq, hori] at hsome
      exact (h.origins domain origin hsome).append fun hdom => absurd hdom.symm heq
  · by_cases heq : domain = o.domain
    · subst heq
      rw [origin_lower_self val hme] at hnn
      cases hnn
    rw [origin_lower_ne val heq, hori] at hnn
    rcases mem_append.mp ha with ha | ha
    · exact h.untimed domain hnn a ha hdom
    · exact absurd (mem_singleton.mp ha ▸ hdom).symm heq

lemma collect (h : Of seen clocks) (hrs : ∀ o ∈ rest, o.Exportable) :
    (∃ clocks', clocks.collect rest = .ok clocks' ∧ Of (seen ++ rest) clocks') ∨
      clocks.collect rest = .error (.new "timemachine: report clock-domain limit exceeded") ∧
        maxTraceTracks < ((seen ++ rest).map Observation.domain).dedup.length := by
  induction rest generalizing clocks seen with
  | nil => exact .inl ⟨clocks, rfl, by simpa using h⟩
  | cons o rest ih =>
    have ho := hrs o mem_cons_self
    have ih' {clocks : Clocks} (h : Of (seen ++ [o]) clocks) :=
      ih h fun a ha => hrs a (mem_cons_of_mem _ ha)
    simp only [append_assoc, singleton_append] at ih'
    unfold Clocks.collect
    rw [if_neg (not_or.mpr ho.numbered)]
    obtain ⟨clocks', hvis, -⟩ | ⟨hvis, hnew, hfull⟩ := clocks.visit_cases o.domain
    · rw [hvis]
      cases htim : o.timestamp with
      | none =>
        have hva : o.value = none := by simp [Observation.value, htim]
        exact ih' (h.untimed_packet hvis hva)
      | some timestamp =>
        obtain ⟨val, hphy, hva⟩ := ho.physical timestamp htim
        simp only [hphy]
        exact ih' (h.timed_packet hvis hva)
    · refine .inr ⟨by rw [hvis]; rfl, ?_⟩
      -- the clocks so far and the new one are different clocks of the report
      have hnod : (o.domain :: clocks.map fst).Nodup := nodup_cons.mpr ⟨hnew, h.distinct⟩
      have hsub : o.domain :: clocks.map fst ⊆
          ((seen ++ o :: rest).map Observation.domain).dedup := by
        intro domain hdom
        rw [mem_dedup, map_append, mem_append]
        rcases mem_cons.mp hdom with rfl | hdom
        · exact .inr (by simp)
        · exact .inl ((h.domains domain).mp hdom)
      have hle := (subperm_of_subset hnod hsub).length_le
      rw [length_cons, length_map] at hle
      omega

end Of

end Clocks

/-! ### Events -/

def timed (observations : List Observation) : List Observation :=
  observations.filter (·.timestamp.isSome)

def Observation.track (o : Observation) : Track := ⟨o.domain, o.context⟩

def ShowsInstant (observations : List Observation) (event : TraceEvent) (o : Observation) : Prop :=
  event.duration = [] ∧ ∃ value origin, o.value = some value ∧
    IsOrigin observations o.domain origin ∧ Shows event.timestamp (value - origin)

/-- A function is shown from its beginning, as long as it lasts. -/
def ShowsLifetime (observations : List Observation) (event : TraceEvent) (s : Span) : Prop :=
  Shows event.duration (s.endTime - s.startTime) ∧ ∃ origin,
    IsOrigin observations s.domain origin ∧ Shows event.timestamp (s.startTime - origin)

namespace Timeline

/-- What is shown so far: some threads, packets and spans. -/
structure Of (observations : List Observation) (tracks : List Track) (shown : List Observation)
    (spans : List Span) (t : Timeline) : Prop where
  distinct : (t.tracks.map Prod.fst).Nodup
  named : ∀ track, track ∈ t.tracks.map Prod.fst ↔ track ∈ tracks
  instants : List.Forall₂ (ShowsInstant observations) (t.events.filter (·.phase = .instant)) shown
  lifetimes : List.Forall₂ (ShowsLifetime observations) (t.events.filter (·.phase = .complete))
    spans
  metadata : ∀ event ∈ t.events, event.phase = .metadata → event.timestamp = [] ∧
    event.duration = []

variable {t : Timeline} {source : Source} {clocks : Clocks}

namespace Of

variable {obs shown rest : List Observation} {tracks : List Track} {spans : List Span}
  {o : Observation} {s : Span} {evt : TraceEvent}

section

variable (h : Of obs tracks shown spans t)

include h

lemma name (source : Source) (clocks : Clocks) (track : Track)
    (hco : ∀ c, track.context = some c → validContext c = true ∧ knownContext c = true) :
    (∃ t' tid, t.track source clocks track = .ok (t', tid) ∧
      Of obs (tracks ++ [track]) shown spans t') ∨
      t.track source clocks track = .error (.new "timemachine: Chrome track limit exceeded") ∧
        track ∉ tracks ∧ maxTraceTracks ≤ t.tracks.length := by
  have hvalid : ¬ (track.context.any fun ctx =>
      !validContext ctx || !knownContext ctx) = true := by
    cases hc : track.context with
    | none => simp
    | some c => simp [hco c hc]
  unfold Timeline.track
  rw [if_neg hvalid]
  cases hloo : t.tracks.lookup track with
  | some tid =>
    have hme := (h.named track).mp (lookup_isSome.mp (by simp [hloo]))
    refine .inl ⟨t, tid, rfl, { h with named := fun track' => ?_ }⟩
    rw [h.named, mem_append, mem_singleton]
    exact ⟨.inl, fun hor => hor.elim id fun heq => heq ▸ hme⟩
  | none =>
    have hnew : track ∉ t.tracks.map fst := fun hme => by
      simpa [hloo] using lookup_isSome.mpr hme
    dsimp only
    split_ifs with hfull
    · exact .inr ⟨rfl, fun hme => hnew ((h.named track).mpr hme), hfull⟩
    refine .inl ⟨_, _, rfl, ?_, fun track' => ?_, ?_, ?_, fun evt heve hph => ?_⟩
    · simp only [emit, map_append]
      refine nodup_append.mpr ⟨h.distinct, by simp, fun a ha b hb heq => hnew ?_⟩
      exact (mem_singleton.mp hb : b = track) ▸ heq ▸ ha
    · simp only [emit, map_append, mem_append, h.named]
      rfl
    · simpa [emit, filter_append] using h.instants
    · simpa [emit, filter_append] using h.lifetimes
    rcases mem_concat.mp heve with heve | rfl
    · exact h.metadata evt heve hph
    · exact ⟨rfl, rfl⟩

lemma emit_instant (hph : evt.phase = .instant) (hsho : ShowsInstant obs evt o) :
    Of obs tracks (shown ++ [o]) spans (t.emit evt) where
  distinct := h.distinct
  named := h.named
  instants := by
    simpa [emit, filter_append, hph] using rel_append h.instants (.cons hsho .nil)
  lifetimes := by simpa [emit, filter_append, hph] using h.lifetimes
  metadata := by
    intro evt' heve hph'
    rcases mem_concat.mp heve with heve | rfl
    · exact h.metadata evt' heve hph'
    · rw [hph] at hph'
      cases hph'

lemma emit_lifetime (hph : evt.phase = .complete) (hsho : ShowsLifetime obs evt s) :
    Of obs tracks shown (spans ++ [s]) (t.emit evt) where
  distinct := h.distinct
  named := h.named
  instants := by simpa [emit, filter_append, hph] using h.instants
  lifetimes := by
    simpa [emit, filter_append, hph] using rel_append h.lifetimes (.cons hsho .nil)
  metadata := by
    intro evt' heve hph'
    rcases mem_concat.mp heve with heve | rfl
    · exact h.metadata evt' heve hph'
    · rw [hph] at hph'
      cases hph'

lemma instant {timestamp : Timestamp} (source : Source)
    (hcl : Clocks.Of obs clocks) (hme : o ∈ obs) (ho : o.Exportable)
    (htim : o.timestamp = some timestamp) : (∃ t', t.instant source clocks o timestamp = .ok t' ∧
      Of obs (tracks ++ [o.track]) (shown ++ [o]) spans t') ∨ t.instant source clocks o timestamp =
          .error (.new "timemachine: Chrome track limit exceeded") ∧
        o.track ∉ tracks ∧ maxTraceTracks ≤ t.tracks.length := by
  obtain ⟨val, hphy, hva⟩ := ho.physical timestamp htim
  obtain ⟨origin, hori⟩ : ∃ origin, clocks.origin o.domain = some origin := by
    cases hnn : clocks.origin o.domain with
    | none => simp [hcl.untimed o.domain hnn o hme rfl] at hva
    | some origin => exact ⟨origin, rfl⟩
  have hla := hcl.origins o.domain origin hori
  obtain ⟨text, htext, hsho⟩ := picoseconds_shows (sub_nonneg.mpr (hla.2 o hme rfl val hva))
  unfold Timeline.instant
  obtain ⟨t', tid, htr, hof⟩ | ⟨hrr, hnew, hfull⟩ :=
    h.name source clocks o.track (ho.context (by simp [htim]))
  · refine .inl ⟨t'.emit (instantEvent clocks o timestamp tid text), ?_,
      hof.emit_instant rfl ⟨rfl, val, origin, hva, hla, hsho⟩⟩
    refine bind_eq_ok.mpr ⟨val, hphy, bind_eq_ok.mpr ⟨(t', tid), htr, ?_⟩⟩
    simp only [hori]
    exact bind_eq_ok.mpr ⟨text, htext, rfl⟩
  refine .inr ⟨?_, hnew, hfull⟩
  rw [hphy]
  change (t.track source clocks o.track >>= _) = _
  rw [hrr]
  rfl

lemma lifetime (hcl : Clocks.Of obs clocks) (htr : (⟨s.domain, some s.context⟩ : Track) ∈ tracks)
    (hco : validContext s.context = true ∧ knownContext s.context = true)
    (hunit : s.timeUnit = some .picoseconds) (hed : s.startTime ≤ s.endTime)
    (hsa : ∃ o ∈ obs, o.domain = s.domain ∧ o.value = some s.startTime)
    (hlen : (signedText s.startTime).length ≤ 21 ∧ (signedText s.endTime).length ≤ 21) :
    ∃ t', t.lifetime source clocks s = .ok t' ∧ Of obs tracks shown (spans ++ [s]) t' := by
  obtain ⟨o, hme, hdom, hva⟩ := hsa
  obtain ⟨origin, hori⟩ : ∃ origin, clocks.origin s.domain = some origin := by
    cases hnn : clocks.origin s.domain with
    | none => simp [hcl.untimed s.domain hnn o hme hdom] at hva
    | some origin => exact ⟨origin, rfl⟩
  have hla := hcl.origins s.domain origin hori
  have hle := hla.2 o hme hdom s.startTime hva
  obtain ⟨text, htext, hsho⟩ := picoseconds_shows (sub_nonneg.mpr hle)
  obtain ⟨duration, hdur, hlas⟩ := picoseconds_shows (sub_nonneg.mpr hed)
  obtain ⟨t', tid, hnam, hof⟩ | ⟨-, hnew, -⟩ :=
    h.name source clocks ⟨s.domain, some s.context⟩ (fun c hc => Option.some.inj hc ▸ hco)
  · refine ⟨t'.emit (lifetimeEvent clocks s tid text duration), ?_, ?_⟩
    · unfold Timeline.lifetime
      simp only [hori]
      rw [if_neg (by rintro (hne | hbad); exacts [hne hunit, by omega])]
      exact bind_eq_ok.mpr ⟨(t', tid), hnam, bind_eq_ok.mpr ⟨text, htext,
        bind_eq_ok.mpr ⟨duration, hdur, rfl⟩⟩⟩
    refine Of.emit_lifetime { hof with named := fun track => ?_ } rfl ⟨hlas, origin, hla, hsho⟩
    rw [hof.named, mem_append, mem_singleton]
    exact ⟨fun hor => hor.elim id fun heq => heq ▸ htr, .inl⟩
  · exact absurd htr hnew

lemma all_instants (source : Source) (hcl : Clocks.Of obs clocks)
    (hrs : ∀ o ∈ rest, o ∈ obs ∧ o.Exportable) :
    (∃ t', Timeline.instants source clocks t rest = .ok t' ∧
      Of obs (tracks ++ (timed rest).map Observation.track) (shown ++ timed rest) spans t') ∨
      Timeline.instants source clocks t rest =
          .error (.new "timemachine: Chrome track limit exceeded") ∧
        maxTraceTracks < (tracks ++ (timed rest).map Observation.track).dedup.length := by
  induction rest generalizing t tracks shown with
  | nil => exact .inl ⟨t, rfl, by simpa [timed] using h⟩
  | cons o rest ih =>
    obtain ⟨hme, ho⟩ := hrs o mem_cons_self
    have hrs' := fun a ha => hrs a (mem_cons_of_mem _ ha)
    unfold Timeline.instants
    cases htim : o.timestamp with
    | none =>
      have htimed : timed (o :: rest) = timed rest := by simp [timed, htim]
      rw [htimed]
      exact ih h hrs'
    | some =>
      have htimed : timed (o :: rest) = o :: timed rest := by simp [timed, htim]
      rw [htimed, map_cons]
      obtain ⟨t', hok, hof⟩ | ⟨hrr, hnew, hfull⟩ :=
        h.instant source hcl hme ho htim
      · have hnx := ih hof hrs'
        simp only [append_assoc, singleton_append] at hnx
        simp only [hok]
        exact hnx
      refine .inr ⟨by simp only [hrr]; rfl, ?_⟩
      -- the threads so far and the new one are different
      have hnod : (o.track :: t.tracks.map fst).Nodup :=
        nodup_cons.mpr ⟨fun hme => hnew ((h.named _).mp hme), h.distinct⟩
      have hsub : o.track :: t.tracks.map fst ⊆
          (tracks ++ o.track :: (timed rest).map Observation.track).dedup := by
        intro track htr
        rw [mem_dedup, mem_append]
        rcases mem_cons.mp htr with rfl | htr
        · exact .inr mem_cons_self
        · exact .inl ((h.named track).mp htr)
      have hle := (subperm_of_subset hnod hsub).length_le
      rw [length_cons, length_map] at hle
      omega

lemma all_lifetimes (source : Source) (clocks : Clocks) (coming : List Span)
    (hst : ∀ s ∈ coming, ∀ spans t, Of obs tracks shown spans t →
      ∃ t', t.lifetime source clocks s = .ok t' ∧ Of obs tracks shown (spans ++ [s]) t') :
    ∃ t', Timeline.lifetimes source clocks t coming = .ok t' ∧
      Of obs tracks shown (spans ++ coming) t' := by
  induction coming generalizing t spans with
  | nil => exact ⟨t, rfl, by simpa using h⟩
  | cons s _ ih =>
    obtain ⟨t₁, hok, hof⟩ := hst s mem_cons_self spans t h
    obtain ⟨t', hrs, hof⟩ := ih hof fun s hs => hst s (mem_cons_of_mem _ hs)
    exact ⟨t', bind_eq_ok.mpr ⟨t₁, hok, hrs⟩, by simpa using hof⟩

end

end Of

end Timeline

/-! ### Reports -/

lemma decodeInfo_picoseconds {pf : Profile} {data : List UInt8} {info : Info}
    (h : decodeInfo pf data = .ok info) (hunit : info.timeUnit = .picoseconds) :
    info.timebase = 3 := by
  unfold decodeInfo at h
  split at h
  · cases h
  split_ifs at h
  cases h
  dsimp only at hunit ⊢
  split_ifs at hunit with h1 h2 h3
  exact h3

lemma physicalTimestamp_normalize {info : Info} {tag : Int} (hunit : info.timeUnit = .picoseconds)
    (htime : info.timebase = 3) (hlow : -2 ^ 63 ≤ tag) (hhigh : tag < 2 ^ 64) :
    physicalTimestamp (normalizeTimestamp tag info) = .ok tag ∧
      (normalizeTimestamp tag info).value = some tag := by
  have hva : (normalizeTimestamp tag info).value = some tag := by
    simp [normalizeTimestamp, hunit, htime]
  refine ⟨?_, hva⟩
  unfold physicalTimestamp
  simp only [hva]
  rw [if_neg]
  rintro (hne | hlong)
  · exact hne hunit
  · exact absurd (signedText_length hlow hhigh) (by omega)

namespace Report.Regular

variable {info : Info} {r : Report}

lemma value_range (h : r.Regular info) (hunit : info.timeUnit = .picoseconds)
    (htime : info.timebase = 3) {o : Observation} (ho : o ∈ r.observations) {val : Int}
    (hva : o.value = some val) : (signedText val).length ≤ 21 ∧ o.timestamp ≠ none := by
  obtain ⟨timestamp, htim, hva⟩ := bind_eq_some_iff.mp hva
  obtain ⟨tag, hlow, hhigh, rfl⟩ := h.timestamps o ho timestamp htim
  obtain ⟨-, htag⟩ := physicalTimestamp_normalize hunit htime hlow hhigh
  cases htag.symm.trans hva
  exact ⟨signedText_length hlow hhigh, by simp [htim]⟩

lemma exportable (h : r.Regular info) (hunit : info.timeUnit = .picoseconds)
    (htime : info.timebase = 3) {o : Observation} (ho : o ∈ r.observations) : o.Exportable where
  numbered := h.numbered o ho
  physical := by
    intro timestamp htim
    obtain ⟨tag, hlow, hhigh, rfl⟩ := h.timestamps o ho timestamp htim
    obtain ⟨hphy, hva⟩ := physicalTimestamp_normalize hunit htime hlow hhigh
    exact ⟨tag, hphy, bind_eq_some_iff.mpr ⟨_, htim, hva⟩⟩
  context := h.contexts o ho

end Report.Regular

/-- What is shown of a report. Every time stands for the exact number of microseconds since the
origin of its clock, and every duration for that between two times. -/
structure Exported (r : Report) (trace : Trace) : Prop where
  instants : List.Forall₂ (ShowsInstant r.observations)
    (trace.traceEvents.filter (·.phase = .instant)) (timed r.observations)
  lifetimes : List.Forall₂ (ShowsLifetime r.observations)
    (trace.traceEvents.filter (·.phase = .complete)) r.spans
  metadata : ∀ event ∈ trace.traceEvents, event.phase = .metadata →
    event.timestamp = [] ∧ event.duration = []

lemma timeline_start (obs : List Observation) (clocks : Clocks) :
    Timeline.Of obs [] [] [] ⟨clocks.processEvents, []⟩ := by
  have hph : ∀ evt ∈ clocks.processEvents,
      evt.phase = .metadata ∧ evt.timestamp = [] ∧ evt.duration = [] := by
    intro evt heve
    obtain ⟨domain, -, rfl⟩ := List.mem_map.mp heve
    exact ⟨rfl, rfl, rfl⟩
  have hnn (ph : Phase) (hne : ph ≠ .metadata) :
      clocks.processEvents.filter (·.phase = ph) = [] :=
    filter_eq_nil_iff.mpr fun evt heve => by simp [(hph evt heve).1, hne.symm]
  refine ⟨by simp, by simp, ?_, ?_, fun evt heve _ => (hph evt heve).2⟩
  · rw [hnn .instant (by simp)]
    exact .nil
  · rw [hnn .complete (by simp)]
    exact .nil

lemma chromeTrace_cases {report : NormalizedReport} (hsch : report.schema = reportSchema)
    (hdige : validDigest report.canonicalCaptureSHA256 = true)
    (hunit : report.info.timeUnit = .picoseconds) (htime : report.info.timebase = 3)
    (hreg : report.toReport.Regular report.info) (hso : report.toReport.Sound) :
    (∃ trace, chromeTrace report = .ok trace ∧ Exported report.toReport trace) ∨
      chromeTrace report = .error (.new "timemachine: report clock-domain limit exceeded") ∧
        maxTraceTracks < (report.observations.map Observation.domain).dedup.length ∨
      chromeTrace report = .error (.new "timemachine: Chrome track limit exceeded") ∧
        maxTraceTracks < ((timed report.observations).map Observation.track).dedup.length := by
  have hob := hreg.observations
  have hspa := hreg.spans
  have hdisc := hreg.discontinuities
  unfold chromeTrace
  rw [if_neg (by simp [hsch, hdige, htime, hunit]), if_neg (by omega)]
  obtain ⟨clocks, hcol, hcl⟩ | ⟨hrr, hmany⟩ :=
    Clocks.Of.nil.collect fun o ho => hreg.exportable hunit htime ho
  · rw [nil_append] at hcl
    obtain ⟨t, hins, ht⟩ | ⟨hrr, hmany⟩ :=
      (timeline_start report.observations clocks).all_instants report.source hcl
        fun o ho => ⟨ho, hreg.exportable hunit htime ho⟩
    · obtain ⟨t', hlif, ht'⟩ := ht.all_lifetimes report.source clocks report.spans
        fun s hs spans t ht => by
          obtain ⟨ent, exit, hen, hexit, -, -, ⟨hg, hg'⟩, ⟨he, he'⟩, ⟨hc, -⟩, -, -, hsa, hed⟩ :=
            hso.pairs s hs
          have hdom : ent.domain = s.domain := by
            rw [Observation.domain, Span.domain, hg, he]
          obtain ⟨hlong, htimed⟩ := hreg.value_range hunit htime hen hsa
          obtain ⟨hlong', -⟩ := hreg.value_range hunit htime hexit hed
          refine ht.lifetime hcl ?_ (hreg.contexts ent hen htimed s.context hc)
            ((hreg.units s hs).trans (by rw [hunit])) (hso.elapsed s hs).1
            ⟨ent, hen, hdom, hsa⟩ ⟨hlong, hlong'⟩
          refine List.mem_map.mpr ⟨ent, ?_, ?_⟩
          · exact mem_filter.mpr ⟨hen, isSome_iff_ne_none.mpr htimed⟩
          · rw [Observation.track, hdom, hc]
      refine .inl ⟨_, bind_eq_ok.mpr ⟨clocks, hcol, bind_eq_ok.mpr ⟨t, hins,
        bind_eq_ok.mpr ⟨t', hlif, rfl⟩⟩⟩, ?_⟩
      exact ⟨by simpa using ht'.instants, by simpa using ht'.lifetimes, ht'.metadata⟩
    · refine .inr (.inr ⟨?_, by simpa using hmany⟩)
      rw [hcol]
      change (Timeline.instants _ _ _ _ >>= _) = _
      rw [hrr]
      rfl
  · exact .inr (.inl ⟨by rw [hrr]; rfl, by simpa using hmany⟩)

/-- The export of a report of picoseconds that was normalized fails only if the report has more than
`maxTraceTracks` clocks, or if its packets with a time have more than `maxTraceTracks` threads. -/
theorem chromeTrace_exact (sha256 : Capture → { digest : List UInt8 // digest.length = 32 })
    {capture : Capture} {report : NormalizedReport}
    (h : normalizeReport sha256 capture = .ok report)
    (hunit : report.info.timeUnit = .picoseconds) :
    (∃ trace, chromeTrace report = .ok trace ∧ Exported report.toReport trace) ∨
      chromeTrace report = .error (.new "timemachine: report clock-domain limit exceeded") ∧
        maxTraceTracks < (report.observations.map Observation.domain).dedup.length ∨
      chromeTrace report = .error (.new "timemachine: Chrome track limit exceeded") ∧
        maxTraceTracks < ((timed report.observations).map Observation.track).dedup.length := by
  obtain ⟨⟨profile, info⟩, hvalid, h⟩ := bind_eq_ok.mp h
  obtain ⟨r, hnor, h⟩ := bind_eq_ok.mp h
  cases h
  obtain ⟨⟨profile', info'⟩, hvalid', hnor⟩ := bind_eq_ok.mp hnor
  obtain ⟨rfl, rfl⟩ := Prod.mk.inj (Except.ok.inj (hvalid.symm.trans hvalid'))
  obtain ⟨n, hru, hnor⟩ := bind_eq_ok.mp hnor
  cases hnor
  have hac := validateCapture_ok hvalid
  obtain ⟨data, hinfo⟩ := hac.decoded
  have hreg := hac.regular hru
  have hso := between_zero.generations (Nat.zero_le _) hac.generations hru
  refine chromeTrace_cases rfl ?_ hunit (decodeInfo_picoseconds hinfo hunit) { hreg with }
    { hso with }
  have hlen : (encodeHex (sha256 capture).1).length = 32 * 2 := by
    simp [encodeHex, (sha256 capture).2]
  simp [validDigest, decodeFixedHex, hlen, decodeHex_encodeHex]

/-- A function that takes one picosecond more than three microseconds. -/
def picosecondCapture : Capture :=
  fixtureCapture 3 [
    packetHex 5 0 [7, 0, 0, 0, 0, 0, 0, 0, 9, 0, 0, 0, 0, 0, 0, 0],
    packetHex 10 16 [0, 0, 0, 0, 0, 0, 0, 0, 5, 0, 0, 0, 0, 0, 0, 0],
    packetHex 10 16 [1, 0, 0, 0, 0, 0, 0, 0, 0xC6, 0xC6, 0x2D, 0, 0, 0, 0, 0]]

def constantDigest (_ : Capture) : { digest : List UInt8 // digest.length = 32 } :=
  ⟨List.replicate 32 0, rfl⟩

theorem chromeTrace_exact_picosecond : ∃ report trace,
    normalizeReport constantDigest picosecondCapture = .ok report ∧
      report.info.timeUnit = .picoseconds ∧ chromeTrace report = .ok trace ∧
      (trace.traceEvents.filter (·.phase = .complete)).map TraceEvent.duration =
        ["3.000001".toList] ∧ Exported report.toReport trace := by
  obtain ⟨report, hre, hunit, htrace⟩ : ∃ report,
      normalizeReport constantDigest picosecondCapture = .ok report ∧
        report.info.timeUnit = .picoseconds ∧ (chromeTrace report).toOption.any (fun trace =>
          decide ((trace.traceEvents.filter (·.phase = .complete)).map TraceEvent.duration =
            ["3.000001".toList])) = true := exists_ok (by decide +kernel)
  obtain ⟨trace, hchr, hdur⟩ := exists_ok htrace
  obtain ⟨trace', htrace', hexp⟩ | ⟨hrr, -⟩ | ⟨hrr, -⟩ :=
    chromeTrace_exact constantDigest hre hunit
  · obtain rfl := Except.ok.inj (hchr.symm.trans htrace')
    exact ⟨report, trace, hre, hunit, hchr, hdur, hexp⟩
  · cases hchr.symm.trans hrr
  · cases hchr.symm.trans hrr

end MultiDap.TimeMachine
