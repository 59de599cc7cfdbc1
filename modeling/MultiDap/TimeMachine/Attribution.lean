import MultiDap.TimeMachine.Steps

/-!
# The context of a packet

The normalizer goes through a generation once, and attributes the packets of a segment when it finds
the end of it. `assignedContext` says the same by looking back and ahead from a single packet: to
the nearest delimiter before it, and to the nearest one behind it.
-/

namespace MultiDap.TimeMachine

open List Option

open Normalizer (delimiter attributed attribution marked)

/-! ### Looking back and ahead -/

/-- What the nearest delimiter before a packet says about its context. Without one, the context that
was declared stands. -/
def forwardContext (declared : Option Context) (before : List Packet) : Option Context :=
  match before.reverse.find? delimiter with
  | none => declared.filter knownContext
  | some packet => if packet.kind = .pid then packet.context.filter knownContext else none

/-- The context of a packet between the other packets of its generation. -/
def assignedContext (declared : Option Context) (before after : List Packet) : Option Context :=
  let forward := forwardContext declared before
  match after.find? delimiter with
  | none => forward
  | some packet =>
    if packet.kind ≠ .previousPid then forward
    else
      match packet.context.filter knownContext with
      | none => none
      | some backward => if forward.any (· ≠ backward) then none else some backward

variable {before : List Packet}

lemma forwardContext_append {declared : Option Context} {pkts : List Packet}
    (h : ∀ pkt ∈ pkts, delimiter pkt = false) :
    forwardContext declared (before ++ pkts) = forwardContext declared before := by
  have hnn : pkts.reverse.find? delimiter = none := by simpa using h
  simp [forwardContext, find?_append, hnn]

lemma forwardContext_concat {declared : Option Context} {pkt : Packet}
    (h : delimiter pkt = true) : forwardContext declared (before ++ [pkt]) =
      if pkt.kind = .pid then pkt.context.filter knownContext else none := by
  simp [forwardContext, h]

lemma attribution_fst (forward : Option Context) (ev : Evidence) (backward : Option Context) :
    (attribution forward ev backward).1 =
      match backward with
      | none => forward.filter knownContext
      | some backward =>
        if !knownContext backward then none
        else if (forward.filter knownContext).any (· ≠ backward) then none
        else some backward := by
  unfold attribution
  generalize forward.filter knownContext = forward
  cases backward with
  | none => rfl
  | some backward =>
    cases forward with
    | none => by_cases hkn : knownContext backward <;> simp [hkn]
    | some forward =>
      by_cases hkn : knownContext backward <;> by_cases hsm : forward = backward <;>
        simp [hkn, hsm]

/-! ### Segments -/

/-- An observation as the decoder has left it. -/
def Observation.bare (o : Observation) : Observation :=
  { o with context := none, contextEvidence := .unavailable }

variable {waiting : List Observation} {ev : Evidence}

namespace Normalizer

variable {n n' : Normalizer}

lemma advance_observations (n : Normalizer) (o : Observation) :
    (n.advanceClock o).report.observations = n.report.observations := by
  unfold advanceClock
  split_ifs <;> rfl

variable {ctx : Option Context}

lemma ObserveStep.observations {o : Observation} (h : ObserveStep (n.approach ctx o) ctx o n') :
    n'.report.observations = n.report.observations := by
  have happ : (n.approach ctx o).report.observations = n.report.observations := by
    unfold approach
    rw [advance_observations]
    split_ifs <;> rfl
  rw [← happ]
  cases h with
  | other | unknownClock | unknownContext => rfl
  | function _ _ _ hst => cases hst <;> rfl

lemma segmentLoop_observations (h : segmentLoop ctx ev n waiting = .ok n') :
    n'.report.observations = n.report.observations ++ waiting.map (attributed ctx ev) := by
  induction waiting generalizing n with
  | nil => simpa using congrArg (·.report.observations) (Except.ok.inj h).symm
  | cons _ _ ih =>
    obtain ⟨n₁, hob, hru⟩ := bind_eq_ok.mp h
    rw [ih hru]
    simp [keep, (observe_cases hob).observations]

lemma segment_observations {forward backward : Option Context}
    (h : n.segment waiting forward ev backward = .ok n') :
    n'.report.observations = n.report.observations ++
      waiting.map (attributed (attribution forward ev backward).1
        (attribution forward ev backward).2) := by
  unfold Normalizer.segment at h
  cases waiting with
  | nil => simpa using congrArg (·.report.observations) (Except.ok.inj h).symm
  | cons first =>
    dsimp only at h
    generalize hn₁ : (if conflict forward backward = true then _ else n.advanceClock first) =
      n₁ at h
    have h₁ : n₁.report.observations = n.report.observations := by
      rw [← hn₁, ← n.advance_observations first]
      split_ifs <;> rfl
    split at h
    all_goals
      obtain ⟨n₂, hn₂, h⟩ := bind_eq_ok.mp h
      rw [segmentLoop_observations h, ← h₁]
      congr 1
    · rw [← Except.ok.inj hn₂]
      split_ifs <;> rfl
    · obtain rfl | ⟨-, rfl⟩ := (enter_cases hn₂).2 <;> rfl

end Normalizer

/-! ### Generations -/

/-- What a segment is told by the packets behind it. -/
def backwardContext (after : List Packet) : Option Context :=
  match after.head? with
  | none => none
  | some packet => if packet.kind = .previousPid then packet.context else none

variable {current : Option Context}

lemma attribution_assigned {declared : Option Context} {seen between after : List Packet}
    (hcur : current.filter knownContext = forwardContext declared seen)
    (hbe : ∀ pkt ∈ before, delimiter pkt = false) (hbet : ∀ pkt ∈ between, delimiter pkt = false)
    (hen : ∀ pkt ∈ after.head?, delimiter pkt = true)
    (hnam : ∀ pkt ∈ after.head?, pkt.kind = .previousPid → pkt.context ≠ none) :
    (attribution current ev (backwardContext after)).1 =
      assignedContext declared (seen ++ before) (between ++ after) := by
  have hnn : between.find? delimiter = none := by simpa using hbet
  rw [attribution_fst, hcur]
  unfold assignedContext backwardContext
  rw [forwardContext_append hbe, find?_append, hnn, none_or]
  cases after with
  | nil => rfl
  | cons pkt =>
    rw [find?_cons_of_pos (hen pkt rfl)]
    by_cases hkd : pkt.kind = .previousPid
    · obtain ⟨c, hc⟩ := ne_none_iff_exists'.mp (hnam pkt rfl hkd)
      by_cases hkn : knownContext c <;> simp [hkd, hc, hkn, Option.filter]
    · simp [hkd]

/-- Of the delimiters only those that name a task have a context, and it is the one that they name.
-/
def delimiterContext (packet : Packet) : Option Context :=
  if packet.kind = .pid ∨ packet.kind = .previousPid then packet.context else none

/-- The observations of a part of a generation, with what was found before it and the context that
was declared. -/
structure Assigned (declared : Option Context) (seen : List Packet)
    (observations reported : List Observation) : Prop where
  bare : reported.map Observation.bare = observations.map Observation.bare
  context : ∀ before o after, reported = before ++ o :: after → delimiter o.packet = false →
    o.context = assignedContext declared (seen ++ before.map Observation.packet)
      (after.map Observation.packet)
  delimited : ∀ o ∈ reported, delimiter o.packet = true → o.context = delimiterContext o.packet

namespace Assigned

variable {declared : Option Context} {seen : List Packet} {obs rep : List Observation}

lemma nil : Assigned declared seen [] [] :=
  ⟨rfl, fun before o after heq => absurd heq.symm (by simp), by simp⟩

lemma packets (h : Assigned declared seen obs rep) :
    rep.map Observation.packet = obs.map Observation.packet := by
  have hbare (l : List Observation) :
      l.map Observation.packet = (l.map Observation.bare).map Observation.packet := by
    rw [List.map_map]
    rfl
  rw [hbare, h.bare, ← hbare]

lemma delimiter_cons {o o' : Observation} (ho : delimiter o.packet = true)
    (hbare : o'.bare = o.bare) (hco : o'.context = delimiterContext o.packet)
    (h : Assigned declared (seen ++ [o.packet]) obs rep) :
    Assigned declared seen (o :: obs) (o' :: rep) where
  bare := by rw [map_cons, map_cons, hbare, h.bare]
  context := by
    have hpac : o'.packet = o.packet := congrArg (fun o => o.packet) hbare
    intro before a after heq ha
    cases before with
    | nil =>
      obtain ⟨rfl, -⟩ := List.cons.inj heq
      rw [hpac, ho] at ha
      cases ha
    | cons _ before =>
      obtain ⟨rfl, htail⟩ := List.cons.inj heq
      simpa [hpac] using h.context before a after htail ha
  delimited := by
    have hpac : o'.packet = o.packet := congrArg (fun o => o.packet) hbare
    intro a ha hdel
    rcases mem_cons.mp ha with rfl | ha
    · rw [hco, hpac]
    · exact h.delimited a ha hdel

lemma segment (ev : Evidence) (hcur : current.filter knownContext = forwardContext declared seen)
    (hwai : ∀ o ∈ waiting, delimiter o.packet = false)
    (hen : ∀ pkt ∈ (obs.map Observation.packet).head?, delimiter pkt = true ∧
      (pkt.kind = .previousPid → pkt.context ≠ none)) {ctx : Option Context × Evidence}
    (hco : ctx = attribution current ev (backwardContext (obs.map Observation.packet)))
    (h : Assigned declared (seen ++ waiting.map Observation.packet) obs rep) :
    Assigned declared seen (waiting ++ obs) (waiting.map (attributed ctx.1 ctx.2) ++ rep) where
  bare := by
    have hwai : (waiting.map (attributed ctx.1 ctx.2)).map Observation.bare =
        waiting.map Observation.bare := by
      rw [List.map_map]
      rfl
    rw [List.map_append, List.map_append, hwai, h.bare]
  context := by
    have hmap : (waiting.map (attributed ctx.1 ctx.2)).map Observation.packet =
        waiting.map Observation.packet := by
      rw [List.map_map]
      rfl
    intro before o after heq ho
    obtain ⟨between, hbe, haft⟩ | ⟨between, hbe, haft⟩ :=
      List.append_eq_append_iff.mp heq
    · simpa [hbe, hmap] using h.context between o after haft ho
    cases between with
    | nil =>
      -- the packet is the first one behind the segment
      rw [List.nil_append] at haft
      rw [List.append_nil] at hbe
      simpa [← hbe, hmap] using h.context [] o after haft.symm ho
    | cons _ between =>
      obtain ⟨rfl, htail⟩ := List.cons.inj haft
      have htail : after = between ++ rep := htail
      have hin {a : Observation} (ha : a ∈ before ++ o :: between) :
          delimiter a.packet = false := by
        obtain ⟨b, hb, rfl⟩ := List.mem_map.mp (hbe ▸ ha)
        exact hwai b hb
      have hoco : o.context = ctx.1 := by
        obtain ⟨b, -, rfl⟩ := List.mem_map.mp
          (hbe ▸ List.mem_append_right before List.mem_cons_self)
        rfl
      rw [hoco, hco, htail, List.map_append, h.packets]
      refine attribution_assigned hcur (fun pkt hp => ?_) (fun pkt hp => ?_)
        (fun pkt hp => (hen pkt hp).1) (fun pkt hp => (hen pkt hp).2)
      · obtain ⟨a, ha, rfl⟩ := List.mem_map.mp hp
        exact hin (List.mem_append_left _ ha)
      · obtain ⟨a, ha, rfl⟩ := List.mem_map.mp hp
        exact hin (List.mem_append_right _ (List.mem_cons_of_mem _ ha))
  delimited := by
    intro a ha hdel
    rcases List.mem_append.mp ha with ha | ha
    · obtain ⟨b, hb, rfl⟩ := List.mem_map.mp ha
      exact absurd hdel (by simp [attributed, hwai b hb])
    · exact h.delimited a ha hdel

end Assigned

/-- The induction is on the packets that come. The context that stands so far is that of the nearest
delimiter, which lies before the packets that are waiting. -/
lemma Normalizer.generationLoop_assigned {declared : Option Context}
    {seen : List Packet} {n n' : Normalizer} {rest : List Observation}
    (hcur : current.filter knownContext = forwardContext declared seen)
    (hwai : ∀ o ∈ waiting, delimiter o.packet = false)
    (hnam : ∀ o ∈ rest, o.packet.kind = .previousPid → o.packet.context ≠ none)
    (hnn : ∀ o ∈ rest, o.context = none) (hru : n.generationLoop waiting current ev rest = .ok n') :
    ∃ rep, n'.report.observations = n.report.observations ++ rep ∧
      Assigned declared seen (waiting ++ rest) rep := by
  induction rest generalizing n waiting current ev seen with
  | nil =>
    refine ⟨_, segment_observations hru, ?_⟩
    simpa [backwardContext] using Assigned.nil.segment ev hcur hwai (by simp) rfl
  | cons o rest ih =>
    have hnam' := fun a ha => hnam a (List.mem_cons_of_mem _ ha)
    have hnn' := fun a ha => hnn a (List.mem_cons_of_mem _ ha)
    -- a delimiter that ends the segment, and what follows it
    have hst (n₁ : Normalizer) {n₂ : Normalizer} (o' : Observation) {current' : Option Context}
        {ev' : Evidence} (ho : delimiter o.packet = true) (hbare : o'.bare = o.bare)
        (hco : o'.context = delimiterContext o.packet)
        (hseg : n.segment waiting current ev
          (backwardContext ((o :: rest).map Observation.packet)) = .ok n₁)
        (hkp : n₂.report.observations = n₁.report.observations ++ [o'])
        (hcur' : current'.filter knownContext =
          if o.packet.kind = .pid then o.packet.context.filter knownContext else none)
        (hru : n₂.generationLoop [] current' ev' rest = .ok n') :
        ∃ rep, n'.report.observations = n.report.observations ++ rep ∧
          Assigned declared seen (waiting ++ o :: rest) rep := by
      have hnx : current'.filter knownContext = forwardContext declared
          (seen ++ waiting.map Observation.packet ++ [o.packet]) :=
        hcur'.trans (forwardContext_concat ho).symm
      obtain ⟨rep, hre, hass⟩ := ih hnx (by simp) hnam' hnn' hru
      refine ⟨_, ?_, (hass.delimiter_cons ho hbare hco).segment ev hcur hwai ?_ rfl⟩
      · rw [hre, hkp, segment_observations hseg]
        simp
      · simpa using ⟨ho, hnam o List.mem_cons_self⟩
    unfold Normalizer.generationLoop at hru
    split at hru
    case h_1 hkd =>
      obtain ⟨n₁, hseg, hru⟩ := bind_eq_ok.mp hru
      refine hst n₁ (marked .nativePidForFollowingPackets o) (by simp [delimiter, hkd]) rfl
        (by simp [delimiterContext, marked, hkd]) ?_ ?_ (by rw [if_pos hkd]) hru
      · simpa [backwardContext, hkd] using hseg
      · simp [keep, marked, advance_observations]
    case h_2 hkd =>
      obtain ⟨n₁, hseg, hru⟩ := bind_eq_ok.mp hru
      refine hst n₁ (marked .nativePreviousPidForPrecedingPackets o) (by simp [delimiter, hkd]) rfl
        (by simp [delimiterContext, marked, hkd]) ?_ ?_ (by simp [hkd]) hru
      · simpa [backwardContext, hkd] using hseg
      · simp [keep, marked, advance_observations]
    case h_3 hpid hpre =>
      split_ifs at hru with hbar
      · obtain ⟨n₁, hseg, hru⟩ := bind_eq_ok.mp hru
        refine hst n₁ o (by simp [delimiter, hbar]) rfl ?_ ?_ ?_ ?_ hru
        · rw [hnn o List.mem_cons_self, delimiterContext, if_neg (not_or.mpr ⟨hpid, hpre⟩)]
        · have hne : o.packet.kind ≠ .previousPid := hpre
          simpa [backwardContext, hne] using hseg
        · change (n₁.advanceClock o).report.observations ++ [o] = _
          rw [advance_observations]
        have hne : o.packet.kind ≠ .pid := hpid
        rw [if_neg hne]
        rfl
      · have hass := ih hcur (fun a ha => ?_) hnam' hnn' hru
        · simpa using hass
        rcases List.mem_append.mp ha with ha | ha
        · exact hwai a ha
        · simpa [mem_singleton.mp ha, delimiter, hbar] using ⟨hpid, hpre⟩

/-! ### Captures -/

lemma littleEndian_lt (data : List UInt8) (offset size : Nat) :
    littleEndian data offset size < 256 ^ size := by
  have hfold (l : List UInt8) :
      l.foldr (fun byte number => byte.toNat + 256 * number) 0 < 256 ^ l.length := by
    induction l with
    | nil => simp
    | cons byte =>
      have := byte.toNat_lt
      rw [foldr_cons, length_cons, Nat.pow_succ]
      omega
  refine Nat.lt_of_lt_of_le (hfold _) (Nat.pow_le_pow_right (by omega) ?_)
  rw [length_take]
  omega

/-- What holds of every packet that is decoded. -/
structure Packet.Sane (p : Packet) : Prop where
  tag : ∀ tag, p.tag = some tag → -2 ^ 63 ≤ tag ∧ tag < 2 ^ 64
  context : ∀ c, p.context = some c → validContext c = true
  named : p.kind = .previousPid → p.context ≠ none
  untimed : p.kind = .pid ∨ p.kind = .previousPid → p.tag = none

lemma decodePacket_sane {pf : Profile} {data : List UInt8} {pkt : Packet}
    (h : decodePacket pf data = .ok pkt) : pkt.Sane := by
  have hwide (data : List UInt8) (offset : Nat) : littleEndian data offset 8 < 2 ^ 64 :=
    littleEndian_lt data offset 8
  have hpl {p : Packet} (htag : p.tag = none) (hco : p.context = none)
      (hkd : p.kind ≠ .previousPid) : p.Sane :=
    ⟨by simp [htag], by simp [hco], fun hk => absurd hk hkd, fun _ => htag⟩
  have htimed {p : Packet} {word : Nat} (hword : word < 2 ^ 64)
      (htag : p.tag = some (if pf.signedTimetags = true then signed64 word else (word : Int)))
      (hco : p.context = none) (hkd : p.kind ≠ .pid) (hkd' : p.kind ≠ .previousPid) :
      p.Sane := by
    refine ⟨fun tag h => ?_, by simp [hco], fun hk => absurd hk hkd',
      fun hk => absurd hk (not_or.mpr ⟨hkd, hkd'⟩)⟩
    cases htag.symm.trans h
    unfold signed64
    split_ifs <;> omega
  have htask {p : Packet} {task space : Nat} (hpid : task < 2 ^ 64) (hspa : space < 2 ^ 64)
      (htag : p.tag = none) (hco : p.context = some ⟨task, space⟩) : p.Sane := by
    refine ⟨by simp [htag], fun c h => ?_, by simp [hco], fun _ => htag⟩
    cases hco.symm.trans h
    exact Bool.and_eq_true_iff.mpr ⟨decide_eq_true hpid, decide_eq_true hspa⟩
  unfold decodePacket at h
  iterate 3
    split at h
    · cases h
  dsimp only at h
  split at h
  all_goals first
    | exact Except.ok.inj h ▸ hpl rfl rfl (by simp)
    | exact Except.ok.inj h ▸ htimed (hwide _ _) rfl rfl (by simp) (by simp)
    | exact Except.ok.inj h ▸ htask (hwide _ _) (hwide _ _) rfl rfl
    | skip
  -- packets whose payload is checked, and those of the newer format
  all_goals
    split at h
    all_goals first
      | exact Except.ok.inj h ▸ hpl rfl rfl (by simp)
      | exact Except.ok.inj h ▸ htimed (hwide _ _) rfl rfl (by simp) (by simp)
      | exact Except.ok.inj h ▸ htask (hwide _ _) (hwide _ _) rfl rfl
      | cases h

/-- Where a packet was found, and what it says. -/
def Observation.number (o : Observation) : Nat × Nat × Except Error Packet :=
  (o.generation, o.index, .ok o.packet)

def Generation.numberedFrom (profile : Profile) (generation : Generation) (index : Nat)
    (encoded : List (List Char)) : List (Nat × Nat × Except Error Packet) :=
  (encoded.zipIdx index).map fun (text, i) =>
    (generation.id.toNat, generation.firstIndex.toNat + i,
      decodePacket profile ((decodeHex text).getD []))

/-- The packets of a generation as the format reads them, with their numbers. -/
def Generation.numbered (profile : Profile) (generation : Generation) :
    List (Nat × Nat × Except Error Packet) :=
  generation.numberedFrom profile 0 (generation.packetsHex.getD [])

variable {gen : Generation}

lemma observePackets_numbered {pf : Profile} {info : Info}
    {enc : List (List Char)} {st st' : Statistics} {idx cep : Nat}
    {lastTag : Option Int} {obs : List Observation}
    (hind : enc.length ≠ 0 → gen.firstIndex.toNat + idx + enc.length ≤ 2 ^ 64)
    (hru : observePackets pf info gen st idx lastTag cep enc = .ok (obs, st')) :
    obs.map Observation.number = gen.numberedFrom pf idx enc ∧
      ∀ o ∈ obs, o.packet.Sane ∧ o.context = none ∧ cep ≤ o.clockEpoch ∧
        o.timestamp = o.packet.tag.map (normalizeTimestamp · info) := by
  induction enc generalizing st st' idx lastTag cep obs with
  | nil =>
    obtain ⟨rfl, -⟩ := Prod.mk.inj (Except.ok.inj hru)
    simp [Generation.numberedFrom]
  | cons _ _ ih =>
    obtain ⟨pkt, hpac, hru⟩ := bind_eq_ok.mp hru
    obtain ⟨⟨tail, _⟩, hrs, hru⟩ := bind_eq_ok.mp hru
    obtain ⟨rfl, -⟩ := Prod.mk.inj (Except.ok.inj hru)
    have hbou := hind (by simp)
    rw [length_cons] at hbou
    obtain ⟨htail, hdec⟩ := ih (fun _ => by omega) hrs
    have hwrap : gen.firstIndex.toNat + idx < 2 ^ 64 := by omega
    refine ⟨?_, fun o ho => ?_⟩
    · rw [map_cons, htail]
      simpa [Generation.numberedFrom, Observation.number, hpac, zipIdx_cons,
        Nat.mod_eq_of_lt] using hwrap
    rcases mem_cons.mp ho with rfl | ho
    · refine ⟨decodePacket_sane hpac, rfl, ?_, rfl⟩
      dsimp only
      split_ifs <;> omega
    obtain ⟨hsane, hnn, hep, htime⟩ := hdec o ho
    refine ⟨hsane, hnn, Nat.le_trans ?_ hep, htime⟩
    split_ifs <;> omega

/-- The observations of a generation: its packets in their order, each with the context that the
other packets of the generation assign to it. -/
structure Reported (profile : Profile) (info : Info) (source : Source) (first : Bool)
    (generation : Generation) (reported : List Observation) : Prop where
  numbered : reported.map Observation.number = generation.numbered profile
  decoded : ∀ o ∈ reported, o.packet.Sane ∧ 0 < o.clockEpoch ∧
    o.timestamp = o.packet.tag.map (normalizeTimestamp · info)
  delimited : ∀ o ∈ reported, delimiter o.packet = true → o.context = delimiterContext o.packet
  context : ∀ before o after, reported = before ++ o :: after → delimiter o.packet = false →
    o.context = assignedContext (Normalizer.declared source first generation)
      (before.map Observation.packet) (after.map Observation.packet)

namespace Normalizer

variable {pf : Profile} {info : Info} {source : Source} {n n' : Normalizer} {first : Bool}

lemma generation_reported (hnum : gen.Numberable)
    (hru : n.generation pf info source first gen = .ok n') :
    ∃ rep, n'.report.observations = n.report.observations ++ rep ∧
      Reported pf info source first gen rep := by
  obtain ⟨obs, st, n₁, hob, hloop, rfl⟩ := generation_cases hru
  obtain ⟨hnumb, hdec⟩ := observePackets_numbered (by exact hnum.2) hob
  have hdecl : (declared source first gen).filter knownContext =
      forwardContext (declared source first gen) [] := rfl
  obtain ⟨rep, hre, hass⟩ :=
    generationLoop_assigned hdecl (by simp) (fun o ho => (hdec o ho).1.named)
      (fun o ho => (hdec o ho).2.1) hloop
  refine ⟨rep, ?_, ?_, fun o ho => ?_, hass.delimited, hass.context⟩
  · refine hre.trans ?_
    congr 1
    unfold enterGeneration
    dsimp only
    split_ifs <;> rfl
  · have hbare (l : List Observation) :
        l.map Observation.number = (l.map Observation.bare).map Observation.number := by
      rw [List.map_map]
      rfl
    rw [hbare, hass.bare, ← hbare]
    exact hnumb
  -- what is decoded is reported with another context at most
  obtain ⟨a, ha, hbare⟩ : ∃ a ∈ obs, a.bare = o.bare := by
    have hme := List.mem_map_of_mem ho (f := Observation.bare)
    rw [hass.bare] at hme
    exact List.mem_map.mp hme
  obtain ⟨hsane, -, hep, htime⟩ := hdec a ha
  have hpac : a.packet = o.packet := congrArg (fun o => o.packet) hbare
  have hcl : a.clockEpoch = o.clockEpoch := congrArg (fun o => o.clockEpoch) hbare
  have htim : a.timestamp = o.timestamp := congrArg (fun o => o.timestamp) hbare
  rw [← hpac, ← hcl, ← htim]
  exact ⟨hsane, hep, htime⟩

lemma generations_numbered {gens : List Generation} (hnum : ∀ gen ∈ gens, gen.Numberable)
    (hru : n.generations pf info source first gens = .ok n') :
    ∃ rep, n'.report.observations = n.report.observations ++ rep ∧
      rep.map Observation.number = gens.flatMap (Generation.numbered pf) := by
  induction gens generalizing n first with
  | nil => exact ⟨[], by simpa using congrArg (·.report.observations) (Except.ok.inj hru).symm, rfl⟩
  | cons gen _ ih =>
    obtain ⟨n₁, hn₁, hru⟩ := bind_eq_ok.mp hru
    obtain ⟨rep, hre, hge⟩ :=
      generation_reported (hnum gen List.mem_cons_self) hn₁
    obtain ⟨tail, htail, hrs⟩ := ih (fun g hg => hnum g (List.mem_cons_of_mem _ hg)) hru
    refine ⟨rep ++ tail, by rw [htail, hre, append_assoc], ?_⟩
    rw [List.map_append, hge.numbered, hrs, flatMap_cons]

lemma generations_split {earlier later : List Generation}
    (hru : n.generations pf info source first (earlier ++ gen :: later) = .ok n') :
    ∃ n₁ n₂, n.generations pf info source first earlier = .ok n₁ ∧
      n₁.generation pf info source (first && earlier.isEmpty) gen = .ok n₂ ∧
      n₂.generations pf info source false later = .ok n' := by
  induction earlier generalizing n first with
  | nil =>
    obtain ⟨n₂, hn₂, hru⟩ := bind_eq_ok.mp hru
    exact ⟨n, n₂, rfl, by simpa using hn₂, hru⟩
  | cons _ _ ih =>
    obtain ⟨n₀, hn₀, hru⟩ := bind_eq_ok.mp hru
    obtain ⟨n₁, n₂, hn₁, hn₂, hru⟩ := ih hru
    exact ⟨n₁, n₂, bind_eq_ok.mpr ⟨n₀, hn₀, hn₁⟩, by simpa using hn₂, hru⟩

end Normalizer

/-- For every generation of a capture that is accepted, the report holds its packets in one piece,
behind those of the earlier generations. The context of every packet that is no delimiter is the one
that is found by looking back and ahead within the generation. -/
theorem normalize_assigned {capture : Capture} {report : Report}
    (h : normalize capture = .ok report) :
    ∃ profile info, validateCapture capture = .ok (profile, info) ∧
      ∀ earlier generation later, capture.generations = earlier ++ generation :: later →
        ∃ before reported after, report.observations = before ++ reported ++ after ∧
          before.map Observation.number = earlier.flatMap (Generation.numbered profile) ∧
          Reported profile info capture.source earlier.isEmpty generation reported := by
  obtain ⟨⟨profile, info⟩, hva, h⟩ := bind_eq_ok.mp h
  obtain ⟨n, hru, h⟩ := bind_eq_ok.mp h
  cases h
  have hac := validateCapture_ok hva
  obtain ⟨hnum, -⟩ := validateGenerations_ok (Nat.zero_le _) hac.generations
  refine ⟨profile, info, hva, fun earlier generation later heq => ?_⟩
  rw [heq] at hru hnum
  obtain ⟨n₁, n₂, hear, hge, hla⟩ := Normalizer.generations_split hru
  obtain ⟨before, hbe, hnumb⟩ := Normalizer.generations_numbered
    (fun g hg => hnum g (List.mem_append_left _ hg)) hear
  obtain ⟨reported, hre, hge⟩ := Normalizer.generation_reported
    (hnum generation (List.mem_append_right _ List.mem_cons_self)) hge
  obtain ⟨after, haft, -⟩ := Normalizer.generations_numbered
    (fun g hg => hnum g (List.mem_append_right _ (List.mem_cons_of_mem _ hg))) hla
  refine ⟨before, reported, after, ?_, hnumb, hge⟩
  change n.report.observations = _
  rw [haft, hre, hbe]
  rfl

/-- A function is entered before its task is named, and left when nothing is known any more. -/
def switchCapture : Capture :=
  fixtureCapture 2 [
    packetHex 10 16 [0, 0, 0, 0, 0, 0, 0, 0, 0, 1, 0, 0, 0, 0, 0, 0],
    packetHex 13 0 [7, 0, 0, 0, 0, 0, 0, 0, 9, 0, 0, 0, 0, 0, 0, 0],
    packetHex 10 16 [1, 0, 0, 0, 0, 0, 0, 0, 0, 2, 0, 0, 0, 0, 0, 0]]

theorem normalize_assigned_switch : ∃ report, normalize switchCapture = .ok report ∧
    report.observations.map Observation.context = [some ⟨7, 9⟩, some ⟨7, 9⟩, none] ∧
    ∃ profile info before reported after, report.observations = before ++ reported ++ after ∧
      ∃ generation, Reported profile info switchCapture.source true generation reported := by
  obtain ⟨report, hrepo, hcont⟩ : ∃ report, normalize switchCapture = .ok report ∧
      report.observations.map Observation.context = [some ⟨7, 9⟩, some ⟨7, 9⟩, none] :=
    exists_ok (by decide +kernel)
  obtain ⟨profile, info, -, hass⟩ := normalize_assigned hrepo
  obtain ⟨before, reported, after, hspl, -, hre⟩ := hass [] _ [] rfl
  exact ⟨report, hrepo, hcont, profile, info, before, reported, after, hspl, _, hre⟩

end MultiDap.TimeMachine
