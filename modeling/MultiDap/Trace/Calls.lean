import MultiDap.Trace.Client

/-!
# The calls of a client

What a step of a call can do, and what holds in every state that a client and its goroutines reach:
one call is inside the gate at a time, the pending call is its own, and the frame that it gets is
the first one that carries its number.
-/

namespace MultiDap.Trace

open Machine List Option

namespace Client

/-! ### Phases -/

def Phase.inside : Phase → Bool
  | .entering | .gating | .returned _ => false
  | _ => true

def Phase.early : Phase → Bool
  | .entering | .gating | .gated | .encoding _ => true
  | _ => false

/-- Between the second locked section and the deferred one, if the call got that far. -/
def Phase.busy : Phase → Bool
  | .writing | .waiting | .received _ | .committing .. | .aborting .. | .failing _ | .leaving _ =>
    true
  | _ => false

/-- A phase that only a call reaches whose request was handed to the writer. -/
def Phase.handed : Phase → Bool
  | .writing | .waiting | .received _ | .committing .. | .leaving _ => true
  | _ => false

def Phase.outcome : Phase → Option Outcome
  | .leaving outcome | .ungating outcome | .returned outcome => some outcome
  | _ => none

/-- What the call is about to succeed with, or has succeeded with. -/
def Phase.success : Phase → Option Success
  | .committing frame generation => some ⟨frame, generation⟩
  | .leaving (.ok success) | .ungating (.ok success) | .returned (.ok success) => some success
  | _ => none

def Phase.frame : Phase → Option Frame
  | .received frame => some frame
  | phase => phase.success.map (·.frame)

attribute [simp] Phase.early Phase.handed Phase.outcome Phase.success Phase.frame

/-! ### Moves -/

/-- Where a call may go without changing the client. -/
inductive Goes (c : Client) (call : Call) : Phase → Prop where
  | cancelled {ended : Sentinel} (h : call.phase = .entering ∨ call.phase = .gating) :
    Goes c call (.returned (.error (.context ended)))
  | wait (h : call.phase = .entering) : Goes c call .gating
  | shut (h : call.phase = .gating) (habo : c.aborted = true) :
    Goes c call (.returned (.error c.abortError))
  | refused {failure : Failure} (h : call.phase = .gated ∨ ∃ n, call.phase = .encoding n) :
    Goes c call (.ungating (.error failure))
  | admitted (h : call.phase = .gated) (hpo : c.poisoned = false) :
    Goes c call (.encoding (c.nextSeq + 1))
  | unfit {fault : Fault} (h : call.phase = .gated ∨ ∃ n, call.phase = .encoding n) :
    Goes c call (.aborting fault false)
  | sent (h : call.phase = .writing) : Goes c call .waiting
  | broken {fault : Fault} {context : Bool} (h : call.phase.handed = true)
    (houtc : call.phase.outcome = none) : Goes c call (.aborting fault context)
  | failing {context : Bool} (h : call.phase.handed = true ∨ ∃ n, call.phase = .encoding n)
    (houtc : call.phase.outcome = none) (hpo : c.aborted = true ∨ c.poisoned = true) :
    Goes c call (.failing context)
  | stale {frame : Frame} (h : call.phase = .received frame) (hop : call.op = .read) :
    Goes c call (.leaving (.error .staleGeneration))
  | validated {frame : Frame} {generation : Nat} {result : Option HelperSession.Reply}
    (h : call.phase = .received frame) (hok : frame.verdict = .ok result)
    (hva : validate c.infoSize call.op call.read result = some generation) :
    Goes c call (.committing frame generation)
  | failed {context : Bool} {fault : Option Fault} (h : call.phase = .failing context)
    (hse : call.seq.isSome = true) : Goes c call (.leaving (.error (.fault fault)))
  | unhanded {context : Bool} {fault : Option Fault} (h : call.phase = .failing context)
    (hse : call.seq = none) : Goes c call (.ungating (.error (.fault fault)))

/-- What a step of a call does to the client and to the call. -/
inductive Move (c : Client) (call : Call) : Client → Call → Prop where
  | goes {phase : Phase} (h : Goes c call phase) : Move c call c { call with phase }
  | gate (h : call.phase = .gating) (hgate : c.gate = true) :
    Move c call { c with gate := false } { call with phase := .gated }
  | hand {n : Nat} (h : call.phase = .encoding n) (hpo : c.poisoned = false) :
    Move c call (c.hand n call.op)
      { call with seq := some n, writer := .running, phase := .writing }
  | take {p : Pending} {frame : Frame} (h : call.phase = .waiting) (hp : c.pending = some p)
    (hfra : p.response = some frame) :
    Move c call { c with pending := some { p with response := none } }
      { call with phase := .received frame }
  | commit {frame : Frame} {generation : Nat} {c' : Client}
    (h : call.phase = .committing frame generation)
    (hcom : c.commit call.op generation call.ended = .committed c') :
    Move c call c' { call with phase := .leaving (.ok ⟨frame, generation⟩) }
  | abort {fault : Fault} {context : Bool} (h : call.phase = .aborting fault context) :
    Move c call (c.abortWith fault) { call with phase := .failing context }
  | retract {outcome : Outcome} (h : call.phase = .leaving outcome) :
    Move c call (c.retract call.seq) { call with phase := .ungating outcome }
  | ungate {outcome : Outcome} (h : call.phase = .ungating outcome) :
    Move c call { c with gate := true } { call with phase := .returned outcome }

variable {c : Client} {op : Operation}
variable {verdict : Except String (Option HelperSession.Reply)}

lemma judge_stale {read : ReadArgs} (h : c.judge op read verdict = .stale) :
    op = .read ∧ verdict = .error "stale_generation" := by
  unfold judge at h
  split at h
  · split_ifs at h with hrec
    simpa [recoverable] using hrec
  · split at h <;> cases h

variable {generation : Nat}

lemma judge_valid {read : ReadArgs} (h : c.judge op read verdict = .valid generation) :
    ∃ res, verdict = .ok res ∧ validate c.infoSize op read res = some generation := by
  cases verdict with
  | error =>
    simp only [judge] at h
    split_ifs at h
  | ok res =>
    simp only [judge] at h
    split at h
    · cases h
    rename_i hva
    cases h
    exact ⟨res, rfl, hva⟩

section

variable (c : Client) (fault : Fault)

@[simp] lemma poisoned_abortWith : (c.abortWith fault).poisoned = true := by
  unfold abortWith
  split_ifs with h
  · exact h
  · rfl

@[simp] lemma gate_abortWith : (c.abortWith fault).gate = c.gate := by
  unfold abortWith
  split_ifs <;> rfl

@[simp] lemma pending_abortWith : (c.abortWith fault).pending = c.pending := by
  unfold abortWith
  split_ifs <;> rfl

@[simp] lemma nextSeq_abortWith : (c.abortWith fault).nextSeq = c.nextSeq := by
  unfold abortWith
  split_ifs <;> rfl

@[simp] lemma infoSize_abortWith : (c.abortWith fault).infoSize = c.infoSize := by
  unfold abortWith
  split_ifs <;> rfl

@[simp] lemma lastGeneration_abortWith : (c.abortWith fault).lastGeneration = c.lastGeneration := by
  unfold abortWith
  split_ifs <;> rfl

@[simp] lemma aborted_abortWith : (c.abortWith fault).aborted = c.aborted := by
  unfold abortWith
  split_ifs <;> rfl

end

/-- What the last section of a call leaves alone. -/
structure Kept (c c' : Client) : Prop where
  gate : c'.gate = c.gate
  pending : c'.pending = c.pending
  nextSeq : c'.nextSeq = c.nextSeq
  poisoned : c'.poisoned = c.poisoned
  aborted : c'.aborted = c.aborted
  infoSize : c'.infoSize = c.infoSize

variable {ended : Option Sentinel}

lemma commit_of_poisoned (h : c.commit op generation ended = .poisoned) : c.poisoned = true := by
  unfold commit at h
  by_cases hpo : c.poisoned = true
  · exact hpo
  cases ended with
  | some => simp [hpo] at h
  | none => by_cases hreg : generation ≠ 0 ∧ generation < c.lastGeneration <;>
      simp [hpo, hreg] at h

lemma kept_record (c : Client) (op : Operation) (generation : Nat) :
    Kept c (c.record op generation) := by
  unfold record
  split_ifs <;> cases op <;> exact ⟨rfl, rfl, rfl, rfl, rfl, rfl⟩

@[simp] lemma lastGeneration_record (c : Client) (op : Operation) (generation : Nat) :
    (c.record op generation).lastGeneration =
      if generation ≠ 0 then generation else c.lastGeneration := by
  unfold record
  split_ifs <;> cases op <;> rfl

variable {c c' : Client}

lemma commit_of_committed (h : c.commit op generation ended = .committed c') :
    c.poisoned = false ∧ c' = c.record op generation ∧
      (generation ≠ 0 → c.lastGeneration ≤ generation) := by
  unfold commit at h
  by_cases hpo : c.poisoned = true
  · simp [hpo] at h
  cases ended with
  | some => simp [hpo] at h
  | none =>
    by_cases hreg : generation ≠ 0 ∧ generation < c.lastGeneration
    · simp [hpo, hreg] at h
    simp only [hpo, hreg, Bool.false_eq_true, if_false, Commit.committed.injEq] at h
    exact ⟨by simpa using hpo, h.symm, by omega⟩

variable {ph : Phase}

namespace Link

variable {w v : Link} {k : Nat} {call : Call} {turn : Turn}

/-- The call at this place makes a move, and nothing else changes. -/
def Moves (w : Link) (k : Nat) (call : Call) (v : Link) : Prop :=
  ∃ c' call', Move w.c call c' call' ∧ v = { w with c := c' }.put k call'

lemma moves_goes (h : Goes w.c call ph) :
    w.Moves k call (w.goto k call w.c ph) := ⟨_, _, .goes h, rfl⟩

lemma gateTurn_cases (hph : call.phase = .gating) (h : w.gateTurn k call turn = some v) :
    w.Moves k call v := by
  cases turn with
  | ready =>
    simp only [gateTurn] at h
    split_ifs at h with hgate
    cases h
    exact ⟨_, _, .gate hph hgate, rfl⟩
  | ended =>
    obtain ⟨ended, -, rfl⟩ := map_eq_some_iff.mp h
    exact moves_goes (.cancelled (.inr hph))
  | aborted =>
    simp only [gateTurn] at h
    split_ifs at h with habo
    cases h
    exact moves_goes (.shut hph habo)
  | next => cases h
  | encode => cases h

lemma awaitTurn_cases {ready : Option Link} (hha : call.phase.handed = true)
    (houtc : call.phase.outcome = none) (hready : ∀ v, ready = some v → w.Moves k call v)
    (h : w.awaitTurn k call ready turn = some v) : w.Moves k call v := by
  cases turn with
  | ready => exact hready v h
  | ended =>
    obtain ⟨ended, -, rfl⟩ := map_eq_some_iff.mp h
    exact moves_goes (.broken hha houtc)
  | aborted =>
    simp only [awaitTurn] at h
    split_ifs at h with habo
    cases h
    exact moves_goes (.failing (.inl hha) houtc (.inl habo))
  | next => cases h
  | encode => cases h

lemma letIn_cases (hph : call.phase = .gated) : w.Moves k call (w.letIn k call) := by
  unfold letIn
  split
  · exact moves_goes (.refused (.inl hph))
  unfold admission
  split_ifs with hpo
  · exact moves_goes (.refused (.inl hph))
  · exact moves_goes (.refused (.inl hph))
  · exact moves_goes (.refused (.inl hph))
  · exact moves_goes (.refused (.inl hph))
  · exact moves_goes (.unfit (.inl hph))
  · exact moves_goes (.admitted hph (by simpa using hpo))

lemma hand_cases {n : Nat} (hph : call.phase = .encoding n) (tooLarge : Bool) :
    w.Moves k call (w.hand k call n tooLarge) := by
  unfold hand
  cases tooLarge with
  | true => exact moves_goes (.refused (.inr ⟨n, hph⟩))
  | false =>
  cases hen : call.ended with
  | some => exact moves_goes (.refused (.inr ⟨n, hph⟩))
  | none =>
    simp only [Bool.false_eq_true, if_false]
    split_ifs with hpo hexi
    · exact moves_goes (.failing (.inr ⟨n, hph⟩) (by rw [hph]; rfl) (.inr hpo))
    · exact moves_goes (.unfit (.inr ⟨n, hph⟩))
    · exact ⟨_, _, .hand hph (by simpa using hpo), by simp only [goto, hen]⟩

lemma inspect_cases {frame : Frame} (hph : call.phase = .received frame) :
    w.Moves k call (w.inspect k call frame) := by
  have hha : call.phase.handed = true := by rw [hph]; rfl
  have houtc : call.phase.outcome = none := by rw [hph]; rfl
  unfold inspect
  split
  · exact moves_goes (.broken hha houtc)
  split_ifs with hpo
  · exact moves_goes (.failing (.inl hha) houtc (.inr hpo))
  split
  · rename_i hjud
    exact moves_goes (.stale hph (judge_stale hjud).1)
  · exact moves_goes (.broken hha houtc)
  rename_i generation hjud
  obtain ⟨res, hok, hva⟩ := judge_valid hjud
  exact moves_goes (.validated hph hok hva)

lemma commit_cases {frame : Frame} (hph : call.phase = .committing frame generation) :
    w.Moves k call (w.commit k call frame generation) := by
  have hha : call.phase.handed = true := by rw [hph]; rfl
  have houtc : call.phase.outcome = none := by rw [hph]; rfl
  unfold commit
  split
  · rename_i hcom
    exact moves_goes (.failing (.inl hha) houtc (.inr (commit_of_poisoned hcom)))
  · exact moves_goes (.broken hha houtc)
  · exact moves_goes (.broken hha houtc)
  · rename_i c' hcom
    exact ⟨_, _, .commit hph hcom, rfl⟩

lemma failureOf_fault (c : Client) (call : Call) (ctx : Bool) :
    ∃ fault, failureOf c call ctx = .fault fault := by
  unfold failureOf
  split
  · split_ifs
    · exact ⟨_, rfl⟩
    · exact ⟨_, rfl⟩
  · exact ⟨_, rfl⟩

lemma callTurn_cases (h : w.callTurn k call turn = some v) : w.Moves k call v := by
  unfold callTurn at h
  split at h
  case h_1 hph =>
    split at h <;> cases h
    · exact moves_goes (.cancelled (.inl hph))
    · exact moves_goes (.wait hph)
  case h_2 hph => exact gateTurn_cases hph h
  case h_3 hph =>
    cases h
    exact letIn_cases hph
  case h_4 hph =>
    cases h
    exact hand_cases hph _
  case h_5 hph =>
    have hha : call.phase.handed = true := by rw [hph]; rfl
    have houtc : call.phase.outcome = none := by rw [hph]; rfl
    refine awaitTurn_cases hha houtc (fun v hv => ?_) h
    split at hv
    · cases hv
      exact moves_goes (.sent hph)
    · cases hv
      exact moves_goes (.broken hha houtc)
    · cases hv
  case h_6 hph =>
    have hha : call.phase.handed = true := by rw [hph]; rfl
    refine awaitTurn_cases hha (by rw [hph]; rfl) (fun v hv => ?_) h
    split at hv
    · rename_i p hp
      obtain ⟨frame, hfra, rfl⟩ := map_eq_some_iff.mp hv
      exact ⟨_, _, .take hph hp hfra, rfl⟩
    · cases hv
  case h_7 hph =>
    cases h
    exact inspect_cases hph
  case h_8 hph =>
    cases h
    exact commit_cases hph
  case h_9 hph =>
    cases h
    exact ⟨_, _, .abort hph, rfl⟩
  case h_10 hph =>
    cases h
    obtain ⟨fault, hfa⟩ : ∃ fault, failureOf w.c call _ = .fault fault := failureOf_fault ..
    unfold leave
    rw [hfa]
    split_ifs with hse
    · exact moves_goes (.failed hph hse)
    · exact moves_goes (.unhanded hph (by simpa using hse))
  case h_11 hph =>
    cases h
    exact ⟨_, _, .retract hph, rfl⟩
  case h_12 hph =>
    cases h
    exact ⟨_, _, .ungate hph, rfl⟩
  case h_13 => cases h

end Link

/-! ### What holds in every state -/

structure Call.Sound (c : Client) (frames : List Frame) (call : Call) : Prop where
  unhanded : call.phase.early = true → call.seq = none
  handed : call.phase.handed = true → call.seq.isSome = true
  encoding : ∀ n, call.phase = .encoding n → n = c.nextSeq + 1
  failing : ∀ context, call.phase = .failing context → c.poisoned = true
  frame : ∀ frame, call.phase.frame = some frame →
    ∃ n, call.seq = some n ∧ frames.find? (·.carries n) = some frame
  validated : ∀ success, call.phase.success = some success → ∃ result,
    success.frame.verdict = .ok result ∧
      validate c.infoSize call.op call.read result = some success.generation
  failed : ∀ failure, call.phase.outcome = some (.error failure) → call.seq.isSome = true →
    failure = .staleGeneration ∧ call.op = .read ∨ c.poisoned = true
  context : ∀ ended, call.phase.outcome = some (.error (.context ended)) → call.seq = none
  generation : ∀ success, call.phase.outcome = some (.ok success) →
    success.generation ≤ c.lastGeneration

/-- The call has a pending entry of its own. -/
def Call.holds (call : Call) : Bool := call.phase.busy && call.seq.isSome

variable {call : Call} {frames : List Frame}
variable {phase : Phase}

lemma Goes.sound (h : call.Sound c frames) (habo : c.aborted = true → c.poisoned = true)
    (hgoes : Goes c call phase) : Call.Sound c frames { call with phase } := by
  cases hgoes with
  | cancelled hph =>
    have hse : call.seq = none := h.unhanded (by rcases hph with hp | hp <;> rw [hp] <;> rfl)
    constructor <;> simp [hse]
  | wait hph =>
    have hse : call.seq = none := h.unhanded (by rw [hph]; rfl)
    constructor <;> simp [hse]
  | shut hph =>
    have hse : call.seq = none := h.unhanded (by rw [hph]; rfl)
    constructor <;> simp [hse]
  | refused hph =>
    have hse : call.seq = none := h.unhanded (by rcases hph with hp | ⟨n, hp⟩ <;> rw [hp] <;> rfl)
    constructor <;> simp [hse]
  | admitted hph =>
    have hse : call.seq = none := h.unhanded (by rw [hph]; rfl)
    constructor <;> simp [hse]
  | unfit | broken =>
    constructor <;> simp
  | sent hph =>
    have hse := h.handed (by rw [hph]; rfl)
    constructor <;> simp [hse]
  | failing _ _ hpo =>
    have hpo := hpo.elim habo id
    constructor <;> simp [hpo]
  | stale hph hop =>
    have hse := h.handed (by rw [hph]; rfl)
    constructor <;> simp [hse, hop]
  | validated hph hok hva =>
    have hse := h.handed (by rw [hph]; rfl)
    have hfra := h.frame _ (by rw [hph]; rfl)
    constructor <;> simp [hse, hok, hva, hfra]
  | failed hph hse =>
    have hpo := h.failing _ hph
    constructor <;> simp [hse, hpo]
  | unhanded _ hse =>
    constructor <;> simp [hse]

lemma Phase.inside_of_handed (h : ph.handed = true) : ph.inside = true := by
  cases ph <;> simp_all [Phase.inside]

lemma Phase.busy_of_handed (h : ph.handed = true) : ph.busy = true := by
  cases ph <;> simp_all [Phase.busy]

lemma Goes.inside (h : Goes c call ph) : ph.inside = call.phase.inside := by
  cases h with
  | cancelled hph => rcases hph with hp | hp <;> rw [hp] <;> rfl
  | wait hph => rw [hph]; rfl
  | shut hph => rw [hph]; rfl
  | refused hph => rcases hph with hp | ⟨n, hp⟩ <;> rw [hp] <;> rfl
  | admitted hph => rw [hph]; rfl
  | unfit hph => rcases hph with hp | ⟨n, hp⟩ <;> rw [hp] <;> rfl
  | sent hph => rw [hph]; rfl
  | broken hph => rw [Phase.inside_of_handed hph]; rfl
  | failing hph =>
    rcases hph with hp | ⟨n, hp⟩
    · rw [Phase.inside_of_handed hp]; rfl
    · rw [hp]; rfl
  | stale hph => rw [hph]; rfl
  | validated hph => rw [hph]; rfl
  | failed hph => rw [hph]; rfl
  | unhanded hph => rw [hph]; rfl

lemma Goes.holds (h : call.Sound c frames) (hgoes : Goes c call phase)
    (hhol : Call.holds { call with phase } = true) : call.holds = true := by
  simp only [Call.holds, Bool.and_eq_true] at hhol ⊢
  refine ⟨?_, hhol.2⟩
  have hlate : call.phase.early = false := by
    cases hearly : call.phase.early with
    | false => rfl
    | true => simp [h.unhanded hearly] at hhol
  cases hgoes with
  | cancelled hph => rcases hph with hp | hp <;> simp [hp] at hlate
  | wait hph => simp [hph] at hlate
  | shut hph => simp [hph] at hlate
  | refused hph => rcases hph with hp | ⟨n, hp⟩ <;> simp [hp] at hlate
  | admitted hph => simp [hph] at hlate
  | unfit hph => rcases hph with hp | ⟨n, hp⟩ <;> simp [hp] at hlate
  | sent hph => rw [hph]; rfl
  | broken hph => exact Phase.busy_of_handed hph
  | failing hph =>
    rcases hph with hp | ⟨n, hp⟩
    · exact Phase.busy_of_handed hp
    · simp [hp] at hlate
  | stale hph => rw [hph]; rfl
  | validated hph => rw [hph]; rfl
  | failed hph => rw [hph]; rfl
  | unhanded hph => rw [hph]; rfl

lemma Call.Sound.mono {frames frames' : List Frame} (h : call.Sound c frames)
    (hse : c'.nextSeq = c.nextSeq ∨ call.phase.inside = false) (hsize : c'.infoSize = c.infoSize)
    (hpo : c.poisoned = true → c'.poisoned = true)
    (hge : c.lastGeneration ≤ c'.lastGeneration) (hfram : frames <+: frames') :
    call.Sound c' frames' where
  unhanded := h.unhanded
  handed := h.handed
  encoding n hn := by
    rcases hse with hse | hse
    · exact hse ▸ h.encoding n hn
    · simp [hn, Phase.inside] at hse
  failing context hc := hpo (h.failing context hc)
  frame frame hf := by
    obtain ⟨n, hn, hfind⟩ := h.frame frame hf
    exact ⟨n, hn, hfram.find?_eq_some hfind⟩
  validated success hs := hsize ▸ h.validated success hs
  failed failure hf hs := (h.failed failure hf hs).imp_right hpo
  context := h.context
  generation success hs := Nat.le_trans (h.generation success hs) hge

lemma Call.phase_of_outcome (call : Call) {out : Outcome} (h : call.phase.outcome = some out) :
    call.phase = .leaving out ∨ call.phase = .ungating out ∨ call.phase = .returned out := by
  cases hph : call.phase <;> simp_all

lemma Call.Sound.settled
    {outcome : Outcome} (h : call.Sound c frames) (hph : call.phase.outcome = some outcome)
    (hph' : phase = .ungating outcome ∨ phase = .returned outcome)
    (hsize : c'.infoSize = c.infoSize) (hpo : c'.poisoned = c.poisoned)
    (hge : c'.lastGeneration = c.lastGeneration) : Call.Sound c' frames { call with phase } := by
  have houtc : phase.outcome = some outcome := by rcases hph' with rfl | rfl <;> rfl
  have hsuc : phase.success = call.phase.success := by
    rcases call.phase_of_outcome hph with hp | hp | hp <;> rw [hp] <;>
      rcases hph' with rfl | rfl <;> cases outcome <;> rfl
  have hfra : phase.frame = call.phase.frame := by
    rcases call.phase_of_outcome hph with hp | hp | hp <;> rw [hp] <;>
      rcases hph' with rfl | rfl <;> cases outcome <;> rfl
  refine ⟨?_, ?_, ?_, ?_, ?_, ?_, ?_, ?_, ?_⟩
  · rcases hph' with rfl | rfl <;> exact nofun
  · rcases hph' with rfl | rfl <;> exact nofun
  · rcases hph' with rfl | rfl <;> exact nofun
  · rcases hph' with rfl | rfl <;> exact nofun
  · exact fun frame hf => h.frame frame (hfra.symm.trans hf)
  · exact fun success hs => hsize ▸ h.validated success (hsuc.symm.trans hs)
  · exact fun failure hf => hpo ▸ h.failed failure (hph.trans (houtc.symm.trans hf))
  · exact fun ended he => h.context ended (hph.trans (houtc.symm.trans he))
  · exact fun success hs =>
      hge ▸ h.generation success (hph.trans (houtc.symm.trans hs))

namespace Link

/-- What is known about a client and its goroutines. -/
structure Sound (w : Link) : Prop where
  early : w.available = false → w.calls = []
  gate : w.c.gate = true → ∀ {k : Nat} {call : Call}, w.calls[k]? = some call →
    call.phase.inside = false
  single : ∀ {i j : Nat} {a b : Call}, w.calls[i]? = some a → w.calls[j]? = some b →
    a.phase.inside = true → b.phase.inside = true → i = j
  aborted : w.c.aborted = true → w.c.poisoned = true
  numbered : ∀ {k n : Nat} {call : Call}, w.calls[k]? = some call → call.seq = some n →
    n ≤ w.c.nextSeq
  distinct : ∀ {i j n : Nat} {a b : Call}, w.calls[i]? = some a → w.calls[j]? = some b →
    a.seq = some n → b.seq = some n → i = j
  held : ∀ {k : Nat} {call : Call}, w.calls[k]? = some call → call.holds = true →
    ∃ p, w.c.pending = some p ∧ p.op = some call.op ∧ call.seq = some p.seq
  bounded : ∀ {p : Pending}, w.c.pending = some p → p.seq ≤ w.c.nextSeq
  heard : ∀ {frame : Frame} {n : Nat}, w.reader = .reading → frame ∈ w.frames →
    frame.carries n = true →
    n ≤ w.c.nextSeq ∧ ∀ p, w.c.pending = some p → p.op.isSome = true → p.seq = n →
      p.delivered = true
  response : ∀ {p : Pending} {frame : Frame}, w.c.pending = some p → p.op.isSome = true →
    p.response = some frame →
    w.frames.find? (·.carries p.seq) = some frame
  each : ∀ {k : Nat} {call : Call}, w.calls[k]? = some call → call.Sound w.c w.frames

variable {w v : Link} {k : Nat} {call call' : Call} {c' : Client} {other : Call}

variable {m : Nat}

lemma calls_put (h : ({ w with c := c' }.put k call').calls[m]? = some other) :
    m = k ∧ other = call' ∨ m ≠ k ∧ w.calls[m]? = some other := by
  by_cases hm : m = k
  · subst hm
    have hlt : m < w.calls.length := by
      have := lt_length h
      simpa [put] using this
    simp only [put, List.getElem?_set_self hlt, Option.some.injEq] at h
    exact .inl ⟨rfl, h.symm⟩
  · simp only [put, List.getElem?_set_ne (Ne.symm hm)] at h
    exact .inr ⟨hm, h⟩

lemma Sound.others (h : w.Sound) (hcl : w.calls[k]? = some call)
    (hins : call.phase.inside = true ∨ w.c.gate = true) (hm : m ≠ k)
    (hother : w.calls[m]? = some other) : other.phase.inside = false := by
  rcases hins with hins | hgate
  · cases ho : other.phase.inside with
    | false => rfl
    | true => exact absurd (h.single hother hcl ho hins) hm
  · exact h.gate hgate hother

lemma holds_inside (h : call.holds = true) : call.phase.inside = true := by
  have hbz : call.phase.busy = true := by
    simp only [Call.holds, Bool.and_eq_true] at h
    exact h.1
  cases hph : call.phase <;> simp_all [Phase.busy, Phase.inside]

section

variable (h : w.Sound)

include h

lemma Sound.put_same (hcl : w.calls[k]? = some call) (hpen : c'.pending = w.c.pending)
    (hnx : c'.nextSeq = w.c.nextSeq) (hsize : c'.infoSize = w.c.infoSize)
    (hpo : w.c.poisoned = true → c'.poisoned = true) (hge : w.c.lastGeneration ≤ c'.lastGeneration)
    (habo : c'.aborted = true → c'.poisoned = true)
    (hgate : c'.gate = true → call'.phase.inside = false ∧
      (call.phase.inside = true ∨ w.c.gate = true))
    (hins : call'.phase.inside = true → call.phase.inside = true ∨ w.c.gate = true)
    (hse : call'.seq = call.seq) (hop : call'.op = call.op)
    (hhol : call'.holds = true → call.holds = true) (hon : call'.Sound c' w.frames) :
    ({ w with c := c' }.put k call').Sound where
  early hearly := by
    have hnil := h.early hearly
    simp [hnil] at hcl
  gate hg m other hother := by
    rcases calls_put hother with ⟨rfl, rfl⟩ | ⟨hm, hother⟩
    · exact (hgate hg).1
    · exact h.others hcl (hgate hg).2 hm hother
  single {i j a b} ha hb hai hbi := by
    rcases calls_put ha with ⟨rfl, rfl⟩ | ⟨hi, ha'⟩ <;>
      rcases calls_put hb with ⟨rfl, rfl⟩ | ⟨hj, hb'⟩
    · rfl
    · exact absurd (h.others hcl (hins hai) hj hb') (by simp [hbi])
    · exact absurd (h.others hcl (hins hbi) hi ha') (by simp [hai])
    · exact h.single ha' hb' hai hbi
  aborted := habo
  numbered {m n other} hother hn := by
    have hle : n ≤ w.c.nextSeq := by
      rcases calls_put hother with ⟨rfl, rfl⟩ | ⟨-, hother⟩
      · exact h.numbered hcl (hse ▸ hn)
      · exact h.numbered hother hn
    exact hnx ▸ hle
  distinct {i j n a b} ha hb han hbn := by
    rcases calls_put ha with ⟨rfl, rfl⟩ | ⟨hi, ha'⟩ <;>
      rcases calls_put hb with ⟨rfl, rfl⟩ | ⟨hj, hb'⟩
    · rfl
    · exact h.distinct hcl hb' (hse ▸ han) hbn
    · exact h.distinct ha' hcl han (hse ▸ hbn)
    · exact h.distinct ha' hb' han hbn
  held {m other} hother ho := by
    change ∃ p, c'.pending = some p ∧ _
    rw [hpen]
    rcases calls_put hother with ⟨rfl, rfl⟩ | ⟨-, hother⟩
    · rw [hop, hse]
      exact h.held hcl (hhol ho)
    · exact h.held hother ho
  bounded {p} hp := hnx ▸ h.bounded (hpen ▸ hp)
  heard {frame n} hre hfra hn := by
    change n ≤ c'.nextSeq ∧ ∀ p, c'.pending = some p → _
    rw [hnx, hpen]
    exact h.heard hre hfra hn
  response {p frame} hp := h.response (hpen ▸ hp)
  each {m other} hother := by
    rcases calls_put hother with ⟨rfl, rfl⟩ | ⟨-, hother⟩
    · exact hon
    · exact (h.each hother).mono (.inl hnx) hsize hpo hge (prefix_refl _)

lemma Sound.put_own (hcl : w.calls[k]? = some call)
    (hin : call.phase.inside = true) (hgate : c'.gate = w.c.gate)
    (hsize : c'.infoSize = w.c.infoSize) (hpo : c'.poisoned = w.c.poisoned)
    (hge : c'.lastGeneration = w.c.lastGeneration) (habo : c'.aborted = w.c.aborted)
    (hnx : w.c.nextSeq ≤ c'.nextSeq)
    (hse : ∀ n, call'.seq = some n → call.seq = some n ∨ w.c.nextSeq < n ∧ n ≤ c'.nextSeq)
    (hheld : call'.holds = true →
      ∃ p, c'.pending = some p ∧ p.op = some call'.op ∧ call'.seq = some p.seq)
    (hbou : ∀ p, c'.pending = some p → p.seq ≤ c'.nextSeq)
    (hhe : ∀ p, c'.pending = some p → p.op.isSome = true → p.delivered = true ∨
      (∃ q, w.c.pending = some q ∧ q.op = p.op ∧ q.seq = p.seq ∧ q.delivered = p.delivered) ∨
      w.c.nextSeq < p.seq) (hres : ∀ p, c'.pending = some p → p.response = none)
    (hon : call'.Sound c' w.frames) : ({ w with c := c' }.put k call').Sound where
  early hearly := by
    have hnil := h.early hearly
    simp [hnil] at hcl
  gate hg := by
    have hou := h.gate (hgate ▸ hg) hcl
    simp [hin] at hou
  single {i j a b} ha hb hai hbi := by
    rcases calls_put ha with ⟨rfl, rfl⟩ | ⟨hi, ha'⟩ <;>
      rcases calls_put hb with ⟨rfl, rfl⟩ | ⟨hj, hb'⟩
    · rfl
    · exact absurd (h.others hcl (.inl hin) hj hb') (by simp [hbi])
    · exact absurd (h.others hcl (.inl hin) hi ha') (by simp [hai])
    · exact h.single ha' hb' hai hbi
  aborted ha := hpo ▸ h.aborted (habo ▸ ha)
  numbered {m n other} hother hn := by
    rcases calls_put hother with ⟨rfl, rfl⟩ | ⟨-, hoh'⟩
    · rcases hse n hn with hold | ⟨-, hle⟩
      · exact Nat.le_trans (h.numbered hcl hold) hnx
      · exact hle
    · exact Nat.le_trans (h.numbered hoh' hn) hnx
  distinct {i j n a b} ha hb han hbn := by
    rcases calls_put ha with ⟨rfl, rfl⟩ | ⟨hi, ha'⟩ <;>
      rcases calls_put hb with ⟨rfl, rfl⟩ | ⟨hj, hb'⟩
    · rfl
    · rcases hse n han with hold | ⟨hlt, -⟩
      · exact h.distinct hcl hb' hold hbn
      · exact absurd (h.numbered hb' hbn) (by omega)
    · rcases hse n hbn with hold | ⟨hlt, -⟩
      · exact h.distinct ha' hcl han hold
      · exact absurd (h.numbered ha' han) (by omega)
    · exact h.distinct ha' hb' han hbn
  held {m other} hother ho := by
    rcases calls_put hother with ⟨rfl, rfl⟩ | ⟨hm, hoh'⟩
    · exact hheld ho
    · exact absurd (h.others hcl (.inl hin) hm hoh') (by simp [holds_inside ho])
  bounded {p} hp := hbou p hp
  heard {frame n} hre hfra hn := by
    obtain ⟨hle, hdel⟩ := h.heard hre hfra hn
    refine ⟨Nat.le_trans hle hnx, fun p hp hop hpn => ?_⟩
    rcases hhe p hp hop with hd | ⟨q, hq, hqop, hqseq, hqd⟩ | hlt
    · exact hd
    · exact hqd ▸ hdel q hq (hqop ▸ hop) (hqseq.trans hpn)
    · omega
  response {p frame} hp _ hfra := by simp [hres p hp] at hfra
  each {m other} hother := by
    rcases calls_put hother with ⟨rfl, rfl⟩ | ⟨hm, hoh'⟩
    · exact hon
    · exact (h.each hoh').mono (.inr (h.others hcl (.inl hin) hm hoh')) hsize
        (fun hp => hpo.trans hp) (Nat.le_of_eq hge.symm) (prefix_refl _)

lemma Sound.goes (hcl : w.calls[k]? = some call)
    (hgoes : Goes w.c call phase) : ({ w with c := w.c }.put k { call with phase }).Sound := by
  have hso := h.each hcl
  have hins := hgoes.inside
  refine h.put_same hcl rfl rfl rfl id (Nat.le_refl _) h.aborted (fun hgate => ⟨?_, .inr hgate⟩)
    (fun hin => .inl (hins ▸ hin)) rfl rfl (hgoes.holds hso) (hgoes.sound hso h.aborted)
  exact hins.trans (h.gate hgate hcl)

lemma Sound.moves (hcl : w.calls[k]? = some call) (hmov : w.Moves k call v) : v.Sound := by
  obtain ⟨c', call', hmove, rfl⟩ := hmov
  have hso := h.each hcl
  cases hmove with
  | goes hgoes => exact h.goes hcl hgoes
  | gate hph hgate =>
    have hse : call.seq = none := hso.unhanded (by rw [hph]; rfl)
    refine h.put_same hcl rfl rfl rfl id (Nat.le_refl _) h.aborted nofun (fun _ => .inr hgate) rfl
      rfl ?_ ?_
    · simp [Call.holds, hse]
    · constructor <;> simp [hse]
  | hand hph =>
    have hn := hso.encoding _ hph
    refine h.put_own hcl (by rw [hph]; rfl) rfl rfl rfl rfl rfl ?_ ?_ ?_ ?_ ?_ ?_ ?_
    · exact hn ▸ Nat.le_succ _
    · rintro m hm
      cases hm
      exact .inr ⟨by omega, Nat.le_refl _⟩
    · exact fun _ => ⟨_, rfl, rfl, rfl⟩
    · rintro p hp
      cases hp
      exact Nat.le_refl _
    · rintro p hp -
      cases hp
      exact .inr (.inr (by simp only; omega))
    · rintro p hp
      cases hp
      rfl
    · constructor <;> simp
  | take hph hp hfra =>
    have hse := hso.handed (by rw [hph]; rfl)
    obtain ⟨q, hq, hqop, hqseq⟩ := h.held hcl (by simp [Call.holds, hph, Phase.busy, hse])
    cases hp.symm.trans hq
    refine h.put_own hcl (by rw [hph]; rfl) rfl rfl rfl rfl rfl (Nat.le_refl _) (fun n => .inl)
      ?_ ?_ ?_ ?_ ?_
    · exact fun _ => ⟨_, rfl, hqop, hqseq⟩
    · rintro p' hp'
      cases hp'
      have hle := h.bounded hp
      exact hle
    · rintro p' hp' -
      cases hp'
      exact .inr (.inl ⟨_, hp, rfl, rfl, rfl⟩)
    · rintro p' hp'
      cases hp'
      rfl
    · have hfind := h.response hp (by rw [hqop]; rfl) hfra
      constructor <;> simp [hqseq, hfind]
  | @commit frame generation c' hph hcom =>
    obtain ⟨-, rfl, hle⟩ := commit_of_committed hcom
    have hkp := kept_record w.c call.op generation
    have hse := hso.handed (by rw [hph]; rfl)
    refine h.put_same hcl hkp.pending hkp.nextSeq hkp.infoSize
      (fun hp => hkp.poisoned.trans hp) ?_
      (fun ha => hkp.poisoned.trans (h.aborted (hkp.aborted ▸ ha)))
      (fun hg => ?_) (fun _ => .inl (by rw [hph]; rfl)) rfl rfl ?_ ?_
    · rw [lastGeneration_record]
      split_ifs <;> omega
    · have hou := h.gate (hkp.gate ▸ hg) hcl
      simp [hph, Phase.inside] at hou
    · simp [Call.holds, hph, Phase.busy]
    have hfra := hso.frame _ (by rw [hph]; rfl)
    have hva := hso.validated _ (by rw [hph]; rfl)
    constructor <;> simp [hse, hfra, hkp.infoSize, hva]
    split_ifs <;> omega
  | abort hph =>
    refine h.put_same hcl (by simp) (by simp) (by simp) (by simp) (by simp) (by simp)
      (fun hg => ?_) (fun _ => .inl (by rw [hph]; rfl)) rfl rfl ?_ ?_
    · have hou := h.gate (by simpa using hg) hcl
      simp [hph, Phase.inside] at hou
    · simp [Call.holds, hph, Phase.busy]
    · constructor <;> simp
  | retract hph =>
    have hse := hso.handed (by rw [hph]; rfl)
    obtain ⟨p, hp, hop, hpseq⟩ := h.held hcl (by simp [Call.holds, hph, Phase.busy, hse])
    have heq : w.c.retract call.seq = { w.c with pending := none } := by
      simp [Client.retract, hp, hop, hpseq]
    rw [heq]
    refine h.put_own hcl (by rw [hph]; rfl) rfl rfl rfl rfl rfl (Nat.le_refl _) (fun n => .inl)
      ?_ (fun _ hnn => ?_) (fun _ hnn _ => ?_) (fun _ hnn => ?_) ?_
    · simp [Call.holds, Phase.busy]
    · exact absurd hnn (some_ne_none _).symm
    · exact absurd hnn (some_ne_none _).symm
    · exact absurd hnn (some_ne_none _).symm
    · exact hso.settled (by rw [hph]; rfl) (.inl rfl) rfl rfl rfl
  | ungate hph =>
    refine h.put_same hcl rfl rfl rfl id (Nat.le_refl _) h.aborted
      (fun _ => ⟨rfl, .inl (by rw [hph]; rfl)⟩) nofun rfl rfl ?_ ?_
    · simp [Call.holds, Phase.busy]
    · exact hso.settled (by rw [hph]; rfl) (.inr rfl) rfl rfl rfl

lemma Sound.frame (hca : v.calls = w.calls) (hfram : v.frames = w.frames)
    (hava : v.available = false → w.available = false)
    (hre : v.reader = .reading → w.reader = .reading) (hgate : v.c.gate = w.c.gate)
    (hpen : v.c.pending = w.c.pending) (hnx : v.c.nextSeq = w.c.nextSeq)
    (hsize : v.c.infoSize = w.c.infoSize) (hpo : w.c.poisoned = true → v.c.poisoned = true)
    (hge : v.c.lastGeneration = w.c.lastGeneration)
    (habo : v.c.aborted = true → v.c.poisoned = true) : v.Sound where
  early hearly := hca.trans (h.early (hava hearly))
  gate hg _ _ := hca ▸ h.gate (hgate ▸ hg)
  single := hca ▸ h.single
  aborted := habo
  numbered := by
    rw [hca, hnx]
    exact h.numbered
  distinct := hca ▸ h.distinct
  held := by
    rw [hca, hpen]
    exact h.held
  bounded := by
    rw [hpen, hnx]
    exact h.bounded
  heard hr := by
    rw [hfram, hnx, hpen]
    exact h.heard (hre hr)
  response := by
    rw [hfram, hpen]
    exact h.response
  each := by
    rw [hca, hfram]
    exact fun hcl => (h.each hcl).mono (.inl hnx) hsize hpo (Nat.le_of_eq hge.symm) (prefix_refl _)

lemma Sound.abort (fault : Fault) {reader : Reader} {waiter : Waiter}
    {starter : Starter} (hre : reader = .reading → w.reader = .reading)
    (hsa : starter = w.starter ∨ starter = .failed) :
    Sound { w with c := w.c.abortWith fault, reader, waiter, starter } := by
  refine h.frame rfl rfl ?_ hre (by simp) (by simp) (by simp) (by simp) (by simp) (by simp)
    (by simp)
  rcases hsa with rfl | rfl
  · exact id
  · exact nofun

lemma Sound.like (hcl : w.calls[k]? = some call) (hph : call'.phase = call.phase)
    (hse : call'.seq = call.seq) (hop : call'.op = call.op) (hrd : call'.read = call.read) :
    (w.put k call').Sound := by
  have hso := h.each hcl
  have hins : call'.phase.inside = call.phase.inside := by rw [hph]
  have hon : call'.Sound w.c w.frames := by
    refine ⟨?_, ?_, ?_, ?_, ?_, ?_, ?_, ?_, ?_⟩ <;> simp only [hph, hse, hop, hrd]
    · exact hso.unhanded
    · exact hso.handed
    · exact hso.encoding
    · exact hso.failing
    · exact hso.frame
    · exact hso.validated
    · exact hso.failed
    · exact hso.context
    · exact hso.generation
  have hput : ({ w with c := w.c }.put k call').Sound :=
    h.put_same hcl rfl rfl rfl id (Nat.le_refl _) h.aborted
      (fun hg => ⟨hins.trans (h.gate hg hcl), .inr hg⟩) (fun hin => .inl (hins ▸ hin)) hse
      hop (by simp [Call.holds, hph, hse]) hon
  exact hput

end

lemma calls_begin (h : (w.calls ++ [call])[m]? = some other) :
    m = w.calls.length ∧ other = call ∨ w.calls[m]? = some other := by
  rcases Nat.lt_trichotomy m w.calls.length with hm | hm | hm
  · exact .inr (by simpa [getElem?_append_left hm] using h)
  · subst hm
    simp only [getElem?_concat_length, Option.some.injEq] at h
    exact .inl ⟨rfl, h.symm⟩
  · simp [getElem?_append_right (Nat.le_of_lt hm), Nat.sub_ne_zero_of_lt hm] at h

lemma Sound.begin (h : w.Sound) (op : Operation) (read : ReadArgs) (hava : w.available = true) :
    Sound { w with calls := w.calls ++ [{ op, read }] } where
  early hearly := by
    have hno : w.available = false := hearly
    simp [hava] at hno
  gate hg m other hother := by
    rcases calls_begin hother with ⟨-, rfl⟩ | hoh'
    · rfl
    · exact h.gate hg hoh'
  single {i j a b} ha hb hai hbi := by
    rcases calls_begin ha with ⟨-, rfl⟩ | ha'
    · cases hai
    rcases calls_begin hb with ⟨-, rfl⟩ | hb'
    · cases hbi
    · exact h.single ha' hb' hai hbi
  aborted := h.aborted
  numbered {m n other} hother hn := by
    rcases calls_begin hother with ⟨-, rfl⟩ | hoh'
    · cases hn
    · exact h.numbered hoh' hn
  distinct {i j n a b} ha hb han hbn := by
    rcases calls_begin ha with ⟨-, rfl⟩ | ha'
    · cases han
    rcases calls_begin hb with ⟨-, rfl⟩ | hb'
    · cases hbn
    · exact h.distinct ha' hb' han hbn
  held {m other} hother ho := by
    rcases calls_begin hother with ⟨-, rfl⟩ | hoh'
    · cases ho
    · exact h.held hoh' ho
  bounded := h.bounded
  heard := h.heard
  response := h.response
  each {m other} hother := by
    rcases calls_begin hother with ⟨-, rfl⟩ | hoh'
    · constructor <;> simp
    · exact h.each hoh'

/-! ### The reader -/

variable {code : Option String}

lemma deliver_delivered {frame : Frame}
    (h : c.deliver frame = .delivered c' code) : ∃ p ack, c.pending = some p ∧ p.delivered = false ∧
      c' = { c with
        pending := some { p with delivered := true, closeAck := ack, response := some frame } } ∧
      ∀ n, frame.carries n = true ↔ p.op.isSome = true ∧ p.seq = n := by
  unfold Client.deliver at h
  by_cases hpo : c.poisoned = true
  · simp [hpo] at h
  rw [if_neg hpo] at h
  cases hp : c.pending with
  | none => simp [hp] at h
  | some p =>
    simp only [hp] at h
    cases hd : p.delivered with
    | true => simp [hd] at h
    | false =>
      rw [if_neg (by simp [hd])] at h
      split at h
      · rename_i hop
        cases h
        exact ⟨p, p.closeAck, rfl, hd, rfl, by simp [Frame.carries, hop]⟩
      · rename_i op seq res hop
        split_ifs at h with hse
        have hse : seq = p.seq := by simpa using hse
        cases h
        exact ⟨p, _, rfl, hd, rfl, by simp [Frame.carries, hop, hse]⟩
      · cases h

lemma Sound.hear (h : w.Sound) (frame : Frame) {reader : Reader} (hre : reader ≠ .reading) :
    Sound { w with frames := w.frames ++ [frame], reader } where
  early := h.early
  gate := h.gate
  single := h.single
  aborted := h.aborted
  numbered := h.numbered
  distinct := h.distinct
  held := h.held
  bounded := h.bounded
  heard hr := absurd hr hre
  response hp hop hfra := (prefix_append _ _).find?_eq_some (h.response hp hop hfra)
  each hcl := (h.each hcl).mono (.inl rfl) rfl id (Nat.le_refl _) (prefix_append _ _)

lemma Sound.deliver (h : w.Sound) (hre : w.reader = .reading) {frame : Frame} {c' : Client}
    (hdeli : w.c.deliver frame = .delivered c' code) :
    Sound { w with c := c', frames := w.frames ++ [frame] } := by
  obtain ⟨p, ack, hp, hfr, rfl, hcar⟩ := deliver_delivered hdeli
  have hnn : p.op.isSome = true → w.frames.find? (·.carries p.seq) = none := by
    intro hop
    rw [find?_eq_none]
    intro earlier hearlier hn
    have hdel := (h.heard hre hearlier hn).2 p hp hop rfl
    simp [hfr] at hdel
  exact {
    early := h.early
    gate := h.gate
    single := h.single
    aborted := h.aborted
    numbered := h.numbered
    distinct := h.distinct
    held := fun hcl hhol => by
      obtain ⟨q, hq, hqop, hqseq⟩ := h.held hcl hhol
      cases hp.symm.trans hq
      exact ⟨_, rfl, hqop, hqseq⟩
    bounded := fun hq => by
      cases hq
      have hle := h.bounded hp
      exact hle
    heard := fun {earlier n} hr hearlier hn => by
      refine ⟨?_, fun q hq _ _ => ?_⟩
      · rcases mem_concat.mp hearlier with hold | rfl
        · exact (h.heard hr hold hn).1
        · have hle := h.bounded hp
          exact ((hcar n).mp hn).2 ▸ hle
      · cases hq
        rfl
    response := fun {q frame'} hq hop hfra => by
      cases hq
      cases hfra
      have hon := (hcar p.seq).mpr ⟨hop, rfl⟩
      simp [find?_append, hnn hop, hon]
    each := fun hcl =>
      (h.each hcl).mono (.inl rfl) rfl id (Nat.le_refl _) (prefix_append _ _) }

lemma Sound.readTurn (h : w.Sound) {line : Line} (hrd : w.readTurn line = some v) : v.Sound := by
  unfold Link.readTurn at hrd
  split at hrd
  · rename_i hre
    cases line with
    | failed =>
      simp only at hrd
      split_ifs at hrd <;> cases hrd <;>
        exact h.frame rfl rfl id nofun rfl rfl rfl rfl id rfl h.aborted
    | invalid =>
      cases hrd
      exact h.frame rfl rfl id nofun rfl rfl rfl rfl id rfl h.aborted
    | frame =>
      simp only at hrd
      split at hrd
      · cases hrd
        exact h.hear _ nofun
      split at hrd <;> cases hrd
      · exact h.hear _ nofun
      · exact h.hear _ nofun
      · rename_i hdeli
        exact h.deliver hre hdeli
      rename_i hdeli
      exact (h.deliver hre hdeli).frame rfl rfl id nofun rfl rfl rfl rfl id rfl
        (h.deliver hre hdeli).aborted
  · cases hrd

/-! ### The other goroutines -/

lemma Sound.begun (h : w.Sound) (hearly : w.available = false) {pending : Option Pending}
    (hpen : ∀ p, pending = some p → p.response = none ∧
      ∃ q, w.c.pending = some q ∧ q.op = p.op ∧ q.seq = p.seq ∧ q.delivered = p.delivered)
    (starter : Starter) : Sound { w with c := { w.c with pending }, starter } := by
  have hnil := h.early hearly
  exact {
    early := fun _ => hnil
    gate := h.gate
    single := h.single
    aborted := h.aborted
    numbered := h.numbered
    distinct := h.distinct
    held := fun hcl => by simp [hnil] at hcl
    bounded := fun {p} hp => by
      obtain ⟨-, q, hq, -, hse, -⟩ := hpen p hp
      exact hse ▸ h.bounded hq
    heard := fun {frame n} hr hfra hn => by
      obtain ⟨hle, hdel⟩ := h.heard hr hfra hn
      refine ⟨hle, fun p hp hop hpn => ?_⟩
      obtain ⟨-, q, hq, hqop, hse, hqd⟩ := hpen p hp
      exact hqd ▸ hdel q hq (hqop ▸ hop) (hse.trans hpn)
    response := fun {p frame} hp _ hfra => by simp [(hpen p hp).1] at hfra
    each := fun hcl => by simp [hnil] at hcl }

lemma Sound.startTurn {turn : StartTurn} (h : w.Sound) (htn : w.startTurn turn = some v) :
    v.Sound := by
  -- as long as the start is not over, the client is not available
  have hgoes (starter : Starter) (hearly : w.available = false) : Sound { w with starter } :=
    h.frame rfl rfl (fun _ => hearly) id rfl rfl rfl rfl id rfl h.aborted
  cases turn with
  | response =>
    simp only [Link.startTurn] at htn
    split at htn
    · rename_i p hsa hp
      obtain ⟨frame, -, rfl⟩ := map_eq_some_iff.mp htn
      refine h.begun (by simp [available, hsa]) (fun p' hp' => ?_) _
      cases hp'
      exact ⟨rfl, p, hp, rfl, rfl, rfl⟩
    · cases htn
  | cancelled =>
    simp only [Link.startTurn] at htn
    split at htn
    · rename_i hsa
      cases htn
      exact hgoes _ (by simp [available, hsa])
    · cases htn
  | aborted =>
    simp only [Link.startTurn] at htn
    split at htn
    · rename_i hsa
      split_ifs at htn
      cases htn
      exact hgoes _ (by simp [available, hsa])
    · cases htn
  | check ended =>
    simp only [Link.startTurn] at htn
    split at htn
    · rename_i frame hsa
      have hearly : w.available = false := by simp [available, hsa]
      cases frame with
      | ready bits =>
        simp only at htn
        by_cases hbits : bits ≠ w.c.pointerBits
        · rw [if_pos hbits] at htn
          cases htn
          exact hgoes _ hearly
        rw [if_neg hbits] at htn
        cases ended with
        | some =>
          cases htn
          exact hgoes _ hearly
        | none =>
          simp only at htn
          split_ifs at htn <;> cases htn
          · exact hgoes _ hearly
          · exact h.begun hearly (fun p hp => by cases hp) _
      | fatal | response =>
        cases htn
        exact hgoes _ hearly
    · cases htn
  | abort =>
    simp only [Link.startTurn] at htn
    split at htn
    · cases htn
      exact h.abort _ id (.inr rfl)
    · cases htn

lemma Sound.step {evt : Event} (h : w.Sound) (hst : w.step evt = some v) : v.Sound := by
  cases evt with
  | start => exact h.startTurn hst
  | «begin» op read =>
    simp only [Link.step] at hst
    split_ifs at hst with hava
    cases hst
    exact h.begin op read hava
  | call =>
    obtain ⟨call, hcl, htn⟩ := bind_eq_some_iff.mp hst
    exact h.moves hcl (callTurn_cases htn)
  | cancel | wrote =>
    obtain ⟨call, hcl, hput⟩ := bind_eq_some_iff.mp hst
    split_ifs at hput
    cases hput
    exact h.like hcl rfl rfl rfl rfl
  | read => exact h.readTurn hst
  | readerAbort =>
    simp only [Link.step] at hst
    split at hst
    · cases hst
      exact h.abort _ nofun (.inl rfl)
    · cases hst
  | exit =>
    simp only [Link.step] at hst
    split_ifs at hst <;> cases hst <;>
      exact h.frame rfl rfl id id rfl rfl rfl rfl id rfl h.aborted
  | waiterAbort =>
    simp only [Link.step] at hst
    split_ifs at hst
    cases hst
    exact h.abort _ id (.inl rfl)
  | release =>
    simp only [Link.step] at hst
    split_ifs at hst
    cases hst
    exact h.frame rfl rfl id id rfl rfl rfl rfl id rfl h.aborted
  | drained =>
    simp only [Link.step] at hst
    split at hst
    · split_ifs at hst
      cases hst
      exact h.frame rfl rfl id id rfl rfl rfl rfl id rfl h.aborted
    · cases hst
  | abort =>
    cases hst
    exact h.abort _ id (.inl rfl)
  | closeAborted =>
    simp only [Link.step] at hst
    split_ifs at hst with hpo
    cases hst
    exact h.frame rfl rfl id id rfl rfl rfl rfl id rfl fun _ => hpo

lemma sound_new (infoSize bits : Nat) : (new infoSize bits).Sound := by
  constructor <;> simp [new, available]
  rintro p frame rfl
  simp

lemma sound_run {infoSize bits : Nat} {es : List Event}
    (hru : run step (new infoSize bits) es = some w) : w.Sound := by
  have hst (u : Link) (e : Event) (v : Link) : u.Sound → u.step e = some v → v.Sound :=
    fun h => h.step
  exact run_invariant hst (sound_new infoSize bits) hru

end Link

end Client

end MultiDap.Trace
