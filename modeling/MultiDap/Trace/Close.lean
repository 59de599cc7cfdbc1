import MultiDap.Trace.Calls

/-!
# The close of a client

`Close` sends a request of its own, waits for the process, and asks whether the client is still
good. Here the helper does what it is asked: it acknowledges the request, sends nothing else and
exits. Its acknowledgement, the end of its output and its exit may be observed in any order.
-/

namespace MultiDap.Trace.Client

open Machine List Option

/-! ### `Close` and the helper -/

/-- Where `Close` stands. -/
inductive Closer where
  | entering
  /-- The request is made by the call with this number. -/
  | calling (k : Nat)
  /-- The client was closed by another call, or seems to be. -/
  | rechecking
  /-- It waits for the process; the flag says that the request was its own. -/
  | waiting (own : Bool)
  | aborting (fault : Fault)
  /-- The process is reaped. -/
  | settling
  | returned (err : Option Failure)

inductive Process where
  | serving | answered | exited
  deriving DecidableEq

/-- A client that is closed, and its helper. -/
structure Shutdown where
  w : Link
  closer : Closer := .entering
  process : Process := .serving
  /-- What the helper has sent and the reader has not got yet. -/
  sent : Option Frame := none

def returned (call : Call) : Option Outcome :=
  match call.phase with
  | .returned outcome => some outcome
  | _ => none

inductive CloseTurn where
  | next
  /-- The context ends, or the time for the shutdown is over. -/
  | expired (ended : Sentinel)

namespace Shutdown

/-- The next section of `Close`. -/
def closeNext (s : Shutdown) : Option Shutdown :=
  match s.closer with
  | .entering =>
    if s.w.c.poisoned then some { s with closer := .returned (some s.w.c.abortError) }
    else if s.w.c.closed then some { s with closer := .waiting false }
    else
      some { s with
        w := { s.w with calls := s.w.calls ++ [{ op := .close }] }
        closer := .calling s.w.calls.length }
  | .calling k =>
    match s.w.calls[k]?.bind returned with
    | none => none
    | some (.ok _) => some { s with closer := .waiting true }
    | some (.error err) =>
      if err = .closed then some { s with closer := .rechecking }
      else some { s with closer := .returned (some err) }
  | .rechecking =>
    if s.w.c.closed && !s.w.c.poisoned then some { s with closer := .waiting false }
    else some { s with closer := .returned (some .closed) }
  | .waiting own =>
    if s.w.waiter ≠ .done then none
    else if s.w.c.cleanupFailure then
      if own then
        some { s with closer := .aborting (.error "shutdown_cancelled" .cleanupUnconfirmed) }
      else some { s with closer := .returned (some .cleanupUnconfirmed) }
    else some { s with closer := .settling }
  | .aborting fault =>
    some { s with
      w := { s.w with c := s.w.c.abortWith fault }, closer := .returned (some (.fault fault)) }
  | .settling =>
    if s.w.c.poisoned || s.w.c.exitFailed then
      some { s with closer := .returned (some s.w.c.abortError) }
    else some { s with closer := .returned none }
  | .returned _ => none

def closeTurn (s : Shutdown) : CloseTurn → Option Shutdown
  | .next => s.closeNext
  | .expired ended =>
    match s.closer with
    | .waiting true =>
      some { s with closer := .aborting (.error "shutdown_cancelled" (.context ended)) }
    | .waiting false => some { s with closer := .returned (some (.context ended)) }
    | _ => none

/-- What happens while a client is closed: no context ends, the helper does what it is asked, and
its ownership is released. -/
inductive Event where
  | close
  | call (k : Nat) (turn : Turn)
  | wrote (k : Nat)
  /-- The helper acknowledges the request. -/
  | answer
  | exits
  /-- The reader gets what the helper has sent. -/
  | hear
  /-- The reader gets the end of the output. -/
  | hangup
  | readerAbort
  | reap
  | waiterAbort
  | release
  | drained
  | closeAborted

def acknowledgement (seq : Nat) : Frame := .response seq (.ok (some .closed))

def link (s : Shutdown) (event : Client.Event) : Option Shutdown :=
  (s.w.step event).map fun w => { s with w }

def step (s : Shutdown) : Event → Option Shutdown
  | .close => s.closeTurn .next
  | .call _ (.encode true) => none
  | .call k turn => s.link (.call k turn)
  | .wrote k => s.link (.wrote k true)
  | .answer =>
    match s.process, s.closer with
    | .serving, .calling k =>
      (s.w.calls[k]?.bind (·.seq)).map fun n =>
        { s with process := .answered, sent := some (acknowledgement n) }
    | _, _ => none
  | .exits => if s.process = .answered then some { s with process := .exited } else none
  | .hear =>
    s.sent.bind fun frame =>
      (s.w.step (.read (.frame frame))).map fun w => { s with w, sent := none }
  | .hangup =>
    if s.process = .exited ∧ s.sent.isNone then s.link (.read (.failed true .transport)) else none
  | .readerAbort => s.link .readerAbort
  | .reap => if s.process = .exited then s.link (.exit false) else none
  | .waiterAbort => s.link .waiterAbort
  | .release => s.link (.release true)
  | .drained => s.link .drained
  | .closeAborted => s.link .closeAborted

end Shutdown

/-! ### In good weather -/

namespace Link

structure Open (w : Link) : Prop where
  opened : w.c.opened = true
  gate : w.c.gate = true
  poisoned : w.c.poisoned = false
  aborted : w.c.aborted = false
  closing : w.c.closing = false
  closed : w.c.closed = false
  processEnded : w.c.processEnded = false
  exitFailed : w.c.exitFailed = false
  cleanupFailure : w.c.cleanupFailure = false
  nextSeq : w.c.nextSeq < maxSeq
  reader : w.reader = .reading
  waiter : w.waiter = .running
  calls : ∀ call ∈ w.calls, ∃ outcome, call.phase = .returned outcome

variable {w v : Link} {k : Nat} {call : Call} {turn : Turn}

section

variable (hen : call.ended = none)

include hen

lemma entering_turn (hph : call.phase = .entering) (h : w.callTurn k call turn = some v) :
    v = w.goto k call w.c .gating := by
  unfold callTurn at h
  rw [hph, hen] at h
  cases turn <;> cases h
  rfl

lemma gating_turn (habo : w.c.aborted = false) (hph : call.phase = .gating)
    (h : w.callTurn k call turn = some v) :
    v = w.goto k call { w.c with gate := false } .gated := by
  unfold callTurn at h
  rw [hph] at h
  cases turn with
  | ready =>
    simp only [gateTurn] at h
    split_ifs at h
    exact (some.inj h).symm
  | aborted => simp [gateTurn, habo] at h
  | _ => simp [gateTurn, hen] at h

lemma gated_turn (hph : call.phase = .gated) (hop : call.op = .close)
    (hpn : w.c.opened = true ∧ w.c.poisoned = false ∧ w.c.closing = false ∧ w.c.closed = false ∧
      w.c.processEnded = false ∧ w.c.nextSeq < maxSeq) (h : w.callTurn k call turn = some v) :
    v = w.goto k call w.c (.encoding (w.c.nextSeq + 1)) := by
  obtain ⟨h1, h2, h3, h4, h5, h6⟩ := hpn
  unfold callTurn at h
  rw [hph] at h
  cases turn with
  | next =>
    cases h
    simp [letIn, hen, admission, hop, h1, h2, h3, h4, h5, Nat.ne_of_lt h6]
  | _ => cases h

lemma encoding_turn {n : Nat} (hph : call.phase = .encoding n) (htn : turn ≠ .encode true)
    (hpo : w.c.poisoned = false) (hpr : w.c.processEnded = false)
    (h : w.callTurn k call turn = some v) :
    v = w.goto k { call with seq := some n, writer := .running } (w.c.hand n call.op) .writing := by
  unfold callTurn at h
  rw [hph] at h
  cases turn with
  | encode tooLarge =>
    cases tooLarge with
    | true => exact absurd rfl htn
    | false =>
      simp [hand, hen, hpo, hpr] at h
      rw [← h]
      simp only [goto, hen]
  | _ => cases h

lemma writing_turn (habo : w.c.aborted = false) (hph : call.phase = .writing)
    (hwr : call.writer ≠ .wrote false) (h : w.callTurn k call turn = some v) :
    call.writer = .wrote true ∧ v = w.goto k call w.c .waiting := by
  unfold callTurn at h
  rw [hph] at h
  cases turn <;> simp [awaitTurn, hen, habo] at h
  cases hw : call.writer with
  | idle | running => simp [hw] at h
  | wrote ok =>
    cases ok with
    | false => exact absurd hw hwr
    | true =>
      simp [hw] at h
      exact ⟨rfl, h.symm⟩

lemma waiting_turn (habo : w.c.aborted = false) (hph : call.phase = .waiting)
    (h : w.callTurn k call turn = some v) : ∃ p frame, w.c.pending = some p ∧
      p.response = some frame ∧
      v = w.goto k call { w.c with pending := some { p with response := none } }
        (.received frame) := by
  unfold callTurn at h
  rw [hph] at h
  cases turn with
  | ready =>
    simp only [awaitTurn] at h
    cases hp : w.c.pending with
    | none => simp [hp] at h
    | some p =>
      simp only [hp, map_eq_some_iff] at h
      obtain ⟨frame, hfra, rfl⟩ := h
      exact ⟨p, frame, rfl, hfra, rfl⟩
  | aborted => simp [awaitTurn, habo] at h
  | _ => simp [awaitTurn, hen] at h

lemma received_turn {seq : Nat} (hph : call.phase = .received (Shutdown.acknowledgement seq))
    (hop : call.op = .close) (hpo : w.c.poisoned = false) (h : w.callTurn k call turn = some v) :
    v = w.goto k call w.c (.committing (Shutdown.acknowledgement seq) 0) := by
  unfold callTurn at h
  rw [hph] at h
  cases turn with
  | next =>
    cases h
    simp [inspect, hen, hpo, Shutdown.acknowledgement, Frame.verdict, judge, hop, validate,
      decodeClose]
  | _ => cases h

lemma committing_turn {frame : Frame} (hph : call.phase = .committing frame 0)
    (hop : call.op = .close) (hpo : w.c.poisoned = false) (h : w.callTurn k call turn = some v) :
    v = w.goto k call { w.c with closed := true, opened := false } (.leaving (.ok ⟨frame, 0⟩)) := by
  unfold callTurn at h
  rw [hph] at h
  cases turn with
  | next =>
    have hcom : w.c.commit call.op 0 call.ended =
        .committed { w.c with closed := true, opened := false } := by
      rw [hop, hen, Client.commit, if_neg (by simp [hpo]), if_neg (by simp)]
      rfl
    simp only [commit, hcom, some.injEq] at h
    exact h.symm
  | _ => cases h

variable {outcome : Outcome}

omit hen in
lemma leaving_turn {p : Pending} (hph : call.phase = .leaving outcome)
    (hp : w.c.pending = some p) (hop : p.op.isSome = true) (hse : call.seq = some p.seq)
    (h : w.callTurn k call turn = some v) :
    v = w.goto k call { w.c with pending := none } (.ungating outcome) := by
  unfold callTurn at h
  rw [hph] at h
  cases turn with
  | next =>
    have hretr : w.c.retract call.seq = { w.c with pending := none } := by
      simp [retract, hp, hop, hse]
    simp only [hretr, some.injEq] at h
    exact h.symm
  | _ => cases h

omit hen in
lemma ungating_turn (hph : call.phase = .ungating outcome) (h : w.callTurn k call turn = some v) :
    v = w.goto k call { w.c with gate := true } (.returned outcome) := by
  unfold callTurn at h
  rw [hph] at h
  cases turn <;> cases h
  rfl

omit hen in
lemma returned_turn (hph : call.phase = .returned outcome) : w.callTurn k call turn = none := by
  unfold callTurn
  rw [hph]

end

end Link

/-! ### Stages of a close -/

variable {call' : Call} {c' : Client}

namespace Shutdown

structure Fresh (s : Shutdown) : Prop where
  opened : s.w.c.opened = true
  closing : s.w.c.closing = false
  closed : s.w.c.closed = false
  processEnded : s.w.c.processEnded = false
  nextSeq : s.w.c.nextSeq < maxSeq
  reader : s.w.reader = .reading
  process : s.process = .serving
  sent : s.sent = none

/-- The helper has answered, and the reader has got it. -/
structure Heard (s : Shutdown) (n : Nat) (response : Option Frame) : Prop where
  pending : s.w.c.pending =
    some { seq := n, op := some .close, delivered := true, closeAck := true, response }
  closing : s.w.c.closing = true
  process : s.process ≠ .serving
  sent : s.sent = none

inductive Stage (s : Shutdown) (call : Call) : Prop where
  | entering (hph : call.phase = .entering ∨ call.phase = .gating) (hgate : s.w.c.gate = true)
    (hwr : call.writer = .idle) (hse : call.seq = none) (hfr : s.Fresh)
  | gated (hph : call.phase = .gated) (hwr : call.writer = .idle) (hse : call.seq = none)
    (hfr : s.Fresh)
  | encoding (hph : call.phase = .encoding (s.w.c.nextSeq + 1)) (hwr : call.writer = .idle)
    (hse : call.seq = none) (hfr : s.Fresh)
  | asked {n : Nat} (hph : call.phase = .writing ∧ call.writer = .running ∨
      (call.phase = .writing ∨ call.phase = .waiting) ∧ call.writer = .wrote true)
    (hse : call.seq = some n) (hpen : s.w.c.pending = some { seq := n, op := some .close })
    (hclos : s.w.c.closing = true) (hre : s.w.reader = .reading)
    (hsent : s.process = .serving ∧ s.sent = none ∨
      s.process ≠ .serving ∧ s.sent = some (acknowledgement n))
  | heard {n : Nat} (hph : call.phase = .writing ∧ call.writer = .running ∨
      (call.phase = .writing ∨ call.phase = .waiting) ∧ call.writer = .wrote true)
    (hse : call.seq = some n) (hhe : s.Heard n (some (acknowledgement n)))
  | received {n : Nat} (hph : call.phase = .received (acknowledgement n) ∨
      call.phase = .committing (acknowledgement n) 0)
    (hwr : call.writer = .wrote true) (hse : call.seq = some n) (hhe : s.Heard n none)
  | committed {n : Nat} {success : Success} (hph : call.phase = .leaving (.ok success))
    (hwr : call.writer = .wrote true) (hse : call.seq = some n) (hhe : s.Heard n none)
    (hclosed : s.w.c.closed = true)
  | finished {success : Success} (hph : call.phase = .ungating (.ok success) ∨
      call.phase = .returned (.ok success)) (hwr : call.writer = .wrote true)
    (hclos : s.w.c.closing = true) (hclosed : s.w.c.closed = true) (hpr : s.process ≠ .serving)
      (hsent : s.sent = none)

structure Orderly (k : Nat) (s : Shutdown) : Prop where
  poisoned : s.w.c.poisoned = false
  aborted : s.w.c.aborted = false
  exitFailed : s.w.c.exitFailed = false
  cleanupFailure : s.w.c.cleanupFailure = false
  others : ∀ {m : Nat} {call : Call}, s.w.calls[m]? = some call → m ≠ k →
    ∃ outcome, call.phase = .returned outcome
  reader : s.w.reader = .reading ∨ s.w.reader = .ended ∧ s.process = .exited
  waiter : s.w.waiter ≠ .aborting
  exited : s.w.waiter ≠ .running ∨ s.w.c.processEnded = true → s.process = .exited
  stage : s.closer = .entering ∧ s.w.calls.length = k ∧ s.w.c.gate = true ∧ s.Fresh ∨
    ∃ call, s.w.calls[k]? = some call ∧ call.op = .close ∧ call.ended = none ∧ s.Stage call ∧
      (s.closer = .calling k ∨ (∃ success, call.phase = .returned (.ok success)) ∧
        (s.closer = .waiting true ∨
          s.w.waiter = .done ∧ (s.closer = .settling ∨ s.closer = .returned none)))

variable {s t : Shutdown} {k : Nat} {call : Call}

lemma Orderly.goto (h : s.Orderly k) (hcall : s.w.calls[k]? = some call)
    {phase : Phase} (hph : ∀ outcome, call.phase ≠ .returned outcome)
    (hop : call'.op = .close) (hen : call'.ended = none) (hpo : c'.poisoned = s.w.c.poisoned)
    (habo : c'.aborted = s.w.c.aborted) (hexit : c'.exitFailed = s.w.c.exitFailed)
    (hcle : c'.cleanupFailure = s.w.c.cleanupFailure) (hpr : c'.processEnded = s.w.c.processEnded)
    (hsa : Stage { s with w := s.w.goto k call' c' phase } { call' with phase }) :
    Orderly k { s with w := s.w.goto k call' c' phase } where
  poisoned := hpo.trans h.poisoned
  aborted := habo.trans h.aborted
  exitFailed := hexit.trans h.exitFailed
  cleanupFailure := hcle.trans h.cleanupFailure
  others {m other} hother hm := by
    rcases Link.calls_put hother with ⟨rfl, -⟩ | ⟨-, hoh'⟩
    · exact absurd rfl hm
    · exact h.others hoh' hm
  reader := h.reader
  waiter := h.waiter
  exited hor := h.exited (hor.imp_right fun he => hpr.symm.trans he)
  stage := by
    have hlt : k < s.w.calls.length := lt_length hcall
    refine .inr ⟨{ call' with phase }, List.getElem?_set_self hlt, hop, hen, hsa, .inl ?_⟩
    rcases h.stage with ⟨-, hlen, -⟩ | ⟨own, hon, -, -, -, hcalli | ⟨⟨success, hret⟩, -⟩⟩
    · omega
    · exact hcalli
    · cases hcall.symm.trans hon
      exact absurd hret (hph _)

lemma Stage.returned (h : s.Stage call) {outcome : Outcome} (hph : call.phase = .returned outcome) :
    (∃ success, outcome = .ok success) ∧ s.process ≠ .serving ∧ s.sent = none := by
  cases h with
  | entering hp => simp [hph] at hp
  | gated hp => simp [hph] at hp
  | encoding hp => simp [hph] at hp
  | asked hp => simp [hph] at hp
  | heard hp => simp [hph] at hp
  | received hp => simp [hph] at hp
  | committed hp => simp [hph] at hp
  | finished hp _ _ _ hpr hsent =>
    refine ⟨?_, hpr, hsent⟩
    simp only [hph, reduceCtorEq, Phase.returned.injEq, false_or] at hp
    exact ⟨_, hp⟩

lemma Fresh.goto (h : s.Fresh) (gate : Bool) (ph : Phase) :
    Fresh { s with w := s.w.goto k call { s.w.c with gate } ph } :=
  ⟨h.opened, h.closing, h.closed, h.processEnded, h.nextSeq, h.reader, h.process, h.sent⟩

lemma Orderly.callStep (h : s.Orderly k) {m : Nat} {turn : Turn} (htn : turn ≠ .encode true)
    (hst : s.link (.call m turn) = some t) : t.Orderly k := by
  obtain ⟨w, hw, rfl⟩ := map_eq_some_iff.mp hst
  obtain ⟨call, hcall, hca⟩ := bind_eq_some_iff.mp hw
  by_cases hm : m ≠ k
  · obtain ⟨outcome, hph⟩ := h.others hcall hm
    simp [Link.returned_turn hph] at hca
  obtain rfl := not_not.mp hm
  rcases h.stage with ⟨-, hlen, -⟩ | ⟨own, hon, hop, hen, hsa, -⟩
  · have hlt := lt_length hcall
    omega
  cases hcall.symm.trans hon
  cases hsa with
  | entering hph hgate hwr hse hfr =>
    rcases hph with hph | hph
    · obtain rfl := Link.entering_turn hen hph hca
      refine h.goto hcall (by simp [hph]) hop hen rfl rfl rfl rfl rfl ?_
      exact .entering (.inr rfl) hgate hwr hse (hfr.goto _ _)
    obtain rfl := Link.gating_turn hen h.aborted hph hca
    refine h.goto hcall (by simp [hph]) hop hen rfl rfl rfl rfl rfl ?_
    exact .gated rfl hwr hse (hfr.goto _ _)
  | gated hph hwr hse hfr =>
    obtain rfl := Link.gated_turn hen hph hop ⟨hfr.opened, h.poisoned, hfr.closing,
      hfr.closed, hfr.processEnded, hfr.nextSeq⟩ hca
    refine h.goto hcall (by simp [hph]) hop hen rfl rfl rfl rfl rfl ?_
    exact .encoding rfl hwr hse (hfr.goto _ _)
  | encoding hph _ _ hfr =>
    obtain rfl := Link.encoding_turn hen hph htn h.poisoned hfr.processEnded hca
    refine h.goto hcall (by simp [hph]) hop hen rfl rfl rfl rfl rfl ?_
    exact .asked (.inl ⟨rfl, rfl⟩) rfl (by simp [Link.goto, Link.put, Client.hand, hop])
      (by simp [Link.goto, Link.put, Client.hand, hop]) hfr.reader
      (.inl ⟨hfr.process, hfr.sent⟩)
  | asked hph hse hpen hclos hre hsent =>
    rcases hph with ⟨hph, hwr⟩ | ⟨hph | hph, hwr⟩
    · obtain ⟨hwro, -⟩ := Link.writing_turn hen h.aborted hph (by simp [hwr]) hca
      simp [hwr] at hwro
    · obtain ⟨-, rfl⟩ := Link.writing_turn hen h.aborted hph (by simp [hwr]) hca
      refine h.goto hcall (by simp [hph]) hop hen rfl rfl rfl rfl rfl ?_
      exact .asked (.inr ⟨.inr rfl, hwr⟩) hse hpen hclos hre hsent
    obtain ⟨p, frame, hp, hfra, -⟩ := Link.waiting_turn hen h.aborted hph hca
    cases hpen.symm.trans hp
    cases hfra
  | heard hph hse hhe =>
    rcases hph with ⟨hph, hwr⟩ | ⟨hph | hph, hwr⟩
    · obtain ⟨hwro, -⟩ := Link.writing_turn hen h.aborted hph (by simp [hwr]) hca
      simp [hwr] at hwro
    · obtain ⟨-, rfl⟩ := Link.writing_turn hen h.aborted hph (by simp [hwr]) hca
      refine h.goto hcall (by simp [hph]) hop hen rfl rfl rfl rfl rfl ?_
      exact .heard (.inr ⟨.inr rfl, hwr⟩) hse ⟨hhe.1, hhe.2, hhe.3, hhe.4⟩
    obtain ⟨p, frame, hp, hfra, rfl⟩ := Link.waiting_turn hen h.aborted hph hca
    cases hhe.pending.symm.trans hp
    cases hfra
    refine h.goto hcall (by simp [hph]) hop hen rfl rfl rfl rfl rfl ?_
    exact .received (.inl rfl) hwr hse ⟨rfl, hhe.2, hhe.3, hhe.4⟩
  | received hph hwr hse hhe =>
    rcases hph with hph | hph
    · obtain rfl := Link.received_turn hen hph hop h.poisoned hca
      refine h.goto hcall (by simp [hph]) hop hen rfl rfl rfl rfl rfl ?_
      exact .received (.inr rfl) hwr hse ⟨hhe.1, hhe.2, hhe.3, hhe.4⟩
    obtain rfl := Link.committing_turn hen hph hop h.poisoned hca
    refine h.goto hcall (by simp [hph]) hop hen rfl rfl rfl rfl rfl ?_
    exact .committed rfl hwr hse ⟨hhe.1, hhe.2, hhe.3, hhe.4⟩ rfl
  | committed hph hwr hse hhe hclosed =>
    obtain rfl := Link.leaving_turn hph hhe.pending rfl hse hca
    refine h.goto hcall (by simp [hph]) hop hen rfl rfl rfl rfl rfl ?_
    exact .finished (.inl rfl) hwr hhe.closing hclosed hhe.process hhe.sent
  | finished hph hwr hclos hclosed hpr hsent =>
    rcases hph with hph | hph
    · obtain rfl := Link.ungating_turn hph hca
      refine h.goto hcall (by simp [hph]) hop hen rfl rfl rfl rfl rfl ?_
      exact .finished (.inr rfl) hwr hclos hclosed hpr hsent
    · simp [Link.returned_turn hph] at hca

lemma Orderly.frame (h : s.Orderly k) (hcalls : t.w.calls = s.w.calls)
    (hco : t.closer = s.closer) (hpo : t.w.c.poisoned = false)
    (habo : t.w.c.aborted = false) (hexit : t.w.c.exitFailed = false)
    (hcle : t.w.c.cleanupFailure = false)
    (hre : t.w.reader = .reading ∨ t.w.reader = .ended ∧ t.process = .exited)
    (hwai : t.w.waiter ≠ .aborting) (hdn : s.w.waiter = .done → t.w.waiter = .done)
    (hexi : t.w.waiter ≠ .running ∨ t.w.c.processEnded = true → t.process = .exited)
    (hgate : t.w.c.gate = s.w.c.gate) (hfr : s.Fresh → s.closer = .entering → t.Fresh)
    (hsa : ∀ call, s.w.calls[k]? = some call → call.op = .close → s.Stage call → t.Stage call) :
    t.Orderly k where
  poisoned := hpo
  aborted := habo
  exitFailed := hexit
  cleanupFailure := hcle
  others := hcalls ▸ h.others
  reader := hre
  waiter := hwai
  exited := hexi
  stage := by
    rcases h.stage with ⟨het, hlen, hg, hf⟩ | ⟨call, hcl, hop, hen, hs, hc⟩
    · refine .inl ⟨hco.trans het, ?_, hgate.trans hg, hfr hf het⟩
      rw [hcalls, hlen]
    refine .inr ⟨call, hcalls ▸ hcl, hop, hen, hsa call hcl hop hs, ?_⟩
    rw [hco]
    exact hc.imp_right fun ⟨hret, hc⟩ => ⟨hret, hc.imp_right fun ⟨hd, hc⟩ => ⟨hdn hd, hc⟩⟩

/-! ### The helper and the other goroutines -/

lemma Stage.expected (h : s.Stage call) (hpr : s.process ≠ .serving) :
    s.w.c.closing = true ∧ (s.sent = none → s.w.c.expectedEOF true = true) := by
  cases h with
  | entering _ _ _ _ hfr => exact absurd hfr.process hpr
  | gated _ _ _ hfr => exact absurd hfr.process hpr
  | encoding _ _ _ hfr => exact absurd hfr.process hpr
  | asked _ _ _ hclos _ hsent =>
    refine ⟨hclos, fun hnn => ?_⟩
    rcases hsent with ⟨hser, -⟩ | ⟨-, hsome⟩
    · exact absurd hser hpr
    · simp [hnn] at hsome
  | heard _ _ hhe =>
    exact ⟨hhe.closing, fun _ => by simp [expectedEOF, hhe.closing, hhe.pending]⟩
  | received _ _ _ hhe =>
    exact ⟨hhe.closing, fun _ => by simp [expectedEOF, hhe.closing, hhe.pending]⟩
  | committed _ _ _ hhe hclosed => exact ⟨hhe.closing, fun _ => by simp [expectedEOF, hclosed]⟩
  | finished _ _ hclos hclosed _ _ => exact ⟨hclos, fun _ => by simp [expectedEOF, hclosed]⟩

lemma Stage.exits (h : s.Stage call) (hpr : s.process ≠ .serving)
    (hpen : t.w.c.pending = s.w.c.pending) (hclos : t.w.c.closing = s.w.c.closing)
    (hclosed : t.w.c.closed = s.w.c.closed) (hsent : t.sent = s.sent)
    (hpr' : t.process ≠ .serving) (hre : s.sent ≠ none → t.w.reader = s.w.reader) :
    t.Stage call := by
  cases h with
  | entering _ _ _ _ hfr => exact absurd hfr.process hpr
  | gated _ _ _ hfr => exact absurd hfr.process hpr
  | encoding _ _ _ hfr => exact absurd hfr.process hpr
  | asked hph hse hp hclose hr hs =>
    rcases hs with ⟨hser, -⟩ | ⟨-, hsome⟩
    · exact absurd hser hpr
    · exact .asked hph hse (hpen.trans hp) (hclos.trans hclose)
        ((hre (by simp [hsome])).trans hr) (.inr ⟨hpr', hsent.trans hsome⟩)
  | heard hph hse hhe =>
    exact .heard hph hse ⟨hpen.trans hhe.pending, hclos.trans hhe.closing, hpr',
      hsent.trans hhe.sent⟩
  | received hph hwr hse hhe =>
    exact .received hph hwr hse ⟨hpen.trans hhe.pending,
      hclos.trans hhe.closing, hpr', hsent.trans hhe.sent⟩
  | committed hph hwr hse hhe hcl =>
    exact .committed hph hwr hse ⟨hpen.trans hhe.pending,
      hclos.trans hhe.closing, hpr', hsent.trans hhe.sent⟩ (hclosed.trans hcl)
  | finished hph hwr hclose hcl _ hs =>
    exact .finished hph hwr (hclos.trans hclose) (hclosed.trans hcl) hpr' (hsent.trans hs)

lemma Stage.congr (h : s.Stage call) (hc : t.w.c = s.w.c) (hre : t.w.reader = s.w.reader)
    (hpr : t.process = s.process) (hsent : t.sent = s.sent) : t.Stage call := by
  have hfr (hf : s.Fresh) : t.Fresh := by
    obtain ⟨h1, h2, h3, h4, h5, h6, h7, h8⟩ := hf
    exact ⟨hc ▸ h1, hc ▸ h2, hc ▸ h3, hc ▸ h4, hc ▸ h5, hre ▸ h6, hpr ▸ h7, hsent ▸ h8⟩
  have hhe {n : Nat} {rsp : Option Frame} (hh : s.Heard n rsp) : t.Heard n rsp :=
    ⟨hc ▸ hh.pending, hc ▸ hh.closing, hpr ▸ hh.process, hsent ▸ hh.sent⟩
  cases h with
  | entering hph hgate hwr hse hf =>
    exact .entering hph (hc ▸ hgate) hwr hse (hfr hf)
  | gated hph hwr hse hf => exact .gated hph hwr hse (hfr hf)
  | encoding hph hwr hse hf => exact .encoding (hc ▸ hph) hwr hse (hfr hf)
  | asked hph hse hpen hclos hr =>
    exact .asked hph hse (hc ▸ hpen) (hc ▸ hclos) (hre ▸ hr) (by rwa [hpr, hsent])
  | heard hph hse hh => exact .heard hph hse (hhe hh)
  | received hph hwr hse hh => exact .received hph hwr hse (hhe hh)
  | committed hph hwr hse hh hclosed =>
    exact .committed hph hwr hse (hhe hh) (hc ▸ hclosed)
  | finished hph hwr hclos hclosed hp hs =>
    exact .finished hph hwr (hc ▸ hclos) (hc ▸ hclosed) (hpr ▸ hp) (hsent ▸ hs)

lemma Stage.wrote (h : s.Stage call) (hwr : call.writer = .running) :
    s.Stage { call with writer := .wrote true } := by
  cases h with
  | entering _ _ hw => simp [hwr] at hw
  | gated _ hw => simp [hwr] at hw
  | encoding _ hw => simp [hwr] at hw
  | asked hph hse hpen hclos hr hs =>
    rcases hph with ⟨hph, -⟩ | ⟨-, hw⟩
    · exact .asked (.inr ⟨.inl hph, rfl⟩) hse hpen hclos hr hs
    · simp [hwr] at hw
  | heard hph hse hh =>
    rcases hph with ⟨hph, -⟩ | ⟨-, hw⟩
    · exact .heard (.inr ⟨.inl hph, rfl⟩) hse hh
    · simp [hwr] at hw
  | received _ hw => simp [hwr] at hw
  | committed _ hw => simp [hwr] at hw
  | finished _ hw => simp [hwr] at hw

section

variable (h : s.Orderly k)

include h

lemma Orderly.wrote {m : Nat} (hst : s.link (.wrote m true) = some t) : t.Orderly k := by
  obtain ⟨w, hw, rfl⟩ := map_eq_some_iff.mp hst
  obtain ⟨call, hcl, hput⟩ := bind_eq_some_iff.mp hw
  split_ifs at hput with hwr
  cases hput
  have hloo {i : Nat} {other : Call}
      (hother : (s.w.put m { call with writer := .wrote true }).calls[i]? = some other) :
      i = m ∧ other = { call with writer := .wrote true } ∨ i ≠ m ∧ s.w.calls[i]? = some other := by
    have hput : ({ s.w with c := s.w.c }.put m { call with writer := .wrote true }).calls[i]? =
      some other := hother
    exact Link.calls_put hput
  refine ⟨h.poisoned, h.aborted, h.exitFailed, h.cleanupFailure, fun hother hm => ?_, h.reader,
    h.waiter, h.exited, ?_⟩
  · rcases hloo hother with ⟨rfl, rfl⟩ | ⟨-, hoh'⟩
    · have hph := h.others hcl hm
      exact hph
    · exact h.others hoh' hm
  have hlt : m < s.w.calls.length := lt_length hcl
  rcases h.stage with ⟨het, hlen, hgate, hfr⟩ | ⟨own, hon, hop, hen, hsa, hco⟩
  · refine .inl ⟨het, by simpa [Link.put] using hlen, hgate, ?_⟩
    exact ⟨hfr.1, hfr.2, hfr.3, hfr.4, hfr.5, hfr.6, hfr.7, hfr.8⟩
  by_cases hm : m = k
  · subst hm
    cases hcl.symm.trans hon
    exact .inr ⟨_, List.getElem?_set_self hlt, hop, hen, (hsa.wrote hwr).congr rfl rfl rfl rfl, hco⟩
  · exact .inr ⟨own, by simpa [Link.put, List.getElem?_set_ne hm] using hon, hop, hen,
      hsa.congr rfl rfl rfl rfl, hco⟩

lemma Orderly.answer (hst : s.step .answer = some t) : t.Orderly k := by
  simp only [step] at hst
  split at hst
  · rename_i m hser hcalli
    obtain ⟨n, hn, rfl⟩ := map_eq_some_iff.mp hst
    have hrunn : ¬(s.w.waiter ≠ .running ∨ s.w.c.processEnded = true) := fun hor => by
      simp [h.exited hor] at hser
    have hre := h.reader.resolve_right fun ⟨_, hexi⟩ => by simp [hexi] at hser
    refine h.frame rfl rfl h.poisoned h.aborted h.exitFailed h.cleanupFailure (.inl hre) h.waiter
      id (fun hor => absurd hor hrunn) rfl (fun _ hc => by simp [hcalli] at hc)
      fun call hcl hop hsa => ?_
    have hmk : m = k := by
      rcases h.stage with ⟨het, -⟩ | ⟨own, hon, -, -, -, hc | ⟨-, hc | ⟨-, hc | hc⟩⟩⟩
      · simp [hcalli] at het
      · simpa [hcalli] using hc
      · simp [hcalli] at hc
      · simp [hcalli] at hc
      · simp [hcalli] at hc
    subst hmk
    simp only [hcl, bind_some] at hn
    cases hsa with
    | entering _ _ _ hse => simp [hn] at hse
    | gated _ _ hse => simp [hn] at hse
    | encoding _ _ hse => simp [hn] at hse
    | asked hph hse hpen hclos hr =>
      cases hn.symm.trans hse
      exact .asked hph hse hpen hclos hr (.inr ⟨nofun, rfl⟩)
    | heard _ _ hh => exact absurd hser hh.process
    | received _ _ _ hh => exact absurd hser hh.process
    | committed _ _ _ hh => exact absurd hser hh.process
    | finished _ _ _ _ hp => exact absurd hser hp
  · cases hst

lemma Orderly.answered (hpr : s.process ≠ .serving) :
    ∃ call, s.w.calls[k]? = some call ∧ s.Stage call := by
  rcases h.stage with ⟨-, -, -, hfr⟩ | ⟨call, hcl, -, -, hsa, -⟩
  · exact absurd hfr.process hpr
  · exact ⟨call, hcl, hsa⟩

lemma Orderly.exits (hst : s.step .exits = some t) : t.Orderly k := by
  simp only [step] at hst
  split_ifs at hst with hans
  cases hst
  have hpr : s.process ≠ .serving := by simp [hans]
  refine h.frame rfl rfl h.poisoned h.aborted h.exitFailed h.cleanupFailure ?_ h.waiter id
    (fun _ => rfl) rfl (fun hf _ => absurd hf.process hpr)
    fun call _ _ hsa => hsa.exits hpr rfl rfl rfl rfl nofun fun _ => rfl
  exact h.reader.imp_right fun hr => ⟨hr.1, rfl⟩

lemma Orderly.hear (hst : s.step .hear = some t) : t.Orderly k := by
  obtain ⟨frame, hsent, hmap⟩ := bind_eq_some_iff.mp hst
  obtain ⟨w, hw, rfl⟩ := map_eq_some_iff.mp hmap
  rcases h.stage with ⟨-, -, -, hfr⟩ | ⟨call, hcl, hop, hen, hsa, hco⟩
  · simp [hfr.sent] at hsent
  cases hsa with
  | entering _ _ _ _ hfr => simp [hfr.sent] at hsent
  | gated _ _ _ hfr => simp [hfr.sent] at hsent
  | encoding _ _ _ hfr => simp [hfr.sent] at hsent
  | @asked n hph hse hpen hclos hre hs =>
    rcases hs with ⟨-, hnn⟩ | ⟨hpr, hsome⟩
    · simp [hnn] at hsent
    cases hsent.symm.trans hsome
    have hdel : s.w.c.deliver (acknowledgement n) = .delivered { s.w.c with
        pending := some { seq := n, op := some .close, delivered := true, closeAck := true
                          response := some (acknowledgement n) } } none := by
      rw [Client.deliver, if_neg (by simp [h.poisoned]), hpen]
      simp [acknowledgement, decodeClose]
    have hrd : s.w.step (.read (.frame (acknowledgement n))) = some { s.w with
        c := { s.w.c with
          pending := some { seq := n, op := some .close, delivered := true, closeAck := true
                            response := some (acknowledgement n) } }
        frames := s.w.frames ++ [acknowledgement n] } := by
      simp only [acknowledgement] at hdel
      simp only [Link.step, Link.readTurn, hre, acknowledgement, hdel]
    cases hrd.symm.trans hw
    refine ⟨h.poisoned, h.aborted, h.exitFailed, h.cleanupFailure, h.others, .inl hre, h.waiter,
      h.exited, .inr ⟨call, hcl, hop, hen, ?_, hco⟩⟩
    exact .heard hph hse ⟨rfl, hclos, hpr, rfl⟩
  | heard _ _ hh => simp [hh.sent] at hsent
  | received _ _ _ hh => simp [hh.sent] at hsent
  | committed _ _ _ hh => simp [hh.sent] at hsent
  | finished _ _ _ _ _ hnn => simp [hnn] at hsent

lemma Orderly.hangup (hst : s.step .hangup = some t) : t.Orderly k := by
  simp only [step] at hst
  split_ifs at hst with hexi
  obtain ⟨w, hw, rfl⟩ := map_eq_some_iff.mp hst
  have hpr : s.process ≠ .serving := by simp [hexi.1]
  have hnn : s.sent = none := by simpa using hexi.2
  obtain ⟨call, -, hsa⟩ := h.answered hpr
  have heof := (hsa.expected hpr).2 hnn
  simp only [Link.step, Link.readTurn, heof, Bool.true_or, if_true] at hw
  split at hw
  · cases hw
    exact h.frame rfl rfl h.poisoned h.aborted h.exitFailed h.cleanupFailure
      (.inr ⟨rfl, hexi.1⟩) h.waiter id h.exited rfl (fun hf _ => absurd hf.process hpr)
      fun call _ _ hsa => hsa.exits hpr rfl rfl rfl rfl hpr fun hs => absurd hnn hs
  · cases hw

lemma Orderly.reap (hst : s.step .reap = some t) : t.Orderly k := by
  simp only [step] at hst
  split_ifs at hst with hexi
  obtain ⟨w, hw, rfl⟩ := map_eq_some_iff.mp hst
  have hpr : s.process ≠ .serving := by simp [hexi]
  obtain ⟨call, -, hsa⟩ := h.answered hpr
  simp only [Link.step, (hsa.expected hpr).1, Bool.not_true, Bool.or_self,
    Bool.false_eq_true, if_false] at hw
  split_ifs at hw with hrunn
  cases hw
  exact h.frame rfl rfl h.poisoned h.aborted rfl h.cleanupFailure h.reader (by simp)
    (fun hd => by simp [hd] at hrunn) (fun _ => hexi) rfl
    (fun hf _ => absurd hf.process hpr)
    fun call _ _ hs => hs.exits hpr rfl (hsa.expected hpr).1.symm rfl rfl hpr fun _ => rfl

lemma Orderly.wait {waiter : Waiter} (hc : c' = s.w.c)
    (hbe : s.w.waiter ≠ .running) (hno : waiter ≠ .aborting)
    (hdn : s.w.waiter = .done → waiter = .done) :
    Orderly k { s with w := { s.w with c := c', waiter } } := by
  subst hc
  have hexi := h.exited (.inl hbe)
  have hpr : s.process ≠ .serving := by simp [hexi]
  exact h.frame rfl rfl h.poisoned h.aborted h.exitFailed h.cleanupFailure h.reader hno hdn
    (fun _ => hexi) rfl (fun hf _ => absurd hf.process hpr)
    fun call _ _ hsa => hsa.exits hpr rfl rfl rfl rfl hpr fun _ => rfl

lemma Orderly.turn (hcl : s.w.calls[k]? = some call) (hop : call.op = .close)
    (hen : call.ended = none) (hsa : s.Stage call) {closer : Closer}
    (hco : closer = .calling k ∨ (∃ success, call.phase = .returned (.ok success)) ∧
      (closer = .waiting true ∨
        s.w.waiter = .done ∧ (closer = .settling ∨ closer = .returned none))) :
    Orderly k { s with closer } :=
  ⟨h.poisoned, h.aborted, h.exitFailed, h.cleanupFailure, h.others, h.reader, h.waiter, h.exited,
    .inr ⟨call, hcl, hop, hen, hsa.congr rfl rfl rfl rfl, hco⟩⟩

lemma Orderly.close (hst : s.step .close = some t) : t.Orderly k := by
  simp only [step, closeTurn] at hst
  rcases h.stage with ⟨hco, hlen, hgate, hfr⟩ |
    ⟨call, hcall, hop, hen, hsa, hco | ⟨⟨success, hph⟩, hco⟩⟩
  · -- the request is made
    simp only [closeNext, hco, h.poisoned, hfr.closed, Bool.false_eq_true, if_false,
      some.injEq] at hst
    subst hst
    have hfr' : Fresh { s with
        w := { s.w with calls := s.w.calls ++ [{ op := .close }] }
        closer := .calling s.w.calls.length } :=
      ⟨hfr.1, hfr.2, hfr.3, hfr.4, hfr.5, hfr.6, hfr.7, hfr.8⟩
    refine ⟨h.poisoned, h.aborted, h.exitFailed, h.cleanupFailure, fun hother hm => ?_, h.reader,
      h.waiter, h.exited, .inr ⟨{ op := .close }, ?_, rfl, rfl, .entering (.inl rfl) hgate rfl rfl
        hfr', .inl (by rw [hlen])⟩⟩
    · rcases Link.calls_begin hother with ⟨hm', -⟩ | hoh'
      · omega
      · exact h.others hoh' hm
    · rw [← hlen]
      exact getElem?_concat_length
  · -- the call has returned
    simp only [closeNext, hco, hcall, bind_some, returned] at hst
    cases hph : call.phase with
    | returned =>
      obtain ⟨success, rfl⟩ := (hsa.returned hph).1
      simp only [hph, some.injEq] at hst
      subst hst
      exact h.turn hcall hop hen hsa (.inr ⟨⟨success, hph⟩, .inl rfl⟩)
    | _ => simp [hph] at hst
  · rcases hco with hco | ⟨hdn, hco | hco⟩
    · -- the process is reaped
      simp only [closeNext, hco, h.cleanupFailure, Bool.false_eq_true, if_false] at hst
      split_ifs at hst with hdn
      cases hst
      exact h.turn hcall hop hen hsa (.inr ⟨⟨success, hph⟩, .inr ⟨not_not.mp hdn, .inl rfl⟩⟩)
    · simp only [closeNext, hco, h.poisoned, h.exitFailed, Bool.or_self, Bool.false_eq_true,
        if_false, some.injEq] at hst
      subst hst
      exact h.turn hcall hop hen hsa (.inr ⟨⟨success, hph⟩, .inr ⟨hdn, .inr rfl⟩⟩)
    · simp [closeNext, hco] at hst

lemma Orderly.step {evt : Event} (hst : s.step evt = some t) : t.Orderly k := by
  cases evt with
  | close => exact h.close hst
  | call _ turn =>
    cases turn with
    | encode tooLarge =>
      cases tooLarge with
      | true => cases hst
      | false => exact h.callStep (by simp) hst
    | _ => exact h.callStep (by simp) hst
  | wrote => exact h.wrote hst
  | answer => exact h.answer hst
  | exits => exact h.exits hst
  | hear => exact h.hear hst
  | hangup => exact h.hangup hst
  | readerAbort =>
    obtain ⟨w, hw, rfl⟩ := map_eq_some_iff.mp hst
    rcases h.reader with hr | ⟨hr, -⟩ <;> simp [Link.step, hr] at hw
  | reap => exact h.reap hst
  | waiterAbort =>
    obtain ⟨w, hw, rfl⟩ := map_eq_some_iff.mp hst
    simp [Link.step, h.waiter] at hw
  | release =>
    obtain ⟨w, hw, rfl⟩ := map_eq_some_iff.mp hst
    simp only [Link.step] at hw
    split_ifs at hw with hrel
    cases hw
    refine h.wait ?_ (by simp [hrel]) (by simp) (by simp [hrel])
    simp
  | drained =>
    obtain ⟨w, hw, rfl⟩ := map_eq_some_iff.mp hst
    simp only [Link.step] at hw
    split at hw
    · rename_i hdraining hen
      split_ifs at hw
      cases hw
      exact h.wait rfl (by simp [hdraining]) (by simp) fun _ => rfl
    · cases hw
  | closeAborted =>
    obtain ⟨w, hw, rfl⟩ := map_eq_some_iff.mp hst
    simp [Link.step, h.poisoned] at hw

end

lemma orderly_start {w : Link} (h : w.Open) : Orderly w.calls.length { w := w } where
  poisoned := h.poisoned
  aborted := h.aborted
  exitFailed := h.exitFailed
  cleanupFailure := h.cleanupFailure
  others hcall _ := h.calls _ (mem_of_getElem? hcall)
  reader := .inl h.reader
  waiter := by simp [h.waiter]
  exited := by simp [h.waiter, h.processEnded]
  stage := .inl ⟨rfl, rfl, h.gate, h.opened, h.closing, h.closed, h.processEnded, h.nextSeq,
    h.reader, rfl, rfl⟩

end Shutdown

/-! ### Every close comes to an end -/

def Phase.left : Phase → Nat
  | .entering => 20
  | .gating => 18
  | .gated => 16
  | .encoding _ => 14
  | .writing => 11
  | .waiting => 10
  | .received _ => 9
  | .committing .. => 8
  | .aborting .. => 7
  | .failing _ => 6
  | .leaving _ => 5
  | .ungating _ => 4
  | .returned _ => 3

def Call.left (call : Call) : Nat := call.phase.left + if call.writer = .running then 1 else 0

lemma Phase.left_of_handed {ph : Phase} (h : ph.handed = true) (ho : ph.outcome = none) :
    8 ≤ ph.left := by
  cases ph <;> simp_all [Phase.left]

variable {call : Call}

lemma Goes.left {c : Client} {ph : Phase} (h : Goes c call ph) : ph.left < call.phase.left := by
  cases h with
  | cancelled h => rcases h with h | h <;> rw [h] <;> simp [Phase.left]
  | wait h => rw [h]; simp [Phase.left]
  | shut h => rw [h]; simp [Phase.left]
  | refused h => rcases h with h | ⟨n, h⟩ <;> rw [h] <;> simp [Phase.left]
  | admitted h => rw [h]; simp [Phase.left]
  | unfit h => rcases h with h | ⟨n, h⟩ <;> rw [h] <;> simp [Phase.left]
  | sent h => rw [h]; simp [Phase.left]
  | broken h ho => exact Nat.lt_of_lt_of_le (by simp [Phase.left]) (Phase.left_of_handed h ho)
  | failing h ho =>
    rcases h with h | ⟨n, h⟩
    · exact Nat.lt_of_lt_of_le (by simp [Phase.left]) (Phase.left_of_handed h ho)
    · rw [h]
      simp [Phase.left]
  | stale h => rw [h]; simp [Phase.left]
  | validated h => rw [h]; simp [Phase.left]
  | failed h => rw [h]; simp [Phase.left]
  | unhanded h => rw [h]; simp [Phase.left]

lemma Move.left {c : Client} {call : Call} (h : Move c call c' call') : call'.left < call.left := by
  cases h with
  | goes h => exact Nat.add_lt_add_right h.left _
  | hand h =>
    simp only [Call.left, h, Phase.left, if_true]
    omega
  | gate h => exact Nat.add_lt_add_right (by rw [h]; simp [Phase.left]) _
  | take h => exact Nat.add_lt_add_right (by rw [h]; simp [Phase.left]) _
  | commit h => exact Nat.add_lt_add_right (by rw [h]; simp [Phase.left]) _
  | abort h => exact Nat.add_lt_add_right (by rw [h]; simp [Phase.left]) _
  | retract h => exact Nat.add_lt_add_right (by rw [h]; simp [Phase.left]) _
  | ungate h => exact Nat.add_lt_add_right (by rw [h]; simp [Phase.left]) _

namespace Link

variable {w : Link} {k : Nat} {call : Call}

def left (w : Link) : Nat :=
  (w.calls.map Call.left).sum +
    (match w.reader with
      | .reading => 2
      | .aborting _ => 1
      | .ended => 0) +
    match w.waiter with
      | .running => 4
      | .aborting => 3
      | .releasing => 2
      | .draining => 1
      | .done => 0

lemma sum_set_lt (hcl : w.calls[k]? = some call) (h : call'.left < call.left) :
    ((w.calls.set k call').map Call.left).sum < (w.calls.map Call.left).sum := by
  obtain ⟨hlt, hget⟩ := List.getElem?_eq_some_iff.mp hcl
  have hself : w.calls.map Call.left = (w.calls.map Call.left).set k call.left := by
    rw [← List.map_set, ← hget, List.set_getElem_self]
  rw [hself, List.map_set, List.sum_set, List.sum_set]
  have hlen : k < (w.calls.map Call.left).length := by simpa using hlt
  simp only [hlen, if_true]
  omega

lemma left_lt {evt : Client.Event} {v : Link} (hpo : w.c.poisoned = false) (heve : match evt with
      | .call .. | .wrote .. | .readerAbort | .exit _ | .waiterAbort | .release _ | .drained
      | .closeAborted | .read (.failed ..) => True
      | _ => False)
    (hst : w.step evt = some v) : v.left < w.left := by
  cases evt with
  | call =>
    obtain ⟨call, hcl, htn⟩ := bind_eq_some_iff.mp hst
    obtain ⟨c', call', hmove, rfl⟩ := callTurn_cases htn
    exact Nat.add_lt_add_right (Nat.add_lt_add_right (sum_set_lt hcl hmove.left) _) _
  | wrote =>
    obtain ⟨call, hcl, hput⟩ := bind_eq_some_iff.mp hst
    split_ifs at hput with hwr
    cases hput
    refine Nat.add_lt_add_right (Nat.add_lt_add_right (sum_set_lt hcl ?_) _) _
    simp [Call.left, hwr]
  | read line =>
    cases line with
    | failed =>
      simp only [Link.step, readTurn] at hst
      split at hst
      · rename_i hre
        split_ifs at hst <;> cases hst <;> simp [left, hre]
      · cases hst
    | invalid | frame => exact heve.elim
  | readerAbort =>
    simp only [Link.step] at hst
    split at hst
    · rename_i hre
      cases hst
      simp [left, hre]
    · cases hst
  | exit =>
    simp only [Link.step] at hst
    split_ifs at hst with hwai hor <;> cases hst <;>
      simp [left, hwai]
  | waiterAbort | release =>
    simp only [Link.step] at hst
    split_ifs at hst with hwai
    cases hst
    simp [left, hwai]
  | drained =>
    simp only [Link.step] at hst
    split at hst
    · rename_i hwai _
      split_ifs at hst
      cases hst
      simp [left, hwai]
    · cases hst
  | closeAborted => simp [Link.step, hpo] at hst
  | _ => exact heve.elim

end Link

namespace Shutdown

variable {s t : Shutdown} {k : Nat}

def left (s : Shutdown) : Nat :=
  s.w.left + (if s.sent.isSome then 1 else 0) +
    (match s.process with
      | .serving => 4
      | .answered => 2
      | .exited => 0) +
    match s.closer with
      | .entering => 40
      | .calling _ => 5
      | .rechecking => 4
      | .waiting _ => 3
      | .aborting _ => 2
      | .settling => 1
      | .returned _ => 0

lemma left_link {evt : Client.Event} (hst : s.link evt = some t)
    (h : ∀ w, s.w.step evt = some w → w.left < s.w.left) : t.left < s.left := by
  obtain ⟨w, hw, rfl⟩ := map_eq_some_iff.mp hst
  have hlt := h w hw
  simp only [left]
  omega

lemma left_close (hst : s.step .close = some t) : t.left < s.left := by
  simp only [step, closeTurn, closeNext] at hst
  split at hst
  all_goals rename_i hco
  · split_ifs at hst <;> cases hst
    · simp [left, hco]
    · simp [left, hco]
    · simp [left, hco, Link.left, Call.left, Phase.left]
      omega
  · split at hst
    · cases hst
    · cases hst
      simp [left, hco]
    · split_ifs at hst <;> cases hst <;> simp [left, hco]
  · split_ifs at hst <;> cases hst <;> simp [left, hco]
  · split_ifs at hst <;> cases hst <;> simp [left, hco]
  · cases hst
    simp [left, hco, Link.left]
  · split_ifs at hst <;> cases hst <;> simp [left, hco]
  · cases hst

lemma left_hear (hst : s.step .hear = some t) : t.left < s.left := by
  obtain ⟨frame, hsent, hmap⟩ := bind_eq_some_iff.mp hst
  obtain ⟨w, hw, rfl⟩ := map_eq_some_iff.mp hmap
  have hle : w.left ≤ s.w.left := by
    simp only [Link.step, Link.readTurn] at hw
    split at hw
    · rename_i hre
      split at hw
      · cases hw
        simp [Link.left, hre]
      · split at hw <;> cases hw <;> simp [Link.left, hre]
    · cases hw
  simp only [left, hsent, isSome_some, isSome_none, if_true, Bool.false_eq_true, if_false]
  omega

lemma left_step {evt : Event} (hpo : s.w.c.poisoned = false)
    (hst : s.step evt = some t) : t.left < s.left := by
  cases evt with
  | close => exact left_close hst
  | call k turn =>
    have hlink : s.link (.call k turn) = some t := by
      cases turn with
      | encode tooLarge =>
        cases tooLarge with
        | true => cases hst
        | false => exact hst
      | _ => exact hst
    exact left_link hlink fun w => Link.left_lt hpo trivial
  | wrote | readerAbort | waiterAbort | release | drained | closeAborted =>
    exact left_link hst fun w => Link.left_lt hpo trivial
  | answer =>
    simp only [step] at hst
    split at hst
    · rename_i hser _
      obtain ⟨n, -, rfl⟩ := map_eq_some_iff.mp hst
      simp only [left, hser, isSome_some, if_true]
      split_ifs <;> omega
    · cases hst
  | exits =>
    simp only [step] at hst
    split_ifs at hst with hans
    cases hst
    simp [left, hans]
  | hear => exact left_hear hst
  | hangup | reap =>
    simp only [step] at hst
    split_ifs at hst
    exact left_link hst fun w => Link.left_lt hpo trivial

/-! ### Somebody can always go on -/

def Enabled (s : Shutdown) : Prop := ∃ event t, s.step event = some t

lemma enabled_of_isSome (evt : Event) (h : (s.step evt).isSome = true) : s.Enabled :=
  ⟨evt, isSome_iff_exists.mp h⟩

lemma enabled_call (hcl : s.w.calls[k]? = some call) (turn : Turn)
    (htn : turn ≠ .encode true) (hv : (s.w.callTurn k call turn).isSome = true) : s.Enabled := by
  obtain ⟨v, hv⟩ := isSome_iff_exists.mp hv
  refine ⟨.call k turn, { s with w := v }, ?_⟩
  have hlink : s.link (.call k turn) = some { s with w := v } := by
    simp [link, Link.step, hcl, hv]
  cases turn with
  | encode tooLarge =>
    cases tooLarge with
    | true => exact absurd rfl htn
    | false => exact hlink
  | _ => exact hlink

lemma enabled_writer {m : Nat} (hcl : s.w.calls[m]? = some call)
    (hwr : call.writer = .running) : s.Enabled :=
  enabled_of_isSome (.wrote m) (by simp [step, link, Link.step, hcl, hwr])

lemma enabled_written (hcl : s.w.calls[k]? = some call)
    (hph : call.phase = .writing ∧ call.writer = .running ∨
      (call.phase = .writing ∨ call.phase = .waiting) ∧ call.writer = .wrote true)
    (hwait : call.phase = .waiting → s.Enabled) : s.Enabled := by
  rcases hph with ⟨-, hwr⟩ | ⟨hph | hph, hwr⟩
  · exact enabled_writer hcl hwr
  · refine enabled_call hcl .ready (by simp) ?_
    simp [Link.callTurn, hph, Link.awaitTurn, hwr]
  · exact hwait hph

lemma Orderly.enabled_exit (h : s.Orderly k) (hpr : s.process ≠ .serving)
    (hsent : s.sent = none) (hdn : s.w.waiter ≠ .done) : s.Enabled := by
  cases hp : s.process with
  | serving => exact absurd hp hpr
  | answered => exact enabled_of_isSome .exits (by simp [Shutdown.step, hp])
  | exited =>
    cases hw : s.w.waiter with
    | running => exact enabled_of_isSome .reap (by simp [Shutdown.step, hp, link, Link.step, hw])
    | aborting => exact absurd hw h.waiter
    | releasing => exact enabled_of_isSome .release (by simp [Shutdown.step, link, Link.step, hw])
    | done => exact absurd hw hdn
    | draining =>
      rcases h.reader with hre | ⟨hre, -⟩
      · obtain ⟨call, -, hsa⟩ := h.answered hpr
        have heof := (hsa.expected hpr).2 hsent
        exact enabled_of_isSome .hangup
          (by simp [Shutdown.step, hp, hsent, link, Link.step, Link.readTurn, hre, heof])
      by_cases hwrit : s.w.calls.all (·.writer ≠ .running) = true
      · exact enabled_of_isSome .drained (by
          simp only [Shutdown.step, link, Link.step, hw, hre, hwrit]
          rfl)
      -- a request is still being written
      simp only [List.all_eq_true, decide_eq_true_eq, not_forall, not_not] at hwrit
      obtain ⟨call, hme, hwr⟩ := hwrit
      obtain ⟨m, hm⟩ := List.mem_iff_getElem?.mp hme
      exact enabled_writer hm hwr

lemma enabled_request (hcl : s.w.calls[k]? = some call)
    (hsa : s.Stage call) (hen : call.ended = none) (hcalli : s.closer = .calling k)
    (hretu : ∀ outcome, call.phase ≠ .returned outcome) : s.Enabled := by
  cases hsa with
  | entering hph hgate _ _ _ =>
    rcases hph with hph | hph
    · refine enabled_call hcl .next (by simp) ?_
      simp [Link.callTurn, hph, hen]
    · refine enabled_call hcl .ready (by simp) ?_
      simp [Link.callTurn, hph, Link.gateTurn, hgate]
  | gated hph _ _ _ =>
    refine enabled_call hcl .next (by simp) ?_
    simp [Link.callTurn, hph]
  | encoding hph _ _ _ =>
    refine enabled_call hcl (.encode false) (by simp) ?_
    simp [Link.callTurn, hph]
  | asked hph hse _ _ hre hsent =>
    refine enabled_written hcl hph fun _ => ?_
    rcases hsent with ⟨hser, -⟩ | ⟨-, hsome⟩
    · exact enabled_of_isSome .answer (by simp [Shutdown.step, hser, hcalli, hcl, hse])
    refine enabled_of_isSome .hear ?_
    simp only [Shutdown.step, hsome, bind_some, Link.step, Link.readTurn, hre,
      acknowledgement, isSome_map]
    split <;> rfl
  | heard hph _ hhe =>
    refine enabled_written hcl hph fun hwait => ?_
    refine enabled_call hcl .ready (by simp) ?_
    simp [Link.callTurn, hwait, Link.awaitTurn, hhe.pending]
  | received hph _ _ _ =>
    refine enabled_call hcl .next (by simp) ?_
    rcases hph with hph | hph <;> simp [Link.callTurn, hph]
  | committed hph _ _ _ _ =>
    refine enabled_call hcl .next (by simp) ?_
    simp [Link.callTurn, hph]
  | finished hph _ _ _ _ _ =>
    rcases hph with hph | hph
    · refine enabled_call hcl .next (by simp) ?_
      simp [Link.callTurn, hph]
    · exact absurd hph (hretu _)

lemma Orderly.enabled (h : s.Orderly k) (hco : ∀ err, s.closer ≠ .returned err) : s.Enabled := by
  rcases h.stage with ⟨het, -, -, hfr⟩ | ⟨call, hcall, -, hen, hsa, hcalli | ⟨⟨success, hph⟩, hc⟩⟩
  · exact enabled_of_isSome .close
      (by simp [Shutdown.step, closeTurn, closeNext, het, h.poisoned, hfr.closed])
  · cases hph : call.phase with
    | returned =>
      obtain ⟨success, rfl⟩ := (hsa.returned hph).1
      exact enabled_of_isSome .close
        (by simp [Shutdown.step, closeTurn, closeNext, hcalli, hcall, returned, hph])
    | _ => exact enabled_request hcall hsa hen hcalli (by simp [hph])
  obtain ⟨-, hpr, hsent⟩ := hsa.returned hph
  rcases hc with hwait | ⟨-, hset | hret⟩
  · by_cases hdn : s.w.waiter = .done
    · exact enabled_of_isSome .close
        (by simp [Shutdown.step, closeTurn, closeNext, hwait, hdn, h.cleanupFailure])
    · exact h.enabled_exit hpr hsent hdn
  · exact enabled_of_isSome .close
      (by simp [Shutdown.step, closeTurn, closeNext, hset, h.poisoned, h.exitFailed])
  · exact absurd hret (hco none)

/-- A client that is closed in good weather is closed: whatever the order in which its goroutines
go on, it is never poisoned, every schedule is finite, and none ends before `Close` has returned
without an error. -/
theorem close_returns_nil {w : Link} (hpn : w.Open) :
    ∃ bound, ∀ (events : List Event) (s : Shutdown), run step { w := w } events = some s →
      events.length ≤ bound ∧ s.w.c.poisoned = false ∧
        (∀ err, s.closer = .returned err → err = none) ∧
        ((∀ err, s.closer ≠ .returned err) → s.Enabled) := by
  refine ⟨left { w := w }, fun events s hru => ?_⟩
  have hord : s.Orderly w.calls.length ∧ events.length + s.left ≤ left { w := w } := by
    refine run_history (H := fun events s => s.Orderly w.calls.length ∧
      events.length + s.left ≤ left { w := w }) ⟨orderly_start hpn, by simp⟩ ?_ hru
    rintro events u event v - ⟨hu, hle⟩ hst
    have hlt := left_step hu.poisoned hst
    refine ⟨hu.step hst, ?_⟩
    rw [length_append, length_singleton]
    omega
  obtain ⟨h, hle⟩ := hord
  refine ⟨by omega, h.poisoned, fun err hrr => ?_, h.enabled⟩
  rcases h.stage with ⟨hc, -⟩ | ⟨-, -, -, -, -, hc | ⟨-, hc | ⟨-, hc | hc⟩⟩⟩
  · simp [hrr] at hc
  · simp [hrr] at hc
  · simp [hrr] at hc
  · simp [hrr] at hc
  · simpa [hrr] using hc

def openedLink : Link where
  c := { infoSize := 64, pointerBits := 64, pending := none, nextSeq := 1, opened := true
         lastGeneration := 1 }
  starter := .started
  calls := [{ op := .open, writer := .wrote true, seq := some 1
              phase := .returned (.ok ⟨.response 1 (.ok none), 1⟩) }]

theorem close_returns_nil_opened : openedLink.Open ∧
    ∃ bound, ∀ (events : List Event) (s : Shutdown), run step { w := openedLink } events = some s →
      events.length ≤ bound ∧ s.w.c.poisoned = false ∧
        (∀ err, s.closer = .returned err → err = none) ∧
        ((∀ err, s.closer ≠ .returned err) → s.Enabled) := by
  have hpn : openedLink.Open := by
    constructor <;> simp [openedLink, maxSeq]
  exact ⟨hpn, close_returns_nil hpn⟩

end Shutdown

end MultiDap.Trace.Client
