import MultiDap.Machine.Run

/-!
# The recorder of a session

The recorder sees the messages of both directions and pairs requests with their responses. A request
that waits for its response has a lane of the timeline to itself.
-/

namespace MultiDap.Perf

open Machine List

def maxPendingRequests : Nat := 256

abbrev Lane := Fin maxPendingRequests

inductive Message where
  | request (seq : Int) (command : String)
  | response (requestSeq : Int) (command : String) (success : Bool)
  | event (event : String)
  deriving DecidableEq

/-- A request that has got its response, in nanoseconds. -/
structure Span where
  lane : Lane
  start : Int
  finish : Int
  deriving DecidableEq

inductive Event where
  | request (span : Span) (requestSeq : Int) (success : Bool)
  | instant (timestamp : Int)
  deriving DecidableEq

structure Pending (δ : Type) where
  seq : Int
  commandHash : δ
  startNS : Int
  lane : Lane
  deriving DecidableEq

/-- The state of the recorder; no code reads the last field, the requests that are completed. -/
structure Recorder (δ : Type) where
  maxEvents : Nat
  lastNS : Int := 0
  lastRequestSeq : Int := 0
  pending : List (Pending δ) := []
  lanes : Lane → Bool := fun _ => false
  events : List Event := []
  droppedEvents : Nat := 0
  observedRequests : Nat := 0
  completedRequests : Nat := 0
  failedRequests : Nat := 0
  pendingLimitDrops : Nat := 0
  duplicateRequests : Nat := 0
  outOfOrderRequests : Nat := 0
  abandonedRequests : Nat := 0
  unmatchedResponses : Nat := 0
  commandMismatches : Nat := 0
  observedEvents : Nat := 0
  ignoredMessages : Nat := 0
  clockRegressions : Nat := 0
  completed : List Span := []

/-- The first lane that is free; past the last one the search panics. -/
def freeLane (lanes : Lane → Bool) : Option Lane :=
  (finRange maxPendingRequests).find? fun lane => !lanes lane

variable {δ : Type}

namespace Recorder

variable [DecidableEq δ]

/-- The clock of the recorder does not go backwards. -/
def timestamp (r : Recorder δ) (elapsed : Int) : Recorder δ :=
  if elapsed < r.lastNS then { r with clockRegressions := r.clockRegressions + 1 }
  else { r with lastNS := elapsed }

def appendEvent (r : Recorder δ) (event : Event) : Recorder δ :=
  if r.events.length = r.maxEvents then { r with droppedEvents := r.droppedEvents + 1 }
  else { r with events := r.events ++ [event] }

/-- Take a request from the table and free its lane. -/
def delete (r : Recorder δ) (request : Pending δ) : Recorder δ :=
  { r with
    pending := r.pending.erase request
    lanes := Function.update r.lanes request.lane false }

def request (digest : String → δ) (r : Recorder δ) (seq : Int) (command : String)
    (timestamp : Int) : Option (Recorder δ) :=
  let r := { r with observedRequests := r.observedRequests + 1 }
  if seq ≤ r.lastRequestSeq then
    match r.pending.find? (·.seq = seq) with
    | some previous =>
      some { r.delete previous with
        duplicateRequests := r.duplicateRequests + 1
        abandonedRequests := r.abandonedRequests + 1 }
    | none => some { r with outOfOrderRequests := r.outOfOrderRequests + 1 }
  else
    let r := { r with lastRequestSeq := seq }
    if r.pending.length = maxPendingRequests then
      some { r with pendingLimitDrops := r.pendingLimitDrops + 1 }
    else
      (freeLane r.lanes).map fun lane =>
        { r with
          lanes := Function.update r.lanes lane true
          pending := r.pending ++ [⟨seq, digest command, timestamp, lane⟩] }

def response (digest : String → δ) (r : Recorder δ) (requestSeq : Int) (command : String)
    (success : Bool) (timestamp : Int) : Recorder δ :=
  match r.pending.find? (·.seq = requestSeq) with
  | none => { r with unmatchedResponses := r.unmatchedResponses + 1 }
  | some request =>
    let r := r.delete request
    if digest command ≠ request.commandHash then
      { r with
        commandMismatches := r.commandMismatches + 1
        abandonedRequests := r.abandonedRequests + 1 }
    else
      let span := ⟨request.lane, request.startNS, timestamp⟩
      { r with
        completedRequests := r.completedRequests + 1
        failedRequests := r.failedRequests + if success then 0 else 1
        completed := r.completed ++ [span] }.appendEvent (.request span requestSeq success)

def event (r : Recorder δ) (timestamp : Int) : Recorder δ :=
  { r with observedEvents := r.observedEvents + 1 }.appendEvent (.instant timestamp)

/-- A message that is decoded, with its direction and what the clock shows. -/
structure Input where
  client : Bool
  message : Message
  elapsed : Int

def step (digest : String → δ) (r : Recorder δ) (i : Input) : Option (Recorder δ) :=
  let r := r.timestamp i.elapsed
  match i.client, i.message with
  | true, .request seq command => r.request digest seq command r.lastNS
  | false, .response seq command success => some (r.response digest seq command success r.lastNS)
  | false, .event _ => some (r.event r.lastNS)
  | _, _ => some { r with ignoredMessages := r.ignoredMessages + 1 }

/-- What `Finish` reports: the counts that are kept, and those it takes at the end. -/
structure Metadata (δ : Type) extends Recorder δ where
  retainedEvents : Nat
  unfinishedRequests : Nat
  captureComplete : Bool

def finish (r : Recorder δ) (elapsed : Int) (proxyFailed : Bool) (framingErrors : Nat) :
    Metadata δ :=
  let r := r.timestamp elapsed
  { r with
    retainedEvents := r.events.length
    unfinishedRequests := r.pending.length
    captureComplete := !proxyFailed && framingErrors == 0 && r.droppedEvents == 0 &&
      r.pending.length == 0 && r.pendingLimitDrops == 0 && r.duplicateRequests == 0 &&
      r.outOfOrderRequests == 0 && r.unmatchedResponses == 0 && r.commandMismatches == 0 &&
      r.ignoredMessages == 0 && r.clockRegressions == 0 }

end Recorder

/-- The lanes that are in use are those of the pending requests, one each, and a request begins on
its lane after the last one there was completed. -/
structure Table (pending : List (Pending δ)) (lanes : Lane → Bool) (completed : List Span)
    (lastNS : Int) : Prop where
  room : pending.length ≤ maxPendingRequests
  distinct : (pending.map (·.lane)).Nodup
  used : ∀ lane, lanes lane = true ↔ lane ∈ pending.map (·.lane)
  started : ∀ p ∈ pending, p.startNS ≤ lastNS
  finished : ∀ a ∈ completed, a.start ≤ a.finish ∧ a.finish ≤ lastNS
  apart : completed.Pairwise fun a b => a.lane = b.lane → a.finish ≤ b.start
  later : ∀ a ∈ completed, ∀ p ∈ pending, a.lane = p.lane → a.finish ≤ p.startNS

namespace Table

variable {pending : List (Pending δ)} {lanes : Lane → Bool} {completed : List Span} {ns : Int}
  {p : Pending δ}

section

variable (h : Table pending lanes completed ns)

include h

lemma advance {ns' : Int} (hle : ns ≤ ns') : Table pending lanes completed ns' :=
  { h with
    started := fun p hp => (h.started p hp).trans hle
    finished := fun a ha => ⟨(h.finished a ha).1, (h.finished a ha).2.trans hle⟩ }

lemma erase [DecidableEq δ] (hp : p ∈ pending) :
    Table (pending.erase p) (Function.update lanes p.lane false) completed ns := by
  have hperm := perm_cons_erase hp
  have hnd := h.distinct
  rw [(hperm.map _).nodup_iff, map_cons, nodup_cons] at hnd
  refine ⟨(length_erase_le).trans h.room, hnd.2, fun lane => ?_,
    fun q hq => h.started q (mem_of_mem_erase hq), h.finished, h.apart,
    fun a ha q hq => h.later a ha q (mem_of_mem_erase hq)⟩
  by_cases hl : lane = p.lane
  · subst hl
    simpa using hnd.1
  · rw [Function.update_of_ne hl, h.used, (hperm.map _).mem_iff, map_cons, mem_cons,
    or_iff_right hl]

lemma complete [DecidableEq δ] (hp : p ∈ pending) :
    Table (pending.erase p) (Function.update lanes p.lane false)
      (completed ++ [⟨p.lane, p.startNS, ns⟩]) ns := by
  have hnd := h.distinct
  rw [((perm_cons_erase hp).map _).nodup_iff, map_cons, nodup_cons] at hnd
  refine { h.erase hp with finished := fun a ha => ?_, apart := ?_, later := fun a ha q hq hl =>
    ?_ }
  · rcases mem_concat.mp ha with ha | rfl
    · exact h.finished a ha
    · exact ⟨h.started p hp, le_refl _⟩
  · refine pairwise_append.mpr ⟨h.apart, pairwise_singleton _ _, fun a ha b hb hl => ?_⟩
    rw [mem_singleton.mp hb] at hl ⊢
    exact h.later a ha p hp hl
  · rcases mem_concat.mp ha with ha | rfl
    · exact h.later a ha q (mem_of_mem_erase hq) hl
    · have hl : p.lane = q.lane := hl
      exact absurd (hl ▸ mem_map_of_mem hq) hnd.1

lemma exists_freeLane (hroom : pending.length ≠ maxPendingRequests) :
    ∃ lane, freeLane lanes = some lane ∧ lanes lane = false := by
  cases hf : freeLane lanes with
  | some lane => exact ⟨lane, rfl, by simpa using find?_some hf⟩
  | none =>
    -- otherwise every lane is that of a pending request
    have hall : ∀ lane, lane ∈ pending.map (·.lane) := fun lane =>
      (h.used lane).mp (by simpa using find?_eq_none.mp hf lane (mem_finRange lane))
    have hcard : Fintype.card Lane ≤ (pending.map (·.lane)).length :=
      (Finset.card_le_card fun lane _ => mem_toFinset.mpr (hall lane)).trans (toFinset_card_le _)
    rw [Fintype.card_fin, length_map] at hcard
    exact absurd (h.room.antisymm hcard) hroom

lemma insert {lane : Lane} (hroom : pending.length ≠ maxPendingRequests)
    (hfree : lanes lane = false) (seq : Int) (hash : δ) :
    Table (pending ++ [⟨seq, hash, ns, lane⟩]) (Function.update lanes lane true) completed ns := by
  have hno : lane ∉ pending.map (·.lane) := fun hmem => by simp [(h.used lane).mpr hmem] at hfree
  refine ⟨?_, ?_, fun l => ?_, fun q hq => ?_, h.finished, h.apart, fun a ha q hq hl => ?_⟩
  · have := h.room
    rw [length_append, length_singleton]
    omega
  · rw [map_append]
    exact nodup_append'.mpr ⟨h.distinct, nodup_singleton _, by simpa using hno⟩
  · by_cases hl : l = lane
    · simp [hl]
    · simp [h.used, hl]
  · rcases mem_concat.mp hq with hq | rfl
    · exact h.started q hq
    · exact le_refl _
  · rcases mem_concat.mp hq with hq | rfl
    · exact h.later a ha q hq hl
    · exact (h.finished a ha).2

end

end Table

/-- The table is in order, and the counts add up, with this many events still to be appended. -/
structure Sound (owed : Nat) (r : Recorder δ) : Prop where
  table : Table r.pending r.lanes r.completed r.lastNS
  requests : r.observedRequests = r.completedRequests + r.pending.length + r.pendingLimitDrops +
    r.outOfOrderRequests + r.duplicateRequests + r.abandonedRequests
  events : r.events.length + r.droppedEvents + owed = r.completedRequests + r.observedEvents
  spans : r.completed.length = r.completedRequests

namespace Sound

variable {r : Recorder δ}

lemma timestamp (h : Sound 0 r) (elapsed : Int) : Sound 0 (r.timestamp elapsed) := by
  unfold Recorder.timestamp
  split_ifs with hlt
  · exact { h with }
  · exact { h with table := h.table.advance (Int.not_lt.mp hlt) }

lemma appendEvent (h : Sound 1 r) (event : Event) : Sound 0 (r.appendEvent event) := by
  have hev := h.events
  unfold Recorder.appendEvent
  split_ifs
  · exact { h with events := hev }
  · refine { h with events := ?_ }
    simp only [length_append, length_singleton]
    omega

variable [DecidableEq δ] {digest : String → δ}

lemma request (h : Sound 0 r) (seq : Int) (command : String) :
    ∃ r', r.request digest seq command r.lastNS = some r' ∧ Sound 0 r' := by
  have hreq := h.requests
  unfold Recorder.request
  dsimp only
  split_ifs with hle hfull
  · split
    · next previous hfind =>
      have hp := mem_of_find?_eq_some hfind
      have hlen := length_erase_add_one hp
      refine ⟨_, rfl, { h with table := h.table.erase hp, requests := ?_ }⟩
      dsimp only [Recorder.delete]
      omega
    · exact ⟨_, rfl, { h with requests := by dsimp only; omega }⟩
  · exact ⟨_, rfl, { h with requests := by dsimp only; omega }⟩
  · obtain ⟨lane, heq, hfree⟩ := h.table.exists_freeLane hfull
    rw [heq]
    refine ⟨_, rfl, { h with table := h.table.insert hfull hfree _ _, requests := ?_ }⟩
    simp only [length_append, length_singleton]
    omega

lemma response (h : Sound 0 r) (seq : Int) (command : String) (success : Bool) :
    Sound 0 (r.response digest seq command success r.lastNS) := by
  have hreq := h.requests
  have hev := h.events
  unfold Recorder.response
  split
  · exact { h with }
  next request hfind =>
  have hp := mem_of_find?_eq_some hfind
  have hlen := length_erase_add_one hp
  dsimp only [Recorder.delete]
  split
  · exact { h with table := h.table.erase hp, requests := by dsimp only; omega }
  · refine appendEvent ⟨h.table.complete hp, ?_, ?_, ?_⟩ _
    · dsimp only
      omega
    · dsimp only
      omega
    · simp [h.spans]

lemma step (h : Sound 0 r) (i : Recorder.Input) : ∃ r', r.step digest i = some r' ∧ Sound 0 r' := by
  have ht := h.timestamp i.elapsed
  unfold Recorder.step
  dsimp only
  split
  · exact ht.request _ _
  · exact ⟨_, rfl, ht.response _ _ _⟩
  · refine ⟨_, rfl, appendEvent ?_ _⟩
    exact ⟨ht.table, ht.requests, congrArg Nat.succ ht.events, ht.spans⟩
  · exact ⟨_, rfl, { ht with }⟩

lemma run (h : Sound 0 r) (inputs : List Recorder.Input) :
    ∃ r', Machine.run (Recorder.step digest) r inputs = some r' ∧ Sound 0 r' := by
  induction inputs generalizing r with
  | nil => exact ⟨r, rfl, h⟩
  | cons i inputs ih =>
    obtain ⟨r₁, hst, h₁⟩ := h.step i
    obtain ⟨r', hru, h'⟩ := ih h₁
    exact ⟨r', run_cons_eq_some.mpr ⟨r₁, hst, hru⟩, h'⟩

end Sound

/-- Every request and every event is accounted for. -/
def Recorder.Metadata.Balanced (m : Recorder.Metadata δ) : Prop :=
  m.observedRequests = m.completedRequests + m.unfinishedRequests + m.pendingLimitDrops +
    m.outOfOrderRequests + m.duplicateRequests + m.abandonedRequests ∧
  m.retainedEvents + m.droppedEvents = m.completedRequests + m.observedEvents

/-- Whatever messages are observed, in whatever order and with whatever clock: the metadata that
`Finish` reports is balanced, no two pending requests share a lane, and requests on one lane do not
overlap. -/
theorem recorder_accounts [DecidableEq δ] (digest : String → δ) (maxEvents : Nat)
    (inputs : List Recorder.Input) : ∃ r, run (Recorder.step digest) { maxEvents } inputs = some r ∧
      (∀ elapsed proxyFailed framingErrors, (r.finish elapsed proxyFailed framingErrors).Balanced) ∧
      (r.pending.map (·.lane)).Nodup ∧ r.completed.length = r.completedRequests ∧
      (∀ a ∈ r.completed, a.start ≤ a.finish) ∧
      r.completed.Pairwise fun a b => a.lane = b.lane → a.finish ≤ b.start := by
  have hnew : Sound 0 ({ maxEvents } : Recorder δ) := by
    refine ⟨⟨?_, ?_, ?_, ?_, ?_, ?_, ?_⟩, rfl, rfl, rfl⟩ <;> simp
  obtain ⟨r, hru, h⟩ := hnew.run inputs
  refine ⟨r, hru, fun elapsed _ _ => ?_, h.table.distinct, h.spans,
    fun a ha => (h.table.finished a ha).1, h.table.apart⟩
  exact ⟨(h.timestamp elapsed).requests, (h.timestamp elapsed).events⟩

end MultiDap.Perf
