import MultiDap.Trace.Calls

/-!
# What the calls of a client return

A call succeeds with the frame that answers it, and only as long as the client is good. If it fails
after its request was handed to the writer, the client is poisoned; if it is cancelled before, it
has done nothing to the client.
-/

namespace MultiDap.Trace.Client.Link

open Machine

variable {w u v : Link} {k : Nat} {evt : Event}

/-! ### Steps and the calls -/

inductive Kind (u : Link) : Event → Link → Prop where
  | moves {k : Nat} {turn : Turn} {call : Call} {v : Link} (hcl : u.calls[k]? = some call)
    (h : u.Moves k call v) : Kind u (.call k turn) v
  | begins (op : Operation) (read : ReadArgs) :
    Kind u (.begin op read) { u with calls := u.calls ++ [{ op, read }] }
  | like {k : Nat} {call call' : Call} {event : Event} (hcl : u.calls[k]? = some call)
    (hph : call'.phase = call.phase) (hse : call'.seq = call.seq) :
    Kind u event (u.put k call')
  | other {event : Event} {v : Link} (hca : v.calls = u.calls)
    (hpo : u.c.poisoned = true → v.c.poisoned = true) : Kind u event v

variable {c c' : Client}

lemma deliver_poisoned {frame : Frame} {code : Option String}
    (h : c.deliver frame = .delivered c' code) : c'.poisoned = c.poisoned := by
  obtain ⟨p, ack, -, -, rfl, -⟩ := deliver_delivered h
  rfl

lemma readTurn_other {line : Line} (h : u.readTurn line = some v) :
    v.calls = u.calls ∧ (u.c.poisoned = true → v.c.poisoned = true) := by
  unfold readTurn at h
  split at h
  · cases line with
    | failed =>
      simp only at h
      split_ifs at h <;> cases h <;> exact ⟨rfl, id⟩
    | invalid =>
      cases h
      exact ⟨rfl, id⟩
    | frame =>
      simp only at h
      split at h
      · cases h
        exact ⟨rfl, id⟩
      split at h <;> cases h
      · exact ⟨rfl, id⟩
      · exact ⟨rfl, id⟩
      · rename_i hdel
        exact ⟨rfl, fun hp => (deliver_poisoned hdel).trans hp⟩
      · rename_i hdel
        exact ⟨rfl, fun hp => (deliver_poisoned hdel).trans hp⟩
  · cases h

lemma startTurn_other {turn : StartTurn} (h : u.startTurn turn = some v) :
    v.calls = u.calls ∧ (u.c.poisoned = true → v.c.poisoned = true) := by
  cases turn with
  | response =>
    simp only [startTurn] at h
    split at h
    · obtain ⟨frame, -, rfl⟩ := Option.map_eq_some_iff.mp h
      exact ⟨rfl, id⟩
    · cases h
  | cancelled =>
    simp only [startTurn] at h
    split at h
    · cases h
      exact ⟨rfl, id⟩
    · cases h
  | aborted =>
    simp only [startTurn] at h
    split at h
    · split_ifs at h
      cases h
      exact ⟨rfl, id⟩
    · cases h
  | check =>
    simp only [startTurn] at h
    split at h
    · (repeat' split at h) <;> cases h <;> exact ⟨rfl, id⟩
    · cases h
  | abort =>
    simp only [startTurn] at h
    split at h
    · cases h
      exact ⟨rfl, fun _ => poisoned_abortWith ..⟩
    · cases h

lemma step_kind (hst : u.step evt = some v) : Kind u evt v := by
  cases evt with
  | start =>
    obtain ⟨hca, hpo⟩ := startTurn_other hst
    exact .other hca hpo
  | «begin» op read =>
    simp only [step] at hst
    split_ifs at hst
    cases hst
    exact .begins op read
  | call =>
    obtain ⟨call, hcl, htn⟩ := Option.bind_eq_some_iff.mp hst
    exact .moves hcl (callTurn_cases htn)
  | cancel | wrote =>
    obtain ⟨call, hcl, hput⟩ := Option.bind_eq_some_iff.mp hst
    split_ifs at hput
    cases hput
    exact .like hcl rfl rfl
  | read =>
    obtain ⟨hca, hpo⟩ := readTurn_other hst
    exact .other hca hpo
  | readerAbort =>
    simp only [step] at hst
    split at hst
    · cases hst
      exact .other rfl fun _ => poisoned_abortWith ..
    · cases hst
  | exit =>
    simp only [step] at hst
    split_ifs at hst <;> cases hst <;> exact .other rfl id
  | waiterAbort =>
    simp only [step] at hst
    split_ifs at hst
    cases hst
    exact .other rfl fun _ => poisoned_abortWith ..
  | release | closeAborted =>
    simp only [step] at hst
    split_ifs at hst
    cases hst
    exact .other rfl id
  | drained =>
    simp only [step] at hst
    split at hst
    · split_ifs at hst
      cases hst
      exact .other rfl id
    · cases hst
  | abort =>
    cases hst
    exact .other rfl fun _ => poisoned_abortWith ..

lemma step_calls {call' : Call} (hst : u.step evt = some v) (hcl' : v.calls[k]? = some call') :
    (∃ call, u.calls[k]? = some call ∧ call'.phase = call.phase ∧ call'.seq = call.seq) ∨
      (∃ turn call, evt = .call k turn ∧ u.calls[k]? = some call ∧ Move u.c call v.c call') ∨
      k = u.calls.length ∧ call'.phase = .entering ∧ call'.seq = none := by
  cases step_kind hst with
  | moves hcl h =>
    obtain ⟨c', moved, hmove, rfl⟩ := h
    rcases calls_put hcl' with ⟨rfl, rfl⟩ | ⟨-, hsm⟩
    · exact .inr (.inl ⟨_, _, rfl, hcl, hmove⟩)
    · exact .inl ⟨_, hsm, rfl, rfl⟩
  | begins =>
    rcases calls_begin hcl' with ⟨rfl, rfl⟩ | hsm
    · exact .inr (.inr ⟨rfl, rfl, rfl⟩)
    · exact .inl ⟨_, hsm, rfl, rfl⟩
  | @like m call moved _ hcl hph hse =>
    have hput : ({ u with c := u.c }.put m moved).calls[k]? = some call' := hcl'
    rcases calls_put hput with ⟨rfl, rfl⟩ | ⟨-, hsm⟩
    · exact .inl ⟨_, hcl, hph, hse⟩
    · exact .inl ⟨_, hsm, rfl, rfl⟩
  | other hca => exact .inl ⟨call', hca ▸ hcl', rfl, rfl⟩

variable {call : Call}

lemma step_call (hst : u.step evt = some v) (hcl : u.calls[k]? = some call) :
    ∃ call', v.calls[k]? = some call' ∧ (call'.phase = call.phase ∧ call'.seq = call.seq ∨
      ∃ turn, evt = .call k turn ∧ Move u.c call v.c call') := by
  have hlt : k < u.calls.length := lt_length hcl
  have hlen : u.calls.length ≤ v.calls.length := by
    cases step_kind hst with
    | moves _ h =>
      obtain ⟨c', moved, -, rfl⟩ := h
      simp [put]
    | begins => simp
    | like => simp [put]
    | other hca => exact Nat.le_of_eq (by rw [hca])
  obtain ⟨call', hcl'⟩ : ∃ call', v.calls[k]? = some call' :=
    ⟨_, List.getElem?_eq_getElem (Nat.lt_of_lt_of_le hlt hlen)⟩
  refine ⟨call', hcl', ?_⟩
  rcases step_calls hst hcl' with ⟨same, hsm, hph⟩ | ⟨turn, moved, heve, hmov, hmove⟩ | ⟨hk, -⟩
  · cases hcl.symm.trans hsm
    exact .inl hph
  · cases hcl.symm.trans hmov
    exact .inr ⟨turn, heve, hmove⟩
  · omega

lemma move_poisoned {call call' : Call} (h : Move c call c' call') :
    c'.poisoned = c.poisoned ∨ ∃ ctx, call'.phase = .failing ctx ∧ c'.poisoned = true := by
  cases h with
  | goes | gate | hand | take | ungate => exact .inl rfl
  | commit _ hcommit =>
    obtain ⟨-, rfl, -⟩ := commit_of_committed hcommit
    exact .inl (kept_record ..).poisoned
  | abort _ => exact .inr ⟨_, rfl, poisoned_abortWith ..⟩
  | retract _ =>
    refine .inl ?_
    unfold Client.retract
    split
    · split_ifs <;> rfl
    · rfl

lemma step_poisoned (hst : u.step evt = some v) (hpo : u.c.poisoned = true) :
    v.c.poisoned = true := by
  cases step_kind hst with
  | moves _ h =>
    obtain ⟨c', moved, hmove, rfl⟩ := h
    rcases move_poisoned hmove with heq | ⟨-, -, htrue⟩
    · exact heq.trans hpo
    · exact htrue
  | begins | like => exact hpo
  | other _ hmono => exact hmono hpo

/-! ### Successes -/

def Succeeded (w : Link) (k : Nat) (success : Success) : Prop :=
  ∃ call, w.calls[k]? = some call ∧ call.phase.outcome = some (.ok success)

/-- The frame of a success is the first one that carries the number of the call, which no other call
has, and its result passes the check. -/
def OwnFrame (w : Link) (k : Nat) (success : Success) : Prop :=
  ∃ call n result, w.calls[k]? = some call ∧ call.seq = some n ∧
    (∀ j other, w.calls[j]? = some other → other.seq = some n → j = k) ∧
    w.frames.find? (·.carries n) = some success.frame ∧
    success.frame = .response n (.ok result) ∧
    validate w.c.infoSize call.op call.read result = some success.generation

variable {success : Success} {ph : Phase}

lemma Phase.success_of_outcome (h : ph.outcome = some (.ok success)) :
    ph.success = some success ∧ ph.frame = some success.frame := by
  cases ph <;> simp_all

lemma Sound.ownFrame (h : w.Sound) (hs : w.Succeeded k success) : w.OwnFrame k success := by
  obtain ⟨call, hcl, hou⟩ := hs
  obtain ⟨hsuc, hfra⟩ := Phase.success_of_outcome hou
  obtain ⟨n, hn, hfind⟩ := (h.each hcl).frame _ hfra
  obtain ⟨res, hok, hva⟩ := (h.each hcl).validated _ hsuc
  refine ⟨call, n, res, hcl, hn, fun j other hother hsm => h.distinct hother hcl hsm hn,
    hfind, ?_, hva⟩
  have hcar := List.find?_some hfind
  cases hf : success.frame with
  | ready | fatal => simp [hf, Frame.carries] at hcar
  | response =>
    simp only [hf, Frame.carries, beq_iff_eq] at hcar
    simp only [hf, Frame.verdict] at hok
    rw [hcar, hok]

lemma Succeeded.le (hso : w.Sound) (h : w.Succeeded k success) :
    success.generation ≤ w.c.lastGeneration := by
  obtain ⟨call, hcl, hou⟩ := h
  exact (hso.each hcl).generation _ hou

lemma move_succeeded {call call' : Call}
    (h : Move c call c' call') (hou : call'.phase.outcome = some (.ok success))
    (hbe : call.phase.outcome ≠ some (.ok success)) :
    c.poisoned = false ∧ (success.generation ≠ 0 → c.lastGeneration ≤ success.generation) := by
  cases h with
  | goes hgoes => cases hgoes <;> simp at hou
  | gate | hand | take | abort => simp at hou
  | commit _ hcommit =>
    obtain ⟨hpo, -, hle⟩ := commit_of_committed hcommit
    cases hou
    exact ⟨hpo, hle⟩
  | retract hph => exact absurd (by rw [hph]; exact hou) hbe
  | ungate hph => exact absurd (by rw [hph]; exact hou) hbe

lemma step_succeeded (hso : u.Sound) (hst : u.step evt = some v)
    (haft : v.Succeeded k success) (hbe : ¬u.Succeeded k success) :
    u.c.poisoned = false ∧ (success.generation ≠ 0 →
      ∀ j earlier, u.Succeeded j earlier → earlier.generation ≤ success.generation) := by
  obtain ⟨call', hcl', hou⟩ := haft
  rcases step_calls hst hcl' with ⟨call, hcl, hph, -⟩ | ⟨turn, call, -, hcl, hmove⟩ | ⟨-, hph, -⟩
  · exact absurd ⟨call, hcl, hph ▸ hou⟩ hbe
  · obtain ⟨hpo, hle⟩ :=
      move_succeeded hmove hou fun ho => hbe ⟨call, hcl, ho⟩
    exact ⟨hpo, fun hne j earlier hj => Nat.le_trans (hj.le hso) (hle hne)⟩
  · simp [hph] at hou

/-! ### Calls on a poisoned client -/

/-- The call can not succeed any more: the client is poisoned, and has refused it or will do so. -/
def Barred (k : Nat) (w : Link) : Prop :=
  w.c.poisoned = true ∧ ∃ call, w.calls[k]? = some call ∧ call.seq = none ∧
    call.phase.handed = false ∧ (∀ n, call.phase ≠ .encoding n) ∧
    ∀ success, call.phase.outcome ≠ some (.ok success)

lemma Barred.step (h : Barred k u) (hst : u.step evt = some v) : Barred k v := by
  obtain ⟨hpo, call, hcl, hse, hha, henc, hou⟩ := h
  obtain ⟨call', hcl', hsm | ⟨turn, -, hmove⟩⟩ := step_call hst hcl
  · refine ⟨step_poisoned hst hpo, call', hcl', ?_⟩
    rw [hsm.1, hsm.2]
    exact ⟨hse, hha, henc, hou⟩
  refine ⟨step_poisoned hst hpo, call', hcl', ?_⟩
  generalize v.c = c' at hmove
  cases hmove with
  | goes hgoes =>
    cases hgoes with
    | admitted _ hgood => simp [hgood] at hpo
    | sent hph => simp [hph] at hha
    | stale hph => simp [hph] at hha
    | validated hph => simp [hph] at hha
    | failed _ hsome => simp [hse] at hsome
    | _ => exact ⟨hse, rfl, nofun, by simp⟩
  | gate | abort => exact ⟨hse, rfl, nofun, by simp⟩
  | hand hph _ => exact absurd hph (henc _)
  | take hph => simp [hph] at hha
  | commit hph => simp [hph] at hha
  | retract hph => simp [hph] at hha
  | ungate hph =>
    refine ⟨hse, rfl, nofun, fun success hs => hou success ?_⟩
    rw [hph]
    exact hs

/-! ### Calls that have poisoned the client -/

/-- The call has poisoned the client, and returns an error that says so. -/
def Spoilt (k : Nat) (w : Link) : Prop :=
  ∃ call, w.calls[k]? = some call ∧ ((∃ context, call.phase = .failing context) ∨
    ∃ fault, call.phase.outcome = some (.error (.fault fault)))

lemma goes_of_failing {c : Client} {ctx : Bool}
    (h : Goes c call ph) (hph : call.phase = .failing ctx) :
    ∃ fault, ph.outcome = some (.error (.fault fault)) := by
  cases h with
  | cancelled h => simp [hph] at h
  | wait h => simp [hph] at h
  | shut h => simp [hph] at h
  | refused h => simp [hph] at h
  | admitted h => simp [hph] at h
  | unfit h => simp [hph] at h
  | sent h => simp [hph] at h
  | broken h => simp [hph] at h
  | failing h => simp [hph] at h
  | stale h => simp [hph] at h
  | validated h => simp [hph] at h
  | failed | unhanded => exact ⟨_, rfl⟩

lemma outcome_of_goes {c : Client} (h : Goes c call ph) : call.phase.outcome = none := by
  cases h with
  | cancelled h => rcases h with h | h <;> rw [h] <;> rfl
  | wait h => rw [h]; rfl
  | shut h => rw [h]; rfl
  | refused h => rcases h with h | ⟨n, h⟩ <;> rw [h] <;> rfl
  | admitted h => rw [h]; rfl
  | unfit h => rcases h with h | ⟨n, h⟩ <;> rw [h] <;> rfl
  | sent h => rw [h]; rfl
  | broken _ h => exact h
  | failing _ h => exact h
  | stale h => rw [h]; rfl
  | validated h => rw [h]; rfl
  | failed h => rw [h]; rfl
  | unhanded h => rw [h]; rfl

lemma Spoilt.step (h : Spoilt k u) (hst : u.step evt = some v) : Spoilt k v := by
  obtain ⟨call, hcl, hspo⟩ := h
  obtain ⟨call', hcl', hsm | ⟨turn, -, hmove⟩⟩ := step_call hst hcl
  · exact ⟨call', hcl', by rwa [hsm.1]⟩
  refine ⟨call', hcl', .inr ?_⟩
  generalize v.c = c' at hmove
  cases hmove with
  | goes hgoes =>
    rcases hspo with ⟨ctx, hph⟩ | ⟨fault, hfa⟩
    · exact goes_of_failing hgoes hph
    · cases (outcome_of_goes hgoes).symm.trans hfa
  | gate hph => simp [hph] at hspo
  | hand hph => simp [hph] at hspo
  | take hph => simp [hph] at hspo
  | commit hph => simp [hph] at hspo
  | abort hph => simp [hph] at hspo
  | retract hph =>
    rw [hph] at hspo
    exact hspo.resolve_left nofun
  | ungate hph =>
    rw [hph] at hspo
    exact hspo.resolve_left nofun

lemma step_spoilt {turn : Turn} (hst : u.step (.call k turn) = some v) :
    v.c.poisoned = u.c.poisoned ∨ Spoilt k v := by
  obtain ⟨call, hcl, htn⟩ := Option.bind_eq_some_iff.mp hst
  obtain ⟨c', call', hmove, rfl⟩ := callTurn_cases htn
  have hlt : k < u.calls.length := lt_length hcl
  rcases move_poisoned hmove with heq | ⟨ctx, hph, -⟩
  · exact .inl heq
  · exact .inr ⟨call', List.getElem?_set_self hlt, .inl ⟨ctx, hph⟩⟩

/-! ### Runs -/

section

variable {infoSize pointerBits n : Nat} {events : List Event}

lemma run_after (hru : run step (new infoSize pointerBits) events = some w)
    (hat : At step (new infoSize pointerBits) events n u evt v) :
    run step v (events.drop (n + 1)) = some w := by
  have hwho : run step (new infoSize pointerBits) (events.take events.length) = some w := by
    rwa [List.take_length]
  simpa using run_between hat.lt hat.run hwho

/-- A call succeeds with its own frame and on a good client only; one that fails after its request
was handed to the writer leaves the client poisoned, unless its generation was stale, and one that
was cancelled before does not poison it; and generations do not decrease. -/
theorem calls_all_or_nothing (hru : run step (new infoSize pointerBits) events = some w) :
    (∀ k success, w.Succeeded k success → w.OwnFrame k success) ∧
      (∀ n u event v k success, At step (new infoSize pointerBits) events n u event v →
        v.Succeeded k success → ¬u.Succeeded k success → u.c.poisoned = false ∧
          (success.generation ≠ 0 →
            ∀ j earlier, u.Succeeded j earlier → earlier.generation ≤ success.generation)) ∧
      (∀ n u op read v, At step (new infoSize pointerBits) events n u (.begin op read) v →
        u.c.poisoned = true → ∀ success, ¬w.Succeeded u.calls.length success) ∧
      (∀ (k : Nat) (call : Call) (failure : Failure), w.calls[k]? = some call →
        call.phase = .returned (.error failure) → call.seq.isSome = true →
        failure = .staleGeneration ∧ call.op = .read ∨ w.c.poisoned = true) ∧
      ∀ (k : Nat) (call : Call) (ended : Sentinel), w.calls[k]? = some call →
        call.phase = .returned (.error (.context ended)) → call.seq = none ∧
          ∀ n u turn v, At step (new infoSize pointerBits) events n u (.call k turn) v →
            v.c.poisoned = u.c.poisoned := by
  have hso := sound_run hru
  refine ⟨fun k success => hso.ownFrame, ?_, ?_, ?_, ?_⟩
  · intro n u event v k success hat haft hbe
    exact step_succeeded (sound_run hat.before) hat.after haft hbe
  · rintro n u op read v hat hpo success ⟨call, hcl, hou⟩
    have hsa : Barred u.calls.length v := by
      have hv := hat.after
      simp only [step] at hv
      split_ifs at hv
      cases hv
      exact ⟨hpo, _, List.getElem?_concat_length, rfl, rfl, by simp, by simp⟩
    have hst (s : Link) (e : Event) (t : Link) :
        Barred u.calls.length s → s.step e = some t → Barred u.calls.length t := fun h => h.step
    obtain ⟨-, last, hla, -, -, -, hno⟩ := run_invariant hst hsa (run_after hru hat)
    cases hcl.symm.trans hla
    exact hno success hou
  · intro k call failure hcl hph
    exact (hso.each hcl).failed failure (by rw [hph]; rfl)
  intro k call ended hcl hph
  have hou : call.phase.outcome = some (.error (.context ended)) := by rw [hph]; rfl
  refine ⟨(hso.each hcl).context ended hou, fun n u turn v hat => ?_⟩
  -- a call that has poisoned the client ends with a fault
  rcases step_spoilt hat.after with heq | hspo
  · exact heq
  have hst (s : Link) (e : Event) (t : Link) :
      Spoilt k s → s.step e = some t → Spoilt k t := fun h => h.step
  obtain ⟨last, hla, ⟨context, hf⟩ | ⟨fault, hf⟩⟩ :=
    run_invariant hst hspo (run_after hru hat)
  · cases hcl.symm.trans hla
    simp [hph] at hf
  · cases hcl.symm.trans hla
    cases hou.symm.trans hf

end

def statusReply (count generation : Nat) : HelperSession.Reply :=
  .status ⟨TimeMachine.encodeHex (List.replicate 64 0), count, generation, .running, {}⟩

def answeredCall (k seq : Nat) (reply : HelperSession.Reply) : List Event :=
  [.call k .next, .call k .ready, .call k .next, .call k (.encode false), .wrote k true,
    .call k .ready, .read (.frame (.response seq (.ok (some reply)))), .call k .ready,
      .call k .next,
    .call k .next, .call k .next, .call k .next]

/-- A client is started, opened, asked for its status, and aborted; then it is asked again. -/
def abortedEvents : List Event :=
  [.read (.frame (.ready 64)), .start .response, .start (.check none), .begin .open ⟨0, 0, 0⟩] ++
    answeredCall 0 1 (statusReply 10 1) ++ [.begin .status ⟨0, 0, 0⟩] ++
    answeredCall 1 2 (statusReply 20 1) ++
    [.abort, .closeAborted, .begin .status ⟨0, 0, 0⟩, .call 2 .next, .call 2 .aborted]

theorem calls_all_or_nothing_aborted : ∃ w, run step (new 64 64) abortedEvents = some w ∧
    w.c.poisoned = true ∧ w.calls.map (·.seq) = [some 1, some 2, none] ∧
    ∀ k success, w.Succeeded k success → w.OwnFrame k success := by
  have hexi : ∃ w, run step (new 64 64) abortedEvents = some w ∧
      (w.c.poisoned = true ∧ w.calls.map (·.seq) = [some 1, some 2, none]) :=
    exists_run (by decide +kernel)
  obtain ⟨w, hru, hpo, hseqs⟩ := hexi
  exact ⟨w, hru, hpo, hseqs, (calls_all_or_nothing hru).1⟩

/-- At most one call is inside the client, none while its gate is free, and no two calls ever send
one number. -/
theorem calls_numbered {size bits : Nat} {events : List Event} {w : Link}
    (hru : run step (new size bits) events = some w) {i j : Nat} {a b : Call}
    (ha : w.calls[i]? = some a) (hb : w.calls[j]? = some b) :
    (a.phase.inside = true → w.c.gate = false ∧ (b.phase.inside = true → i = j)) ∧
      ∀ n, a.seq = some n → n ≤ w.c.nextSeq ∧ (b.seq = some n → i = j) := by
  have h := sound_run hru
  refine ⟨fun hin => ⟨?_, h.single ha hb hin⟩, fun n hn => ⟨h.numbered ha hn, h.distinct ha hb hn⟩⟩
  by_contra hgate
  cases hin.symm.trans (h.gate (by simpa using hgate) ha)

theorem calls_numbered_aborted : ∃ w, run step (new 64 64) abortedEvents = some w ∧
    ∃ a b, w.calls[0]? = some a ∧ w.calls[1]? = some b ∧ a.seq = some 1 ∧ 1 ≤ w.c.nextSeq ∧
      b.seq ≠ some 1 := by
  have hexi : ∃ w, run step (new 64 64) abortedEvents = some w ∧
      ∃ a ∈ w.calls[0]?, a.seq = some 1 ∧ w.calls[1]?.isSome = true :=
    exists_run (by decide +kernel)
  obtain ⟨w, hru, a, ha, hseq, hsecond⟩ := hexi
  obtain ⟨b, hb⟩ := Option.isSome_iff_exists.mp hsecond
  obtain ⟨hle, hdistinct⟩ := (calls_numbered hru ha hb).2 1 hseq
  exact ⟨w, hru, a, b, ha, hb, hseq, hle, fun h => absurd (hdistinct h) (by decide)⟩

end MultiDap.Trace.Client.Link
