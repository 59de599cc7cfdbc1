import MultiDap.Trace.Chain
import MultiDap.Trace.Calls
import MultiDap.Trace.Turns

/-!
# Reads past the end of a recording

A read of a current generation whose range ends within the recording returns packets, or finds that
the generation is over. One that asks for more than there is gets an error of the helper that the
client takes for a failure of the helper itself, so that the controller has to be reconciled.
-/

namespace MultiDap.Trace

open Machine Machine.Effect List Option

variable {args : Args} {data : List UInt8} {pol : Polled} {actual : Nat}

namespace HelperSession

variable {s t : Session} {native : Native} {isAbs : String → Bool}

/-! ### Numbers on the wire -/

lemma digitChar_range : ∀ n < 10, 0 < n → '1' ≤ n.digitChar ∧ n.digitChar ≤ '9' := by decide

lemma toDigits_eq_cons {n : Nat} (h : 0 < n) :
    ∃ first rest, Nat.toDigits 10 n = first :: rest ∧ '1' ≤ first ∧ first ≤ '9' := by
  induction n using Nat.strongRecOn with
  | ind n ih =>
    by_cases hn : n < 10
    · exact ⟨_, [], Nat.toDigits_of_lt_base hn, digitChar_range n hn h⟩
    obtain ⟨first, rest, heq, hfir⟩ := ih (n / 10) (by omega) (by omega)
    rw [Nat.toDigits_of_base_le (by omega) (by omega), heq]
    exact ⟨first, _, rfl, hfir⟩

lemma decimalText_toString {n : Nat} (h : n ≤ maxUInt64) :
    decimalText (toString n).toList = some n := by
  rw [Nat.toString_eq_ofList_toDigits, String.toList_ofList]
  rcases Nat.eq_zero_or_pos n with rfl | hpos
  · rfl
  obtain ⟨first, rest, heq, hone, hnine⟩ := toDigits_eq_cons hpos
  have hlen : (first :: rest).length ≤ 20 := by
    rw [← heq]
    exact (Nat.length_toDigits_le_iff (by omega) (by omega)).mpr
      (Nat.lt_of_le_of_lt h (by decide))
  have hdig : rest.all (fun c => '0' ≤ c && c ≤ '9') = true := by
    rw [List.all_eq_true]
    intro c hc
    have hme : c ∈ Nat.toDigits 10 n := heq ▸ List.mem_cons_of_mem _ hc
    exact Nat.isDigit_of_mem_toDigits (by omega) (by omega) hme
  have hvalue := Nat.ofDigitChars_toDigits (b := 10) (n := n) (by omega) (by omega)
  rw [heq, Nat.ofDigitChars_eq_foldl] at hvalue
  have hfir : first ≠ '0' := by
    rintro rfl
    exact absurd hone (by decide)
  rw [heq]
  unfold decimalText
  split
  · next hzero => exact absurd (List.cons.inj hzero).1 hfir
  · next hcons =>
    cases hcons
    rw [if_pos ⟨hone, hnine, Nat.le_of_succ_le_succ hlen, hdig⟩, hvalue]
  · next hnil => cases hnil

lemma exec_decimal {n minimum : Nat} (hmin : minimum ≤ n) (h : n ≤ maxUInt64) :
    (decimal (some (.str (toString n))) minimum).exec s = (.ok n, s) := by
  simp only [decimal, decimalText_toString h]
  rw [if_pos ⟨hmin, h⟩]
  rfl

lemma exec_integer {n minimum maximum : Int} (hmin : minimum ≤ n) (hmaxi : n ≤ maximum) :
    (integer (some (.int n)) minimum maximum).exec s = (.ok n, s) := by
  simp only [integer]
  rw [if_pos ⟨hmin, hmaxi⟩]
  rfl

variable {β : Type} {f : Unit → Owner β}

lemma exec_raiseIf_bind {wrong : Prop} [Decidable wrong] {raised : Raised}
    (h : ¬wrong) : (raiseIf wrong raised >>= f).exec s = (f ⟨⟩).exec s := by
  rw [exec_bind, raiseIf, if_neg h]
  rfl

lemma exec_raiseIf_bind_of {wrong : Prop} [Decidable wrong] {raised : Raised}
    (h : wrong) : (raiseIf wrong raised >>= f).exec s = (.error raised, s) := by
  rw [exec_bind, raiseIf, if_pos h]
  rfl

lemma validRead_iff {read : ReadArgs} :
    Client.validRead read = true ↔ read.generation ≠ 0 ∧ 1 ≤ read.count ∧
      read.count ≤ maxPacketBatch ∧ read.count ≤ 2 ^ 64 - 1 - (read.start : Int) := by
  simp [Client.validRead, and_assoc]

lemma exec_readArgs {read : ReadArgs} (h : Client.validRead read = true)
    (hge : read.generation ≤ maxUInt64) : (readArgs (wire .read read)).exec s = (.ok read, s) := by
  obtain ⟨hne, hone, hbat, hroom⟩ := validRead_iff.mp h
  have hstart : read.start ≤ maxUInt64 := by unfold maxUInt64; omega
  unfold readArgs
  have hexa : (exact (wire .read read) ["start", "count", "generation"]).exec s = (.ok ⟨⟩, s) := rfl
  have hs : (wire .read read).lookup "start" = some (.str (toString read.start)) := rfl
  have hc : (wire .read read).lookup "count" = some (.int read.count) := rfl
  have hg : (wire .read read).lookup "generation" = some (.str (toString read.generation)) := rfl
  rw [exec_bind, hexa, hs, hc, hg]
  dsimp only
  rw [exec_bind, exec_decimal (Nat.zero_le _) hstart]
  dsimp only
  rw [exec_bind, exec_integer hone hbat]
  dsimp only
  rw [exec_bind, exec_decimal (by omega) hge]
  dsimp only
  rw [exec_raiseIf_bind (by unfold maxUInt64; omega)]
  rfl

/-! ### Requests of a session that is open -/

/-- A session that was opened, and has not failed. -/
structure Session.Live (size : Nat) (s : Session) : Prop where
  opened : s.opened = true
  terminal : s.terminal = false
  faulted : s.faulted = false
  infoSize : s.infoSize = size
  consistent : s.Consistent (· = size)
  bounded : s.Bounded

/-- A session, and the same session later. -/
structure Onward (s t : Session) : Prop where
  generation : s.generation ≤ t.generation
  same : t.generation = s.generation → (s.info = [] ∨ t.info = s.info) ∧ s.count ≤ t.count

/-- The session after its notifications were sent. -/
def quiet (s : Session) : Session :=
  { s with events := [], dropped := 0, ignored := 0, callbackFailed := false, invalidated := false }

variable {size : Nat}

lemma live_quiet (h : s.Live size) : (quiet s).Live size :=
  ⟨h.opened, h.terminal, h.faulted, h.infoSize,
    ⟨h.consistent.counted, h.consistent.sized, h.consistent.started⟩,
    ⟨h.bounded.limit, Nat.zero_le _, h.bounded.count, h.bounded.generation⟩⟩

lemma onward_quiet (s : Session) : Onward s (quiet s) :=
  ⟨Nat.le_refl _, fun _ => ⟨.inr rfl, Nat.le_refl _⟩⟩

lemma onward_of_continues {fits : Nat → Prop} (h : Continues fits s t) (hc : s.Consistent fits)
    (hf : t.faulted = false) : Onward s t ∧ t.Consistent fits := by
  rcases h.later hc with hfault | ⟨hc', hle, hsm⟩
  · rw [hf] at hfault
    cases hfault
  · exact ⟨⟨hle, hsm⟩, hc'⟩

lemma Onward.trans {u : Session} (h : Onward s t) (h' : Onward t u) : Onward s u := by
  refine ⟨Nat.le_trans h.generation h'.generation, fun heq => ?_⟩
  have hst := h.generation
  have htu := h'.generation
  obtain ⟨hinfo, hco⟩ := h.same (by omega)
  obtain ⟨hinfo', hco'⟩ := h'.same (by omega)
  refine ⟨?_, Nat.le_trans hco hco'⟩
  rcases hinfo with hinfo | hinfo
  · exact .inl hinfo
  · rw [← hinfo]
    exact hinfo'

lemma Session.Live.refreshes (h : s.Live size) (hf : (refreshed s pol).faulted = false) :
    (refresh pol).exec s = (.ok ⟨⟩, refreshed s pol) ∧
      (refreshed s pol).Live size ∧ (refreshed s pol).info.length = size ∧
      Onward s (refreshed s pol) := by
  have hspec := refresh_spec pol s
  rcases hspec.result with ⟨hfault, -⟩ | ⟨hok, -, ho, ht, hsize, hin, hb⟩
  · cases hf.symm.trans hfault
  obtain ⟨honw, hc⟩ := onward_of_continues (hspec.continues (· = size)) h.consistent hf
  refine ⟨Prod.ext hok rfl, ⟨ho.trans h.opened, ht.trans h.terminal, hf, hsize.trans h.infoSize, hc,
    hb h.bounded⟩, (hin h.opened h.faulted).trans h.infoSize, honw⟩

lemma exec_requireOpen_bind (h : s.opened = true) : (requireOpen >>= f).exec s = (f ⟨⟩).exec s := by
  have heq : (requireOpen >>= f).exec s =
      (raiseIf (!s.opened) (.protocol "not_open") >>= f).exec s := rfl
  rw [heq, exec_raiseIf_bind (by simp [h])]

lemma Session.Live.dispatch_status (h : s.Live size) : (dispatch isAbs "status" [] native).exec s =
      (do refresh native.first; return Reply.status (← status) : Owner Reply).exec s := by
  have hexa : (exact [] []).exec s = (.ok ⟨⟩, s) := rfl
  unfold dispatch
  rw [exec_get_bind, exec_raiseIf_bind (by simp [h.faulted, h.terminal]), if_neg (by decide),
    if_pos rfl, exec_bind, hexa]
  exact exec_requireOpen_bind h.opened

lemma Session.Live.dispatch_read (h : s.Live size) {read : ReadArgs}
    (hva : Client.validRead read = true) (hge : read.generation ≤ maxUInt64) :
    (dispatch isAbs "read" (wire .read read) native).exec s = (dispatchRead read native).exec
      s := by
  unfold dispatch
  rw [exec_get_bind, exec_raiseIf_bind (by simp [h.faulted, h.terminal]), if_neg (by decide),
    if_neg (by decide), if_neg (by decide), if_neg (by decide), if_neg (by decide), if_pos rfl,
    exec_bind, exec_readArgs hva hge]
  exact exec_requireOpen_bind h.opened

/-- The state that a start or stop request asks for. -/
def requestedBy (op : Operation) : TraceState :=
  if op = .start then .startRequested else .stopRequested

lemma Session.Live.dispatch_control (h : s.Live size) {op : Operation}
    (hop : op = .start ∨ op = .stop) :
    (dispatch isAbs op.text (wire op ⟨0, 0, 0⟩) native).exec s =
      (dispatchControl (requestedBy op) native).exec s := by
  have haut : (authorized [("authorized", .bool true)]).exec s = (.ok ⟨⟩, s) := rfl
  unfold dispatch
  rw [exec_get_bind, exec_raiseIf_bind (by simp [h.faulted, h.terminal])]
  rcases hop with rfl | rfl
  · rw [if_neg (by decide), if_neg (by decide), if_neg (by decide), if_pos (by decide), exec_bind]
    simp only [wire, haut]
    exact exec_requireOpen_bind h.opened
  rw [if_neg (by decide), if_neg (by decide), if_neg (by decide), if_neg (by decide),
    if_pos (by decide), exec_bind]
  simp only [wire, haut]
  exact exec_requireOpen_bind h.opened

lemma unfaulted_of_bind {α : Type} {m : Owner α} {f : α → Owner β}
    (hf : ∀ a, Proceeds (fun _ => True) (f a)) (h : ((m >>= f).exec s).2.faulted = false) :
    (m.exec s).2.faulted = false := by
  rw [exec_bind] at h
  rcases hm : m.exec s with ⟨_ | a, t⟩ <;> rw [hm] at h
  · exact h
  cases hfault : t.faulted with
  | false => rfl
  | true => cases h.symm.trans ((hf a t).faulted hfault)

def statusOf (s : Session) : HelperStatus :=
  ⟨TimeMachine.encodeHex s.info, s.count, s.generation, s.traceState,
    ⟨s.events, s.dropped, s.ignored, s.callbackFailed, s.invalidated⟩⟩

lemma Session.Live.report (h : s.Live size)
    (hf : ((do refresh pol; return Reply.status (← status) : Owner Reply).exec s).2.faulted =
      false) : (do refresh pol; return Reply.status (← status) : Owner Reply).exec s =
        (.ok (.status (statusOf (refreshed s pol))), quiet (refreshed s pol)) ∧
      (refreshed s pol).Live size ∧ (refreshed s pol).info.length = size ∧
      Onward s (refreshed s pol) := by
  have hfir : (refreshed s pol).faulted = false :=
    unfaulted_of_bind (fun _ => status_proceeds.bind fun _ => pure_proceeds _) hf
  obtain ⟨hok, hlive, hsize, honw⟩ := h.refreshes hfir
  refine ⟨?_, hlive, hsize, honw⟩
  rw [exec_bind, hok]
  rfl

lemma Session.Live.status_answer (h : s.Live size)
    (hf : ((dispatch isAbs "status" [] native).exec s).2.faulted = false) :
    (dispatch isAbs "status" [] native).exec s =
        (.ok (.status (statusOf (refreshed s native.first))), quiet (refreshed s native.first)) ∧
      (refreshed s native.first).Live size ∧ (refreshed s native.first).info.length = size ∧
      Onward s (refreshed s native.first) := by
  rw [h.dispatch_status] at hf ⊢
  exact h.report hf

lemma call_bind_of_unfaulted {α : Type} {ans : Except NativeError α} {f : α → Owner β}
    (h : ((call ans >>= f).exec s).2.faulted = false) :
    ∃ a, (call ans >>= f).exec s = (f a).exec s := by
  cases ans with
  | ok a => exact ⟨a, by rw [exec_bind, exec_call_ok]⟩
  | error err =>
    rw [exec_bind, exec_call_error] at h
    cases h

/-- A new session after it was opened, before it has looked at the recording. -/
def connected (size : Nat) : Session := { infoSize := size, opened := true }

lemma live_connected (size : Nat) : (connected size).Live size :=
  ⟨rfl, rfl, rfl, rfl, ⟨.inr ⟨rfl, rfl, rfl⟩, fun _ => rfl, Nat.le_refl 1⟩,
    ⟨rfl, Nat.zero_le _, show 0 < maxUInt64 by decide, show 1 ≤ maxUInt64 by decide⟩⟩

lemma open_answer {id : Int}
    (hexa : (exact args ["installation", "multi_version", "dll_sha256", "session_id"]).exec
      ({} : Session) = (.ok ⟨⟩, {}))
    (hva : validOpen isAbs args = true) (hid : args.lookup "session_id" = some (.int id))
    (hran : 1 ≤ id ∧ id ≤ 2 ^ 31 - 1)
    (hf : ((dispatch isAbs "open" args native).exec {}).2.faulted = false) :
    ∃ r, (dispatch isAbs "open" args native).exec {} = (.ok (.status (statusOf r)), quiet r) ∧
      r.Live (infoSize args) ∧ r.info.length = infoSize args := by
  have hdis : (dispatch isAbs "open" args native).exec {} =
      (dispatchOpen isAbs args native).exec {} := by
    unfold dispatch
    rw [exec_get_bind, exec_raiseIf_bind (by simp), if_pos rfl]
  rw [hdis] at hf ⊢
  revert hf
  unfold dispatchOpen
  rw [exec_bind, hexa]
  dsimp only
  rw [exec_raiseIf_bind (by simp [hva]), exec_bind, hid, exec_integer hran.1 hran.2]
  dsimp only
  rw [exec_get_bind, exec_raiseIf_bind (by simp), exec_modify_bind]
  intro hf
  obtain ⟨_, heq⟩ := call_bind_of_unfaulted hf
  rw [heq] at hf ⊢
  obtain ⟨_, heq⟩ := call_bind_of_unfaulted hf
  rw [heq] at hf ⊢
  obtain ⟨_, heq⟩ := call_bind_of_unfaulted hf
  rw [heq, exec_modify_bind] at hf ⊢
  obtain ⟨hexec, hlive, hin, -⟩ := (live_connected (infoSize args)).report hf
  exact ⟨_, hexec, hlive, hin⟩

/-- What a read comes to, in a session that has been refreshed. -/
inductive ReadEnd (read : ReadArgs) (native : Native) (s : Session) :
    Except Raised Reply × Session → Prop
  | stale (h : read.generation ≠ s.generation) :
    ReadEnd read native s (.error (.protocol "stale_generation"), s)
  | beyond (h : read.generation = s.generation) (hco : (s.count : Int) < read.start + read.count) :
    ReadEnd read native s (.error (.protocol "invalid_range"), s)
  | overtaken (t : Session) (hco : read.start + read.count ≤ s.count) :
    ReadEnd read native s (.error (.protocol "stale_generation"), t)
  | packets (data : List UInt8) (actual : Nat) (t : Session) (h : t.generation = read.generation)
      (hco : read.start + read.count ≤ s.count)
      (hbat : HelperSession.packets read.count (some (data, (actual : Int))) = some (data, actual))
      (hnat : native.getPackets = .ok (some (data, (actual : Int)))) :
    ReadEnd read native s
      (.ok (.read ⟨t.generation, read.start, actual, packetsHex data actual⟩), t)

lemma packets_eq_some {count : Int} {batch : Option (List UInt8 × Int)}
    (h : packets count batch = some (data, actual)) :
    batch = some (data, (actual : Int)) ∧ (actual : Int) ≤ count ∧ data.length = actual * 32 := by
  unfold packets at h
  split at h
  · split_ifs at h with hsha
    cases h
    obtain ⟨hnon, hle, hlen⟩ := hsha
    have hct := Int.toNat_of_nonneg hnon
    refine ⟨by rw [hct], by omega, by omega⟩
  · cases h

lemma Session.Live.read_end (h : s.Live size) {read : ReadArgs} (hone : 1 ≤ read.count)
    (hf : ((dispatchRead read native).exec s).2.faulted = false) :
    ReadEnd read native (refreshed s native.first) ((dispatchRead read native).exec s) ∧
      ((dispatchRead read native).exec s).2.Live size ∧
      Onward s ((dispatchRead read native).exec s).2 := by
  have hfir : (refreshed s native.first).faulted = false := by
    unfold dispatchRead at hf
    refine unfaulted_of_bind (fun _ => get_proceeds.bind fun s =>
      (raiseIf_proceeds _ _).bind fun _ =>
      (raiseIf_proceeds _ _).bind fun _ => (call_proceeds _).bind fun batch => ?_) hf
    split
    · exact fault_proceeds _
    · exact (refresh_proceeds _).bind fun _ => get_proceeds.bind fun _ =>
        (raiseIf_proceeds _ _).bind fun _ => pure_proceeds _
  obtain ⟨hok, hlive, -, honw⟩ := h.refreshes hfir
  revert hf
  unfold dispatchRead
  rw [exec_bind, hok]
  dsimp only
  rw [exec_get_bind]
  generalize refreshed s native.first = r at *
  intro hf
  by_cases hsa : read.generation ≠ r.generation
  · rw [exec_raiseIf_bind_of hsa]
    exact ⟨.stale hsa, hlive, honw⟩
  replace hsa := not_not.mp hsa
  rw [exec_raiseIf_bind (by simpa using hsa)] at hf ⊢
  by_cases hbey : read.start > r.count ∨ read.count > (r.count : Int) - read.start
  · rw [exec_raiseIf_bind_of hbey]
    exact ⟨.beyond hsa (by omega), hlive, honw⟩
  rw [exec_raiseIf_bind hbey] at hf ⊢
  cases hnat : native.getPackets with
  | error err => simp only [hnat, exec_bind, exec_call_error, Bool.true_eq_false] at hf
  | ok batch =>
  simp only [hnat, exec_bind, exec_call_ok] at hf ⊢
  cases hbat : packets read.count batch with
  | none => simp only [hbat, exec_fault, Bool.true_eq_false] at hf
  | some shaped =>
  obtain ⟨data, actual⟩ := shaped
  simp only [hbat] at hf ⊢
  have hsec : (refreshed r native.second).faulted = false :=
    unfaulted_of_bind (fun _ => get_proceeds.bind fun _ => (raiseIf_proceeds _ _).bind fun _ =>
      pure_proceeds _) hf
  obtain ⟨hok', hlive', -, honw'⟩ := hlive.refreshes hsec
  rw [exec_bind, hok']
  dsimp only
  rw [exec_get_bind]
  by_cases hmov : (refreshed r native.second).generation ≠ r.generation
  · rw [exec_raiseIf_bind_of hmov]
    exact ⟨.overtaken _ (by omega), hlive', honw.trans honw'⟩
  rw [exec_raiseIf_bind hmov]
  obtain ⟨rfl, -, -⟩ := packets_eq_some hbat
  exact ⟨.packets data actual _ (by omega) (by omega) hbat hnat, hlive', honw.trans honw'⟩

lemma Session.Live.control_answer (h : s.Live size) {requested : TraceState}
    (hf : ((dispatchControl requested native).exec s).2.faulted = false) :
    ∃ t, (dispatchControl requested native).exec s =
        (.ok (.control ⟨true, false, t.generation, t.traceState⟩), t) ∧ t.Live size ∧
          Onward s t := by
  have hrs (u : Unit) : Proceeds (fun _ => True) (do
      call native.control
      refresh native.second
      let s ← get
      return Reply.control ⟨true, false, s.generation, s.traceState⟩) :=
    (call_proceeds _).bind fun _ => (refresh_proceeds _).bind fun _ => get_proceeds.bind fun _ =>
      pure_proceeds _
  have hmod (u : Unit) : Proceeds (fun _ => True)
      (modify (fun s => { s with traceState := requested }) : Owner PUnit) :=
    keeps_modify fun s => continues_of_eq rfl rfl rfl rfl rfl id
  have hfir : (refreshed s native.first).faulted = false :=
    unfaulted_of_bind (fun _ => (hmod ⟨⟩).bind hrs) hf
  obtain ⟨hok, hlive, -, honw⟩ := h.refreshes hfir
  revert hf
  unfold dispatchControl
  rw [exec_bind, hok]
  dsimp only
  rw [exec_modify_bind]
  intro hf
  have hlive' : Session.Live size { refreshed s native.first with traceState := requested } :=
    ⟨hlive.opened, hlive.terminal, hlive.faulted, hlive.infoSize,
      ⟨hlive.consistent.counted, hlive.consistent.sized, hlive.consistent.started⟩,
      ⟨hlive.bounded.limit, hlive.bounded.events, hlive.bounded.count, hlive.bounded.generation⟩⟩
  have honw' : Onward s { refreshed s native.first with traceState := requested } :=
    ⟨honw.generation, honw.same⟩
  generalize { refreshed s native.first with traceState := requested } = r at *
  cases hnat : native.control with
  | error err => simp only [hnat, exec_bind, exec_call_error, Bool.true_eq_false] at hf
  | ok _ =>
  rw [hnat] at hf
  rw [exec_bind, exec_call_ok] at hf ⊢
  dsimp only at hf ⊢
  have hsec : (refreshed r native.second).faulted = false :=
    unfaulted_of_bind (fun _ => get_proceeds.bind fun _ => pure_proceeds _) hf
  obtain ⟨hok', hlive'', -, honw''⟩ := hlive'.refreshes hsec
  rw [exec_bind, hok']
  exact ⟨_, rfl, hlive'', honw'.trans honw''⟩

end HelperSession

/-! ### The client -/

variable {gen : Nat}

namespace Client

open HelperSession

variable {c : Client} {size g seq : Nat} {op : Operation} {read : ReadArgs}

/-- A client that was opened, and is still good. -/
structure Ready (size g : Nat) (c : Client) : Prop where
  opened : c.opened = true
  closing : c.closing = false
  closed : c.closed = false
  poisoned : c.poisoned = false
  processEnded : c.processEnded = false
  infoSize : c.infoSize = size
  lastGeneration : c.lastGeneration ≤ g

def whileOpen (op : Operation) : Prop := op = .status ∨ op = .read ∨ op = .start ∨ op = .stop

lemma Ready.admission (h : c.Ready size g) (hop : whileOpen op) (hse : c.nextSeq ≠ maxSeq) :
    c.admission op = .admitted (c.nextSeq + 1) := by
  rcases hop with rfl | rfl | rfl | rfl <;>
    simp [Client.admission, h.opened, h.closing, h.closed, h.poisoned, h.processEnded, hse]

lemma Ready.hand (h : c.Ready size g) (hop : whileOpen op) : (c.hand seq op).Ready size g := by
  rcases hop with rfl | rfl | rfl | rfl <;>
    exact ⟨h.opened, by simp [Client.hand, h.closing], h.closed, h.poisoned, h.processEnded,
      h.infoSize, h.lastGeneration⟩

lemma Ready.retract (h : c.Ready size g) (seq : Option Nat) : (c.retract seq).Ready size g := by
  unfold Client.retract
  split
  · split_ifs
    · exact ⟨h.opened, h.closing, h.closed, h.poisoned, h.processEnded, h.infoSize,
      h.lastGeneration⟩
    · exact h
  · exact h

lemma Ready.record (h : c.Ready size g) (hop : whileOpen op)
    (hge : gen ≠ 0) : (c.record op gen).Ready size gen := by
  rcases hop with rfl | rfl | rfl | rfl <;> simp only [Client.record, hge, ne_eq,
      not_false_eq_true, if_true] <;>
    exact ⟨h.opened, h.closing, h.closed, h.poisoned, h.processEnded, h.infoSize, Nat.le_refl _⟩

lemma nextSeq_retract (c : Client) (seq : Option Nat) : (c.retract seq).nextSeq = c.nextSeq := by
  unfold retract
  split
  · split_ifs <;> rfl
  · rfl

lemma poisoned_retract (c : Client) (seq : Option Nat) : (c.retract seq).poisoned = c.poisoned := by
  unfold retract
  split
  · split_ifs <;> rfl
  · rfl

lemma Ready.settle_ok {rp : Reply} (h : c.Ready size g) (seq : Nat) (hop : whileOpen op)
    (hva : validate size op read (some rp) = some gen) (hge : gen ≠ 0)
    (hle : c.lastGeneration ≤ gen) :
    ((c.hand seq op).settle seq op read (.ok (some rp))).2 = .ok (some rp) ∧
      ((c.hand seq op).settle seq op read (.ok (some rp))).1.Ready size gen := by
  have hhand : (c.hand seq op).Ready size g := h.hand hop
  unfold settle judge
  simp only [hhand.infoSize, hva]
  have hno : ¬(gen ≠ 0 ∧ gen < (c.hand seq op).lastGeneration) := by
    intro ⟨_, hlt⟩
    exact absurd hle (Nat.not_le.mpr hlt)
  simp only [commit, hhand.poisoned, Bool.false_eq_true, if_false, hno]
  exact ⟨rfl, (hhand.record hop hge).retract _⟩

lemma Ready.settle_stale (h : c.Ready size g) (seq : Nat) (read : ReadArgs) :
    ((c.hand seq .read).settle seq .read read (.error "stale_generation")).2 =
        .error .staleGeneration ∧
      ((c.hand seq .read).settle seq .read read (.error "stale_generation")).1.Ready size g :=
  ⟨rfl, (h.hand (.inr (.inl rfl))).retract _⟩

lemma settle_beyond (c : Client) (seq : Nat) (read : ReadArgs) :
    (∃ fault, ((c.hand seq .read).settle seq .read read (.error "invalid_range")).2 =
        .error (.fault fault)) ∧
      ((c.hand seq .read).settle seq .read read (.error "invalid_range")).1.poisoned = true := by
  refine ⟨⟨_, rfl⟩, ?_⟩
  have hbro : ((c.hand seq .read).settle seq .read read (.error "invalid_range")).1 =
      ((c.hand seq .read).abortWith (.remote "invalid_range")).retract (some seq) := rfl
  rw [hbro, poisoned_retract]
  unfold abortWith
  split_ifs with h
  · exact h
  · rfl

end Client

namespace Client

open HelperSession

lemma length_encodeHex (data : List UInt8) :
    (TimeMachine.encodeHex data).length = data.length * 2 := by
  induction data with
  | nil => rfl
  | cons byte data ih =>
    have hcons : TimeMachine.encodeHex (byte :: data) = _ :: _ :: TimeMachine.encodeHex data := rfl
    rw [hcons, length_cons, length_cons, ih, length_cons]
    omega

lemma fixedHex_encodeHex {size : Nat} (h : data.length = size) :
    fixedHex (TimeMachine.encodeHex data) size = true := by
  simp [fixedHex, TimeMachine.decodeFixedHex, length_encodeHex, h, TimeMachine.decodeHex_encodeHex]

lemma validate_status {s : Session} {size : Nat} (read : ReadArgs) (h : s.Live size)
    (hsize : s.info.length = size) :
    validate size .status read (some (.status (statusOf s))) = some s.generation := by
  have hstar := h.consistent.started
  have heven := h.bounded.events
  have hlim := h.bounded.limit
  have hco := h.bounded.count
  unfold maxUInt64 at hco
  unfold notificationLimit at hlim
  simp only [validate, decodeStatus]
  rw [if_pos ⟨fixedHex_encodeHex hsize, hco, Nat.ne_of_gt hstar,
    Nat.le_trans (hlim ▸ heven) (by decide)⟩]
  rfl

lemma fixedHex_packetsHex (h : data.length = actual * 32) :
    (packetsHex data actual).all (fixedHex · 32) = true := by
  rw [List.all_eq_true]
  intro text htext
  obtain ⟨i, hi, rfl⟩ := List.mem_map.mp htext
  have hlt := List.mem_range.mp hi
  apply fixedHex_encodeHex
  rw [List.length_take, List.length_drop]
  omega

lemma validate_read {read : ReadArgs} {size : Nat} (hva : validRead read = true)
    (hbat : packets read.count (some (data, (actual : Int))) = some (data, actual)) :
    validate size .read read
      (some (.read ⟨read.generation, read.start, actual, packetsHex data actual⟩)) =
      some read.generation := by
  obtain ⟨-, -, hmax, -⟩ := validRead_iff.mp hva
  obtain ⟨-, hle, hlen⟩ := packets_eq_some hbat
  have hpac : (packetsHex data actual).length = actual := by simp [packetsHex]
  simp only [validate, decodeRead]
  rw [if_pos ⟨trivial, trivial, Int.natCast_nonneg _, hle, by rw [hpac], by rw [hpac]; omega,
    fixedHex_packetsHex hlen⟩]
  rfl

lemma validate_control {size : Nat} {op : Operation} {read : ReadArgs}
    {traceState : TraceState} (hop : op = .start ∨ op = .stop) (h : 1 ≤ gen) :
    validate size op read (some (.control ⟨true, false, gen, traceState⟩)) = some gen := by
  rcases hop with rfl | rfl <;> simp [validate, decodeControl, Nat.ne_of_gt h]

end Client

/-! ### The document for a batch -/

variable {version : String} {pkts : List (List Char)}

section Documents

open HelperSession TimeMachine

lemma forM_validatePacket {profile : Profile}
    (h : ∀ text ∈ pkts, validatePacket profile text = .ok ()) :
    pkts.forM (validatePacket profile) = .ok () := by
  induction pkts with
  | nil => rfl
  | cons text rest ih =>
    obtain ⟨htext, hrs⟩ := forall_mem_cons.mp h
    have hcons : (text :: rest).forM (validatePacket profile) =
        (validatePacket profile text >>= fun _ => rest.forM (validatePacket profile)) := rfl
    rw [hcons, htext]
    exact ih hrs

lemma validateCapture_readCapture {profile : Profile} {src : Source}
    {status : HelperStatus} {info : List UInt8} {batch : ReadResult}
    (hpr : profileForVersion version = .ok profile)
    (hhex : status.infoHex = encodeHex info) (hin : info.length = profile.abi.infoSize)
    (hso : TimeMachine.validateSource src = .ok ())
    (hge : 1 ≤ batch.generation ∧ batch.generation ≤ maxUInt64)
    (hlen : batch.packetsHex.length ≤ maxPacketBatch)
    (hran : batch.start + batch.packetsHex.length ≤ maxUInt64)
    (hpac : ∀ text ∈ batch.packetsHex, validatePacket profile text = .ok ()) :
    ∃ res, validateCapture (readCapture profile src status batch) = .ok res := by
  have hver : profileForVersion profile.version = .ok profile := by
    rw [version_of_ok hpr, hpr]
  have hva := validateProfile_of_version hpr
  have hid : batch.generation.toUInt64 ≠ 0 := by
    intro h
    have h' := congrArg UInt64.toNat h
    simp only [Nat.toUInt64_eq, UInt64.toNat_ofNat', UInt64.toNat_zero] at h'
    unfold maxUInt64 at hge
    omega
  have hdeco : decodeFixedHex status.infoHex profile.abi.infoSize = some info := by
    rw [hhex, decodeFixedHex, if_neg (by simp [Client.length_encodeHex, hin]), decodeHex_encodeHex]
  have hdecod : ∃ i, decodeInfo profile info = .ok i := by
    simp [decodeInfo, hva, hin]
  obtain ⟨i, hi⟩ := hdecod
  have hgene : validateGenerations profile 0 0
      (readCapture profile src status batch).generations = .ok () := by
    have hreas : ¬(if batch.start ≠ 0 then GenerationReason.packetGap else .initial) = .other := by
      split_ifs <;> decide
    have hind : ¬(0 < batch.packetsHex.length ∧
        batch.packetsHex.length - 1 > 2 ^ 64 - 1 - batch.start.toUInt64.toNat) := by
      rw [Nat.toUInt64_eq, UInt64.toNat_ofNat']
      unfold maxUInt64 at hran
      omega
    simp only [readCapture, validateGenerations, validateGeneration]
    rw [if_neg (by simpa using hid), if_neg hreas,
      if_neg (Nat.not_lt.mpr (Nat.le_trans hlen (by decide))), if_neg hind,
      forM_validatePacket hpac]
    rfl
  unfold validateCapture
  rw [if_neg (by simp [readCapture])]
  have hbind {α β : Type} (a : α) (f : α → Except Error β) : (Except.ok a >>= f) = f a := rfl
  have hcap : (readCapture profile src status batch).multiVersion = profile.version ∧
      (readCapture profile src status batch).abi = profile.abi ∧
      (readCapture profile src status batch).infoHex = status.infoHex ∧
      (readCapture profile src status batch).source = src ∧
      (readCapture profile src status batch).generations.length = 1 :=
    ⟨rfl, rfl, rfl, rfl, rfl⟩
  obtain ⟨h₁, h₂, h₃, h₄, h₅⟩ := hcap
  rw [h₁, hver, hbind, if_neg (by simp [h₂]), h₃, hdeco]
  dsimp only
  rw [hi, hbind, h₄, hso, hbind, if_neg, hgene, hbind]
  · exact ⟨_, rfl⟩
  rintro (hnil | hmany)
  · simp [hnil] at h₅
  · rw [h₅] at hmany
    exact absurd hmany (by decide)

lemma source_of_validateCapture {cap : Capture} {res : Profile × Info}
    (h : validateCapture cap = .ok res) : TimeMachine.validateSource cap.source = .ok () := by
  unfold validateCapture at h
  dsimp only at h
  split at h
  · cases h
  obtain ⟨profile, -, h⟩ := bind_eq_ok.mp h
  split at h
  · cases h
  split at h
  · cases h
  obtain ⟨info, -, h⟩ := bind_eq_ok.mp h
  obtain ⟨⟨⟩, hso, -⟩ := bind_eq_ok.mp h
  exact hso

lemma performRead_ok {profile : Profile} {src : Source} {s : Session}
    {read : ReadRequest} {count : Int} (hpr : profileForVersion version = .ok profile)
    (hin : s.info.length = profile.abi.infoSize) (hso : TimeMachine.validateSource src = .ok ())
    (hge : 1 ≤ s.generation ∧ s.generation ≤ maxUInt64)
    (hsm : read.generation = s.generation) (hco : (pkts.length : Int) = count)
    (hle : count ≤ read.count) (hlen : pkts.length ≤ maxPacketBatch)
    (hran : read.start + pkts.length ≤ maxUInt64)
    (hpac : ∀ text ∈ pkts, validatePacket profile text = .ok ()) :
    performRead profile read src (statusOf s) ⟨read.generation, read.start, count, pkts⟩ =
      ({ status := some (statusOf s), batch := some (readCapture profile src (statusOf s)
          ⟨read.generation, read.start, count, pkts⟩) }, none) := by
  have hcap : ∃ res, validateCapture (readCapture profile src (statusOf s)
      ⟨read.generation, read.start, count, pkts⟩) = .ok res :=
    validateCapture_readCapture hpr rfl hin hso (hsm ▸ hge) hlen hran hpac
  obtain ⟨res, hva⟩ := hcap
  have hche : ¬(read.generation ≠ (statusOf s).generation ∨ read.start ≠ read.start ∨ count < 0 ∨
      count > read.count ∨ count ≠ pkts.length) := by
    simp only [statusOf]
    omega
  simp only [performRead, if_neg hche, hva]

end Documents

/-! ### Calls -/

namespace Chain

open HelperSession Client

variable {chain : Chain} {isAbs : String → Bool} {size : Nat} {native : Native}

/-- The native library has not failed, and the helper has taken the numbers of the requests. -/
structure Works (chain : Chain) : Prop where
  faulted : chain.session.faulted = false
  nextSeq : chain.client.nextSeq ≤ maxRequestSeq

/-- The client and the helper are good. -/
structure Joined (size : Nat) (chain : Chain) : Prop where
  client : chain.client.Ready size chain.session.generation
  session : chain.session.Live size
  numbered : chain.lastSeq ≤ chain.client.nextSeq

lemma decodeRequest_requestLine {seq last : Nat} {op : Operation} (hlast : last < seq)
    (hmax : seq ≤ maxRequestSeq) :
    decodeRequest (some (requestLine seq op args)) last = .ok (seq, op.text, args) := by
  have hnum : (1 : Int) = 1 ∧ (last : Int) < seq ∧ (seq : Int) ≤ maxRequestSeq := by omega
  exact if_pos hnum

lemma nextSeq_settle (c : Client) (seq : Nat) (op : Operation) (read : ReadArgs)
    (verdict : Except String (Option Reply)) :
      (c.settle seq op read verdict).1.nextSeq = c.nextSeq := by
  have hrecord (gen : Nat) : (c.record op gen).nextSeq = c.nextSeq := by
    unfold record
    split_ifs <;> split <;> rfl
  unfold settle
  split
  · exact nextSeq_retract ..
  · exact (nextSeq_retract ..).trans (nextSeq_abortWith ..)
  split
  · next hcom =>
    simp only [Client.commit] at hcom
    split_ifs at hcom
    cases hcom
    exact (nextSeq_retract ..).trans (hrecord _)
  · exact (nextSeq_retract ..).trans (nextSeq_abortWith ..)
  · exact nextSeq_retract ..
  · exact nextSeq_retract ..

lemma nextSeq_handed (c : Client) (seq : Nat) (op : Operation) (read : ReadArgs)
    (verdict : Except String (Option Reply)) :
    ((c.hand seq op).settle seq op read verdict).1.nextSeq = seq := nextSeq_settle ..

variable {op : Operation} {read : ReadArgs}

lemma nextSeq_ask {seq : Nat} (had : chain.client.admission op = .admitted seq) :
    (chain.ask isAbs op args read native).1.client.nextSeq = seq := by
  unfold ask
  rw [had]
  dsimp only
  split
  · exact (nextSeq_retract ..).trans (nextSeq_abortWith ..)
  · exact nextSeq_handed ..

lemma works_of_ask (h : (chain.ask isAbs op args read native).1.Works) : chain.Works := by
  obtain ⟨hfa, hnx⟩ := h
  cases had : chain.client.admission op with
  | refused failure =>
    simp only [ask, had] at hfa hnx
    exact ⟨hfa, hnx⟩
  | exhausted =>
    simp only [ask, had, nextSeq_abortWith] at hfa hnx
    exact ⟨hfa, hnx⟩
  | admitted seq =>
    rw [nextSeq_ask had] at hnx
    have hse : seq = chain.client.nextSeq + 1 := by
      unfold Client.admission at had
      split_ifs at had
      cases had
      rfl
    refine ⟨?_, by omega⟩
    cases hf : chain.session.faulted with
    | false => rfl
    | true =>
      unfold ask at hfa
      rw [had] at hfa
      dsimp only at hfa
      split at hfa
      · cases hf.symm.trans hfa
      · next name args' _ =>
        have hproc : Proceeds (fun _ => True) (dispatch isAbs name args' native) :=
          dispatch_proceeds isAbs name args' native fun _ => trivial
        cases hfa.symm.trans ((hproc chain.session).faulted hf)

lemma ne_maxSeq {n : Nat} (h : n ≤ maxRequestSeq) : n ≠ maxSeq := by
  unfold maxRequestSeq at h
  unfold maxSeq
  omega

section

variable (h : chain.Joined size)

include h

lemma Joined.nextSeq_lt (hop : whileOpen op) (hwo : (chain.ask isAbs op args read native).1.Works) :
    chain.client.nextSeq < maxRequestSeq := by
  have hnext := hwo.nextSeq
  rw [nextSeq_ask (h.client.admission hop (ne_maxSeq (works_of_ask hwo).nextSeq))] at hnext
  exact hnext

lemma Joined.ask (hop : whileOpen op) (hnx : chain.client.nextSeq < maxRequestSeq)
    {raised : Except Raised Reply} {s : Session}
    (hexec : (dispatch isAbs op.text args native).exec chain.session = (raised, s)) :
    chain.ask isAbs op args read native = ({ chain with
          client := ((chain.client.hand (chain.client.nextSeq + 1) op).settle
            (chain.client.nextSeq + 1) op read (sent raised)).1
          session := s
          lastSeq := chain.client.nextSeq + 1 },
        answer ((chain.client.hand (chain.client.nextSeq + 1) op).settle
          (chain.client.nextSeq + 1) op read (sent raised)).2) := by
  unfold Chain.ask
  rw [h.client.admission hop (ne_maxSeq hnx.le)]
  dsimp only
  rw [decodeRequest_requestLine (Nat.lt_succ_of_le h.numbered) hnx]
  simp only [hexec]

lemma Joined.ask_ok (hop : whileOpen op) (hnx : chain.client.nextSeq < maxRequestSeq)
    {rp : Reply} {s : Session}
    (hexec : (dispatch isAbs op.text args native).exec chain.session = (.ok rp, s))
    (hva : validate size op read (some rp) = some s.generation) (hlive : s.Live size)
    (honw : Onward chain.session s) :
    ∃ c n, chain.ask isAbs op args read native = (⟨chain.controller, c, s, n⟩, .ok rp) ∧
      Joined size ⟨chain.controller, c, s, n⟩ := by
  obtain ⟨hres, hready⟩ := h.client.settle_ok (chain.client.nextSeq + 1) hop hva
    (Nat.ne_of_gt hlive.consistent.started)
    (Nat.le_trans h.client.lastGeneration honw.generation)
  rw [h.ask hop hnx hexec]
  simp only [sent, hres]
  exact ⟨_, _, rfl, hready, hlive, Nat.le_of_eq (nextSeq_handed ..).symm⟩

lemma Joined.session_ask (hop : whileOpen op) (hnx : chain.client.nextSeq < maxRequestSeq) :
    (chain.ask isAbs op args read native).1.session =
      ((dispatch isAbs op.text args native).exec chain.session).2 := by
  rcases hexec : (dispatch isAbs op.text args native).exec chain.session with ⟨raised, s⟩
  rw [h.ask hop hnx hexec]

lemma Joined.ask_status (hwo : (chain.ask isAbs .status [] ⟨0, 0, 0⟩ native).1.Works) :
    ∃ c n, chain.ask isAbs .status [] ⟨0, 0, 0⟩ native =
        (⟨chain.controller, c, quiet (refreshed chain.session native.first), n⟩,
          .ok (.status (statusOf (refreshed chain.session native.first)))) ∧
      Joined size ⟨chain.controller, c, quiet (refreshed chain.session native.first), n⟩ ∧
      (refreshed chain.session native.first).Live size ∧
      (refreshed chain.session native.first).info.length = size ∧
      Onward chain.session (refreshed chain.session native.first) := by
  have hop : whileOpen .status := .inl rfl
  have hnx := h.nextSeq_lt hop hwo
  have hf := hwo.faulted
  rw [h.session_ask hop hnx] at hf
  obtain ⟨hexec, hlive, hsize, honw⟩ := h.session.status_answer hf
  obtain ⟨c, n, hask, hjoi⟩ := h.ask_ok hop hnx hexec (validate_status _ hlive hsize)
    (live_quiet hlive) ⟨honw.generation, honw.same⟩
  exact ⟨c, n, hask, hjoi, hlive, hsize, honw⟩

lemma Joined.ask_control (hop : op = .start ∨ op = .stop)
    (hwo : (chain.ask isAbs op (wire op ⟨0, 0, 0⟩) ⟨0, 0, 0⟩ native).1.Works) :
    ∃ c s n, chain.ask isAbs op (wire op ⟨0, 0, 0⟩) ⟨0, 0, 0⟩ native = (⟨chain.controller, c, s, n⟩,
          .ok (.control ⟨true, false, s.generation, s.traceState⟩)) ∧
      Joined size ⟨chain.controller, c, s, n⟩ ∧ Onward chain.session s := by
  have hinn : whileOpen op := .inr (.inr hop)
  have hnx := h.nextSeq_lt hinn hwo
  have hf := hwo.faulted
  rw [h.session_ask hinn hnx, h.session.dispatch_control hop] at hf
  obtain ⟨s, hexec, hlive, honw⟩ := h.session.control_answer hf
  rw [← h.session.dispatch_control hop] at hexec
  obtain ⟨c, n, hask, hjoi⟩ := h.ask_ok hinn hnx hexec
    (validate_control hop hlive.consistent.started) hlive honw
  exact ⟨c, s, n, hask, hjoi, honw⟩

/-- The range of a read ends within what the helper finds when it has refreshed. -/
def Within (read : ReadArgs) (native : Native) (s : Session) : Prop :=
  read.start + read.count ≤ ((refreshed s native.first).count : Int)

/-- What becomes of a read in the helper. -/
inductive ReadAnswer (size : Nat) (read : ReadArgs) (native : Native) (chain : Chain) :
    Chain × Except Error Reply → Prop
  | stale (c : Client) (t : Session) (n : Nat)
      (h : read.generation = (refreshed chain.session native.first).generation →
        Within read native chain.session)
      (hjoi : Joined size ⟨chain.controller, c, t, n⟩) (honw : Onward chain.session t) :
    ReadAnswer size read native chain
      (⟨chain.controller, c, t, n⟩, .error (.of .helperStaleGeneration))
  | beyond (c : Client) (t : Session) (n : Nat)
      (h : read.generation = (refreshed chain.session native.first).generation)
      (hbey : ¬Within read native chain.session) (hpo : c.poisoned = true) :
    ReadAnswer size read native chain (⟨chain.controller, c, t, n⟩, .error (.of .helperPoisoned))
  | packets (c : Client) (t : Session) (n : Nat) (data : List UInt8) (actual : Nat)
      (h : Within read native chain.session)
      (hbat : HelperSession.packets read.count (some (data, (actual : Int))) = some (data, actual))
      (hnat : native.getPackets = .ok (some (data, (actual : Int))))
      (hjoi : Joined size ⟨chain.controller, c, t, n⟩) (honw : Onward chain.session t) :
    ReadAnswer size read native chain
      (⟨chain.controller, c, t, n⟩,
        .ok (.read ⟨read.generation, read.start, actual, packetsHex data actual⟩))

lemma Joined.ask_stale (hnx : chain.client.nextSeq < maxRequestSeq) {t : Session}
    (hexec : (dispatch isAbs "read" (wire .read read) native).exec chain.session =
      (.error (.protocol "stale_generation"), t))
    (hlive : t.Live size) (honw : Onward chain.session t) :
    ∃ c n, chain.ask isAbs .read (wire .read read) read native =
        (⟨chain.controller, c, t, n⟩, .error (.of .helperStaleGeneration)) ∧
      Joined size ⟨chain.controller, c, t, n⟩ := by
  rw [h.ask (.inr (.inl rfl)) hnx hexec]
  obtain ⟨hres, hready⟩ := h.client.settle_stale (chain.client.nextSeq + 1) read
  simp only [sent, Raised.code, hres]
  exact ⟨_, _, rfl, { hready with
    lastGeneration := Nat.le_trans hready.lastGeneration honw.generation }, hlive,
    Nat.le_of_eq (nextSeq_handed ..).symm⟩

lemma Joined.ask_read (hva : validRead read = true) (hge : read.generation ≤ maxUInt64)
    (hwo : (chain.ask isAbs .read (wire .read read) read native).1.Works) :
    ReadAnswer size read native chain (chain.ask isAbs .read (wire .read read) read native) := by
  have hop : whileOpen .read := .inr (.inl rfl)
  have hnx := h.nextSeq_lt hop hwo
  have hf := hwo.faulted
  have hdis : (dispatch isAbs "read" (wire .read read) native).exec chain.session =
      (dispatchRead read native).exec chain.session := h.session.dispatch_read hva hge
  have hone : 1 ≤ read.count := (validRead_iff.mp hva).2.1
  rw [h.session_ask hop hnx] at hf
  obtain ⟨hen, hlive, honw⟩ := h.session.read_end hone (hdis ▸ hf)
  generalize (dispatchRead read native).exec chain.session = r at hdis hen hlive honw
  cases hen with
  | stale hother =>
    obtain ⟨c, n, hask, hjoi⟩ := h.ask_stale hnx hdis hlive honw
    exact hask ▸ .stale c _ n (fun heq => absurd heq hother) hjoi honw
  | overtaken t hco =>
    obtain ⟨c, n, hask, hjoi⟩ := h.ask_stale hnx hdis hlive honw
    exact hask ▸ .stale c t n (fun _ => hco) hjoi honw
  | beyond hsm hco =>
    obtain ⟨⟨fault, hres⟩, hpo⟩ := settle_beyond chain.client (chain.client.nextSeq + 1) read
    rw [h.ask hop hnx hdis]
    simp only [sent, Raised.code, hres]
    exact .beyond _ _ _ hsm (Int.not_le.mpr hco) hpo
  | packets data actual t hsm hco hbat hnat =>
    rw [hsm] at hdis
    obtain ⟨c, n, hask, hjoi⟩ := h.ask_ok hop hnx hdis
      ((validate_read hva hbat).trans (congrArg some hsm.symm)) hlive honw
    exact hask ▸ .packets c t n data actual hco hbat hnat hjoi honw

end

/-! ### Pumps -/

variable {polls : List Polled}

/-- The session after the pumps between two calls. -/
def pumped (s : Session) (polls : List Polled) : Session := polls.foldl refreshed s

lemma session_pump (chain : Chain) (pol : Polled) :
    (chain.pump pol).session = refreshed chain.session pol := by
  unfold pump
  dsimp only
  split <;> rfl

lemma works_of_pump (h : (chain.pump pol).Works) : chain.Works := by
  have hfa := h.faulted
  rw [session_pump] at hfa
  have hnx : (chain.pump pol).client.nextSeq = chain.client.nextSeq := by
    unfold pump
    dsimp only
    split
    · rfl
    · exact nextSeq_abortWith ..
  refine ⟨?_, hnx ▸ h.nextSeq⟩
  cases hf : chain.session.faulted with
  | false => rfl
  | true =>
    have hconti : Continues (fun _ => True) chain.session _ := refresh_proceeds pol chain.session
    cases hfa.symm.trans (hconti.faulted hf)

lemma works_of_pumps (h : (polls.foldl pump chain).Works) : chain.Works := by
  induction polls generalizing chain with
  | nil => exact h
  | cons pol polls ih => exact works_of_pump (ih h)

lemma Joined.pump (h : chain.Joined size) (hwo : (chain.pump pol).Works) :
    chain.pump pol = { chain with session := refreshed chain.session pol } ∧
      (chain.pump pol).Joined size ∧ Onward chain.session (refreshed chain.session pol) := by
  have hf := hwo.faulted
  rw [session_pump] at hf
  obtain ⟨hok, hlive, -, honw⟩ := h.session.refreshes hf
  have heq : chain.pump pol = { chain with session := refreshed chain.session pol } := by
    unfold Chain.pump
    rw [hok]
  refine ⟨heq, heq ▸ ⟨?_, hlive, h.numbered⟩, honw⟩
  exact { h.client with lastGeneration := Nat.le_trans h.client.lastGeneration honw.generation }

lemma Joined.pumps (h : chain.Joined size) (hwo : (polls.foldl Chain.pump chain).Works) :
    polls.foldl Chain.pump chain = { chain with session := pumped chain.session polls } ∧
      Joined size { chain with session := pumped chain.session polls } ∧
      Onward chain.session (pumped chain.session polls) := by
  induction polls generalizing chain with
  | nil => exact ⟨rfl, h, Nat.le_refl _, fun _ => ⟨.inr rfl, Nat.le_refl _⟩⟩
  | cons pol polls ih =>
    obtain ⟨heq, hjoi, honw⟩ := h.pump (works_of_pumps hwo)
    rw [foldl_cons] at hwo ⊢
    rw [heq] at hwo hjoi ⊢
    obtain ⟨heq', hjoi', honw'⟩ := ih hjoi hwo
    exact ⟨heq', hjoi', honw.trans honw'⟩

end Chain

/-! ### The controller -/

namespace Controller

open HelperSession

variable {c : Controller} {s t : Session}

/-- What the controller knows is not ahead of the session. -/
structure Tracks (c : Controller) (s : Session) : Prop where
  generation : c.status.nativeGeneration ≤ s.generation
  same : c.status.nativeGeneration = s.generation →
    (c.infoHex = [] ∨ s.info ≠ [] ∧ c.infoHex = TimeMachine.encodeHex s.info) ∧
    (c.status.packetCountKnown = true → c.status.packetCount ≤ s.count)

lemma Tracks.onward (h : c.Tracks s) (honw : Onward s t) : c.Tracks t := by
  refine ⟨Nat.le_trans h.generation honw.generation, fun heq => ?_⟩
  have hc := h.generation
  have hs := honw.generation
  obtain ⟨hin, hco⟩ := h.same (by omega)
  obtain ⟨hkp, hgro⟩ := honw.same (by omega)
  refine ⟨hin.imp_right fun ⟨hne, hhex⟩ => ?_, fun hkn => Nat.le_trans (hco hkn) hgro⟩
  rw [hkp.resolve_left hne]
  exact ⟨hne, hhex⟩

lemma Tracks.behind (h : c.Tracks s) : c.Behind (.status (statusOf s)) :=
  ⟨h.generation, fun heq =>
    ⟨(h.same heq.symm).1.imp_right And.right, (h.same heq.symm).2⟩⟩

lemma tracks_learn {timebase : TimeMachine.TimeUnit} (hne : s.info ≠ []) :
    (c.learn (statusOf s) timebase).Tracks s :=
  ⟨Nat.le_refl _, fun _ => ⟨.inr ⟨hne, rfl⟩, fun _ => Nat.le_refl _⟩⟩

variable {c' : Controller}

lemma Tracks.congr (h : c.Tracks s) (hge : c'.status.nativeGeneration = c.status.nativeGeneration)
    (hhex : c'.infoHex = c.infoHex) (hkn : c'.status.packetCountKnown = c.status.packetCountKnown)
    (hco : c'.status.packetCount = c.status.packetCount) : c'.Tracks s := by
  refine ⟨hge ▸ h.generation, fun heq => ?_⟩
  rw [hhex, hkn, hco]
  exact h.same (hge ▸ heq)

/-- The controller of a helper that is in order. -/
structure Attentive (c : Controller) (s : Session) : Prop where
  version : ∃ version, TimeMachine.profileForVersion version = .ok c.options.profile
  source : TimeMachine.validateSource c.source = .ok ()
  reconciled : c.status.needsReconciliation = false
  tracks : c.Tracks s

section

variable (h : c.Attentive s)

include h

lemma Attentive.onward (honw : Onward s t) : c.Attentive t :=
  ⟨h.version, h.source, h.reconciled, h.tracks.onward honw⟩

lemma Attentive.beginOperation : c.beginOperation.Attentive s :=
  ⟨h.version, h.source, h.reconciled, h.tracks.congr rfl rfl rfl rfl⟩

lemma Attentive.endOperation : Attentive { c with status := { c.status with busy := false } } s :=
  ⟨h.version, h.source, h.reconciled, h.tracks.congr rfl rfl rfl rfl⟩

lemma Attentive.withReceipt (receipt : Receipt) : (c.withReceipt receipt).Attentive s :=
  ⟨h.version, h.source, h.reconciled, h.tracks.congr rfl rfl rfl rfl⟩

lemma Attentive.controlled (traceState : TraceState) : Attentive { c with
        infoHex := []
        status := { c.status with
          nativeGeneration := s.generation, traceState := traceState, packetCountKnown := false
          packetCount := 0, timebase := .unknown } } s :=
  ⟨h.version, h.source, h.reconciled, Nat.le_refl _, fun _ => ⟨.inl rfl, nofun⟩⟩

lemma Attentive.observed (hin : s.info.length = c.options.profile.abi.infoSize)
    (hstar : 1 ≤ s.generation) : ∃ c' : Controller, c'.Attentive s ∧ c'.options = c.options ∧
      ∀ (out : OperationResult) (err : Option Error), out.status = some (statusOf s) →
        c.observed out err = (c', err) := by
  obtain ⟨version, hpr⟩ := h.version
  obtain ⟨timebase, hobse⟩ := observe_ok (validateProfile_of_version hpr)
    rfl hin hstar h.tracks.behind
  have hne : s.info ≠ [] := by
    intro hnil
    refine infoSize_ne_zero_of_profileForVersion hpr ?_
    rw [← hin, hnil]
    rfl
  refine ⟨c.learn (statusOf s) timebase, ⟨h.version, h.source, h.reconciled, tracks_learn hne⟩, rfl,
    fun out err hstat => ?_⟩
  rw [Controller.observed, hstat]
  simp only [hobse]

end

lemma refreshDeath_false (c : Controller) : c.refreshDeath (fun _ => false) = c := by
  rcases death_cases (fun _ => false) c with h | ⟨_, -, -, hdn, -⟩
  · exact h
  · cases hdn

lemma admission_began {owner : String} {request : Request}
    (hop : request.op ≠ .open) (h : c.admission (fun _ => false) owner request = (c', .accepted)) :
    c.status.needsReconciliation = false ∧ c' = c.beginOperation := by
  obtain ⟨-, hee, -, hac⟩ := admission_accepted h
  cases hac with
  | «open» hop' => exact absurd hop' hop
  | other => exact ⟨hee, rfl⟩

lemma admission_unchanged {owner : String} {request : Request} {res : Option Result} {err : Error}
    (h : c.admission (fun _ => false) owner request = (c', .rejected res err)) : c' = c := by
  rcases (admission_rejected h).1 with h | h
  · exact h
  · exact h.trans (refreshDeath_false c)

end Controller

namespace Chain

open HelperSession Client

variable {chain : Chain} {isAbs : String → Bool} {owner : String} {request : Request}
  {first second : Native} {between : List Polled} {profile : TimeMachine.Profile}

/-- The three components know of each other what they have to. -/
structure Linked (profile : TimeMachine.Profile) (chain : Chain) : Prop where
  release : chain.controller.options.profile = profile
  joined : chain.Joined profile.abi.infoSize
  attentive : chain.controller.Attentive chain.session

lemma Linked.not_latched (h : chain.Linked profile) : ¬chain.Latched := by
  rintro (hpo | hreco)
  · cases h.joined.client.poisoned.symm.trans hpo
  · cases h.attentive.reconciled.symm.trans hreco

/-- The request gets past the checks of the controller. -/
def Admits (chain : Chain) (owner : String) (request : Request) : Prop :=
  validateRequest request = none ∧
    ∃ controller, chain.controller.admission (fun _ => false) owner request =
      (controller, .accepted)

/-- A read of the current generation that asks for more than the helper finds. -/
def Beyond (chain : Chain) (read : ReadRequest) (first : Native) (between : List Polled)
    (second : Native) : Prop :=
  let asked := refreshed chain.session first.first
  let found := refreshed (pumped (quiet asked) between) second.first
  asked.generation = read.generation ∧ found.generation = read.generation ∧
    (found.count : Int) < read.start + read.count

lemma execute_of_admits (h : chain.Admits owner request) (hop : request.op ≠ .open) :
    chain.execute isAbs owner request first between second =
      let started : Chain := { chain with controller := chain.controller.beginOperation }
      let answered := started.answers isAbs request first between second
      let performed := perform chain.controller.options.profile request chain.controller.source
        answered.2
      answered.1.conclude request performed.1 performed.2 := by
  obtain ⟨hva, controller, had⟩ := h
  obtain ⟨-, rfl⟩ := Controller.admission_began hop had
  unfold execute
  rw [if_neg (by simp [hva]), had]
  rfl

lemma execute_of_not_admits (h : ¬chain.Admits owner request) :
    (chain.execute isAbs owner request first between second).1 = chain := by
  unfold execute
  split_ifs with hva
  · rfl
  split
  · next had =>
    rw [Controller.admission_unchanged had]
  · next controller had =>
    exact absurd ⟨by simpa using hva, controller, had⟩ h

/-- What a request for a range may come to. -/
def Fulfils (read : ReadRequest) (committed : Committed) : Prop :=
  committed.err = some (.of .helperStaleGeneration) ∨
    committed.err = none ∧ ∃ capture packets id reason, committed.result.batch = some capture ∧
      capture.generations = [⟨id, reason, read.start.toUInt64, some packets⟩] ∧
      (packets.length : Int) ≤ read.count

/-- The batches of the native library are such that the decoder takes them. -/
def Decodes (profile : TimeMachine.Profile) (native : Native) : Prop :=
  ∀ data actual, native.getPackets = .ok (some (data, (actual : Nat))) →
    ∀ text ∈ packetsHex data actual, TimeMachine.validatePacket profile text = .ok ()

lemma works_of_conclude {out : OperationResult} {err : Option Error}
    (h : (chain.conclude request out err).1.Works) : chain.Works := by
  obtain ⟨hfa, hnx⟩ := h
  refine ⟨hfa, ?_⟩
  unfold conclude at hnx
  dsimp only at hnx
  split_ifs at hnx
  · rwa [nextSeq_abortWith] at hnx
  · exact hnx

lemma linked_withReceipt {controller controller' : Controller} {c : Client} {s : Session} {n : Nat}
    (hjoi : Joined profile.abi.infoSize ⟨controller, c, s, n⟩) (hatt : controller'.Attentive s)
    (hpr : controller'.options.profile = profile) (receipt : Receipt) :
    Linked profile ⟨controller'.withReceipt receipt, c, s, n⟩ :=
  ⟨hpr, ⟨hjoi.client, hjoi.session, hjoi.numbered⟩, hatt.withReceipt receipt⟩

lemma Linked.started (h : chain.Linked profile) :
    Joined profile.abi.infoSize { chain with controller := chain.controller.beginOperation } :=
  ⟨h.joined.client, h.joined.session, h.joined.numbered⟩

lemma Linked.execute_status (h : chain.Linked profile) (hadmi : chain.Admits owner request)
    (hop : request.op = .status)
    (hwo : (chain.execute isAbs owner request first between second).1.Works) :
    (chain.execute isAbs owner request first between second).1.Linked profile := by
  rw [execute_of_admits hadmi (by simp [hop])] at hwo ⊢
  dsimp only at hwo ⊢
  replace hwo := works_of_conclude hwo
  simp only [answers, hop] at hwo ⊢
  obtain ⟨c, n, hask, hjoi, hlive, hin, honw⟩ := h.started.ask_status hwo
  rw [hask]
  simp only [asStatus, perform, hop, conclude, Controller.commit]
  obtain ⟨c', hatt, hopt, hob⟩ :=
    (h.attentive.beginOperation.onward honw).endOperation.observed (h.release ▸ hin)
      hlive.consistent.started
  rw [hob _ _ rfl]
  exact linked_withReceipt hjoi (hatt.onward (onward_quiet _)) (hopt ▸ h.release) _

lemma Linked.execute_control (h : chain.Linked profile) (hadmi : chain.Admits owner request)
    (hop : request.op = .start ∨ request.op = .stop)
    (hwo : (chain.execute isAbs owner request first between second).1.Works) :
    (chain.execute isAbs owner request first between second).1.Linked profile := by
  rw [execute_of_admits hadmi (by rcases hop with hop | hop <;> simp [hop])] at hwo ⊢
  dsimp only at hwo ⊢
  replace hwo := works_of_conclude hwo
  have hans : Chain.answers isAbs { chain with controller := chain.controller.beginOperation }
      request first between second =
      ((Chain.ask isAbs { chain with controller := chain.controller.beginOperation }
          request.op (wire request.op ⟨0, 0, 0⟩) ⟨0, 0, 0⟩ first).1,
        { control := asControl (Chain.ask isAbs
          { chain with controller := chain.controller.beginOperation }
          request.op (wire request.op ⟨0, 0, 0⟩) ⟨0, 0, 0⟩ first).2 }) := by
    unfold answers
    rcases hop with hop | hop <;> rw [hop]
  rw [hans] at hwo ⊢
  obtain ⟨c, s, n, hask, hjoi, honw⟩ := h.started.ask_control hop hwo
  have hstar := hjoi.session.consistent.started
  simp only [hask, asControl]
  have hperf : perform chain.controller.options.profile request chain.controller.source
      { control := .ok ⟨true, false, s.generation, s.traceState⟩ } =
      ({ control := some ⟨true, false, s.generation, s.traceState⟩ }, none) := by
    rcases hop with hop | hop <;>
      simp [perform, hop, Nat.ne_of_gt (show 0 < s.generation from hstar)]
  rw [hperf]
  have hatt := (h.attentive.onward honw).beginOperation.endOperation
  rcases hop with hop | hop <;>
    simp only [conclude, Controller.commit, Controller.observed, Controller.commitSucceeded,
      hop] <;>
    exact linked_withReceipt hjoi (hatt.controlled _) h.release _

lemma works_of_answers_read (hop : request.op = .read)
    (h : (chain.answers isAbs request first between second).1.Works) :
    (chain.ask isAbs .status [] ⟨0, 0, 0⟩ first).1.Works := by
  unfold answers at h
  rw [hop] at h
  dsimp only at h
  split at h
  · exact h
  split_ifs at h
  · exact h
  · exact works_of_pumps (works_of_ask h)

lemma validRead_of_validateRequest (hop : request.op = .read) (h : validateRequest request = none) :
    validRead (readArgs request) = true := by
  unfold validateRequest at h
  rw [if_neg (by simp [hop]), hop] at h
  dsimp only at h
  by_cases hha : request.handle = 0 ∨ request.handle > 2147483647 ∨ request.openRequest ≠ {}
  · rw [if_pos hha] at h
    cases h
  rw [if_neg hha] at h
  split_ifs at h with hwro
  simp only [not_or] at hwro
  rw [validRead_iff]
  simp only [readArgs, maxPacketBatch]
  omega

section Conclusions

variable {controller controller' : Controller} {c : Client} {s : Session}
  {out : OperationResult} {n : Nat}

/-- The controller as it is when the last section begins. -/
abbrev ending (controller : Controller) : Controller :=
  { controller with status := { controller.status with busy := false } }

lemma conclude_poisoned (hob : (ending controller).observed out (some (.of .helperPoisoned)) =
      (controller', some (.of .helperPoisoned))) : (conclude ⟨controller, c, s, n⟩ request out
      (some (.of .helperPoisoned))).1.controller.status.needsReconciliation = true := by
  simp only [conclude, Controller.commit, hob]
  rfl

variable (hjoi : Joined profile.abi.infoSize ⟨controller, c, s, n⟩) (hatt : controller'.Attentive s)
  (hpr : controller'.options.profile = profile)

include hjoi hatt hpr

lemma conclude_stale (hob : (ending controller).observed out (some (.of .helperStaleGeneration)) =
      (controller', some (.of .helperStaleGeneration))) :
    (conclude ⟨controller, c, s, n⟩ request out (some (.of .helperStaleGeneration))).1.Linked
      profile ∧
      ∃ committed,
        (conclude ⟨controller, c, s, n⟩ request out (some (.of .helperStaleGeneration))).2 =
          some committed ∧ Fulfils request.read committed := by
  simp only [conclude, Controller.commit, hob]
  exact ⟨linked_withReceipt hjoi hatt hpr _, _, rfl, .inl rfl⟩

lemma conclude_read (hop : request.op = .read)
    (hob : (ending controller).observed out none = (controller', none))
    {cap : TimeMachine.Capture} (hbat : out.batch = some cap)
    {id : UInt64} {why : TimeMachine.GenerationReason}
    (hcap : cap.generations = [⟨id, why, request.read.start.toUInt64, some pkts⟩])
    (hco : (pkts.length : Int) ≤ request.read.count) :
    (conclude ⟨controller, c, s, n⟩ request out none).1.Linked profile ∧
      ∃ committed, (conclude ⟨controller, c, s, n⟩ request out none).2 = some committed ∧
        Fulfils request.read committed := by
  simp only [conclude, Controller.commit, hob, Controller.commitSucceeded, hop]
  exact ⟨linked_withReceipt hjoi hatt hpr _, _, rfl,
    .inr ⟨rfl, cap, pkts, id, why, hbat, hcap, hco⟩⟩

end Conclusions

lemma Linked.execute_read (h : chain.Linked profile) (hadmi : chain.Admits owner request)
    (hop : request.op = .read) (hdec : Decodes profile second)
    (hwo : (chain.execute isAbs owner request first between second).1.Works) :
    chain.Beyond request.read first between second ∧
        (chain.execute isAbs owner request first between
          second).1.controller.status.needsReconciliation =
          true ∨ ¬chain.Beyond request.read first between second ∧
        (chain.execute isAbs owner request first between second).1.Linked profile ∧
        ∃ committed, (chain.execute isAbs owner request first between second).2 = some committed ∧
          Fulfils request.read committed := by
  have hva := hadmi.1
  rw [execute_of_admits hadmi (by simp [hop])] at hwo ⊢
  dsimp only at hwo ⊢
  replace hwo := works_of_conclude hwo
  -- the status comes first, whatever becomes of the read
  have hstat : (Chain.ask isAbs { chain with controller := chain.controller.beginOperation }
      .status [] ⟨0, 0, 0⟩ first).1.Works := works_of_answers_read hop hwo
  obtain ⟨c, n, hask, hjoi, hlive, hin, honw⟩ := h.started.ask_status hstat
  obtain ⟨c', hatt, hopt, hob⟩ := (h.attentive.beginOperation.onward honw).endOperation.observed
    (h.release ▸ hin) hlive.consistent.started
  have hqu := hatt.onward (onward_quiet _)
  have hrel : c'.options.profile = profile := hopt ▸ h.release
  simp only [answers, hop, hask, asStatus] at hwo ⊢
  by_cases hsm : (statusOf (refreshed chain.session first.first)).generation ≠
      request.read.generation
  · rw [if_pos hsm] at hwo ⊢
    refine .inr ⟨fun hbey => hsm hbey.1, ?_⟩
    simp only [perform, hop, if_pos hsm]
    exact conclude_stale hjoi hqu hrel (hob _ _ rfl)
  rw [if_neg hsm] at hwo ⊢
  replace hsm := not_not.mp hsm
  have hvali := validRead_of_validateRequest hop hva
  have hbou : (readArgs request).generation ≤ maxUInt64 :=
    Nat.le_trans (Nat.le_of_eq hsm.symm) hlive.bounded.generation
  -- the pumps between the two calls
  obtain ⟨hpum, hjoin, honwp⟩ := hjoi.pumps (works_of_ask hwo)
  rw [hpum] at hwo ⊢
  have hrd := hjoin.ask_read hvali hbou hwo
  change ReadAnswer _ (readArgs request) second
    ⟨_, c, pumped (quiet (refreshed chain.session first.first)) between, n⟩
    (Chain.ask isAbs _ _ _ _ second) at hrd
  generalize Chain.ask isAbs _ _ _ _ second = answered at hrd hwo ⊢
  cases hrd with
  | stale c₂ t m hwit hjoi' honw' =>
    refine .inr ⟨fun hbey => ?_, ?_⟩
    · exact absurd (hwit hbey.2.1.symm) (Int.not_le.mpr hbey.2.2)
    · simp only [asRead, perform, hop, if_neg (not_not.mpr hsm)]
      exact conclude_stale hjoi' (hqu.onward (honwp.trans honw')) hrel (hob _ _ rfl)
  | beyond c₂ t m hge hbey hpo =>
    refine .inl ⟨⟨hsm, hge.symm, Int.not_le.mp hbey⟩, ?_⟩
    simp only [asRead, perform, hop, if_neg (not_not.mpr hsm)]
    exact conclude_poisoned (hob _ _ rfl)
  | packets c₂ t m data actual hwit hbat hnat hjoi' honw' =>
    refine .inr ⟨fun hbey => absurd hwit (Int.not_le.mpr hbey.2.2), ?_⟩
    simp only [asRead, perform, hop, if_neg (not_not.mpr hsm)]
    obtain ⟨-, -, hmax, hroom⟩ := validRead_iff.mp hvali
    obtain ⟨-, hle, -⟩ := packets_eq_some hbat
    have hlen : (packetsHex data actual).length = actual := by simp [packetsHex]
    simp only [readArgs] at hmax hroom hle
    obtain ⟨version, hpr⟩ := h.attentive.version
    have hper := performRead_ok (s := refreshed chain.session first.first) hpr (h.release ▸ hin)
      h.attentive.source ⟨hlive.consistent.started, hlive.bounded.generation⟩ hsm.symm
      (congrArg Nat.cast hlen) hle (by rw [hlen]; omega)
      (by rw [hlen]; unfold maxUInt64; omega) (h.release ▸ hdec data actual hnat)
    simp only [readArgs, hper]
    exact conclude_read hjoi' (hqu.onward (honwp.trans honw')) hrel hop (hob _ _ rfl) rfl rfl
      (by rw [hlen]; exact hle)

/-! ### Runs -/

lemma works_of_answers (h : (chain.answers isAbs request first between second).1.Works) :
    chain.Works := by
  by_cases hop : request.op = .read
  · exact works_of_ask (works_of_answers_read hop h)
  unfold answers at h
  split at h
  · exact works_of_ask h
  · contradiction
  · exact works_of_ask h

lemma works_of_execute (hop : request.op ≠ .open)
    (h : (chain.execute isAbs owner request first between second).1.Works) : chain.Works := by
  by_cases hadmi : chain.Admits owner request
  · rw [execute_of_admits hadmi hop] at h
    have hwo := works_of_answers (works_of_conclude h)
    exact ⟨hwo.faulted, hwo.nextSeq⟩
  · rwa [execute_of_not_admits hadmi] at h

variable {chain' : Chain} {evt : Event}

lemma works_of_step (hst : chain.step isAbs evt = some chain')
    (h : chain'.Works) : chain.Works := by
  cases evt with
  | pump pol =>
    cases hst
    exact works_of_pump h
  | execute owner request first between second =>
    simp only [step] at hst
    split_ifs at hst with hop
    cases hst
    exact works_of_execute (fun heq => hop (.inl heq)) h

variable {es : List Event}

lemma works_of_run
    (hru : run (step isAbs) chain es = some chain') (h : chain'.Works) : chain.Works := by
  induction es generalizing chain with
  | nil => exact Option.some.inj hru ▸ h
  | cons evt es ih =>
    obtain ⟨u, hu, hru⟩ := run_cons_eq_some.mp hru
    exact works_of_step hu (ih hru)

/-- An admitted read that asks for more than there is. -/
def Exceeds (chain : Chain) : Event → Prop
  | .execute owner request first between second =>
    request.op = .read ∧ chain.Admits owner request ∧ chain.Beyond request.read first between second
  | .pump _ => False

/-- The batches that the native library returns during the event. -/
def Event.Decodes (profile : TimeMachine.Profile) : Event → Prop
  | .execute _ _ _ _ second => Chain.Decodes profile second
  | .pump _ => True

lemma Linked.pump (h : chain.Linked profile) (hwo : (chain.pump pol).Works) :
    (chain.pump pol).Linked profile := by
  obtain ⟨heq, hjoi, honw⟩ := h.joined.pump hwo
  rw [heq] at hjoi ⊢
  exact ⟨h.release, hjoi, h.attentive.onward honw⟩

lemma whileOpen_of_step (hadmi : chain.Admits owner request)
    (hst : chain.step isAbs (.execute owner request first between second) = some chain') :
    whileOpen request.op := by
  simp only [step] at hst
  split_ifs at hst with hop
  have hva := hadmi.1
  cases hrq : request.op <;> simp_all [whileOpen, validateRequest]

lemma Linked.step (h : chain.Linked profile)
    (hdec : evt.Decodes profile) (hst : chain.step isAbs evt = some chain') (hwo : chain'.Works) :
    chain.Exceeds evt ∧ chain'.controller.status.needsReconciliation = true ∨
      ¬chain.Exceeds evt ∧ chain'.Linked profile := by
  cases evt with
  | pump pol =>
    cases hst
    exact .inr ⟨id, h.pump hwo⟩
  | execute owner request first between second =>
    by_cases hadmi : chain.Admits owner request
    · have hop := whileOpen_of_step hadmi hst
      simp only [Chain.step] at hst
      split_ifs at hst
      cases hst
      rcases hop with hop | hop | hop
      · exact .inr ⟨fun hexc => by simp [Exceeds, hop] at hexc, h.execute_status hadmi hop hwo⟩
      · rcases h.execute_read hadmi hop hdec hwo with ⟨hbey, hla⟩ | ⟨hbey, hlin, -⟩
        · exact .inl ⟨⟨hop, hadmi, hbey⟩, hla⟩
        · exact .inr ⟨fun hexc => hbey hexc.2.2, hlin⟩
      · refine .inr ⟨fun hexc => ?_, h.execute_control hadmi hop hwo⟩
        rcases hop with hop | hop <;> simp [Exceeds, hop] at hexc
    · simp only [Chain.step] at hst
      split_ifs at hst
      cases hst
      rw [execute_of_not_admits hadmi]
      exact .inr ⟨fun hexc => hadmi hexc.2.1, h⟩

lemma needsReconciliation_step (h : chain.controller.status.needsReconciliation = true)
    (hst : chain.step isAbs evt = some chain') :
    chain'.controller.status.needsReconciliation = true ∧ ¬chain.Exceeds evt := by
  have href (owner : String) (request : Request) (hop : request.op ≠ .open) :
      ¬chain.Admits owner request := by
    rintro ⟨-, controller, had⟩
    cases h.symm.trans (Controller.admission_began hop had).1
  cases evt with
  | pump pol =>
    cases hst
    refine ⟨?_, id⟩
    unfold pump
    dsimp only
    split <;> exact h
  | execute owner request first between second =>
    simp only [step] at hst
    split_ifs at hst with hop
    cases hst
    have hno := href owner request fun heq => hop (.inl heq)
    rw [execute_of_not_admits hno]
    exact ⟨h, fun hexc => hno hexc.2.1⟩

/-- Some step of the run asks for more than there is. -/
def Overreaches (isAbs : String → Bool) (chain : Chain) (events : List Event) : Prop :=
  ∃ n u event v, At (step isAbs) chain events n u event v ∧ u.Exceeds event

lemma overreaches_append {u v : Chain}
    (hru : run (step isAbs) chain es = some u) (hst : u.step isAbs evt = some v) :
    Overreaches isAbs chain (es ++ [evt]) ↔ Overreaches isAbs chain es ∨ u.Exceeds evt := by
  constructor
  · rintro ⟨n, u', event', v', hat, hexc⟩
    have hlt := hat.lt
    rw [length_append, length_singleton] at hlt
    rcases Nat.lt_or_ge n es.length with hn | hn
    · exact .inl ⟨n, u', event', v', hat.of_append hn, hexc⟩
    obtain rfl : n = es.length := by omega
    have hinp := hat.input
    have hbe := hat.before
    rw [getElem?_concat_length] at hinp
    rw [take_left, hru] at hbe
    cases hinp
    cases hbe
    exact .inr hexc
  · rintro (⟨n, u', event', v', hat, hexc⟩ | hexc)
    · exact ⟨n, u', event', v', hat.append _, hexc⟩
    · exact ⟨_, u, evt, v, at_last hru hst, hexc⟩

lemma linked_or_latched (h : chain.Linked profile) (hdec : ∀ evt ∈ es, evt.Decodes profile)
    (hru : run (step isAbs) chain es = some chain') (hwo : chain'.Works) :
    chain'.Linked profile ∧ ¬Overreaches isAbs chain es ∨
      chain'.controller.status.needsReconciliation = true ∧ Overreaches isAbs chain es := by
  revert hdec hwo
  refine run_history (H := fun es u => (∀ evt ∈ es, evt.Decodes profile) → u.Works →
    u.Linked profile ∧ ¬Overreaches isAbs chain es ∨
      u.controller.status.needsReconciliation = true ∧ Overreaches isAbs chain es) ?_ ?_ hru
  · exact fun _ _ => .inl ⟨h, fun ⟨n, _, _, _, hat, _⟩ => absurd hat.lt (Nat.not_lt_zero n)⟩
  intro es u evt v hru ih hst hdec hwo
  rw [forall_mem_append] at hdec
  rw [overreaches_append hru hst]
  rcases ih hdec.1 (works_of_step hst hwo) with ⟨hlin, hno⟩ | ⟨hla, hover⟩
  · rcases hlin.step (hdec.2 evt (mem_singleton_self _)) hst hwo with
      ⟨hexc, hla⟩ | ⟨hexc, hlin'⟩
    · exact .inr ⟨hla, .inr hexc⟩
    · exact .inl ⟨hlin', fun hover => hover.elim hno hexc⟩
  · exact .inr ⟨(needsReconciliation_step hla hst).1, .inl hover⟩

/-! ### The open request -/

lemma source_of_validateRequest (hop : request.op = .open) (h : validateRequest request = none) :
    1 ≤ request.openRequest.source.sessionID.toNat ∧
      request.openRequest.source.sessionID.toNat ≤ 2 ^ 31 - 1 ∧
      TimeMachine.validateSource request.openRequest.source = .ok () := by
  unfold validateRequest at h
  rw [if_pos hop] at h
  split_ifs at h
  unfold Trace.validateSource at h
  split_ifs at h with hid
  split at h
  · next res hcap =>
    rw [not_or] at hid
    have hne : request.openRequest.source.sessionID.toNat ≠ 0 := fun heq =>
      hid.1 (UInt32.toNat_inj.mp heq)
    have hle := UInt32.not_lt.mp hid.2
    rw [UInt32.le_iff_toNat_le] at hle
    exact ⟨Nat.pos_of_ne_zero hne, hle, source_of_validateCapture hcap⟩
  · cases h

/-- A client whose process has just started. -/
abbrev fresh (size pointerBits : Nat) : Client := { infoSize := size, pointerBits, pending := none }

lemma settle_open {size : Nat} (pointerBits : Nat) {s : Session} (hlive : s.Live size)
    (hin : s.info.length = size) : (((fresh size pointerBits).hand 1 .open).settle 1 .open ⟨0, 0, 0⟩
        (.ok (some (.status (statusOf s))))).2 = .ok (some (.status (statusOf s))) ∧
      (((fresh size pointerBits).hand 1 .open).settle 1 .open ⟨0, 0, 0⟩
        (.ok (some (.status (statusOf s))))).1.Ready size s.generation := by
  have hva : validate size .open ⟨0, 0, 0⟩ (some (.status (statusOf s))) = some s.generation :=
    validate_status ⟨0, 0, 0⟩ hlive hin
  have hne : s.generation ≠ 0 := Nat.ne_of_gt hlive.consistent.started
  have hjud : ((fresh size pointerBits).hand 1 .open).judge .open ⟨0, 0, 0⟩
      (.ok (some (.status (statusOf s)))) = .valid s.generation := by
    simp only [judge, Client.hand, hva]
  have hcom : ((fresh size pointerBits).hand 1 .open).commit .open s.generation none =
      .committed (((fresh size pointerBits).hand 1 .open).record .open s.generation) := by
    simp [Client.commit, Client.hand]
  have hre : (((fresh size pointerBits).hand 1 .open).record .open s.generation).Ready size
      s.generation := by
    simp only [Client.record, hne, ne_eq, not_false_eq_true, if_true]
    exact ⟨rfl, rfl, rfl, rfl, rfl, rfl, Nat.le_refl _⟩
  unfold settle
  rw [hjud]
  dsimp only
  rw [hcom]
  exact ⟨rfl, hre.retract _⟩

variable {controller : Controller} {pointerBits : Nat} {installation digest : String}
  {native : Native}

lemma admission_open {controller' : Controller} (hop : request.op = .open)
    (h : controller.admission (fun _ => false) owner request = (controller', .accepted)) :
    controller' = (controller.beginOpen owner request.openRequest.source).beginOperation := by
  obtain ⟨-, -, -, hac⟩ := Controller.admission_accepted h
  cases hac with
  | «open» => rfl
  | other hlp hop' => exact absurd hop hop'

lemma ask_open {size : Nat} {started : Chain}
    (hcli : started.client = fresh size pointerBits) (hses : started.session = {})
    (hlast : started.lastSeq = 0)
    (hexa : (exact args ["installation", "multi_version", "dll_sha256", "session_id"]).exec
      ({} : Session) = (.ok ⟨⟩, {})) (hva : validOpen isAbs args = true) {id : Int}
    (hid : args.lookup "session_id" = some (.int id)) (hran : 1 ≤ id ∧ id ≤ 2 ^ 31 - 1)
    (hsize : infoSize args = size) (hwo : (started.ask isAbs .open args ⟨0, 0, 0⟩ native).1.Works) :
    ∃ c r n, started.ask isAbs .open args ⟨0, 0, 0⟩ native =
        (⟨started.controller, c, quiet r, n⟩, .ok (.status (statusOf r))) ∧
      Joined size ⟨started.controller, c, quiet r, n⟩ ∧ r.Live size ∧ r.info.length = size := by
  have had : started.client.admission .open = .admitted 1 := by
    rw [hcli]
    rfl
  have hdecode : decodeRequest (some (requestLine 1 .open args)) 0 = .ok (1, "open", args) :=
    decodeRequest_requestLine Nat.one_pos (by decide)
  unfold ask at hwo ⊢
  rw [had, hses, hcli, hlast] at hwo ⊢
  dsimp only at hwo ⊢
  rw [hdecode] at hwo ⊢
  obtain ⟨r, hexec, hlive, hin⟩ := open_answer hexa hva hid hran hwo.faulted
  rw [hsize] at hlive hin
  obtain ⟨hres, hready⟩ := settle_open pointerBits hlive hin
  simp only [hexec, sent, hres]
  exact ⟨_, r, _, rfl, ⟨hready, live_quiet hlive, Nat.le_of_eq (nextSeq_handed ..).symm⟩, hlive,
    hin⟩

lemma linked_opening {started : Chain}
    {p : Nat} (hcli : started.client = fresh profile.abi.infoSize p)
    (hses : started.session = {}) (hlast : started.lastSeq = 0)
      (hrel : started.controller.options.profile = profile)
    (hver : TimeMachine.profileForVersion version = .ok profile)
    (hatt : ∀ s : Session, started.controller.Attentive s)
    (hop : request.op = .open) (hva : validateRequest request = none)
    (hcn : validOpen isAbs (openArgs installation profile.version digest
      request.openRequest.source) = true)
    (hwo : (started.opening isAbs request installation digest false native).Works) :
    (started.opening isAbs request installation digest false native).Linked profile := by
  obtain ⟨hpos, hle, -⟩ := source_of_validateRequest hop hva
  have hsize : infoSize (openArgs installation profile.version digest request.openRequest.source) =
      profile.abi.infoSize := by
    have hopens : Event.Opens version (.request "open"
        (openArgs installation profile.version digest request.openRequest.source) native) := by
      intro _
      rw [version_of_ok hver]
      rfl
    exact hopens.fits hver rfl
  unfold opening at hwo ⊢
  rw [hrel] at hwo ⊢
  dsimp only at hwo ⊢
  rw [if_neg Bool.false_ne_true] at hwo ⊢
  obtain ⟨c, r, n, hask, hjoi, hlive, hin⟩ := ask_open hcli hses hlast rfl hcn rfl
    (by omega) hsize (works_of_conclude hwo)
  obtain ⟨c', hatt', hopt, hob⟩ :=
    (hatt r).endOperation.observed (hrel ▸ hin) hlive.consistent.started
  rw [hask]
  simp only [asStatus, perform, hop, conclude, Controller.commit]
  rw [hob _ _ rfl]
  have hqu := hatt'.onward (onward_quiet _)
  have hope : Controller.Attentive { c' with status := { c'.status with state := .open } }
    (quiet r) :=
    ⟨hqu.version, hqu.source, hqu.reconciled, hqu.tracks.congr rfl rfl rfl rfl⟩
  exact linked_withReceipt hjoi hope (hopt ▸ hrel) _

lemma linked_launch (hver : TimeMachine.profileForVersion version = .ok controller.options.profile)
    (hcn : validOpen isAbs (openArgs installation controller.options.profile.version digest
      request.openRequest.source) = true)
    (hlau : launch isAbs controller pointerBits owner request installation digest false native =
      some chain) (hwo : chain.Works) : chain.Linked controller.options.profile := by
  unfold launch at hlau
  split_ifs at hlau with href
  obtain ⟨hva, hop⟩ := not_or.mp href
  replace hop := not_not.mp hop
  replace hva : validateRequest request = none := by simpa using hva
  split at hlau
  · cases hlau
  next had =>
  obtain ⟨-, -, hso⟩ := source_of_validateRequest hop hva
  have hcont := admission_open hop had
  subst hcont
  cases hlau
  exact linked_opening (p := pointerBits) rfl rfl rfl rfl hver
    (fun _ => ⟨⟨version, hver⟩, hso, rfl, Nat.zero_le _, fun _ => ⟨.inl rfl, nofun⟩⟩)
    hop hva hcn hwo

/-- While the native library works and requests have numbers, a helper that was opened is lost, and
its controller has to be reconciled, exactly when some admitted read of the current generation asks
for more packets than the helper then finds. Every other admitted read returns packets from where it
was asked to start, and no more than it was asked for, or finds that its generation is over. -/
theorem reads_latch_iff {version : String} {events : List Event} {chain' : Chain}
    (hver : TimeMachine.profileForVersion version = .ok controller.options.profile)
    (hcn : validOpen isAbs (openArgs installation controller.options.profile.version digest
      request.openRequest.source) = true)
    (hlau : launch isAbs controller pointerBits owner request installation digest false native =
      some chain) (hru : run (step isAbs) chain events = some chain')
    (hdec : ∀ event ∈ events, event.Decodes controller.options.profile) (hwo : chain'.Works) :
    (chain'.Latched ↔ Overreaches isAbs chain events) ∧ ∀ n u owner request first between second v,
        At (step isAbs) chain events n u (.execute owner request first between second) v →
        request.op = .read → u.Admits owner request → ¬u.Beyond request.read first between second →
        ∃ committed, (u.execute isAbs owner request first between second).2 = some committed ∧
          Fulfils request.read committed := by
  have hlin := linked_launch hver hcn hlau (works_of_run hru hwo)
  refine ⟨?_, ?_⟩
  · rcases linked_or_latched hlin hdec hru hwo with ⟨hlin', hno⟩ | ⟨hla, hover⟩
    · exact ⟨fun h => absurd h hlin'.not_latched, fun h => absurd h hno⟩
    · exact ⟨fun _ => hover, fun _ => .inr hla⟩
  intro n u owner request first between second v hat hop hadmi hbey
  have hrs : run (step isAbs) v (events.drop (n + 1)) = some chain' := by
    have hspl := run_between (Nat.le_of_lt_succ (Nat.succ_lt_succ hat.lt)) hat.run
      (by rw [take_length]; exact hru)
    rwa [take_length] at hspl
  have hv := works_of_run hrs hwo
  have hu : u.Linked controller.options.profile := by
    rcases linked_or_latched hlin (fun event heve => hdec event (mem_of_mem_take heve))
      hat.before (works_of_step hat.after hv) with ⟨hlin', -⟩ | ⟨hla, -⟩
    · exact hlin'
    · obtain ⟨-, controller', had⟩ := hadmi
      exact absurd (hla.symm.trans (Controller.admission_began (by simp [hop]) had).1) nofun
  have haft := hat.after
  simp only [step] at haft
  split_ifs at haft
  cases haft
  have hdeco : Decodes controller.options.profile second :=
    hdec _ (mem_of_getElem? hat.input)
  rcases hu.execute_read hadmi hop hdeco hv with ⟨hbey', -⟩ | ⟨-, -, hful⟩
  · exact absurd hbey' hbey
  · exact hful

def probeOpen : Request :=
  { op := .open, openRequest := ⟨{ kind := .live, sessionID := 1, sourceID := "probe" }, true⟩ }

def holding (count : Int) (data : List UInt8) (actual : Int) : Native :=
  { recordings (recording count []) (recording count []) with
    getPackets := .ok (some (data, actual)) }

/-- A helper for a recording of ten packets. -/
def probed : Option Chain :=
  launch (fun _ => true)
    { options := { profile := ⟨"8.1.4", TimeMachine.baseABI 64 64, false, true, true⟩ } } 64 "owner"
    probeOpen "/ghs" (String.ofList (List.replicate 64 '0')) false
    (recordings (recording 10 []) (recording 10 []))

/-- A read from the start of the recording. -/
def readFromStart (count : Int) (data : List UInt8) (actual : Int) : Event :=
  .execute "owner" { op := .read, handle := 1, read := ⟨0, 1, count⟩ } (holding 10 data actual)
    [recording 10 []] (holding 10 data actual)

/-- The read that the command line makes by default. -/
theorem default_read_latches : ∃ chain chain', probed = some chain ∧
    chain.session.count = 10 ∧ chain.client.poisoned = false ∧
    chain.controller.status.needsReconciliation = false ∧
    run (step fun _ => true) chain [readFromStart 4096 [] 0] = some chain' ∧
    chain'.session.faulted = false ∧ chain'.client.poisoned = true ∧
    chain'.controller.status.needsReconciliation = true := by
  have hprob : probed.any (fun chain => chain.session.count = 10 ∧ chain.client.poisoned = false ∧
      chain.controller.status.needsReconciliation = false ∧
      (run (step fun _ => true) chain [readFromStart 4096 [] 0]).any fun chain' =>
        chain'.session.faulted = false ∧ chain'.client.poisoned = true ∧
          chain'.controller.status.needsReconciliation = true) = true := by decide +kernel
  obtain ⟨chain, hcha, hprob⟩ := (any_eq_true _ _).mp hprob
  obtain ⟨hco, hgood, hrec, hread⟩ := of_decide_eq_true hprob
  obtain ⟨chain', hru, hla⟩ := exists_run hread
  exact ⟨chain, chain', hcha, hco, hgood, hrec, hru, hla⟩

lemma decodes_readFromStart : (readFromStart 2 (List.replicate 64 0) 2).Decodes
      ⟨"8.1.4", TimeMachine.baseABI 64 64, false, true, true⟩ := by
  intro data actual hnat
  obtain ⟨rfl, hct⟩ := Prod.mk.inj (Option.some.inj (Except.ok.inj hnat))
  obtain rfl : actual = 2 := by omega
  decide +kernel

/-- The same read, for the packets that are there. -/
theorem reads_latch_iff_within : ∃ chain chain', probed = some chain ∧
    run (step fun _ => true) chain [readFromStart 2 (List.replicate 64 0) 2] = some chain' ∧
    (chain'.Latched ↔ Overreaches (fun _ => true) chain [readFromStart 2 (List.replicate 64 0) 2]) ∧
    chain'.client.poisoned = false := by
  have hprob : probed.any (fun chain =>
      (run (step fun _ => true) chain [readFromStart 2 (List.replicate 64 0) 2]).any fun chain' =>
        chain'.session.faulted = false ∧ chain'.client.nextSeq ≤ maxRequestSeq ∧
          chain'.client.poisoned = false) = true := by decide +kernel
  obtain ⟨chain, hcha, hread⟩ := (any_eq_true _ _).mp hprob
  obtain ⟨chain', hru, hfa, hnx, hgood⟩ := exists_run hread
  refine ⟨chain, chain', hcha, hru, ?_, hgood⟩
  have hver : TimeMachine.profileForVersion "8.1.4" =
      .ok ⟨"8.1.4", TimeMachine.baseABI 64 64, false, true, true⟩ := rfl
  refine (reads_latch_iff hver (by decide +kernel) hcha hru ?_ ⟨hfa, hnx⟩).1
  intro event heve
  rw [mem_singleton.mp heve]
  exact decodes_readFromStart

end Chain

end MultiDap.Trace
