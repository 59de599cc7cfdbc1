import MultiDap.Trace.Helper

/-!
# Generations of a recording

Within a generation the information of a recording stays the same and its packets only grow. Every
refresh keeps to that, or begins a new generation, or faults. So whatever statuses a controller
gets to see, in the order in which they were sent, it has no reason to object.
-/

namespace MultiDap.Trace.HelperSession

open Machine Effect

variable {s s' t : Session} {fits : Nat → Prop}

/-! ### What a refresh does -/

variable {α : Type} {raised : Raised}

lemma exec_fault :
    (fault raised : Owner α).exec s = (.error raised, { s with faulted := true }) := rfl

@[simp] lemma exec_call_ok {val : α} : (call (.ok val)).exec s = (.ok val, s) := rfl

@[simp] lemma exec_call_error {err : NativeError} :
    (call (.error err) : Owner α).exec s =
      (.error (nativeFailure err), { s with faulted := true }) :=
  rfl

/-- What `note` and `collect` leave alone. -/
structure Same (s s' : Session) : Prop where
  opened : s'.opened = s.opened
  terminal : s'.terminal = s.terminal
  faulted : s'.faulted = s.faulted
  info : s'.info = s.info
  infoSize : s'.infoSize = s.infoSize
  count : s'.count = s.count
  lastCount : s'.lastCount = s.lastCount
  limit : s'.limit = s.limit
  events : s.events.length ≤ s.limit → s'.events.length ≤ s.limit

lemma Same.trans (h : Same s s') (h' : Same s' t) : Same s t where
  opened := h'.opened.trans h.opened
  terminal := h'.terminal.trans h.terminal
  faulted := h'.faulted.trans h.faulted
  info := h'.info.trans h.info
  infoSize := h'.infoSize.trans h.infoSize
  count := h'.count.trans h.count
  lastCount := h'.lastCount.trans h.lastCount
  limit := h'.limit.trans h.limit
  events hs := h.limit ▸ h'.events (h.limit.symm ▸ h.events hs)

lemma note_same (s : Session) (invalidate : Bool) (evt : Notification) :
    Same s (note (s, invalidate) evt).1 ∧ (note (s, invalidate) evt).1.generation = s.generation ∧
      (invalidate = true → (note (s, invalidate) evt).2 = true) := by
  unfold note
  cases evt <;> dsimp only <;> split_ifs <;>
    refine ⟨⟨rfl, rfl, rfl, rfl, rfl, rfl, rfl, rfl, fun h => ?_⟩, rfl, by simp⟩ <;>
    first | exact h | (rw [List.length_append, List.length_singleton]; omega)

lemma foldl_note_same (es : List Notification) (s : Session) (invalidate : Bool) :
    Same s (es.foldl note (s, invalidate)).1 ∧
      (es.foldl note (s, invalidate)).1.generation = s.generation ∧
      (invalidate = true → (es.foldl note (s, invalidate)).2 = true) := by
  induction es generalizing s invalidate with
  | nil => exact ⟨⟨rfl, rfl, rfl, rfl, rfl, rfl, rfl, rfl, id⟩, rfl, id⟩
  | cons evt es ih =>
    obtain ⟨hsm, hge, hinv⟩ := note_same s invalidate evt
    obtain ⟨hsm', hge', hinv'⟩ :=
      ih (note (s, invalidate) evt).1 (note (s, invalidate) evt).2
    exact ⟨hsm.trans hsm', hge'.trans hge, hinv' ∘ hinv⟩

def Faulted {α : Type} (r : Except Raised α × Session) : Prop :=
  r.2.faulted = true ∧ ∃ raised, r.1 = .error raised

lemma faulted_fault :
    Faulted ((.error raised, { s with faulted := true }) : Except Raised α × Session) :=
  ⟨rfl, raised, rfl⟩

lemma advance_spec (s : Session) : Faulted (advance.exec s) ∨ s.generation ≠ maxUInt64 ∧
      advance.exec s =
        (.ok ⟨⟩, { s with generation := s.generation + 1, invalidated := true }) := by
  by_cases hmax : s.generation = maxUInt64
  · refine .inl ?_
    simp only [advance, exec_bind, exec_get, hmax, if_true, exec_fault]
    exact ⟨rfl, _, rfl⟩
  · refine .inr ⟨hmax, ?_⟩
    simp [advance, exec_bind, hmax]

/-- What a report leaves behind, unless the session faults: the generation is over if the count has
regressed or the information has changed. -/
def Collected (s : Session) (regressed changed : Bool) (r : Except Raised PUnit × Session) : Prop :=
  Faulted r ∨ r.1 = .ok ⟨⟩ ∧ Same s r.2 ∧ s.generation ≤ r.2.generation ∧
    (r.2.generation = s.generation → regressed = false ∧ changed = false) ∧
    (s.generation ≤ maxUInt64 → r.2.generation ≤ maxUInt64)

lemma collected_advance {regressed changed : Bool} {invalid : Prop} [Decidable invalid]
    (hsm : Same s s') (hge : s'.generation = s.generation)
    (hinva : (regressed || changed) = true → invalid) :
    Collected s regressed changed ((if invalid then advance else pure ⟨⟩ : Owner PUnit).exec
      s') := by
  split_ifs with h
  · rcases advance_spec s' with hfault | ⟨hmax, heq⟩
    · exact .inl hfault
    · rw [heq]
      refine .inr ⟨rfl, ⟨hsm.opened, hsm.terminal, hsm.faulted, hsm.info, hsm.infoSize,
        hsm.count, hsm.lastCount, hsm.limit, hsm.events⟩, ?_, ?_, ?_⟩ <;> dsimp only <;> omega
  refine .inr ⟨rfl, hsm, Nat.le_of_eq hge.symm, fun _ => ?_, fun hle => ?_⟩
  · have hno := mt hinva h
    simpa using hno
  · exact Nat.le_trans (Nat.le_of_eq hge) hle

lemma collect_spec (drained : Option Drained) (regressed changed : Bool) (s : Session) :
    Collected s regressed changed ((collect drained regressed changed).exec s) := by
  cases drained with
  | none => exact .inl faulted_fault
  | some drained =>
    unfold collect
    cases hkn : drained.known with
    | none =>
      simp only [hkn, exec_fault]
      exact .inl faulted_fault
    | some es =>
      simp only [hkn, exec_bind, exec_get, exec_set]
      obtain ⟨hsm, hge, hinv⟩ :=
        foldl_note_same (reported es regressed changed) s
          (drained.generationInvalidated || regressed || changed)
      generalize (reported es regressed changed).foldl note _ = folded at *
      obtain ⟨s₁, invalidate⟩ := folded
      refine collected_advance ⟨hsm.opened, hsm.terminal, hsm.faulted, hsm.info,
        hsm.infoSize, hsm.count, hsm.lastCount, hsm.limit, hsm.events⟩ hge
        fun h => .inl (hinv ?_)
      simp only [Bool.or_eq_true] at h ⊢
      tauto

/-- The counts belong together, and the information has a size that fits. -/
structure Session.Consistent (fits : Nat → Prop) (s : Session) : Prop where
  counted : s.lastCount = some s.count ∨ s.lastCount = none ∧ s.info = [] ∧ s.count = 0
  sized : s.opened = true → fits s.infoSize
  started : 1 ≤ s.generation

/-- The numbers that a status carries are small enough. -/
structure Session.Bounded (s : Session) : Prop where
  limit : s.limit = notificationLimit
  events : s.events.length ≤ s.limit
  count : s.count < maxUInt64
  generation : s.generation ≤ maxUInt64

/-- The session goes on: it faults, or it is in the same generation and has at least what it had, or
it is in a later one. -/
structure Continues (fits : Nat → Prop) (s s' : Session) : Prop where
  faulted : s.faulted = true → s'.faulted = true
  later : s.Consistent fits → s'.faulted = true ∨ s'.Consistent fits ∧
    s.generation ≤ s'.generation ∧
    (s'.generation = s.generation → (s.info = [] ∨ s'.info = s.info) ∧ s.count ≤ s'.count)

lemma Continues.refl (s : Session) : Continues fits s s :=
  ⟨id, fun hc => .inr ⟨hc, Nat.le_refl _, fun _ => ⟨.inr rfl, Nat.le_refl _⟩⟩⟩

lemma Continues.trans (h : Continues fits s s') (h' : Continues fits s' t) :
    Continues fits s t := by
  refine ⟨h'.faulted ∘ h.faulted, fun hc => ?_⟩
  rcases h.later hc with hf | ⟨hc', hle, hsm⟩
  · exact .inl (h'.faulted hf)
  rcases h'.later hc' with hf | ⟨hc'', hle', hsm'⟩
  · exact .inl hf
  refine .inr ⟨hc'', Nat.le_trans hle hle', fun heq => ?_⟩
  obtain ⟨hinfo, hco⟩ := hsm (by omega)
  obtain ⟨hinfo', hco'⟩ := hsm' (by omega)
  refine ⟨?_, Nat.le_trans hco hco'⟩
  rcases hinfo with hinfo | hinfo
  · exact .inl hinfo
  rcases hinfo' with hinfo' | hinfo'
  · exact .inl (hinfo.symm.trans hinfo')
  · exact .inr (hinfo'.trans hinfo)

/-- A refresh of a session that is open succeeds with information of the right size, or the session
faults. -/
structure Refreshed (s : Session) (r : Except Raised PUnit × Session) : Prop where
  continues (fits : Nat → Prop) : Continues fits s r.2
  result : Faulted r ∨ r.1 = .ok ⟨⟩ ∧ r.2.faulted = s.faulted ∧ r.2.opened = s.opened ∧
    r.2.terminal = s.terminal ∧ r.2.infoSize = s.infoSize ∧
    (s.opened = true → s.faulted = false → r.2.info.length = s.infoSize) ∧ (s.Bounded → r.2.Bounded)

lemma refreshed_fault : Refreshed s (.error raised, { s' with faulted := true }) :=
  ⟨fun _ => ⟨fun _ => rfl, fun _ => .inl rfl⟩, .inl faulted_fault⟩

lemma refreshed_collect {info : List UInt8} {count : Nat} (hsize : info.length = s.infoSize)
    (hco : count < maxUInt64) (drained : Option Drained) {changed : Bool}
    (hcha : changed = false → s.info = [] ∨ s.info = info) :
    Refreshed s ((collect drained (s.lastCount.any (count < ·)) changed).exec
      { s with lastCount := some count, count := count, info := info }) := by
  rcases collect_spec drained (s.lastCount.any (count < ·)) changed
    { s with lastCount := some count, count := count, info := info } with hfault |
    ⟨hok, hsm, hle, hkp, hmax⟩
  · exact ⟨fun _ => ⟨fun _ => hfault.1, fun _ => .inl hfault.1⟩, .inl hfault⟩
  refine ⟨fun fits => ⟨fun hf => hsm.faulted.trans hf, fun hc =>
    .inr ⟨⟨.inl ?_, fun hon => ?_, Nat.le_trans hc.started hle⟩, hle, fun heq => ?_⟩⟩,
    .inr ⟨hok, hsm.faulted, hsm.opened, hsm.terminal, hsm.infoSize, fun _ _ => ?_,
      fun hb => ⟨hsm.limit.trans hb.limit, ?_, ?_, hmax hb.generation⟩⟩⟩
  · rw [hsm.lastCount, hsm.count]
  · rw [hsm.infoSize]
    exact hc.sized (hsm.opened.symm.trans hon)
  · obtain ⟨hreg, hno⟩ := hkp heq
    rw [hsm.info, hsm.count]
    refine ⟨(hcha hno).imp_right Eq.symm, ?_⟩
    rcases hc.counted with hc | ⟨-, -, hzero⟩
    · simpa [hc] using hreg
    · rw [hzero]
      exact Nat.zero_le _
  · rw [hsm.info, hsize]
  · rw [hsm.limit]
    exact hsm.events hb.events
  · rw [hsm.count]
    exact hco

lemma refresh_spec (pol : Polled) (s : Session) : Refreshed s ((refresh pol).exec s) := by
  unfold refresh
  simp only [exec_bind, exec_get]
  by_cases hskip : (!s.opened || s.faulted) = true
  · simp only [hskip, if_true, exec_pure]
    refine ⟨fun _ => .refl s, .inr ⟨rfl, rfl, rfl, rfl, rfl, fun hon hfault => ?_, id⟩⟩
    simp [hon, hfault] at hskip
  simp only [hskip, Bool.false_eq_true, if_false]
  -- one native call after the other, and any of them may fail
  cases pol.pollEvents with
  | error err => exact refreshed_fault
  | ok _ =>
  simp only [exec_call_ok, exec_bind]
  cases pol.getInfo with
  | error err => exact refreshed_fault
  | ok info =>
  simp only [exec_call_ok]
  cases info with
  | none => exact refreshed_fault
  | some info =>
  by_cases hsize : info.length ≠ s.infoSize
  · simp only [hsize, if_true, exec_bind, exec_fault, not_false_eq_true, ne_eq]
    exact refreshed_fault
  replace hsize := not_not.mp hsize
  simp only [hsize, ne_eq, not_true_eq_false, if_false, exec_bind]
  cases pol.packetCount with
  | error err => exact refreshed_fault
  | ok count =>
  simp only [exec_call_ok]
  cases count with
  | none => exact refreshed_fault
  | some count =>
  by_cases hran : count < 0 ∨ (maxUInt64 : Int) ≤ count
  · simp only [hran, if_true, exec_bind, exec_fault]
    exact refreshed_fault
  simp only [hran, if_false, exec_bind, exec_modify]
  cases pol.drainNotifications with
  | error err => exact refreshed_fault
  | ok drained =>
  simp only [exec_call_ok]
  refine refreshed_collect hsize (by omega) drained fun hsm => ?_
  simpa [or_iff_not_imp_left] using hsm

/-! ### What a request does -/

/-- The checks on the arguments do not touch the session. -/
abbrev Checks {α : Type} (m : Owner α) : Prop := Keeps (fun s t => t = s) m

lemma raiseIf_checks (wrong : Prop) [Decidable wrong] (raised : Raised) :
    Checks (raiseIf wrong raised) := by
  intro s
  unfold raiseIf
  split_ifs <;> rfl

lemma exact_checks (args : Args) (fields : List String) : Checks (exact args fields) :=
  raiseIf_checks _ _

lemma integer_checks (val : Option Json) (minimum maximum : Int) :
    Checks (integer val minimum maximum) := by
  intro s
  unfold integer
  split
  · split_ifs <;> rfl
  · rfl

lemma decimal_checks (val : Option Json) (minimum : Nat) : Checks (decimal val minimum) := by
  intro s
  unfold decimal
  split
  · split
    · split_ifs <;> rfl
    · rfl
  · rfl

variable {α β : Type}
variable {m : Owner α}

lemma Checks.bind {f : α → Owner β} (hm : Checks m)
    (hf : ∀ a, Checks (f a)) : Checks (m >>= f) := keeps_bind (fun h h' => h'.trans h) hm hf

lemma readArgs_checks (args : Args) : Checks (readArgs args) :=
  (exact_checks _ _).bind fun _ => (decimal_checks _ _).bind fun _ =>
    (integer_checks _ _ _).bind fun _ => (decimal_checks _ _).bind fun _ =>
      (raiseIf_checks _ _).bind fun _ _ => rfl

lemma authorized_checks (args : Args) : Checks (authorized args) :=
  (exact_checks _ _).bind fun _ => raiseIf_checks _ _

lemma requireOpen_checks : Checks requireOpen := fun s => raiseIf_checks _ _ s

lemma Checks.exec_bind {f : α → Owner β} (h : Checks m) {b : β}
    (hexec : (m >>= f).exec s = (.ok b, t)) : ∃ a, (f a).exec s = (.ok b, t) := by
  obtain ⟨a, u, hm, hf⟩ := exec_bind_eq_ok.mp hexec
  have hu := h s
  rw [hm] at hu
  exact ⟨a, hu ▸ hf⟩

/-- Everything that a request does lets the session go on. -/
abbrev Proceeds {α : Type} (fits : Nat → Prop) (m : Owner α) : Prop := Keeps (Continues fits) m

lemma Checks.proceeds (h : Checks m) : Proceeds fits m := by
  intro s
  rw [h s]
  exact .refl s

lemma continues_fault : Continues fits s { s' with faulted := true } :=
  ⟨fun _ => rfl, fun _ => .inl rfl⟩

lemma fault_proceeds (raised : Raised) : Proceeds fits (fault raised : Owner α) :=
  fun _ => continues_fault

lemma call_proceeds (ans : Except NativeError α) : Proceeds fits (call ans) := by
  cases ans with
  | ok val => exact Continues.refl
  | error err => exact fault_proceeds _

lemma refresh_proceeds (pol : Polled) : Proceeds fits (refresh pol) :=
  fun s => (refresh_spec pol s).continues fits

lemma continues_of_eq (hfa : s'.faulted = s.faulted) (hge : s'.generation = s.generation)
    (hin : s'.info = s.info) (hco : s'.count = s.count) (hla : s'.lastCount = s.lastCount)
    (hsiz : (s.opened = true → fits s.infoSize) → s'.opened = true → fits s'.infoSize) :
    Continues fits s s' := by
  refine ⟨fun hf => hfa.trans hf, fun hc => .inr ⟨⟨?_, hsiz hc.sized, ?_⟩,
    Nat.le_of_eq hge.symm, fun _ => ⟨.inr hin, Nat.le_of_eq hco.symm⟩⟩⟩
  · simpa only [hla, hco, hin] using hc.counted
  · rw [hge]
    exact hc.started

lemma status_proceeds : Proceeds fits status := fun _ => continues_of_eq rfl rfl rfl rfl rfl id

lemma Proceeds.bind {f : α → Owner β} (hm : Proceeds fits m)
    (hf : ∀ a, Proceeds fits (f a)) : Proceeds fits (m >>= f) := keeps_bind Continues.trans hm hf

lemma throw_proceeds (raised : Raised) : Proceeds fits (throw raised : Owner α) :=
  Continues.refl

lemma pure_proceeds (val : α) : Proceeds fits (pure val : Owner α) := Continues.refl

lemma get_proceeds : Proceeds fits (get : Owner Session) := Continues.refl

lemma raiseIf_proceeds (wrong : Prop) [Decidable wrong] (raised : Raised) :
    Proceeds fits (raiseIf wrong raised) := (raiseIf_checks wrong raised).proceeds

variable {args : Args}

lemma dispatchOpen_proceeds (isAbs : String → Bool) (native : Native)
    (hfits : fits (infoSize args)) : Proceeds fits (dispatchOpen isAbs args native) := by
  unfold dispatchOpen
  refine (exact_checks _ _).proceeds.bind fun _ => (raiseIf_proceeds _ _).bind fun _ =>
    (integer_checks _ _ _).proceeds.bind fun _ => get_proceeds.bind fun _ =>
    (raiseIf_proceeds _ _).bind fun _ s => ?_
  -- the size is set, and only then the session is open
  simp only [exec_bind, exec_modify]
  cases native.factory with
  | error err => exact continues_fault
  | ok _ =>
  simp only [exec_call_ok]
  cases native.initialized with
  | error err => exact continues_fault
  | ok _ =>
  simp only [exec_call_ok]
  cases native.connect with
  | error err => exact continues_fault
  | ok _ =>
  have hope : Continues fits s { s with infoSize := infoSize args, opened := true } :=
    continues_of_eq rfl rfl rfl rfl rfl fun _ _ => hfits
  have hrs : Proceeds fits (do refresh native.first; return Reply.status (← status)) :=
    (refresh_proceeds _).bind fun _ => status_proceeds.bind fun _ => pure_proceeds _
  simpa only [exec_call_ok, exec_bind] using hope.trans (hrs _)

lemma dispatchRead_proceeds (read : ReadArgs) (native : Native) :
    Proceeds fits (dispatchRead read native) := by
  unfold dispatchRead
  refine (refresh_proceeds _).bind fun _ => get_proceeds.bind fun s =>
    (raiseIf_proceeds _ _).bind fun _ => (raiseIf_proceeds _ _).bind fun _ =>
    (call_proceeds _).bind fun batch => ?_
  split
  · exact fault_proceeds _
  · exact (refresh_proceeds _).bind fun _ => get_proceeds.bind fun _ =>
      (raiseIf_proceeds _ _).bind fun _ => pure_proceeds _

lemma dispatchControl_proceeds (requested : TraceState) (native : Native) :
    Proceeds fits (dispatchControl requested native) := by
  unfold dispatchControl
  refine (refresh_proceeds _).bind fun _ => Proceeds.bind (keeps_modify fun s => ?_) fun _ =>
    (call_proceeds _).bind fun _ => (refresh_proceeds _).bind fun _ => get_proceeds.bind fun _ =>
    pure_proceeds _
  exact continues_of_eq rfl rfl rfl rfl rfl id

lemma dispatch_proceeds (isAbs : String → Bool) (op : String) (args : Args) (native : Native)
    (hfits : op = "open" → fits (infoSize args)) :
      Proceeds fits (dispatch isAbs op args native) := by
  unfold dispatch
  refine get_proceeds.bind fun _ => (raiseIf_proceeds _ _).bind fun _ => ?_
  split_ifs with hop
  · exact dispatchOpen_proceeds isAbs native (hfits hop)
  · exact (exact_checks _ _).proceeds.bind fun _ => requireOpen_checks.proceeds.bind fun _ =>
      (refresh_proceeds _).bind fun _ => status_proceeds.bind fun _ => pure_proceeds _
  · refine (exact_checks _ _).proceeds.bind fun _ => requireOpen_checks.proceeds.bind fun _ =>
      (call_proceeds _).bind fun _ => Proceeds.bind (keeps_modify fun s => ?_) fun _ =>
      pure_proceeds _
    exact continues_of_eq rfl rfl rfl rfl rfl nofun
  · exact (authorized_checks _).proceeds.bind fun _ => requireOpen_checks.proceeds.bind fun _ =>
      dispatchControl_proceeds _ _
  · exact (authorized_checks _).proceeds.bind fun _ => requireOpen_checks.proceeds.bind fun _ =>
      dispatchControl_proceeds _ _
  · exact (readArgs_checks _).proceeds.bind fun _ => requireOpen_checks.proceeds.bind fun _ =>
      dispatchRead_proceeds _ _
  · exact throw_proceeds _

/-! ### What a request is answered with -/

/-- The reply says what the session knows. -/
def Reply.Describes (s : Session) : Reply → Prop
  | .status told =>
    told.infoHex = TimeMachine.encodeHex s.info ∧ told.packetCount = s.count ∧
      told.generation = s.generation ∧ s.opened = true ∧ s.info.length = s.infoSize
  | .control told => told.generation = s.generation
  | .read _ | .closed => True

/-- A result, with the session that is left behind. -/
def Answered (reply : Reply) (t : Session) : Prop := t.faulted = false ∧ reply.Describes t

section Inversion

variable {α β : Type} {f : α → Owner β} {b : β}

lemma call_bind_eq_ok {ans : Except NativeError α} :
    (call ans >>= f).exec s = (.ok b, t) ↔ ∃ a, ans = .ok a ∧ (f a).exec s = (.ok b, t) := by
  cases ans with
  | error | ok => simp [exec_bind]

lemma raiseIf_bind_eq_ok {wrong : Prop} [Decidable wrong] {f : Unit → Owner β} :
    (raiseIf wrong raised >>= f).exec s = (.ok b, t) ↔ ¬wrong ∧ (f ⟨⟩).exec s = (.ok b, t) := by
  unfold raiseIf
  split_ifs with hwro <;> simp [hwro]

lemma requireOpen_bind_eq_ok {f : Unit → Owner β} :
    (requireOpen >>= f).exec s = (.ok b, t) ↔ s.opened = true ∧ (f ⟨⟩).exec s = (.ok b, t) := by
  have heq : (requireOpen >>= f).exec s =
      (raiseIf (!s.opened) (.protocol "not_open") >>= f).exec s := rfl
  rw [heq, raiseIf_bind_eq_ok]
  simp

end Inversion

lemma exec_refresh_eq_ok {pol : Polled} {u : Unit}
    (h : (refresh pol).exec s = (.ok u, t)) (hfa : s.faulted = false) :
    t.faulted = false ∧ t.opened = s.opened ∧ (s.opened = true → t.info.length = t.infoSize) := by
  rcases h ▸ (refresh_spec pol s).result with ⟨-, raised, hrr⟩ | ⟨-, hf, ho, -, hsize, hin, -⟩
  · cases hrr
  · exact ⟨hf.trans hfa, ho, fun hon => (hin hon hfa).trans hsize.symm⟩

variable {rp : Reply}

lemma answered_status {pol : Polled} (hfa : s.faulted = false) (hon : s.opened = true)
    (h : (do refresh pol; return Reply.status (← status) : Owner Reply).exec s = (.ok rp, t)) :
    Answered rp t := by
  obtain ⟨u, t₁, href, h⟩ := exec_bind_eq_ok.mp h
  obtain ⟨hf, ho, hsize⟩ := exec_refresh_eq_ok href hfa
  cases h
  exact ⟨hf, rfl, rfl, rfl, ho.trans hon, hsize hon⟩

variable {native : Native}

lemma answered_control {requested : TraceState} (hfa : s.faulted = false)
    (h : (dispatchControl requested native).exec s = (.ok rp, t)) : Answered rp t := by
  obtain ⟨_, t₁, hfir, h⟩ := exec_bind_eq_ok.mp h
  obtain ⟨hf, -, -⟩ := exec_refresh_eq_ok hfir hfa
  obtain ⟨_, t₂, hmod, h⟩ := exec_bind_eq_ok.mp h
  cases hmod
  obtain ⟨_, -, h⟩ := call_bind_eq_ok.mp h
  obtain ⟨_, t₃, hsec, h⟩ := exec_bind_eq_ok.mp h
  obtain ⟨hf', -, -⟩ := exec_refresh_eq_ok hsec hf
  cases h
  exact ⟨hf', rfl⟩

lemma answered_read {read : ReadArgs} (hfa : s.faulted = false)
    (h : (dispatchRead read native).exec s = (.ok rp, t)) : Answered rp t := by
  obtain ⟨_, t₁, hfir, h⟩ := exec_bind_eq_ok.mp h
  obtain ⟨hf, -, -⟩ := exec_refresh_eq_ok hfir hfa
  rw [exec_get_bind] at h
  obtain ⟨-, h⟩ := raiseIf_bind_eq_ok.mp h
  obtain ⟨-, h⟩ := raiseIf_bind_eq_ok.mp h
  obtain ⟨batch, -, h⟩ := call_bind_eq_ok.mp h
  split at h
  · cases h
  obtain ⟨_, t₂, hsec, h⟩ := exec_bind_eq_ok.mp h
  obtain ⟨hf', -, -⟩ := exec_refresh_eq_ok hsec hf
  rw [exec_get_bind] at h
  obtain ⟨-, h⟩ := raiseIf_bind_eq_ok.mp h
  cases h
  exact ⟨hf', trivial⟩

variable {isAbs : String → Bool}

lemma answered_open (hfa : s.faulted = false)
    (h : (dispatchOpen isAbs args native).exec s = (.ok rp, t)) : Answered rp t := by
  obtain ⟨_, h⟩ := (exact_checks _ _).exec_bind h
  obtain ⟨-, h⟩ := raiseIf_bind_eq_ok.mp h
  obtain ⟨_, h⟩ := (integer_checks _ _ _).exec_bind h
  rw [exec_get_bind] at h
  obtain ⟨-, h⟩ := raiseIf_bind_eq_ok.mp h
  rw [exec_modify_bind] at h
  obtain ⟨_, -, h⟩ := call_bind_eq_ok.mp h
  obtain ⟨_, -, h⟩ := call_bind_eq_ok.mp h
  obtain ⟨_, -, h⟩ := call_bind_eq_ok.mp h
  rw [exec_modify_bind] at h
  exact answered_status (s := { s with infoSize := infoSize args, opened := true }) hfa rfl h

lemma dispatch_answered {op : String} (h : (dispatch isAbs op args native).exec s = (.ok rp, t)) :
    Answered rp t := by
  unfold dispatch at h
  rw [exec_get_bind] at h
  obtain ⟨hso, h⟩ := raiseIf_bind_eq_ok.mp h
  have hfa : s.faulted = false := by
    cases hf : s.faulted with
    | false => rfl
    | true => simp [hf] at hso
  split_ifs at h
  · exact answered_open hfa h
  · obtain ⟨_, h⟩ := (exact_checks _ _).exec_bind h
    obtain ⟨hon, h⟩ := requireOpen_bind_eq_ok.mp h
    exact answered_status hfa hon h
  · obtain ⟨_, h⟩ := (exact_checks _ _).exec_bind h
    obtain ⟨-, h⟩ := requireOpen_bind_eq_ok.mp h
    obtain ⟨_, -, h⟩ := call_bind_eq_ok.mp h
    cases h
    exact ⟨hfa, trivial⟩
  · obtain ⟨_, h⟩ := (authorized_checks _).exec_bind h
    obtain ⟨-, h⟩ := requireOpen_bind_eq_ok.mp h
    exact answered_control hfa h
  · obtain ⟨_, h⟩ := (authorized_checks _).exec_bind h
    obtain ⟨-, h⟩ := requireOpen_bind_eq_ok.mp h
    exact answered_control hfa h
  · obtain ⟨_, h⟩ := (readArgs_checks _).exec_bind h
    obtain ⟨-, h⟩ := requireOpen_bind_eq_ok.mp h
    exact answered_read hfa h
  · cases h

end MultiDap.Trace.HelperSession
