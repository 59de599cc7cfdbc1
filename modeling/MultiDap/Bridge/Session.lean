import MultiDap.Errors
import MultiDap.Machine.Run

/-!
# Opening and closing a session of the bridge

In cold mode the bridge connects to the target and owes the debugger a disconnect, also when the
preparation fails; in warm mode it owes nothing.
-/

namespace MultiDap.Bridge

open Machine List

inductive Mode where
  | cold | warm
  deriving DecidableEq

inductive Preparation where
  | none | alreadyPresentNoVerify | unknown
  deriving DecidableEq

/-- A connect that succeeded, or a call of `Disconnect`. -/
inductive Event where
  | connected (debugger : Nat)
  | disconnect (debugger : Nat) (raised : Bool)
  deriving DecidableEq

/-- What the objects of MULTI do during a request; where a call raises, it has no result. -/
structure Api where
  bound : Except BridgeError Nat
  debugger : Option Nat
  debugProgram : Option (Option Nat)
  connects : Option Bool
  prepares : Option Bool
  disconnectRaises : Bool

/-- A request, with the outcome of the checks on its parameters. -/
inductive Request where
  | open (params : Except BridgeError Preparation) (api : Api)
  | close (params : Except BridgeError Unit) (api : Api)

structure Session where
  window : Option Nat := none
  debugger : Option Nat := none
  disconnectOnClose : Bool := false
  log : List Event := []

namespace Session

/-- What a request sees of an exception that is not an error of the bridge. -/
def unexpected : BridgeError := ⟨"internal_error", "unexpected bridge exception"⟩

def note (s : Session) (event : Event) : Session := { s with log := s.log ++ [event] }

def opened (s : Session) (debugger : Nat) (window : Nat) : Session :=
  { s with window := some window, debugger := some debugger, disconnectOnClose := true }

/-- The preparation of a debugger that is connected. -/
def prepare (s : Session) (preparation : Preparation) (api : Api) (debugger window : Nat) :
    Session × Except BridgeError Unit :=
  if preparation = .alreadyPresentNoVerify ∧ api.prepares ≠ some true then
    (s.note (.disconnect debugger api.disconnectRaises), .error
      (if api.disconnectRaises then
        ⟨"cold_cleanup_failed", "MULTI could not prepare target or disconnect"⟩
      else ⟨"multi_refused", "MULTI could not prepare target"⟩))
  else (s.opened debugger window, .ok ())

def openCold (s : Session) (preparation : Preparation) (api : Api) :
    Session × Except BridgeError Unit :=
  if preparation = .unknown then (s, .error ⟨"invalid_params", "unknown cold preparation"⟩)
  else
    match api.debugger, api.debugProgram with
    | some debugger, some (some window) =>
      match api.connects with
      | some true => (s.note (.connected debugger)).prepare preparation api debugger window
      | some false => (s, .error ⟨"multi_refused", "MULTI could not connect to target"⟩)
      | none => (s, .error unexpected)
    | some _, some none => (s, .error ⟨"multi_refused", "MULTI could not open debug program"⟩)
    | _, _ => (s, .error unexpected)

def «open» (mode : Mode) (s : Session) (params : Except BridgeError Preparation) (api : Api) :
    Session × Except BridgeError Unit :=
  match params with
  | .error err => (s, .error err)
  | .ok preparation =>
    if s.window ≠ none then (s, .error ⟨"session_open", "MULTI session is already open"⟩)
    else
      match mode with
      | .cold => s.openCold preparation api
      | .warm =>
        match api.bound with
        | .ok window => ({ s with window := some window, disconnectOnClose := false }, .ok ())
        | .error err => (s, .error err)

def close (s : Session) (params : Except BridgeError Unit) (api : Api) :
    Session × Except BridgeError Unit :=
  match params with
  | .error err => (s, .error err)
  | .ok () =>
    if s.window = none then (s, .error ⟨"session_not_open", "MULTI session is not open"⟩)
    else
      let closed := { s with window := none, debugger := none, disconnectOnClose := false }
      if s.disconnectOnClose then
        match s.debugger with
        | some debugger => (closed.note (.disconnect debugger api.disconnectRaises),
            if api.disconnectRaises then .error unexpected else .ok ())
        | none => (closed, .error unexpected)
      else (closed, .ok ())

def step (mode : Mode) (s : Session) : Request → Session × Except BridgeError Unit
  | .open params api => s.open mode params api
  | .close params api => s.close params api

def next (mode : Mode) (s : Session) (request : Request) : Option Session :=
  some (s.step mode request).1

end Session

/-- The calls of `Disconnect` on a debugger. -/
def disconnects (log : List Event) (debugger : Nat) : Nat :=
  log.count (.disconnect debugger false) + log.count (.disconnect debugger true)

/-- At every moment, each debugger was disconnected at most as often as it was connected. -/
def Fair (log : List Event) : Prop :=
  ∀ past, past <+: log → ∀ d, disconnects past d ≤ past.count (.connected d)

/-- A disconnect that is owed was not made yet. -/
structure Session.Sound (mode : Mode) (s : Session) : Prop where
  fair : Fair s.log
  duty : s.disconnectOnClose = true →
    ∃ d, s.debugger = some d ∧ disconnects s.log d < s.log.count (.connected d)
  warm : mode = .warm → s.log = [] ∧ s.disconnectOnClose = false
  idle : s.window = none → s.debugger = none ∧ s.disconnectOnClose = false

/-- An open has failed: the session is the one before it, and what it connected is disconnected. -/
structure Undone (s t : Session) (err : BridgeError) : Prop where
  window : t.window = s.window
  debugger : t.debugger = s.debugger
  duty : t.disconnectOnClose = s.disconnectOnClose
  calls : ∃ calls, t.log = s.log ++ calls ∧ (err.kind = "cold_cleanup_failed" ∨
    ∀ d, calls.count (.connected d) = calls.count (.disconnect d false))

variable {log : List Event} {d : Nat} {mode : Mode} {s : Session} {raised : Bool}

lemma Fair.connected (h : Fair log) : Fair (log ++ [Event.connected d]) ∧
    disconnects (log ++ [Event.connected d]) d < (log ++ [Event.connected d]).count
      (.connected d) := by
  refine ⟨fun past hpast e => ?_, ?_⟩
  · rcases prefix_concat_iff.mp hpast with rfl | hpast
    · have := h log prefix_rfl e
      simp only [disconnects, count_append] at this ⊢
      simp
      omega
    · exact h past hpast e
  have := h log prefix_rfl d
  simp [disconnects] at this ⊢
  omega

lemma Fair.disconnect (h : Fair log) (hlt : disconnects log d < log.count (.connected d)) :
    Fair (log ++ [.disconnect d raised]) := by
  intro past hpast e
  rcases prefix_concat_iff.mp hpast with rfl | hpast
  · have := h log prefix_rfl e
    by_cases heq : d = e
    · subst heq
      cases raised <;> simp_all [disconnects] <;> omega
    · cases raised <;> simp_all [disconnects]
  · exact h past hpast e

lemma undone_refl (err : BridgeError) : Undone s s err :=
  ⟨rfl, rfl, rfl, [], (append_nil _).symm, .inr fun _ => rfl⟩

lemma Session.Sound.openCold (h : s.Sound .cold) (hw : s.window = none)
    (preparation : Preparation) (api : Api) : (s.openCold preparation api).1.Sound .cold ∧
      ∀ err, (s.openCold preparation api).2 = .error err →
        Undone s (s.openCold preparation api).1 err := by
  have hfail (err : BridgeError) : s.Sound .cold ∧
      ∀ e, Except.error err = (.error e : Except _ Unit) → Undone s s e :=
    ⟨h, fun e _ => undone_refl e⟩
  unfold Session.openCold
  split_ifs
  · exact hfail _
  split
  · next debugger window _ _ =>
    split
    · obtain ⟨hfair, hlt⟩ := h.fair.connected (d := debugger)
      unfold prepare
      by_cases hp : preparation = .alreadyPresentNoVerify ∧ api.prepares ≠ some true
      · rw [if_pos hp]
        refine ⟨⟨hfair.disconnect hlt, fun hduty => ?_, nofun, h.idle⟩, fun err herr =>
          ⟨rfl, rfl, rfl, [.connected debugger, .disconnect debugger api.disconnectRaises], ?_, ?_⟩⟩
        · exact nomatch (h.idle hw).2.symm.trans hduty
        · simp [note]
        cases hraise : api.disconnectRaises with
        | true =>
          rw [hraise] at herr
          cases herr
          exact .inl rfl
        | false => exact .inr fun d => by simp [count_cons]
      · rw [if_neg hp]
        exact ⟨⟨hfair, fun _ => ⟨debugger, rfl, hlt⟩, nofun, nofun⟩, nofun⟩
    · exact hfail _
    · exact hfail _
  · exact hfail _
  · exact hfail _

lemma Session.Sound.open (h : s.Sound mode) (params : Except BridgeError Preparation) (api : Api) :
    (s.open mode params api).1.Sound mode ∧
      ∀ err, (s.open mode params api).2 = .error err → Undone s (s.open mode params api).1 err := by
  unfold Session.open
  split
  · exact ⟨h, fun err _ => undone_refl err⟩
  split_ifs with hw
  · exact ⟨h, fun err _ => undone_refl err⟩
  split
  · exact h.openCold (not_not.mp hw) _ api
  split
  · exact ⟨⟨h.fair, nofun, fun hm => ⟨(h.warm hm).1, rfl⟩, nofun⟩, nofun⟩
  · exact ⟨h, fun err _ => undone_refl err⟩

lemma Session.Sound.close (h : s.Sound mode) (params : Except BridgeError Unit) (api : Api) :
    (s.close params api).1.Sound mode := by
  unfold Session.close
  split
  · exact h
  split
  · exact h
  dsimp only
  split
  · next hduty =>
    obtain ⟨d, hd, hlt⟩ := h.duty hduty
    rw [hd]
    exact ⟨h.fair.disconnect hlt, nofun, fun hm => (nomatch hduty.symm.trans (h.warm hm).2),
      fun _ => ⟨rfl, rfl⟩⟩
  · exact ⟨h.fair, nofun, fun hm => ⟨(h.warm hm).1, rfl⟩, fun _ => ⟨rfl, rfl⟩⟩

lemma sound_run {requests : List Request} (hru : run (Session.next mode) {} requests = some s) :
    s.Sound mode := by
  have hst (s : Session) (request : Request) (t : Session) :
      s.Sound mode → s.next mode request = some t → t.Sound mode := by
    rintro h ⟨⟩
    cases request with
    | «open» params api => exact (h.open params api).1
    | close params api => exact h.close params api
  have h₀ : Session.Sound mode {} := by
    refine ⟨fun past hpast d => ?_, nofun, fun _ => ⟨rfl, rfl⟩, fun _ => ⟨rfl, rfl⟩⟩
    rw [prefix_nil.mp hpast]
    exact Nat.le_refl _
  exact run_invariant hst h₀ hru

/-- After any requests, a debugger was disconnected at most as often as it was connected, and never
in warm mode; an open that fails leaves nothing behind. -/
theorem disconnects_are_owed {mode : Mode} {requests : List Request} {s : Session}
    (hru : run (Session.next mode) {} requests = some s) : Fair s.log ∧
      (mode = .warm → ∀ d raised, .disconnect d raised ∉ s.log) ∧
      (s.window = none → s.debugger = none ∧ s.disconnectOnClose = false) ∧
      ∀ params api err, (s.open mode params api).2 = .error err →
        Undone s (s.open mode params api).1 err := by
  have h := sound_run hru
  refine ⟨h.fair, fun hm d raised => ?_, h.idle, fun params api => (h.open params api).2⟩
  rw [(h.warm hm).1]
  exact not_mem_nil

/-- MULTI connects a debugger, whose preparation fails. -/
def unprepared : Api := ⟨.ok 0, some 0, some (some 0), some true, some false, false⟩

theorem disconnects_are_owed_unprepared :
    ∃ s, run (Session.next .cold) {} [.open (.ok .none) unprepared, .close (.ok ()) unprepared] =
        some s ∧ s.log = [.connected 0, .disconnect 0 false] ∧ Fair s.log ∧
      ∃ err, (s.open .cold (.ok .alreadyPresentNoVerify) unprepared).2 = .error err ∧
        Undone s (s.open .cold (.ok .alreadyPresentNoVerify) unprepared).1 err := by
  refine ⟨_, rfl, rfl, ?_⟩
  obtain ⟨hfair, -, -, hundone⟩ := disconnects_are_owed
    (show run (Session.next .cold) {} [.open (.ok .none) unprepared, .close (.ok ()) unprepared] =
      some _ from rfl)
  exact ⟨hfair, _, rfl, hundone _ _ _ rfl⟩

end MultiDap.Bridge
