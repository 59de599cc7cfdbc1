import Mathlib

/-!
# Error values

A Go error is a text together with the sentinels that `errors.Is` finds in its `Unwrap` tree.
Only the sentinels some modelled function tests for, or returns to its caller, are listed.
-/

namespace MultiDap

/-- The package-level error values of the session and trace packages. -/
inductive Sentinel where
  -- session
  | reconciliationRequired | configurationActive | noConfiguration | leaseHeld | notLeaseHolder
  | resetRequired
  -- stop
  | stopReconciliationRequired | invalidObservation
  -- actor
  | sourceUnavailable | sourceUncertain | notOpen | alreadyOpen | bridgeStaleCompletion
  | reconciliationNeeded | consoleUnavailable | breakpointsUnavailable | inspectionUnavailable
  | inspectionStale | m5Unavailable
  -- handle
  | staleHandle | handlesExhausted
  -- inspection
  | invalidReference | invalidPage | invalidExpression | backendContract
  -- tracecontrol
  | traceUnavailable | traceInvalidRequest | traceUnverifiedSource | traceNotOwner | traceBusy
  | traceStaleHandle | traceStaleOperation | traceReconciliationRequired
  -- tracebridge
  | helperPoisoned | helperClosed | helperStaleGeneration | helperInvalidArguments | helperNotOpen
  | helperAlreadyOpen | helperProtocol | helperTransport | helperExited | helperCleanupUnconfirmed
  -- bridge
  | executorClosed | poisoned
  -- multi
  | protocol
  -- context
  | canceled | deadlineExceeded
  deriving DecidableEq

/-- The text of a sentinel, as `errors.New` was given it. -/
def Sentinel.text : Sentinel → String
  | .reconciliationRequired => "session reconciliation required"
  | .configurationActive => "session configuration already active"
  | .noConfiguration => "session configuration is not active"
  | .leaseHeld => "control lease is held"
  | .notLeaseHolder => "control lease is not held by caller"
  | .resetRequired => "reset is required before resuming execution"
  | .stopReconciliationRequired => "stop: reconciliation required"
  | .invalidObservation => "stop: invalid observation"
  | .sourceUnavailable => "actor: source is unavailable on every core"
  | .sourceUncertain => "actor: source resolution is uncertain"
  | .notOpen => "actor: session is not open"
  | .alreadyOpen => "actor: session is already open"
  | .bridgeStaleCompletion => "actor: bridge completion is stale"
  | .reconciliationNeeded => "actor: reconciliation is required"
  | .consoleUnavailable => "actor: console forwarding is disabled"
  | .breakpointsUnavailable => "actor: breakpoint placement is unavailable"
  | .inspectionUnavailable => "actor: inspection is unavailable"
  | .inspectionStale => "actor: inspection request is stale"
  | .m5Unavailable => "actor: memory and disassembly inspection is unavailable"
  | .staleHandle => "stale handle"
  | .handlesExhausted => "handle id space exhausted"
  | .invalidReference => "inspection: invalid suspended-state reference"
  | .invalidPage => "inspection: invalid page"
  | .invalidExpression => "inspection: invalid expression"
  | .backendContract => "inspection: backend contract violation"
  | .traceUnavailable => "trace: native helper is unavailable"
  | .traceInvalidRequest => "trace: invalid request"
  | .traceUnverifiedSource =>
    "trace: explicit unverified source acknowledgement is required"
  | .traceNotOwner => "trace: controller does not own this capture"
  | .traceBusy => "trace: another operation is in progress"
  | .traceStaleHandle => "trace: stale capture handle"
  | .traceStaleOperation => "trace: operation belongs to an expired owner generation"
  | .traceReconciliationRequired => "trace: native state requires operator reconciliation"
  | .helperPoisoned => "tracebridge: helper is poisoned"
  | .helperClosed => "tracebridge: helper is closed"
  | .helperStaleGeneration => "tracebridge: stale trace generation"
  | .helperInvalidArguments => "tracebridge: invalid arguments"
  | .helperNotOpen => "tracebridge: session is not open"
  | .helperAlreadyOpen => "tracebridge: session is already open"
  | .helperProtocol => "tracebridge: invalid helper protocol"
  | .helperTransport => "tracebridge: helper transport failed"
  | .helperExited => "tracebridge: helper exited"
  | .helperCleanupUnconfirmed => "tracebridge: helper cleanup is unconfirmed"
  | .executorClosed => "bridge: executor is closed"
  | .poisoned => "bridge: connection is poisoned"
  | .protocol => "multi: bridge result violates protocol"
  | .canceled => "context canceled"
  | .deadlineExceeded => "context deadline exceeded"

/-- An error value: its text and the sentinels it wraps. -/
structure Error where
  text : String
  wraps : List Sentinel := []
  deriving DecidableEq

namespace Error

/-- `errors.New` and `fmt.Errorf` without `%w`. -/
def new (text : String) : Error := { text }

def of (s : Sentinel) : Error := { text := s.text, wraps := [s] }

/-- `fmt.Errorf` with a leading `%w` for a sentinel, followed by a text. -/
def wrap (s : Sentinel) (rest : String) : Error := { text := s.text ++ rest, wraps := [s] }

/-- `fmt.Errorf` with a text in front of a wrapped error. -/
def under (text : String) (cause : Error) : Error :=
  { text := text ++ ": " ++ cause.text, wraps := cause.wraps }

/-- `fmt.Errorf` with a leading `%w` for a sentinel and a trailing `%w` for a cause. -/
def both (s : Sentinel) (rest : String) (cause : Error) : Error :=
  { text := s.text ++ rest ++ ": " ++ cause.text, wraps := s :: cause.wraps }

/-- `errors.Join`. -/
def join (e f : Error) : Error := { text := e.text ++ "\n" ++ f.text, wraps := e.wraps ++ f.wraps }

/-- `errors.Is` against a sentinel. -/
def is (e : Error) (s : Sentinel) : Bool := e.wraps.contains s

end Error

structure BridgeError where
  kind : String
  message : String
  deriving DecidableEq

/-- `unicode.IsSpace`. -/
def isSpace (c : Char) : Bool :=
  let n := c.toNat
  (9 ≤ n && n ≤ 13) || [0x20, 0x85, 0xA0, 0x1680, 0x2028, 0x2029, 0x202F, 0x205F, 0x3000].contains n
    || (0x2000 ≤ n && n ≤ 0x200A)

lemma bind_eq_ok {ε α β : Type} {x : Except ε α} {f : α → Except ε β} {b : β} :
    x >>= f = .ok b ↔ ∃ a, x = .ok a ∧ f a = .ok b := by
  cases x with
  | error =>
    constructor
    · intro h
      cases h
    · rintro ⟨_, h, _⟩
      cases h
  | ok a =>
    constructor
    · intro h
      exact ⟨a, rfl, h⟩
    rintro ⟨_, ha, h⟩
    cases ha
    exact h

lemma mapError_eq_ok {ε α : Type} {x : Except ε α} {f : ε → ε} {a : α} :
    x.mapError f = .ok a ↔ x = .ok a := by
  cases x <;> simp [Except.mapError]

lemma exists_ok {ε α : Type} {x : Except ε α} {p : α → Prop} [DecidablePred p]
    (h : x.toOption.any (fun a => decide (p a)) = true) : ∃ a, x = .ok a ∧ p a := by
  cases x with
  | error => cases h
  | ok a => exact ⟨a, rfl, of_decide_eq_true h⟩

end MultiDap
