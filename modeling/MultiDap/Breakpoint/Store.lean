import MultiDap.Source.Coverage

/-!
# The breakpoint store

Every breakpoint the session has created: the live logical breakpoints, the physical ones of
detached frontends that wait for a stop to be cleared, and the orphans whose removal could not be
confirmed. The store does no I/O; the operations here are the bodies of its locked sections.
-/

namespace MultiDap.Breakpoint

open Source

/-- The frontend generation that placed a breakpoint. -/
abbrev Owner := String

/-- One breakpoint on one core. `possiblyCommitted` marks an answer of the placer that confirmed
the command but not its result. -/
structure Physical where
  owner : Owner := ""
  core : Int := 0
  requestedLine : Int := 0
  actualLine : Int := 0
  multiHandle : String := ""
  hintToken : UInt32 := 0
  possiblyCommitted : Bool := false
  pending : Bool := false
  orphaned : Bool := false
  deriving DecidableEq, Inhabited

/-- The breakpoint a frontend sees. It keeps one id however many cores it maps to. -/
structure Logical where
  owner : Owner := ""
  dapID : Int := 0
  source : Identity := {}
  line : Int := 0
  physical : List Physical := []
  verified : Bool := false
  message : String := ""
  deriving DecidableEq, Inhabited

/-- The record behind a live token. A zero id only wakes the session up. -/
structure HintTarget where
  dapID : Int := 0
  core : Int
  deriving DecidableEq

/-- An order in which a map is visited. The language leaves it open. -/
structure Visit (α : Type) where
  order : List α → List α
  perm : ∀ xs, (order xs).Perm xs

/-- `live` holds the entries of `bySource`: the logical breakpoint of a source key and a line
carries both. -/
structure Store where
  live : List Logical := []
  pending : List Physical := []
  orphaned : List Physical := []
  nextDAPID : Int := 0
  hintTokens : UInt32 → Bool := fun _ => false
  liveHints : UInt32 → Option HintTarget := fun _ => none
  cleanupOwners : Owner → Bool := fun _ => false

def samePhysical (a b : Physical) : Bool :=
  if a.hintToken ≠ 0 ∨ b.hintToken ≠ 0 then a.hintToken == b.hintToken
  else a.owner == b.owner && a.core == b.core && a.requestedLine == b.requestedLine &&
    a.multiHandle == b.multiHandle

def hasPhysical (values : List Physical) (p : Physical) : Bool := values.any (samePhysical · p)

/-- Remove the first record of a physical breakpoint. -/
def removePhysical (values : List Physical) (p : Physical) : List Physical :=
  values.eraseP (samePhysical · p)

namespace Store

variable (s : Store)

/-- `bySource[key][line]`. -/
def lookup (key : String) (line : Int) : Option Logical :=
  s.live.find? fun l => l.source.key == key && l.line == line

/-- `delete(bySource[key], line)`. -/
def delete (key : String) (line : Int) : Store :=
  { s with live := s.live.filter fun l => !(l.source.key == key && l.line == line) }

/-- `bySource[key][line] = logical`, under the logical breakpoint's own key and line. -/
def insert (l : Logical) : Store :=
  { s.delete l.source.key l.line with live := (s.delete l.source.key l.line).live ++ [l] }

/-- The lines of `bySource[key]`. -/
def lines (key : String) : List Int :=
  (s.live.filter (·.source.key == key)).map (·.line)

def setHint (token : UInt32) (target : HintTarget) : Store :=
  { s with liveHints := Function.update s.liveHints token (some target) }

def dropHint (token : UInt32) : Store :=
  { s with liveHints := Function.update s.liveHints token none }

/-- A token whose breakpoint belongs to no frontend still wakes the session up. -/
def wakeOnly (p : Physical) : Store :=
  if p.hintToken ≠ 0 then s.setHint p.hintToken { core := p.core } else s

def lookupHint (token : UInt32) : Option HintTarget := s.liveHints token

def appendPending (p : Physical) : Store :=
  if hasPhysical s.pending p || hasPhysical s.orphaned p then s
  else wakeOnly { s with pending := s.pending ++ [{ p with pending := true, orphaned := false }] } p

def appendOrphaned (p : Physical) : Store :=
  if hasPhysical s.orphaned p then s
  else wakeOnly
    { s with
      pending := removePhysical s.pending p
      orphaned := s.orphaned ++ [{ p with pending := false, orphaned := true }] } p

def movePendingToOrphaned (p : Physical) : Store :=
  if hasPhysical s.orphaned p then s
  else if hasPhysical s.pending p then
    appendOrphaned { s with pending := removePhysical s.pending p } p
  else s

def removePhysicalEvidence (p : Physical) : Store :=
  let s := { s with
    pending := removePhysical s.pending p, orphaned := removePhysical s.orphaned p }
  if p.hintToken ≠ 0 then s.dropHint p.hintToken else s

/-- One turn of the loop in `RequestCleanupSignal`: withdraw one physical breakpoint. -/
def withdraw (p : Physical) : Store := (s.appendPending p).wakeOnly p

/-- Withdraw every live breakpoint of a detached owner and fence the owner off. The result counts
the records that wait for cleanup, and says whether the fence is new. -/
def requestCleanupSignal (owner : Owner) (visit : Visit Logical) : Store × Nat × Bool :=
  if owner = "" then (s, 0, false)
  else
    let newRequest := !s.cleanupOwners owner
    let s := { s with cleanupOwners := Function.update s.cleanupOwners owner true }
    let withdrawn := ((visit.order s.live).filter (·.owner == owner)).flatMap (·.physical)
    let s := withdrawn.foldl withdraw s
    let s := { s with live := s.live.filter (·.owner != owner) }
    (s, withdrawn.length + s.orphaned.countP (·.owner == owner), newRequest)

/-- One draw of the rejection loop in `newHintTokenLocked`. `none` if the loop draws again. -/
def newHintToken (draw : UInt32) : Option Store :=
  if draw = 0 then none
  else if s.hintTokens draw then none
  else some { s with hintTokens := Function.update s.hintTokens draw true }

def pendingCount : Nat := s.pending.length

def orphanCount : Nat := s.orphaned.length

def dapOwnedCount : Nat :=
  (s.live.map (·.physical.length)).sum + s.orphaned.length + s.pending.length

end Store

end MultiDap.Breakpoint
