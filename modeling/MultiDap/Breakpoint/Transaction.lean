import MultiDap.Breakpoint.Store
import MultiDap.Machine.Prog

/-!
# Breakpoint transactions

`ReplaceForOwner` and `CleanupPending` as programs: their locked sections are atomic, and the
placer is called in between. A `World` is the store together with a log of what the placer
answered, which no program reads.
-/

namespace MultiDap.Breakpoint

open Source Machine

structure PlacementRequest where
  source : Identity
  line : Int
  core : Int
  hintToken : UInt32
  deriving DecidableEq

/-- What a transaction blocks on: a fresh hint token, the two operations of the placer, and the
source resolver that runs ahead of a replacement. -/
inductive Request where
  | token
  | set (request : PlacementRequest)
  | clear (physical : Physical)
  | resolve (identity : Identity)

def Request.Answer : Request → Type
  | .token => UInt32
  | .set _ => Physical × Option Error
  | .clear _ => Option Error
  | .resolve _ => Except Error (List Source.Observation)

inductive Reply where
  | token (draw : UInt32)
  | set (physical : Physical) (err : Option Error)
  | clear (err : Option Error)
  | resolve (observations : Except Error (List Source.Observation))

inductive Event where
  | set (request : PlacementRequest) (physical : Physical) (err : Option Error)
  | clear (physical : Physical) (err : Option Error)
  deriving DecidableEq

/-- The store, the answers of the placer so far, and the owner of every breakpoint id issued. -/
structure World where
  store : Store := {}
  log : List Event := []
  issued : List (Int × Owner) := []

namespace World

def record (w : World) (e : Event) : World := { w with log := w.log ++ [e] }

/-- Any answer of the placer and of the resolver is possible. A token is one that was never
issued. -/
def env : Env World Request Reply Request.Answer where
  perform w request reply :=
    match request, reply with
    | .token, .token draw =>
      (w.store.newHintToken draw).map fun s => ({ w with store := s }, draw)
    | .set request, .set physical err =>
      some (w.record (.set request physical err), (physical, err))
    | .clear physical, .clear err => some (w.record (.clear physical err), err)
    | .resolve _, .resolve result => some (w, result)
    | _, _ => none

end World

abbrev Transact := Prog World Request Request.Answer

def locked {α : Type} (f : Store → Store × α) : Transact α :=
  Prog.modify fun w => ({ w with store := (f w.store).1 }, (f w.store).2)

def setPhysical (request : PlacementRequest) : Transact (Physical × Option Error) :=
  Prog.ask (Request.set request)

def clearPhysical (physical : Physical) : Transact (Option Error) :=
  Prog.ask (Request.clear physical)

def newHintToken : Transact UInt32 := Prog.ask Request.token

/-- Sorted and without duplicates, or refused because of a value that fails the check. -/
def uniqueValues (valid : Int → Bool) (values : List Int) (complaint : String) :
    Except Error (List Int) :=
  if values.all valid then .ok (values.dedup.insertionSort (· ≤ ·))
  else .error (.new complaint)

def uniquePositive (values : List Int) (noun : String) : Except Error (List Int) :=
  uniqueValues (0 < ·) values s!"breakpoint: {noun} must be positive"

def uniqueNonNegative (values : List Int) (noun : String) : Except Error (List Int) :=
  uniqueValues (0 ≤ ·) values s!"breakpoint: {noun} must not be negative"

structure PlacementOutcome where
  logical : Logical := {}
  rollbackFailed : List Physical := []

structure ReplaceResult where
  breakpoints : List Logical := []
  orphans : List Physical := []

structure CleanupResult where
  cleared : Nat
  pending : Nat
  orphaned : Nat

/-! ### Placing one logical breakpoint -/

/-- Clear a list of records, and return those that could not be cleared. -/
def clearCreated : List Physical → List Physical → Transact (List Physical)
  | [], failed => return failed
  | physical :: ps, failed => do
    let err ← clearPhysical physical
    clearCreated ps (if err.isSome then failed ++ [physical] else failed)

def rollbackPlacement (logical : Logical) (created : List Physical) (failure : String) :
    Transact PlacementOutcome := do
  let rollbackFailed ← clearCreated created []
  return ⟨{ logical with message := "rolled back: " ++ failure }, rollbackFailed⟩

/-- The first record that did not resolve to the line of the first one. -/
def divergence (created : List Physical) : Option (Int × Int) :=
  match created with
  | [] => none
  | first :: rest =>
    (rest.find? (·.actualLine != first.actualLine)).map fun p => (first.actualLine, p.actualLine)

/-- The record of a placement, whatever the placer left in the fields the store owns. -/
def PlacementRequest.own (request : PlacementRequest) (owner : Owner) (physical : Physical) :
    Physical :=
  { physical with
    owner := owner, core := request.core, requestedLine := request.line
    hintToken := request.hintToken }

def placeLogical (owner : Owner) (src : Identity) (line : Int) :
    List Int → List Physical → Transact PlacementOutcome
  | [], created =>
    let logical : Logical := { owner := owner, source := src, line := line }
    match divergence created with
    | some (first, other) =>
      rollbackPlacement logical created s!"cores resolved to different lines ({first} and {other})"
    | none => return ⟨{ logical with physical := created, verified := true }, []⟩
  | core :: cores, created => do
    let logical : Logical := { owner := owner, source := src, line := line }
    let token ← newHintToken
    let request : PlacementRequest := ⟨src, line, core, token⟩
    let answer ← setPhysical request
    let physical := request.own owner answer.1
    match answer.2 with
    | some err =>
      rollbackPlacement logical
        (if physical.possiblyCommitted then created ++ [physical] else created)
        s!"core {core}: {err.text}"
    | none =>
      -- a success may not stay uncertain: the record is recovered, not forgotten
      if physical.possiblyCommitted then
        rollbackPlacement logical (created ++ [physical])
          s!"core {core}: placer returned an uncertain placement without an error"
      else placeLogical owner src line cores (created ++ [physical])

/-! ### Replacement -/

/-- What the first locked section of a replacement decides. -/
structure Plan where
  kept : Int → Option Logical
  add : List Int
  oldLines : List Int
  old : Int → Logical

def Store.plan (s : Store) (owner : Owner) (src : Identity) (requested : List Int) :
    Except Error Plan :=
  if s.cleanupOwners owner then .error (.new "breakpoint: owner has detached")
  else if requested.any fun line => (s.lookup src.key line).any (·.owner != owner) then
    .error (.new "breakpoint: source line belongs to another frontend")
  else
    .ok
      { kept := fun line => if requested.contains line then s.lookup src.key line else none
        add := requested.filter fun line => (s.lookup src.key line).isNone
        oldLines := ((s.lines src.key).filter (!requested.contains ·)).insertionSort (· ≤ ·)
        old := fun line =>
          match s.lookup src.key line with
          | some l => if l.owner = owner then l else {}
          | none => {} }

def placeAll (owner : Owner) (src : Identity) (cores : List Int) :
    List Int → (Int → PlacementOutcome) → Transact (Int → PlacementOutcome)
  | [], placed => return placed
  | line :: lines, placed => do
    let outcome ← placeLogical owner src line cores []
    placeAll owner src cores lines (Function.update placed line outcome)

/-- The answers to the clears that were attempted, by token. -/
abbrev Clears := UInt32 → Option (Option Error)

/-- Clear the records of old lines. A detach that is seen here stops the clearing, because it has
already moved those records to the stopped-bound queue. -/
def clearOld (owner : Owner) : List Physical → Clears → Transact Clears
  | [], clears => return clears
  | physical :: ps, clears => do
    let detached ← locked fun s => (s, s.cleanupOwners owner)
    if detached then clearOld owner ps clears
    else do
      let err ← clearPhysical physical
      clearOld owner ps (Function.update clears physical.hintToken (some err))

/-- Enter a verified logical breakpoint and point the hint table to it. -/
def Store.enter (s : Store) (logical : Logical) : Store :=
  logical.physical.foldl (fun s p => s.setHint p.hintToken ⟨logical.dapID, p.core⟩)
    (s.insert logical)

/-- Give the outcome of a placement its id and its place in the store. -/
def Store.commitOutcome (s : Store) (outcome : PlacementOutcome) (detached : Bool) :
    Store × Logical :=
  let s := { s with nextDAPID := s.nextDAPID + 1 }
  let logical := { outcome.logical with dapID := s.nextDAPID }
  let s :=
    if logical.verified && !detached then s.enter logical
    else if logical.verified then logical.physical.foldl Store.appendPending s
    else s
  let s :=
    if detached then outcome.rollbackFailed.foldl Store.appendPending s
    else outcome.rollbackFailed.foldl Store.appendOrphaned s
  (s, logical)

def commitLine (plan : Plan) (placed : Int → PlacementOutcome) (detached : Bool)
    (acc : Store × ReplaceResult) (line : Int) : Store × ReplaceResult :=
  let (s, result) := acc
  match plan.kept line with
  | some logical => (s, { result with breakpoints := result.breakpoints ++ [logical] })
  | none =>
    let (s, logical) := s.commitOutcome (placed line) detached
    (s, { breakpoints := result.breakpoints ++ [logical]
          orphans := result.orphans ++ if detached then [] else (placed line).rollbackFailed })

/-- Commit the fate of one record of an old line. -/
def commitCleared (clears : Clears) (detached : Bool) (acc : Store × ReplaceResult)
    (p : Physical) : Store × ReplaceResult :=
  let (s, result) := acc
  match clears p.hintToken with
  | none => (s, result)
  | some none => (s.removePhysicalEvidence p, result)
  | some (some _) =>
    if detached then (s, result)
    else (s.appendOrphaned p, { result with orphans := result.orphans ++ [p] })

def commitOld (owner : Owner) (src : Identity) (plan : Plan) (clears : Clears) (detached : Bool)
    (acc : Store × ReplaceResult) (line : Int) : Store × ReplaceResult :=
  let (s, result) := acc
  let s :=
    if !detached && (s.lookup src.key line).any (·.owner == owner) then s.delete src.key line
    else s
  (plan.old line).physical.foldl (commitCleared clears detached) (s, result)

def Store.commit (s : Store) (owner : Owner) (src : Identity) (requested : List Int) (plan : Plan)
    (placed : Int → PlacementOutcome) (clears : Clears) : Store × ReplaceResult :=
  let detached := s.cleanupOwners owner
  let acc := requested.foldl (commitLine plan placed detached) (s, {})
  plan.oldLines.foldl (commitOld owner src plan clears detached) acc

/-- The commit, with the issued ids noted beside the store. -/
def World.commit (w : World) (owner : Owner) (src : Identity) (requested : List Int) (plan : Plan)
    (placed : Int → PlacementOutcome) (clears : Clears) : World × ReplaceResult :=
  let (s, result) := w.store.commit owner src requested plan placed clears
  ({ w with
      store := s
      issued := w.issued ++
        (result.breakpoints.filter fun l => (plan.kept l.line).isNone).map fun l =>
          (l.dapID, owner) }, result)

/-- The part of a replacement that runs under the transaction lock. -/
def replaceLocked (owner : Owner) (src : Identity) (requested expected : List Int) :
    Transact (Except Error ReplaceResult) := do
  match ← locked fun s => (s, s.plan owner src requested) with
  | .error err => return .error err
  | .ok plan => do
    let placed ← placeAll owner src expected plan.add fun _ => {}
    let clears ← clearOld owner (plan.oldLines.flatMap fun line => (plan.old line).physical)
      fun _ => none
    let result ← Prog.modify fun w => w.commit owner src requested plan placed clears
    return .ok result

/-- The requested lines and expected cores of a replacement that passes the argument checks. -/
def checkReplace (src : Identity) (lines cores : List Int) :
    Except Error (List Int × List Int) := do
  if src.key = "" then throw (.new "breakpoint: source key is required")
  let requested ← uniquePositive lines "line"
  let expected ← uniqueNonNegative cores "core"
  if !requested.isEmpty && expected.isEmpty then
    throw (.new "breakpoint: placement requires at least one core")
  return (requested, expected)

def replaceForOwner (owner : Owner) (src : Identity) (lines cores : List Int) :
    Transact (Except Error ReplaceResult) :=
  match checkReplace src lines cores with
  | .error err => return .error err
  | .ok (requested, expected) => replaceLocked owner src requested expected

/-! ### Cleanup -/

/-- Clear a list of records, and return those that were cleared and those that were not. -/
def clearEach : List Physical → List Physical × List Physical →
    Transact (List Physical × List Physical)
  | [], acc => return acc
  | physical :: ps, (cleared, failed) => do
    let err ← clearPhysical physical
    clearEach ps
      (if err.isSome then (cleared, failed ++ [physical]) else (cleared ++ [physical], failed))

def Store.commitCleanup (s : Store) (cleared failed : List Physical) : Store × CleanupResult :=
  let s := cleared.foldl Store.removePhysicalEvidence s
  let s := failed.foldl Store.movePendingToOrphaned s
  (s, ⟨cleared.length, s.pending.length, s.orphaned.length⟩)

def cleanupPending : Transact CleanupResult := do
  let cleanup ← locked fun s => (s, s.pending ++ s.orphaned)
  let (cleared, failed) ← clearEach cleanup ([], [])
  locked fun s => s.commitCleanup cleared failed

end MultiDap.Breakpoint
