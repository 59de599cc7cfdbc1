import MultiDap.Session.Reducer

/-!
# Transitions between executing and suspended

The purpose of both session models, stated without either of them. A sample of a known state,
judged against the last known state and the last stop generation, is evidence of a `Transition`:
a list of turns between executing and suspended. The reducer and the stop arbiter are each
compared with it.
-/

namespace MultiDap

/-- The target becomes suspended, or resumes execution. -/
inductive Turn where
  | suspend | resume
  deriving DecidableEq

namespace Turn

def flip : Turn → Turn
  | suspend => resume
  | resume => suspend

/-- The turns strictly alternate, starting with `t`. -/
def Alternates : Turn → List Turn → Prop
  | _, [] => True
  | t, u :: us => u = t ∧ Alternates t.flip us

/-- The turn that has to come next after a list of turns that starts with `t`. -/
def after : Turn → List Turn → Turn
  | t, [] => t
  | _, u :: us => after u.flip us

lemma alternates_append {t : Turn} {us vs : List Turn} :
    Alternates t (us ++ vs) ↔ Alternates t us ∧ Alternates (after t us) vs := by
  induction us generalizing t with
  | nil => simp [Alternates, after]
  | cons _ _ ih =>
    simp only [List.cons_append, Alternates, after, ih]
    constructor
    · rintro ⟨rfl, h⟩
      exact ⟨⟨rfl, h.1⟩, h.2⟩
    · rintro ⟨⟨rfl, h₁⟩, h₂⟩
      exact ⟨rfl, h₁, h₂⟩

lemma after_append (t : Turn) (us vs : List Turn) : after t (us ++ vs) = after (after t us) vs := by
  induction us generalizing t with
  | nil => rfl
  | cons _ _ ih => simp [after, ih]

lemma Alternates.not_two_suspends {t : Turn} {us : List Turn} (h : Alternates t us)
    (xs ys : List Turn) : us ≠ xs ++ suspend :: suspend :: ys := by
  rintro rfl
  obtain ⟨-, h⟩ := alternates_append.mp h
  simp only [Alternates] at h
  obtain ⟨h₁, h₂, -⟩ := h
  rw [← h₁] at h₂
  cases h₂

end Turn

/-- What one sample of a known state is evidence of. -/
inductive Transition where
  | quiet -- nothing happened
  | stop -- the target stopped
  | resume -- the target resumed
  | missedStop -- stopped as before, but it ran and stopped in between
  | missedResume -- running after a stop, and it ran and stopped once more in between
  | missedCycle -- running as before, but it stopped and resumed in between
  | unmoved -- stopped after running, without a new stop generation
  deriving DecidableEq

namespace Transition

/-- The classification. `moved` says that the stop generation differs from the last stop's. -/
def between (last : TargetState) (hasStop moved : Bool) (next : TargetState) : Transition :=
  match next, last with
  | .stopped, .running =>
    if !hasStop then stop else if moved then stop else unmoved
  | .stopped, _ =>
    if !hasStop then stop else if moved then missedStop else quiet
  | .running, .stopped =>
    if !hasStop then quiet else if moved then missedResume else resume
  | .running, .running =>
    if hasStop && moved then missedCycle else quiet
  | _, _ => quiet

def turns : Transition → List Turn
  | quiet => []
  | stop => [.suspend]
  | resume => [.resume]
  | missedStop => [.resume, .suspend]
  | missedResume => [.resume, .suspend, .resume]
  | missedCycle => [.suspend, .resume]
  | unmoved => []

/-- The number of times execution was entered. -/
def resumes (t : Transition) : Nat := t.turns.count .resume

/-- A new stop generation was established. -/
def stops (t : Transition) : Bool := t.turns.contains .suspend

/-- The turn that has to come next when `state` is the last known state. -/
def expected (state : TargetState) : Turn := if state = .stopped then .resume else .suspend

variable {last next : TargetState} {hasStop moved : Bool}

lemma alternates_between (hla : last = .stopped → hasStop = true)
    (hseen : hasStop = true → last = .stopped ∨ last = .running)
    (hnx : next = .stopped ∨ next = .running) (hun : between last hasStop moved next ≠ .unmoved) :
    Turn.Alternates (expected last) (between last hasStop moved next).turns ∧
      Turn.after (expected last) (between last hasStop moved next).turns = expected next := by
  revert hla hseen hun
  rcases hnx with rfl | rfl <;> cases last <;> cases hasStop <;> cases moved <;>
    simp [between, expected, turns, Turn.Alternates, Turn.after, Turn.flip]

lemma moved_of_stops (h : (between last hasStop moved next).stops = true) :
    hasStop = false ∨ moved = true := by
  revert h
  cases next <;> cases last <;> cases hasStop <;> cases moved <;> simp [between, stops, turns]

lemma hasStop_or_stops_of_stopped (h : between last hasStop moved .stopped ≠ .unmoved) :
    (hasStop || (between last hasStop moved .stopped).stops) = true := by
  revert h
  cases last <;> cases hasStop <;> cases moved <;> simp [between, stops, turns]

end Transition

end MultiDap
