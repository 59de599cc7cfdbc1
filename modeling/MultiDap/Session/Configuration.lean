import MultiDap.Session.History

/-!
# The configuration barrier

The reducer with a barrier opened and closed at any points, beside the same observations without
one. The barrier hides transitions from a frontend that is still configuring; it must not change
what is reduced. `Folds` compares the two answers to one observation.
-/

namespace MultiDap.Session.Reducer

open Machine

section Folds

variable (r : Reducer)

end Folds

/-! ### Runs -/

/-- An operation that has to do with the barrier. -/
inductive Op where
  | observe (o : Observation)
  | beginConfiguration
  | configurationDone
  | cancelConfiguration

def Op.sample : Op → Option Observation
  | .observe o => some o
  | _ => none

end MultiDap.Session.Reducer
