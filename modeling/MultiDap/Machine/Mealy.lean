import Mathlib

/-!
# Machines that answer every input

A `Mealy` machine consumes inputs one at a time and answers each of them. Its history on a list
of inputs pairs every input with its answer. A predicate relating the history so far with the
state reached is proved by one step, with `Mealy.history_induction`.
-/

namespace Machine

open List

/-- A deterministic machine with states `σ`, inputs `ι` and answers `ο`. -/
structure Mealy (σ ι ο : Type*) where
  step : σ → ι → σ × ο

namespace Mealy

variable {σ ι ο : Type*} (M : Mealy σ ι ο)

/-- The state reached after consuming a list of inputs. -/
def final (s : σ) : List ι → σ
  | [] => s
  | i :: is => final (M.step s i).1 is

/-- Every input of a list, paired with the answer the machine gave to it. -/
def history (s : σ) : List ι → List (ι × ο)
  | [] => []
  | i :: is => (i, (M.step s i).2) :: history (M.step s i).1 is

@[simp] lemma final_nil (s : σ) : M.final s [] = s := rfl

@[simp] lemma final_cons (s : σ) (i : ι) (is : List ι) :
    M.final s (i :: is) = M.final (M.step s i).1 is := rfl

@[simp] lemma history_nil (s : σ) : M.history s [] = [] := rfl

@[simp] lemma history_cons (s : σ) (i : ι) (is : List ι) :
    M.history s (i :: is) = (i, (M.step s i).2) :: M.history (M.step s i).1 is := rfl

lemma final_append (s : σ) (is js : List ι) : M.final s (is ++ js) = M.final (M.final s is) js := by
  induction is generalizing s with
  | nil => rfl
  | cons _ _ ih => simp [ih]

lemma history_append (s : σ) (is js : List ι) :
    M.history s (is ++ js) = M.history s is ++ M.history (M.final s is) js := by
  induction is generalizing s with
  | nil => rfl
  | cons _ _ ih => simp [ih]

lemma length_history (s : σ) (is : List ι) : (M.history s is).length = is.length := by
  induction is generalizing s with
  | nil => rfl
  | cons _ _ ih => simp [ih]

lemma mem_history {s : σ} {is : List ι} {e : ι × ο} :
    e ∈ M.history s is ↔ ∃ pre i, pre ++ [i] <+: is ∧ e = (i, (M.step (M.final s pre) i).2) := by
  induction is using reverseRecOn with
  | nil => simp
  | append_singleton is i ih =>
    simp only [M.history_append, mem_append, ih, history_cons, history_nil, mem_singleton]
    constructor
    · rintro (⟨pre, j, hpre, rfl⟩ | rfl)
      · exact ⟨pre, j, hpre.trans (prefix_append is [i]), rfl⟩
      · exact ⟨is, i, prefix_rfl, rfl⟩
    rintro ⟨pre, j, hpre, rfl⟩
    rcases prefix_concat_iff.mp hpre with heq | hpre
    · obtain ⟨rfl, hij⟩ := append_inj' heq rfl
      obtain rfl : j = i := by simpa using hij
      exact .inr rfl
    · exact .inl ⟨pre, j, hpre, rfl⟩

/-- A relation between the history and the state that one step preserves holds of every run. -/
theorem history_induction {P : List (ι × ο) → σ → Prop} {s : σ} (start : P [] s)
    (move : ∀ h t i, P h t → P (h ++ [(i, (M.step t i).2)]) (M.step t i).1) (is : List ι) :
    P (M.history s is) (M.final s is) := by
  induction is using reverseRecOn with
  | nil => exact start
  | append_singleton _ i ih =>
    rw [M.history_append, M.final_append]
    exact move _ _ i ih

/-- An invariant of the states alone. -/
theorem final_induction {P : σ → Prop} {s : σ} (start : P s)
    (move : ∀ t i, P t → P (M.step t i).1) (is : List ι) : P (M.final s is) :=
  M.history_induction (P := fun _ t => P t) start (fun _ t i => move t i) is

end Mealy

end Machine
