import Mathlib

/-!
# Runs of a partial step function

A step function that refuses an input in a state where it is not enabled, and its runs. `Along`
states a condition on every step of a run; the invariant rules are the inductions over runs.
-/

namespace Machine

open List Option

lemma mem_concat {α : Type*} {a b : α} {l : List α} : a ∈ l ++ [b] ↔ a ∈ l ∨ a = b := by
  rw [mem_append, mem_singleton]

lemma lt_length {α : Type*} {a : α} {l : List α} {i : Nat} (h : l[i]? = some a) : i < l.length :=
  (List.getElem?_eq_some_iff.mp h).1

variable {σ ι : Type*} (step : σ → ι → Option σ)

/-- The state after all inputs, if each of them is enabled where it is taken. -/
def run (s : σ) (inputs : List ι) : Option σ := inputs.foldlM step s

variable {step} {s t : σ} {i : ι} {inputs : List ι}

@[simp] lemma run_nil : run step s [] = some s := rfl

lemma run_cons : run step s (i :: inputs) = (step s i).bind fun t => run step t inputs := rfl

lemma run_cons_eq_some :
    run step s (i :: inputs) = some t ↔ ∃ u, step s i = some u ∧ run step u inputs = some t := by
  rw [run_cons, bind_eq_some_iff]

lemma run_append (ins' : List ι) :
    run step s (inputs ++ ins') = (run step s inputs).bind fun t => run step t ins' :=
  foldlM_append

/-- What holds at the start and is kept by every step holds after every run. -/
theorem run_invariant {Inv : σ → Prop}
    (hst : ∀ s i t, Inv s → step s i = some t → Inv t) (h₀ : Inv s)
    (h : run step s inputs = some t) : Inv t := by
  induction inputs generalizing s with
  | nil =>
    cases h
    exact h₀
  | cons i _ ih =>
    obtain ⟨u, hu, h⟩ := run_cons_eq_some.mp h
    exact ih (hst s i u h₀ hu) h

/-- The rule for what a state has to do with the inputs that led to it. -/
theorem run_history {H : List ι → σ → Prop} (h₀ : H [] s)
    (hst : ∀ inputs u i t, run step s inputs = some u → H inputs u → step u i = some t →
      H (inputs ++ [i]) t) (h : run step s inputs = some t) : H inputs t := by
  induction inputs using List.reverseRecOn generalizing t with
  | nil =>
    obtain rfl := Option.some.inj h
    exact h₀
  | append_singleton inputs i ih =>
    rw [run_append] at h
    obtain ⟨u, hu, h⟩ := bind_eq_some_iff.mp h
    obtain ⟨v, hv, h⟩ := run_cons_eq_some.mp h
    obtain rfl := Option.some.inj h
    exact hst inputs u i v hu (ih hu) hv

variable (step s) in
/-- The step that a run takes on its input number `n`. -/
structure At (inputs : List ι) (n : Nat) (u : σ) (i : ι) (t : σ) : Prop where
  input : inputs[n]? = some i
  before : run step s (inputs.take n) = some u
  after : step u i = some t

variable {u : σ} {n : Nat}

lemma At.lt (h : At step s inputs n u i t) : n < inputs.length :=
  (lt_length h.input)

lemma At.append (h : At step s inputs n u i t) (later : List ι) :
    At step s (inputs ++ later) n u i t where
  input := by rw [getElem?_append_left h.lt, h.input]
  before := by rw [take_append_of_le_length (Nat.le_of_lt h.lt), h.before]
  after := h.after

lemma At.of_append {later : List ι} (h : At step s (inputs ++ later) n u i t)
    (hn : n < inputs.length) : At step s inputs n u i t where
  input := by rw [← h.input, getElem?_append_left hn]
  before := by rw [← h.before, take_append_of_le_length (Nat.le_of_lt hn)]
  after := h.after

lemma At.take {m : Nat} (h : At step s (inputs.take m) n u i t) :
    n < m ∧ At step s inputs n u i t := by
  have hn := h.lt
  rw [length_take] at hn
  have hnm : n < m := Nat.lt_of_lt_of_le hn (Nat.min_le_left m _)
  refine ⟨hnm, ?_, ?_, h.after⟩
  · rw [← h.input, getElem?_take_of_lt hnm]
  · rw [← h.before, take_take, Nat.min_eq_left (Nat.le_of_lt hnm)]

lemma at_last (hu : run step s inputs = some u) (ht : step u i = some t) :
    At step s (inputs ++ [i]) inputs.length u i t where
  input := by simp
  before := by rw [take_left, hu]
  after := ht

lemma At.run (h : At step s inputs n u i t) : run step s (inputs.take (n + 1)) = some t := by
  rw [take_add_one, h.input, run_append, h.before]
  simp [run_cons, h.after]

lemma run_between {m : Nat} (hnm : n ≤ m) (hu : run step s (inputs.take n) = some u)
    (ht : run step s (inputs.take m) = some t) : run step u ((inputs.take m).drop n) = some t := by
  have hspl : inputs.take m = inputs.take n ++ (inputs.take m).drop n := by
    conv_lhs => rw [← take_append_drop n (inputs.take m)]
    rw [take_take, Nat.min_eq_left hnm]
  rw [hspl, run_append, hu] at ht
  exact ht

lemma exists_run {o : Option σ} {P : σ → Prop} [DecidablePred P]
    (h : o.any (fun t => decide (P t)) = true) : ∃ t, o = some t ∧ P t := by
  simpa [Option.any_eq_true] using h

variable (step) in
/-- Every step of the run is taken in a state and with an input that satisfy `P`. -/
def Along (P : σ → ι → Prop) : σ → List ι → Prop
  | _, [] => True
  | s, i :: inputs => P s i ∧ ∀ t, step s i = some t → Along P t inputs

variable {P : σ → ι → Prop}

lemma along_of_forall (h : ∀ s, ∀ i ∈ inputs, P s i) : Along step P s inputs := by
  induction inputs generalizing s with
  | nil => trivial
  | cons i _ ih =>
    refine ⟨h s i mem_cons_self, fun t _ => ih fun u j hj => ?_⟩
    exact h u j (mem_cons_of_mem i hj)

lemma along_append {later : List ι} (h : run step s inputs = some t) :
    Along step P s (inputs ++ later) ↔ Along step P s inputs ∧ Along step P t later := by
  induction inputs generalizing s with
  | nil =>
    cases h
    simp [Along]
  | cons _ _ ih =>
    obtain ⟨u, hu, h⟩ := run_cons_eq_some.mp h
    simp [Along, hu, ih h, and_assoc]

instance decidableAlong {P : σ → ι → Prop} [∀ s i, Decidable (P s i)] (s : σ) :
    (inputs : List ι) → Decidable (Along step P s inputs)
  | [] => .isTrue trivial
  | i :: inputs =>
    match h : step s i with
    | none => decidable_of_iff (P s i) (by simp [Along, h])
    | some t =>
      have : Decidable (Along step P t inputs) := decidableAlong t inputs
      decidable_of_iff (P s i ∧ Along step P t inputs) (by simp [Along, h])

/-- The rule for what is kept only by steps that satisfy a condition. -/
theorem along_invariant {Inv : σ → Prop}
    (hst : ∀ s i t, Inv s → P s i → step s i = some t → Inv t) (h₀ : Inv s)
    (hP : Along step P s inputs) (h : run step s inputs = some t) : Inv t := by
  induction inputs generalizing s with
  | nil =>
    cases h
    exact h₀
  | cons i _ ih =>
    obtain ⟨u, hu, h⟩ := run_cons_eq_some.mp h
    exact ih (hst s i u h₀ hP.1 hu) (hP.2 u hu) h

end Machine
