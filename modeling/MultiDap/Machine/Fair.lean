import MultiDap.Machine.Run

/-!
# Fair executions

Executions that never end, and the rule by which something is shown to happen in them: as long as it
has not happened, a rank does not grow, and the steps that fairness promises make it smaller.
-/

namespace Machine

variable {σ ι : Type*} {step : σ → ι → Option σ}

variable (step) in
structure Execution where
  state : Nat → σ
  input : Nat → ι
  next : ∀ n, step (state n) (input n) = some (state (n + 1))

namespace Execution

variable (x : Execution step)

lemma invariant (Inv : σ → Prop) (P : σ → ι → Prop)
    (hst : ∀ s i t, Inv s → P s i → step s i = some t → Inv t)
    (hP : ∀ n, P (x.state n) (x.input n)) {n m : Nat} (hn : Inv (x.state n)) (hnm : n ≤ m) :
    Inv (x.state m) := by
  obtain ⟨d, rfl⟩ := Nat.exists_eq_add_of_le hnm
  clear hnm
  induction d with
  | zero => exact hn
  | succ d ih => exact hst _ _ _ ih (hP (n + d)) (x.next (n + d))

/-- A rank that does not grow, and that a helpful step makes smaller, cannot be kept up for ever if
helpful steps keep coming. -/
theorem eventually (P Q : σ → Prop) (help : σ → ι → Prop) (rank : σ → Nat)
    (hst : ∀ n, P (x.state n) → Q (x.state (n + 1)) ∨ P (x.state (n + 1)) ∧
      rank (x.state (n + 1)) ≤ rank (x.state n) ∧
      (help (x.state n) (x.input n) → rank (x.state (n + 1)) < rank (x.state n)))
    (hfair : ∀ n, ∃ m, n ≤ m ∧ (P (x.state m) → help (x.state m) (x.input m)))
    (n : Nat) (hn : P (x.state n)) : ∃ m, n ≤ m ∧ Q (x.state m) := by
  -- the rank does not grow up to the next helpful step
  have hwait (d n : Nat) (hn : P (x.state n)) :
      (∃ m, n ≤ m ∧ Q (x.state m)) ∨
        P (x.state (n + d)) ∧ rank (x.state (n + d)) ≤ rank (x.state n) := by
    induction d with
    | zero => exact .inr ⟨hn, Nat.le_refl _⟩
    | succ d ih =>
      rcases ih with hQ | ⟨hP, hle⟩
      · exact .inl hQ
      rcases hst (n + d) hP with hQ | ⟨hP', hle', -⟩
      · exact .inl ⟨n + d + 1, by omega, hQ⟩
      · exact .inr ⟨hP', Nat.le_trans hle' hle⟩
  induction hr : rank (x.state n) using Nat.strongRecOn generalizing n with
  | ind _ ih =>
    subst hr
    obtain ⟨m, hnm, hhelp⟩ := hfair n
    obtain ⟨d, rfl⟩ := Nat.exists_eq_add_of_le hnm
    rcases hwait d n hn with hQ | ⟨hP, hle⟩
    · exact hQ
    rcases hst (n + d) hP with hQ | ⟨hP', -, hlt⟩
    · exact ⟨n + d + 1, by omega, hQ⟩
    obtain ⟨m, hm, hQ⟩ := ih _ (Nat.lt_of_lt_of_le (hlt (hhelp hP)) hle) (n + d + 1) hP' rfl
    exact ⟨m, by omega, hQ⟩

end Execution

end Machine
