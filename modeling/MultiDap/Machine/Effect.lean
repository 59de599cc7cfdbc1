import Mathlib

/-!
# Computations that keep their state when they fail

A method of an object that may raise: what it did to the object before it raised is done. `exec`
runs such a computation, `Keeps` is the rule for a relation between the state before and the state
after, whichever way the computation ends.
-/

namespace Machine

variable {ε σ α β : Type}

abbrev Effect (ε σ : Type) := ExceptT ε (StateM σ)

namespace Effect

/-- The outcome, and the state that is left behind. -/
def exec (m : Effect ε σ α) (s : σ) : Except ε α × σ := m.run.run s

variable {m : Effect ε σ α} {f : α → Effect ε σ β} {s t : σ} {a : α} {b : β} {e : ε}

@[simp] lemma exec_pure : exec (pure a : Effect ε σ α) s = (.ok a, s) := rfl

@[simp] lemma exec_throw : exec (throw e : Effect ε σ α) s = (.error e, s) := rfl

@[simp] lemma exec_get : exec (get : Effect ε σ σ) s = (.ok s, s) := rfl

@[simp] lemma exec_set : exec (set t : Effect ε σ PUnit) s = (.ok ⟨⟩, t) := rfl

variable {g : σ → σ}

@[simp] lemma exec_modify : exec (modify g : Effect ε σ PUnit) s = (.ok ⟨⟩, g s) := rfl

lemma exec_bind : exec (m >>= f) s =
    match exec m s with
    | (.ok a, t) => exec (f a) t
    | (.error e, t) => (.error e, t) := by
  simp only [exec, ExceptT.run_bind, StateT.run_bind]
  rcases m.run.run s with ⟨_ | a, t⟩ <;> rfl

lemma exec_get_bind {f : σ → Effect ε σ β} : exec (get >>= f) s = exec (f s) s := rfl

lemma exec_modify_bind {f : PUnit → Effect ε σ β} :
    exec (modify g >>= f) s = exec (f ⟨⟩) (g s) := rfl

lemma exec_bind_eq_ok : exec (m >>= f) s = (.ok b, t) ↔
    ∃ a u, exec m s = (.ok a, u) ∧ exec (f a) u = (.ok b, t) := by
  rw [exec_bind]
  rcases exec m s with ⟨_ | a, u⟩
  · simp
  refine ⟨fun h => ⟨a, u, rfl, h⟩, ?_⟩
  rintro ⟨_, _, heq, h⟩
  cases heq
  exact h

/-! ### Relations between the state before and the state after -/

/-- The computation relates the states, whether it succeeds or fails. -/
def Keeps (R : σ → σ → Prop) (m : Effect ε σ α) : Prop := ∀ s, R s (exec m s).2

variable {R : σ → σ → Prop}

lemma keeps_bind (htr : ∀ {s t u}, R s t → R t u → R s u) (hm : Keeps R m)
    (hf : ∀ a, Keeps R (f a)) : Keeps R (m >>= f) := by
  intro s
  have hs := hm s
  rw [exec_bind]
  rcases hexec : exec m s with ⟨_ | a, t⟩
  · rwa [hexec] at hs
  · rw [hexec] at hs
    exact htr hs (hf a t)

lemma keeps_modify (h : ∀ s, R s (g s)) : Keeps R (modify g : Effect ε σ PUnit) := h

end Effect

end Machine
