import Mathlib

/-!
# Programs with atomic sections and blocking calls

A `Prog` reads and writes a shared state in atomic sections and blocks on calls in between. An
`Env` says which answers a call may get and what they do to the state. Between any two steps the
state may change by interference. `Safe` is the weakest precondition of a postcondition and of a
guarantee about every step under that interference; `Safe.advance` connects it to executions.
-/

namespace Machine

/-- A program over states `σ` that calls `i : ι` for an answer in `ο i` and returns an `α`. -/
inductive Prog (σ ι : Type) (ο : ι → Type) (α : Type) where
  | ret (a : α)
  /-- Change the state by `f`, and go on with what was read from the state before. -/
  | atomic (f : σ → σ) (k : σ → Prog σ ι ο α)
  /-- Block until an answer arrives. -/
  | call (i : ι) (k : ο i → Prog σ ι ο α)

/-- The effect of an answer. `none` if `x` does not answer the call in that state. -/
structure Env (σ ι χ : Type) (ο : ι → Type) where
  perform : σ → (i : ι) → χ → Option (σ × ο i)

namespace Prog

variable {σ ι χ α β : Type} {ο : ι → Type}

def bind : Prog σ ι ο α → (α → Prog σ ι ο β) → Prog σ ι ο β
  | .ret a, q => q a
  | .atomic f k, q => .atomic f fun s => (k s).bind q
  | .call i k, q => .call i fun o => (k o).bind q

instance : Monad (Prog σ ι ο) where
  pure := .ret
  bind := .bind

def get : Prog σ ι ο σ := .atomic id .ret

/-- Change the state, and return what the change computes from the state before. -/
def modify (f : σ → σ × α) : Prog σ ι ο α := .atomic (fun s => (f s).1) fun s => .ret (f s).2

def ask (i : ι) : Prog σ ι ο (ο i) := .call i .ret

/-- One step: an atomic section, or a call that is answered by `x`. -/
def advance (E : Env σ ι χ ο) : Prog σ ι ο α → σ → χ → Option (σ × Prog σ ι ο α)
  | .ret _, _, _ => none
  | .atomic f k, s, _ => some (f s, k s)
  | .call i k, s, x => (E.perform s i x).map fun r => (r.1, k r.2)

/-- The program run to its end. The oracle answers every call, and no answer changes the state. -/
def eval (oracle : (i : ι) → ο i) : Prog σ ι ο α → σ → σ × α
  | .ret a, s => (s, a)
  | .atomic f k, s => (k s).eval oracle (f s)
  | .call i k, s => (k (oracle i)).eval oracle s

lemma eval_bind {oracle : (i : ι) → ο i} (p : Prog σ ι ο α) (q : α → Prog σ ι ο β) (s : σ) :
    (p >>= q).eval oracle s = (q (p.eval oracle s).2).eval oracle (p.eval oracle s).1 := by
  induction p generalizing s with
  | ret => rfl
  | atomic f _ ih => exact ih s (f s)
  | call i _ ih => exact ih (oracle i) s

variable {q : α → Prog σ ι ο β} {p' : Prog σ ι ο α}

section Safe

open Relation

variable (E : Env σ ι χ ο) (I G : σ → σ → Prop) (J : σ → Prop)

/-- A property of states that interference keeps. -/
def Stable (P : σ → Prop) : Prop := ∀ s t, I s t → P s → P t

/-- However the calls are answered, and whatever interference happens before, between and after
the steps, `J` holds at every moment, every step changes the state by `G`, and a result satisfies
`Q`. -/
def Safe (Q : α → σ → Prop) : Prog σ ι ο α → σ → Prop
  | .ret a, s => ∀ t, ReflTransGen I s t → J t ∧ Q a t
  | .atomic f k, s => ∀ t, ReflTransGen I s t → J t ∧ G t (f t) ∧ Safe Q (k t) (f t)
  | .call i k, s => ∀ t, ReflTransGen I s t → J t ∧
      ∀ x u o, E.perform t i x = some (u, o) → G t u ∧ Safe Q (k o) u

variable {E I G J} {Q : α → σ → Prop} {p : Prog σ ι ο α} {s t : σ} {P : σ → Prop}

lemma Stable.star (h : Stable I P) (hst : ReflTransGen I s t) (hp : P s) : P t := by
  induction hst with
  | refl => exact hp
  | tail _ hstep ih => exact h _ _ hstep ih

lemma Safe.now (h : Safe E I G J Q p s) : J s := by
  cases p with
  | ret | atomic | call => exact (h s .refl).1

lemma Safe.interfere (h : Safe E I G J Q p s) (hst : I s t) : Safe E I G J Q p t := by
  cases p with
  | ret | atomic | call => exact fun u hu => h u (.head hst hu)

lemma Safe.advance {x : χ} (h : Safe E I G J Q p s)
    (hst : p.advance E s x = some (t, p')) : G s t ∧ Safe E I G J Q p' t := by
  cases p with
  | ret => cases hst
  | atomic f k =>
    obtain ⟨rfl, rfl⟩ : f s = t ∧ k s = p' := by simpa [Prog.advance] using hst
    exact (h s .refl).2
  | call _ k =>
    obtain ⟨⟨u, o⟩, hperf, heq⟩ := Option.map_eq_some_iff.mp hst
    obtain ⟨rfl, rfl⟩ : u = t ∧ k o = p' := by simpa using heq
    exact (h s .refl).2 x u o hperf

lemma Safe.result {a : α} (h : Safe E I G J Q (.ret a) s) : Q a s := (h s .refl).2

lemma Safe.mono {Q' : α → σ → Prop} (hQ : ∀ a s, Q a s → Q' a s) (h : Safe E I G J Q p s) :
    Safe E I G J Q' p s := by
  induction p generalizing s with
  | ret a => exact fun t ht => ⟨(h t ht).1, hQ a t (h t ht).2⟩
  | atomic _ _ ih => exact fun t ht => ⟨(h t ht).1, (h t ht).2.1, ih t (h t ht).2.2⟩
  | call _ _ ih =>
    exact fun t ht => ⟨(h t ht).1, fun x u o hx =>
      ⟨((h t ht).2 x u o hx).1, ih o ((h t ht).2 x u o hx).2⟩⟩

/-- A stable assertion that implies the invariant. Every point of a proof needs one. -/
structure Holds (I : σ → σ → Prop) (J P : σ → Prop) : Prop where
  stable : Stable I P
  now : ∀ s, P s → J s

lemma Holds.exists {β : Type} {P : β → σ → Prop} (h : ∀ b, Holds I J (P b)) :
    Holds I J fun s => ∃ b, P b s where
  stable := fun s t hst ⟨b, hb⟩ => ⟨b, (h b).stable s t hst hb⟩
  now := fun s ⟨b, hb⟩ => (h b).now s hb

lemma Holds.pure_and {c : Prop} (h : Holds I J P) : Holds I J fun s => c ∧ P s where
  stable := fun s t hst hs => ⟨hs.1, h.stable s t hst hs.2⟩
  now := fun s hs => h.now s hs.2

lemma safe_ret {a : α} (hP : Holds I J (Q a)) (h : Q a s) : Safe E I G J Q (.ret a) s :=
  fun t ht => ⟨hP.now t (hP.stable.star ht h), hP.stable.star ht h⟩

lemma safe_atomic {f : σ → σ} {k : σ → Prog σ ι ο α} (hP : Holds I J P) (hp : P s)
    (h : ∀ t, P t → G t (f t) ∧ Safe E I G J Q (k t) (f t)) : Safe E I G J Q (.atomic f k) s :=
  fun t ht => ⟨hP.now t (hP.stable.star ht hp), h t (hP.stable.star ht hp)⟩

lemma safe_call {i : ι} {k : ο i → Prog σ ι ο α} (hP : Holds I J P) (hp : P s)
    (h : ∀ t x u o, P t → E.perform t i x = some (u, o) → G t u ∧ Safe E I G J Q (k o) u) :
    Safe E I G J Q (.call i k) s :=
  fun t ht => ⟨hP.now t (hP.stable.star ht hp), fun x u o hx => h t x u o (hP.stable.star ht hp) hx⟩

variable {R : β → σ → Prop}

lemma safe_bind
    (h : Safe E I G J (fun a s => Safe E I G J R (q a) s) p s) : Safe E I G J R (p >>= q) s := by
  induction p generalizing s with
  | ret => exact (h s .refl).2
  | atomic _ _ ih => exact fun t ht => ⟨(h t ht).1, (h t ht).2.1, ih t (h t ht).2.2⟩
  | call _ _ ih =>
    exact fun t ht => ⟨(h t ht).1, fun x u o hx =>
      ⟨((h t ht).2 x u o hx).1, ih o ((h t ht).2 x u o hx).2⟩⟩

lemma safe_modify {f : σ → σ × α} (hP : Holds I J P) (hp : P s)
    (h : ∀ t, P t → G t (f t).1 ∧ Safe E I G J R (q (f t).2) (f t).1) :
    Safe E I G J R (Prog.modify f >>= q) s :=
  safe_atomic hP hp h

lemma safe_ask {i : ι} {q : ο i → Prog σ ι ο β} (hP : Holds I J P) (hp : P s)
    (h : ∀ t x u o, P t → E.perform t i x = some (u, o) → G t u ∧ Safe E I G J R (q o) u) :
    Safe E I G J R (Prog.ask i >>= q) s :=
  safe_call hP hp h

end Safe

section Within

variable (E : Env σ ι χ ο) (R : σ → σ → Prop)

/-- In whatever state it is taken and however calls are answered, every step changes the state by
`R`, and a result satisfies `Q`. -/
def Within (Q : α → Prop) : Prog σ ι ο α → Prop
  | .ret a => Q a
  | .atomic f k => ∀ s, R s (f s) ∧ Within Q (k s)
  | .call i k => ∀ s x t o, E.perform s i x = some (t, o) → R s t ∧ Within Q (k o)

variable {E R} {Q : α → Prop} {p : Prog σ ι ο α}

lemma Within.advance {s t : σ} {x : χ} (h : Within E R Q p)
    (hst : p.advance E s x = some (t, p')) : R s t ∧ Within E R Q p' := by
  cases p with
  | ret => cases hst
  | atomic f k =>
    obtain ⟨rfl, rfl⟩ : f s = t ∧ k s = p' := by simpa [Prog.advance] using hst
    exact h s
  | call _ k =>
    obtain ⟨⟨u, o⟩, hperf, heq⟩ := Option.map_eq_some_iff.mp hst
    obtain ⟨rfl, rfl⟩ : u = t ∧ k o = p' := by simpa using heq
    exact h s x u o hperf

lemma within_bind {P : α → Prop} {Q : β → Prop} (h : Within E R P p)
    (hq : ∀ a, P a → Within E R Q (q a)) : Within E R Q (p >>= q) := by
  induction p with
  | ret a => exact hq a h
  | atomic _ _ ih => exact fun s => ⟨(h s).1, ih s (h s).2⟩
  | call _ _ ih => exact fun s x t o hx => ⟨(h s x t o hx).1, ih o (h s x t o hx).2⟩

lemma within_trivial (p : Prog σ ι ο α) : Within E (fun _ _ => True) (fun _ => True) p := by
  induction p with
  | ret => trivial
  | atomic _ _ ih => exact fun s => ⟨trivial, ih s⟩
  | call _ _ ih => exact fun s x t o _ => ⟨trivial, ih o⟩

lemma within_modify {f : σ → σ × α} (h : ∀ s, R s (f s).1 ∧ Q (f s).2) :
    Within E R Q (Prog.modify f) :=
  h

end Within

end Prog

end Machine
