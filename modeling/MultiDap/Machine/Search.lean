import Mathlib

/-!
# Bisection

The search of a sorted list by halving, as `sort.Search` does it.
-/

namespace Machine

/-- The first index from `i` on, below `j`, at which `f` holds. -/
def search (f : Nat → Bool) : Nat → Nat → Nat → Nat
  | 0, i, _ => i
  | fuel + 1, i, j =>
    if i < j then
      if f ((i + j) / 2) then search f fuel i ((i + j) / 2) else search f fuel ((i + j) / 2 + 1) j
    else i

lemma search_spec {f : Nat → Bool} (hmono : ∀ m n, m ≤ n → f m = true → f n = true)
    {fuel i j : Nat} (hij : i ≤ j) (hfuel : j - i ≤ fuel) :
    search f fuel i j ≤ j ∧ (∀ m, i ≤ m → m < search f fuel i j → f m = false) ∧
      (search f fuel i j < j → f (search f fuel i j) = true) := by
  induction fuel generalizing i j with
  | zero =>
    refine ⟨hij, fun m him hlt => ?_, fun hlt => ?_⟩
    · exact absurd him (Nat.not_le.mpr hlt)
    · simp only [search] at hlt
      omega
  | succ fuel ih =>
    simp only [search]
    split_ifs with hlt hmid
    · obtain ⟨hle, hbelow, hat⟩ := @ih i ((i + j) / 2) (by omega) (by omega)
      refine ⟨by omega, hbelow, fun _ => ?_⟩
      rcases Nat.lt_or_eq_of_le hle with hless | heq
      · exact hat hless
      · rwa [heq]
    · obtain ⟨hle, hbelow, hat⟩ := @ih ((i + j) / 2 + 1) j (by omega) (by omega)
      refine ⟨hle, fun m _ hm => ?_, hat⟩
      rcases Nat.lt_or_ge ((i + j) / 2) m with hright | hleft
      · exact hbelow m hright hm
      -- what holds on the left of the middle would hold in the middle
      · exact Bool.eq_false_iff.mpr fun hf => hmid (hmono m _ hleft hf)
    · refine ⟨hij, fun m him hm => absurd him (Nat.not_le.mpr hm), fun hless => absurd hless hlt⟩

/-- A sorted list holds what the search finds in it. -/
def contains {α : Type} [LinearOrder α] (xs : List α) (x : α) : Bool :=
  decide (xs[search (fun h => decide (x ≤ xs.getD h x)) xs.length 0 xs.length]? = some x)

lemma contains_iff {α : Type} [LinearOrder α] {xs : List α} (hs : xs.Pairwise (· ≤ ·)) {x : α} :
    contains xs x = true ↔ x ∈ xs := by
  unfold contains
  rw [decide_eq_true_iff]
  constructor
  · exact List.mem_of_getElem?
  intro hx
  obtain ⟨n, hn, rfl⟩ := List.getElem_of_mem hx
  have hmono : ∀ a b, a ≤ b → decide (xs[n] ≤ xs.getD a xs[n]) = true →
      decide (xs[n] ≤ xs.getD b xs[n]) = true := by
    intro a b hab ha
    rw [decide_eq_true_iff] at ha ⊢
    rcases Nat.lt_or_ge b xs.length with hb | hb
    · rw [List.getD_eq_getElem _ _ (Nat.lt_of_le_of_lt hab hb)] at ha
      rw [List.getD_eq_getElem _ _ hb]
      rcases Nat.lt_or_eq_of_le hab with hlt | rfl
      · exact le_trans ha (List.pairwise_iff_getElem.mp hs a b _ hb hlt)
      · exact ha
    · rw [List.getD_eq_default _ _ hb]
  obtain ⟨hle, hbelow, hat⟩ := search_spec hmono (Nat.zero_le xs.length) (Nat.le_refl _)
  generalize search (fun h => decide (xs[n] ≤ xs.getD h xs[n])) xs.length 0 xs.length = k at *
  -- the index of `x` is not before the one that was found
  have hkn : k ≤ n := by
    by_contra hlt
    have hno := hbelow n (Nat.zero_le n) (Nat.not_le.mp hlt)
    rw [List.getD_eq_getElem _ _ hn] at hno
    exact absurd (le_refl _) (of_decide_eq_false hno)
  have hk : k < xs.length := Nat.lt_of_le_of_lt hkn hn
  have hge := of_decide_eq_true (hat hk)
  rw [List.getD_eq_getElem _ _ hk] at hge
  rw [List.getElem?_eq_getElem hk]
  rcases Nat.lt_or_eq_of_le hkn with hlt | rfl
  · rw [le_antisymm (List.pairwise_iff_getElem.mp hs k n hk hn hlt) hge]
  · rfl

end Machine
