import Mathlib

/-!
# Decimal texts

What a text of digits stands for that may have a point, as in the grammar of JSON without signs and
exponents. Zeros at the end of the digits behind the point do not matter, and zeros in front of a
number bring it to a fixed number of digits.
-/

namespace MultiDap.Decimal

open List

def fraction (digits : List Char) : ℚ := Nat.ofDigitChars 10 digits 0 / 10 ^ digits.length

def value (text : List Char) : Option ℚ :=
  let whole := text.takeWhile (· ≠ '.')
  let behind := (text.dropWhile (· ≠ '.')).drop 1
  if whole ≠ [] ∧ whole.all Char.isDigit = true ∧ behind.all Char.isDigit = true ∧
      ('.' ∈ text → behind ≠ []) then
    some (Nat.ofDigitChars 10 whole 0 + fraction behind)
  else none

lemma isDigit_ne_point {c : Char} (h : c.isDigit = true) : c ≠ '.' := by
  rintro rfl
  exact absurd h (by decide)

lemma isDigit_toDigits {n : Nat} {c : Char} (h : c ∈ Nat.toDigits 10 n) : c.isDigit = true :=
  Nat.isDigit_of_mem_toDigits (by omega) (by omega) h

lemma value_toDigits (n : Nat) : value (Nat.toDigits 10 n) = some (n : ℚ) := by
  have hdig : ∀ c ∈ Nat.toDigits 10 n, c.isDigit = true := fun c => isDigit_toDigits
  have hpo : ∀ c ∈ Nat.toDigits 10 n, decide (c ≠ '.') = true :=
    fun c hc => decide_eq_true (isDigit_ne_point (hdig c hc))
  have hnn : '.' ∉ Nat.toDigits 10 n := fun hme => isDigit_ne_point (hdig _ hme) rfl
  unfold value
  rw [takeWhile_eq_self_iff.mpr hpo, dropWhile_eq_nil_iff.mpr hpo]
  rw [if_pos ⟨Nat.toDigits_ne_nil, all_eq_true.mpr hdig, rfl, fun h => absurd h hnn⟩]
  simp [fraction, Nat.ofDigitChars_toDigits]

lemma value_point (n : Nat) {behind : List Char} (hne : behind ≠ [])
    (hbeh : ∀ c ∈ behind, c.isDigit = true) :
    value (Nat.toDigits 10 n ++ '.' :: behind) = some (n + fraction behind) := by
  have hdig : ∀ c ∈ Nat.toDigits 10 n, c.isDigit = true := fun c => isDigit_toDigits
  have hpo : ∀ c ∈ Nat.toDigits 10 n, decide (c ≠ '.') = true :=
    fun c hc => decide_eq_true (isDigit_ne_point (hdig c hc))
  unfold value
  rw [takeWhile_append_of_pos hpo, dropWhile_append_of_pos hpo,
    takeWhile_cons_of_neg (by simp), dropWhile_cons_of_neg (by simp), append_nil]
  rw [drop_one, tail_cons, if_pos ⟨Nat.toDigits_ne_nil, all_eq_true.mpr hdig,
    all_eq_true.mpr hbeh, fun _ => hne⟩, Nat.ofDigitChars_toDigits (by omega) (by omega)]

lemma fraction_concat_zero (digits : List Char) : fraction (digits ++ ['0']) = fraction digits := by
  have hva : Nat.ofDigitChars 10 (digits ++ ['0']) 0 = 10 * Nat.ofDigitChars 10 digits 0 := by
    rw [Nat.ofDigitChars_append, Nat.ofDigitChars_cons, Nat.ofDigitChars_nil]
    rfl
  rw [fraction, fraction, hva, length_append, length_singleton, pow_succ]
  push_cast
  field_simp

lemma fraction_rdropWhile (digits : List Char) :
    fraction (digits.rdropWhile (· == '0')) = fraction digits := by
  induction digits using List.reverseRecOn with
  | nil => rfl
  | append_singleton _ c ih =>
    by_cases hc : c = '0'
    · subst hc
      rw [rdropWhile_concat_pos _ _ _ (by rfl), ih, fraction_concat_zero]
    · rw [rdropWhile_concat_neg _ _ _ (by simpa using hc)]

lemma fraction_pad {k r : Nat} (h : (Nat.toDigits 10 r).length ≤ k) :
    fraction (List.replicate (k - (Nat.toDigits 10 r).length) '0' ++ Nat.toDigits 10 r) =
      r / 10 ^ k := by
  rw [fraction, Nat.ofDigitChars_append, Nat.ofDigitChars_replicate_zero, Nat.mul_zero,
    Nat.ofDigitChars_toDigits (by omega) (by omega), length_append, length_replicate,
    Nat.sub_add_cancel h]

end MultiDap.Decimal
