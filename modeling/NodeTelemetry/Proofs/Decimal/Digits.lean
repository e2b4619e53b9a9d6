import NodeTelemetry.Decimal.Literal

/-!
# Digits of natural numbers

A natural number is written in digits without a zero at the front, and its digits spell it, also behind zeros that
pad them.

## Main statements

* `digitsValue_toString`: the digits of a number spell it.
* `takeWhile_isDigit_append`, `dropWhile_isDigit_append`: digits end before what begins with no digit.
-/

namespace NodeTelemetry

namespace Decimal

/-- The digits of a number spell it. -/
theorem digitsValue_toString (n : Nat) : digitsValue (toString n).toList = n := by
  rw [Nat.toString_eq_repr, Nat.toList_repr]
  exact Nat.ofDigitChars_toDigits (by decide) (by decide)

/-- Zeros in front of digits change nothing. -/
theorem digitsValue_replicate_zero_append (n : Nat) (digits : List Char) :
    digitsValue (List.replicate n '0' ++ digits) = digitsValue digits := by
  induction n with
  | zero => rfl
  | succ n ih =>
    rw [List.replicate_succ, List.cons_append, digitsValue, List.foldl_cons]
    exact ih

theorem isDigit_of_mem_toString {n : Nat} {c : Char} (h : c ∈ (toString n).toList) :
    c.isDigit = true := by
  rw [Nat.toString_eq_repr, Nat.toList_repr] at h
  exact Nat.isDigit_of_mem_toDigits (by decide) (by decide) h

theorem toString_ne_nil (n : Nat) : (toString n).toList ≠ [] := by
  rw [Nat.toString_eq_repr, Nat.toList_repr, Nat.toDigits_eq_if (by decide)]
  split <;> simp

theorem digitChar_ne_zero : ∀ n < 10, 0 < n → n.digitChar ≠ '0' := by
  decide

/-- No positive number is written with a zero at the front. -/
theorem head?_toString {n : Nat} (h : 0 < n) : (toString n).toList.head? ≠ some '0' := by
  rw [Nat.toString_eq_repr, Nat.toList_repr]
  induction n using Nat.strongRecOn with
  | ind n ih =>
    rw [Nat.toDigits_eq_if (by decide)]
    split
    · next hlt => simpa using digitChar_ne_zero n hlt h
    · have hquot := ih (n / 10) (by omega) (by omega)
      cases hdigits : Nat.toDigits 10 (n / 10) with
      | nil => simp [Nat.toDigits_ne_nil] at hdigits
      | cons d rest =>
        rw [hdigits] at hquot
        exact hquot

/-! ### Where digits end -/

/-- A text that begins with no digit. -/
def NoDigitAhead (s : List Char) : Prop :=
  ∀ c ∈ s.head?, c.isDigit = false

variable {s rest : List Char}

theorem takeWhile_isDigit_append (h : NoDigitAhead rest) :
    (s ++ rest).takeWhile Char.isDigit = s.takeWhile Char.isDigit := by
  induction s with
  | nil =>
    cases rest with
    | nil => rfl
    | cons c more => simp [h c rfl]
  | cons c more ih =>
    rw [List.cons_append, List.takeWhile_cons, List.takeWhile_cons, ih]

theorem dropWhile_isDigit_append (h : NoDigitAhead rest) :
    (s ++ rest).dropWhile Char.isDigit = s.dropWhile Char.isDigit ++ rest := by
  induction s with
  | nil =>
    cases rest with
    | nil => rfl
    | cons c more => simp [h c rfl]
  | cons c more ih =>
    rw [List.cons_append, List.dropWhile_cons, List.dropWhile_cons, ih]
    split <;> rfl

end Decimal

end NodeTelemetry
