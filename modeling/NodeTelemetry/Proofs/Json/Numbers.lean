import NodeTelemetry.Proofs.Decimal.Digits
import NodeTelemetry.Proofs.Json.RoundTrip

/-!
# Printed numbers read back

No number goes on behind what ends a value, so a number that is read from its own text is read in front of
any such text. Whole numbers of 64 bits are printed in digits that spell them.

## Main definitions

* `PrintsDouble`: a double is printed as a number that gives it back.

## Main statements

* `number_append`: a number in front of what ends a value.
* `numberReadsBack_int`: whole numbers of 64 bits read back.
-/

namespace NodeTelemetry.Json

open Decimal (NoDigitAhead takeWhile_isDigit_append dropWhile_isDigit_append)

variable {s rest : List Char}

/-! ### The end of a number -/

theorem EndsValue.noDigitAhead (h : EndsValue rest) : NoDigitAhead rest := by
  intro c hc
  rcases h c hc with rfl | rfl | rfl <;> decide

/-- A number that does not begin with a zero has all digits at the front as its whole part. -/
theorem wholePart_of_head_ne {c : Char} (hc : c ≠ '0') (more : List Char) :
    wholePart (c :: more) =
      if (c :: more).takeWhile Char.isDigit = [] then none
      else some ((c :: more).takeWhile Char.isDigit, (c :: more).dropWhile Char.isDigit) := by
  rw [wholePart]
  intro r heq
  exact hc (List.cons.inj heq).1

theorem wholePart_append {digits after : List Char} (h : wholePart s = some (digits, after))
    (hrest : EndsValue rest) : wholePart (s ++ rest) = some (digits, after ++ rest) := by
  cases s with
  | nil => simp [wholePart] at h
  | cons c more =>
    by_cases hc : c = '0'
    · subst hc
      rw [wholePart] at h
      obtain ⟨rfl, rfl⟩ := Prod.mk.inj (Option.some.inj h)
      rfl
    · rw [wholePart_of_head_ne hc] at h
      rw [List.cons_append, wholePart_of_head_ne hc, ← List.cons_append,
        takeWhile_isDigit_append hrest.noDigitAhead, dropWhile_isDigit_append hrest.noDigitAhead]
      split at h
      · cases h
      · next hne =>
        obtain ⟨rfl, rfl⟩ := Prod.mk.inj (Option.some.inj h)
        rw [if_neg hne]

theorem fractionPart_append {fraction : Option (List Char)} {after : List Char}
    (h : fractionPart s = some (fraction, after)) (hrest : EndsValue rest) :
    fractionPart (s ++ rest) = some (fraction, after ++ rest) := by
  by_cases hpoint : ∃ more, s = '.' :: more
  · obtain ⟨more, rfl⟩ := hpoint
    rw [fractionPart] at h
    rw [List.cons_append, fractionPart, takeWhile_isDigit_append hrest.noDigitAhead,
      dropWhile_isDigit_append hrest.noDigitAhead]
    split at h
    · cases h
    · next hne =>
      obtain ⟨rfl, rfl⟩ := Prod.mk.inj (Option.some.inj h)
      rw [if_neg hne]
  · rw [fractionPart] at h
    · obtain ⟨rfl, rfl⟩ := Prod.mk.inj (Option.some.inj h)
      rw [fractionPart]
      intro more heq
      cases s with
      | nil =>
        -- what ends a value is no point either
        obtain rfl : rest = '.' :: more := heq
        rcases hrest '.' rfl with h | h | h <;> cases h
      | cons c s' => exact hpoint ⟨s', by rw [(List.cons.inj heq).1]⟩
    · intro more heq
      exact hpoint ⟨more, heq⟩

theorem cutSign_append (hs : s ≠ []) : Decimal.Literal.cutSign (s ++ rest) =
    ((Decimal.Literal.cutSign s).1, (Decimal.Literal.cutSign s).2 ++ rest) := by
  cases s with
  | nil => exact absurd rfl hs
  | cons c more =>
    by_cases hminus : c = '-'
    · subst hminus
      rfl
    · by_cases hplus : c = '+'
      · subst hplus
        rfl
      · rw [List.cons_append, Decimal.Literal.cutSign, Decimal.Literal.cutSign] <;>
          simp [hminus, hplus]

theorem exponentPart_append {exponent : Option Int} {after : List Char}
    (h : exponentPart s = some (exponent, after)) (hrest : EndsValue rest) :
    exponentPart (s ++ rest) = some (exponent, after ++ rest) := by
  cases s with
  | nil =>
    rw [exponentPart] at h
    obtain ⟨rfl, rfl⟩ := Prod.mk.inj (Option.some.inj h)
    cases rest with
    | nil => rfl
    | cons c more =>
      have hletter : ¬ (c = 'e' || c = 'E') = true := by
        rcases hrest c rfl with rfl | rfl | rfl <;> decide
      rw [List.nil_append, exponentPart, if_neg hletter]
  | cons c more =>
    rw [exponentPart] at h
    rw [List.cons_append, exponentPart]
    split at h
    · next hletter =>
      rw [if_pos hletter]
      have hmore : more ≠ [] := by
        rintro rfl
        simp [Decimal.Literal.cutSign] at h
      simp only [cutSign_append hmore, takeWhile_isDigit_append hrest.noDigitAhead,
        dropWhile_isDigit_append hrest.noDigitAhead]
      simp only at h
      generalize Decimal.Literal.cutSign more = cut at h ⊢
      by_cases hdigits : cut.2.takeWhile Char.isDigit = []
      · rw [if_pos hdigits] at h
        cases h
      · rw [if_neg hdigits] at h ⊢
        obtain ⟨rfl, rfl⟩ := Prod.mk.inj (Option.some.inj h)
        rfl
    · next hletter =>
      obtain ⟨rfl, rfl⟩ := Prod.mk.inj (Option.some.inj h)
      rw [if_neg hletter]
      rfl

/-- The sign of a number and the rest behind it. -/
def signOf (s : List Char) : Bool × List Char :=
  match s with
  | '-' :: rest => (true, rest)
  | rest => (false, rest)

theorem signOf_append (hs : s ≠ []) : signOf (s ++ rest) = ((signOf s).1, (signOf s).2 ++ rest) := by
  cases s with
  | nil => exact absurd rfl hs
  | cons c more =>
    by_cases hminus : c = '-'
    · subst hminus
      rfl
    · rw [List.cons_append, signOf, signOf] <;> simp [hminus]

theorem number_eq (s : List Char) : number s =
    (wholePart (signOf s).2).bind fun w => (fractionPart w.2).bind fun f =>
      (exponentPart f.2).bind fun e => some (numberValue (signOf s).1 w.1 f.1 e.1, e.2) :=
  rfl

/-- A number that is read to the end of a text is read in front of whatever ends a value. -/
theorem number_append {j : Json} {after : List Char} (h : number s = some (j, after))
    (hrest : EndsValue rest) : number (s ++ rest) = some (j, after ++ rest) := by
  have hs : s ≠ [] := by
    rintro rfl
    simp [number_eq, signOf, wholePart] at h
  rw [number_eq] at h
  obtain ⟨⟨whole, afterWhole⟩, hwhole, h⟩ := Option.bind_eq_some_iff.1 h
  obtain ⟨⟨fraction, afterFraction⟩, hfraction, h⟩ := Option.bind_eq_some_iff.1 h
  obtain ⟨⟨exponent, afterExponent⟩, hexponent, h⟩ := Option.bind_eq_some_iff.1 h
  obtain ⟨rfl, rfl⟩ := Prod.mk.inj (Option.some.inj h)
  rw [number_eq, signOf_append hs, wholePart_append hwhole hrest, Option.bind_some,
    fractionPart_append hfraction hrest, Option.bind_some, exponentPart_append hexponent hrest]
  rfl

/-- A number begins with a sign or a digit. -/
theorem exists_head_of_number {j : Json} {after : List Char} (h : number s = some (j, after)) :
    ∃ c more, s = c :: more ∧ (c = '-' ∨ c.isDigit = true) := by
  rw [number_eq] at h
  obtain ⟨⟨whole, afterWhole⟩, hwhole, -⟩ := Option.bind_eq_some_iff.1 h
  cases s with
  | nil => simp [signOf, wholePart] at hwhole
  | cons c more =>
    refine ⟨c, more, rfl, ?_⟩
    by_cases hminus : c = '-'
    · exact .inl hminus
    · have hsign : signOf (c :: more) = (false, c :: more) := by
        rw [signOf]
        simp [hminus]
      rw [hsign] at hwhole
      by_cases hc : c = '0'
      · subst hc
        exact .inr rfl
      · rw [wholePart_of_head_ne hc, List.takeWhile_cons] at hwhole
        cases hdigit : c.isDigit with
        | true => exact .inr rfl
        | false => simp [hdigit] at hwhole

/-- A number that is read from its own text is read back. -/
theorem numberReadsBack_of_number {j : Json} (h : number j.chars = some (j, [])) :
    NumberReadsBack j where
  head := exists_head_of_number h
  number _ hrest := number_append h hrest

/-! ### Doubles -/

/-- A double is printed as a number that gives it back. -/
def PrintsDouble (x : Float) : Prop :=
  number (float x).chars = some (float x, [])

/-! ### Whole numbers -/

theorem wholePart_toString (n : Nat) : wholePart (toString n).toList = some ((toString n).toList, []) := by
  rcases Nat.eq_zero_or_pos n with rfl | hn
  · decide
  · have hhead := Decimal.head?_toString hn
    have hall : ∀ c ∈ (toString n).toList, c.isDigit = true := fun c => Decimal.isDigit_of_mem_toString
    cases hdigits : (toString n).toList with
    | nil => exact absurd hdigits (Decimal.toString_ne_nil n)
    | cons c more =>
      rw [hdigits] at hhead hall
      have hc : c ≠ '0' := fun h => hhead (by rw [h]; rfl)
      have htake : (c :: more ++ []).takeWhile Char.isDigit = c :: more ++ [].takeWhile Char.isDigit :=
        List.takeWhile_append_of_pos hall
      have hdrop : (c :: more ++ []).dropWhile Char.isDigit = [].dropWhile Char.isDigit :=
        List.dropWhile_append_of_pos hall
      rw [List.append_nil] at htake hdrop
      rw [wholePart_of_head_ne hc, htake, hdrop]
      simp

theorem number_whole {negative : Bool} {n : Nat} {s : List Char}
    (hsign : signOf s = (negative, (toString n).toList)) :
    number s = some (numberValue negative (toString n).toList none none, []) := by
  rw [number_eq, hsign, wholePart_toString]
  rfl

theorem signOf_toString (n : Nat) : signOf (toString n).toList = (false, (toString n).toList) := by
  cases hdigits : (toString n).toList with
  | nil => rfl
  | cons c more =>
    have hc : c.isDigit = true := Decimal.isDigit_of_mem_toString (by rw [hdigits]; exact .head _)
    rw [signOf]
    rintro more' heq
    obtain rfl := (List.cons.inj heq).1
    simp at hc

theorem numberValue_of_lt {digits : List Char} {n : Nat} (hdigits : Decimal.digitsValue digits = n)
    (hn : n < UInt64.size) : numberValue false digits none none = int n := by
  simp [numberValue, hdigits, hn]

theorem numberValue_of_le {digits : List Char} {n : Nat} (hdigits : Decimal.digitsValue digits = n)
    (hpos : 0 < n) (hn : n ≤ UInt64.size / 2) : numberValue true digits none none = int (-n) := by
  simp [numberValue, hdigits, hpos, hn]

/-- A whole number of 64 bits, with or without sign, is read back. -/
theorem numberReadsBack_int {n : Int} (hlow : -(UInt64.size / 2 : Nat) ≤ n) (hhigh : n < UInt64.size) :
    NumberReadsBack (int n) := by
  refine numberReadsBack_of_number ?_
  rw [chars]
  cases n with
  | ofNat m =>
    have htext : (toString (Int.ofNat m)).toList = (toString m).toList := rfl
    rw [htext, number_whole (signOf_toString m),
      numberValue_of_lt (Decimal.digitsValue_toString m) (Int.ofNat_lt.1 hhigh)]
    rfl
  | negSucc m =>
    have htext : (toString (Int.negSucc m)).toList = '-' :: (toString (m + 1)).toList := by
      simp [toString, Int.repr]
    rw [htext, number_whole (s := '-' :: (toString (m + 1)).toList) rfl,
      numberValue_of_le (Decimal.digitsValue_toString (m + 1)) (Nat.succ_pos m) (by omega)]
    rfl

end NodeTelemetry.Json
