import NodeTelemetry.Json.Parser
import NodeTelemetry.Json.Printer

/-!
# Printed strings read back

Every character of a printed string is read back by itself: a step of the reader takes exactly the form of one
character off the front of the text. So a string is read back up to its closing quote, whatever follows.

## Main statements

* `stringRest_escapedChar`: the reader on the form of one character.
* `stringRest_escaped`: the reader on the content of a printed string.
-/

namespace NodeTelemetry.Json

/-- The form of a control in hexadecimal digits spells its number. -/
theorem hexUnit?_hexDigit : ∀ n < 32,
    hexUnit? '0' '0' (hexDigit (n / 16)) (hexDigit (n % 16)) = some n := by
  decide

/-- Whether a text begins like a character in hexadecimal digits. -/
def BeginsUnit (s : List Char) : Prop :=
  ∃ a b c d rest, s = '\\' :: 'u' :: a :: b :: c :: d :: rest

theorem stringRest_unit_none {a b c d : Char} (h : hexUnit? a b c d = none) (rest : List Char) :
    stringRest ('\\' :: 'u' :: a :: b :: c :: d :: rest) = none := by
  by_cases hunit : BeginsUnit rest
  · obtain ⟨e, f, g, i, more, rfl⟩ := hunit
    rw [stringRest, h]
  · rw [stringRest, h]
    intro e f g i more heq
    exact hunit ⟨e, f, g, i, more, heq⟩

/-- Behind a backslash and the letter for it, four digits give their character, unless they are half of a
surrogate pair. -/
theorem stringRest_unit {a b c d : Char} {n : Nat} (h : hexUnit? a b c d = some n)
    (hlead : isLead n = false) (htrail : isTrail n = false) (rest : List Char) :
    stringRest ('\\' :: 'u' :: a :: b :: c :: d :: rest) =
      (stringRest rest).map (push (Char.ofNat n)) := by
  -- the reader looks ahead for the second half of a pair
  by_cases hunit : BeginsUnit rest
  · obtain ⟨e, f, g, i, more, rfl⟩ := hunit
    rw [stringRest, h]
    cases hnext : hexUnit? e f g i with
    | none => rw [stringRest_unit_none hnext]; rfl
    | some trail => simp [hlead, htrail]
  · rw [stringRest, h]
    · simp [hlead, htrail]
    · intro e f g i more heq
      exact hunit ⟨e, f, g, i, more, heq⟩

/-- Behind a backslash, a letter gives the character that it stands for. -/
theorem stringRest_escape {c d : Char} (h : escape? c = some d) (rest : List Char) :
    stringRest ('\\' :: c :: rest) = (stringRest rest).map (push d) := by
  have hu : c ≠ 'u' := by
    rintro rfl
    simp [escape?] at h
  rw [stringRest, h] <;> simp [hu]

/-- Any other character stands for itself. -/
theorem stringRest_self {c : Char} (hquote : c ≠ '"') (hback : c ≠ '\\') (hplain : ¬ c.toNat < 0x20)
    (rest : List Char) : stringRest (c :: rest) = (stringRest rest).map (push c) := by
  rw [stringRest, if_neg]
  · simp [hplain, hback]
  all_goals simp [hquote, hback]

/-- The reader takes the form of a character off the front. -/
theorem stringRest_escapedChar (c : Char) (rest : List Char) :
    stringRest (escapedChar c ++ rest) = (stringRest rest).map (push c) := by
  rw [escapedChar.eq_def]
  split
  -- the eighth case are the characters without a letter of their own
  case h_8 =>
    split
    · next hlow =>
      have hlead : isLead c.toNat = false := by
        simp [isLead]
        omega
      have htrail : isTrail c.toNat = false := by
        simp [isTrail]
        omega
      have h := stringRest_unit (hexUnit?_hexDigit c.toNat hlow) hlead htrail rest
      rwa [Char.ofNat_toNat] at h
    · next hquote hback _ _ _ _ _ hplain =>
      exact stringRest_self hquote hback hplain rest
  all_goals exact stringRest_escape rfl rest

/-- The content of a printed string is read back up to the closing quote. -/
theorem stringRest_escaped (cs rest : List Char) :
    stringRest (cs.flatMap escapedChar ++ '"' :: rest) = some (some cs, rest) := by
  induction cs with
  | nil => simp [stringRest]
  | cons c more ih =>
    rw [List.flatMap_cons, List.append_assoc, stringRest_escapedChar, ih]
    rfl

end NodeTelemetry.Json
