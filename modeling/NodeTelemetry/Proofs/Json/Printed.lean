import NodeTelemetry.Proofs.Decimal.Digits
import NodeTelemetry.Proofs.Json.RoundTrip

/-!
# Printed values on one line

A printed value holds no control characters at all, so it never goes on in a second line, and an object
that stands on a line of its own is read back.

## Main definitions

* `Printed`: texts without control characters.

## Main statements

* `printed_chars`: a printed value has no control characters.
* `read?_line`: an object on a line of its own is read back.
-/

namespace NodeTelemetry

/-! ### Texts without controls -/

/-- A text without the first 32 characters, which are controls. -/
def Printed (s : List Char) : Prop := ∀ c ∈ s, 0x20 ≤ c.toNat

instance (s : List Char) : Decidable (Printed s) :=
  List.decidableBAll (fun c : Char => 0x20 ≤ c.toNat) s

namespace Printed

variable {s t : List Char}

@[simp] theorem nil : Printed [] := by simp [Printed]

@[simp] theorem cons_iff {c : Char} : Printed (c :: s) ↔ 0x20 ≤ c.toNat ∧ Printed s := by
  simp [Printed]

@[simp] theorem append_iff : Printed (s ++ t) ↔ Printed s ∧ Printed t :=
  List.forall_mem_append

theorem of_subset (h : Printed t) (hsub : s ⊆ t) : Printed s :=
  fun c hc => h c (hsub hc)

/-- A text without controls has no line feed. -/
theorem newline_not_mem (h : Printed s) : '\n' ∉ s :=
  fun hmem => absurd (h '\n' hmem) (by decide)

theorem replicate_zero (n : Nat) : Printed (List.replicate n '0') := by
  intro c hc
  rw [List.eq_of_mem_replicate hc]
  decide

theorem toString (n : Nat) : Printed (toString n).toList := by
  intro c hc
  have hdigit := Decimal.isDigit_of_mem_toString hc
  rw [Char.isDigit, Bool.and_eq_true, decide_eq_true_eq] at hdigit
  exact Nat.le_trans (by decide) (UInt32.le_iff_toNat_le.1 hdigit.1)

theorem toString_int (n : Int) : Printed (ToString.toString n).toList := by
  cases n with
  | ofNat m => exact toString m
  | negSucc m =>
    have htext : (ToString.toString (Int.negSucc m)).toList = '-' :: (ToString.toString (m + 1)).toList := by
      simp [ToString.toString, Int.repr]
    rw [htext, cons_iff]
    exact ⟨by decide, toString (m + 1)⟩

end Printed

/-! ### Doubles -/

namespace Decimal.Layout

variable {digits : List Char}

theorem printed_placePoint (l : Layout) (h : Printed digits) (point : Int) :
    Printed (l.placePoint digits point) := by
  rw [placePoint]
  split
  · simp [h, Printed.replicate_zero]
  · simp only
    split
    · cases l.keepsFraction <;> simp [h, Printed.replicate_zero]
    · have htake := h.of_subset (List.take_subset point.toNat digits)
      have hdrop := h.of_subset (List.drop_subset point.toNat digits)
      simp [htake, hdrop]

theorem printed_withExponent {l : Layout} (hmark : Printed l.positiveMark.toList) (h : Printed digits)
    (exponent : Int) : Printed (l.withExponent digits exponent) := by
  have hsign : Printed (if exponent < 0 then ['-'] else l.positiveMark.toList) := by
    split
    · decide
    · exact hmark
  simp only [withExponent, Printed.append_iff, Printed.cons_iff]
  refine ⟨?_, by decide, hsign, Printed.toString _⟩
  split
  · exact .nil
  · exact h
  · simp_all

theorem printed_decimal {l : Layout} (hmark : Printed l.positiveMark.toList) (s : Scientific) :
    Printed (l.decimal s) := by
  have hdigits := Printed.toString s.coefficient
  simp only [decimal]
  split
  · exact l.printed_placePoint hdigits 1
  · split
    · exact l.printed_placePoint hdigits _
    · split
      · exact l.printed_placePoint hdigits _
      · exact printed_withExponent hmark hdigits _

theorem printed_text {l : Layout} (hmark : Printed l.positiveMark.toList) (x : Float) :
    Printed (l.text x).toList := by
  rw [text]
  split
  · decide
  · split <;> decide
  · rw [String.toList_ofList, Printed.append_iff]
    refine ⟨?_, printed_decimal hmark _⟩
    split <;> decide

end Decimal.Layout

/-! ### Values -/

namespace Json

theorem printed_hexDigit : ∀ n < 16, 0x20 ≤ (hexDigit n).toNat := by
  decide

theorem printed_escapedChar (c : Char) : Printed (escapedChar c) := by
  rw [escapedChar.eq_def]
  split
  -- the eighth case are the characters without a letter of their own
  case h_8 =>
    split
    · next hlow =>
      have hleading := printed_hexDigit (c.toNat / 16) (by omega)
      have htrailing := printed_hexDigit (c.toNat % 16) (by omega)
      simp [hleading, htrailing]
    · next hplain => simp; omega
  all_goals decide

theorem printed_stringChars (s : String) : Printed (stringChars s) := by
  have hcontent : Printed (s.toList.flatMap escapedChar) := by
    intro c hc
    obtain ⟨d, -, hd⟩ := List.mem_flatMap.1 hc
    exact printed_escapedChar d c hd
  rw [stringChars, Printed.cons_iff, Printed.append_iff]
  exact ⟨by decide, hcontent, by decide⟩

mutual

/-- A printed value has no control characters. -/
theorem printed_chars : ∀ j : Json, Printed j.chars
  | null => by rw [chars]; decide
  | bool b => by
    rw [chars]
    cases b <;> decide
  | int n => by
    rw [chars]
    exact Printed.toString_int n
  | float x => by
    rw [chars]
    exact Decimal.Layout.printed_text (by decide) x
  | str s => by
    rw [chars]
    exact printed_stringChars s
  | arr items => by
    rw [chars, Printed.cons_iff, Printed.append_iff]
    exact ⟨by decide, printed_itemChars items, by decide⟩
  | obj fields => by
    rw [chars, Printed.cons_iff, Printed.append_iff]
    exact ⟨by decide, printed_fieldChars fields, by decide⟩
  | unreadable => by rw [chars]; decide

theorem printed_itemChars : ∀ js : List Json, Printed (itemChars js)
  | [] => by rw [itemChars]; exact .nil
  | [j] => by
    rw [itemChars]
    exact printed_chars j
  | j :: k :: more => by
    rw [itemChars, Printed.append_iff, Printed.cons_iff]
    exact ⟨printed_chars j, by decide, printed_itemChars (k :: more)⟩

theorem printed_fieldChars : ∀ fs : List (String × Json), Printed (fieldChars fs)
  | [] => by rw [fieldChars]; exact .nil
  | [(key, j)] => by
    rw [fieldChars, Printed.append_iff, Printed.cons_iff]
    exact ⟨printed_stringChars key, by decide, printed_chars j⟩
  | (key, j) :: f :: more => by
    rw [fieldChars, Printed.append_iff, Printed.cons_iff, Printed.append_iff, Printed.cons_iff]
    exact ⟨printed_stringChars key, by decide, printed_chars j, by decide,
      printed_fieldChars (f :: more)⟩

end

/-- An object on a line of its own is read back. -/
theorem read?_line {fields : List (String × Json)} (h : (obj fields).ReadsBack) (hne : fields ≠ []) :
    read? ((obj fields).text ++ "\n").toList = some (obj fields) := by
  have hlength : (obj fields).chars.length = (fieldChars fields).length + 2 := by
    simp [chars]
  have hfields := fields_fieldChars fields (2 * ((obj fields).chars.length + 1)) ['\n'] h hne (by omega)
  have hvalue : value (2 * ((obj fields).chars ++ ['\n']).length + 1) ((obj fields).chars ++ ['\n']) =
      some (obj fields, ['\n']) := by
    rw [List.length_append]
    exact value_obj hne hfields
  have htext : ((obj fields).text ++ "\n").toList = (obj fields).chars ++ ['\n'] := by
    rw [String.toList_append, text, String.toList_ofList]
    rfl
  rw [htext, read?, hvalue]
  rfl

end Json

end NodeTelemetry
