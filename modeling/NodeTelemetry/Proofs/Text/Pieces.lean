import Mathlib.Data.List.Basic
import NodeTelemetry.Text.Cut

/-!
# Pieces of texts

A text is cut into pieces at every occurrence of a separator. No piece holds the separator, and joined by it the pieces
are the text again.

## Main statements

* `Text.pieces_intercalate`, `Text.intercalate_pieces`: cutting and joining.
* `Text.cutAtLast_append`: the cut at the last separator.
* `Text.getLast_pieces`: the last piece is what stands behind the last separator.
-/

namespace NodeTelemetry

namespace Text

variable {sep : Char} {s : List Char}

theorem pieces_ne_nil (sep : Char) (s : List Char) : pieces sep s ≠ [] := by
  cases s with
  | nil => simp [pieces]
  | cons c s =>
    rw [pieces]
    split
    · simp
    · split <;> simp

theorem pieces_of_not_mem (h : sep ∉ s) : pieces sep s = [s] := by
  induction s with
  | nil => rfl
  | cons c s ih =>
    simp only [List.mem_cons, not_or] at h
    rw [pieces, if_neg (Ne.symm h.1), ih h.2]

/-- A separator anywhere divides the pieces before it from those behind it. -/
theorem pieces_append_cons (sep : Char) (s rest : List Char) :
    pieces sep (s ++ sep :: rest) = pieces sep s ++ pieces sep rest := by
  induction s with
  | nil => simp [pieces]
  | cons c s ih =>
    obtain ⟨p, ps, hpieces⟩ := List.exists_cons_of_ne_nil (pieces_ne_nil sep s)
    rw [List.cons_append, pieces, pieces, ih, hpieces]
    split
    · rfl
    · rfl

theorem pieces_append (h : sep ∉ s) (rest : List Char) : pieces sep (s ++ sep :: rest) = s :: pieces sep rest := by
  rw [pieces_append_cons, pieces_of_not_mem h, List.singleton_append]

theorem pieces_intercalate {ps : List (List Char)} (hne : ps ≠ []) (h : ∀ p ∈ ps, sep ∉ p) :
    pieces sep ([sep].intercalate ps) = ps := by
  induction ps with
  | nil => exact absurd rfl hne
  | cons p ps ih =>
    have hp := h p (.head _)
    cases ps with
    | nil =>
      rw [List.intercalate_singleton]
      exact pieces_of_not_mem hp
    | cons q qs =>
      rw [List.intercalate_cons_cons, List.append_assoc, List.singleton_append, pieces_append hp,
        ih (by simp) fun r hr => h r (.tail _ hr)]

/-- The pieces of a text joined by the separator are the text again. -/
theorem intercalate_pieces (sep : Char) (s : List Char) : [sep].intercalate (pieces sep s) = s := by
  induction s with
  | nil => rfl
  | cons c s ih =>
    obtain ⟨p, ps, hpieces⟩ := List.exists_cons_of_ne_nil (pieces_ne_nil sep s)
    rw [pieces, hpieces]
    rw [hpieces] at ih
    split
    · next hsep =>
      rw [List.intercalate_cons_cons, ih, hsep]
      rfl
    · cases ps with
      | nil => simpa using ih
      | cons q qs =>
        rw [List.intercalate_cons_cons] at ih ⊢
        simpa using ih

/-- The characters of a text are those of its pieces, apart from the separator. -/
theorem mem_iff_pieces {c : Char} (hsep : c ≠ sep) : c ∈ s ↔ ∃ p ∈ pieces sep s, c ∈ p := by
  induction s with
  | nil => simp [pieces]
  | cons d s ih =>
    obtain ⟨p, ps, hpieces⟩ := List.exists_cons_of_ne_nil (pieces_ne_nil sep s)
    rw [pieces, List.mem_cons, ih, hpieces]
    split
    · next h => simp [h, hsep]
    · simp [or_assoc]

/-- A text is cut at its last separator where none stands behind it. -/
theorem cutAtLast_append {after : List Char} (h : sep ∉ after) (before : List Char) :
    cutAtLast sep (before ++ sep :: after) = some (before, after) := by
  induction before with
  | nil => simp [cutAtLast, cutAtLast_eq_none.2 h]
  | cons c rest ih => simp [cutAtLast, ih]

theorem getLast_pieces (sep : Char) (s : List Char) :
    (pieces sep s).getLast (pieces_ne_nil sep s) = afterLast sep s := by
  rw [afterLast]
  cases hcut : cutAtLast sep s with
  | none => simp [pieces_of_not_mem (cutAtLast_eq_none.1 hcut)]
  | some parts =>
    obtain ⟨rfl, hnot⟩ := cutAtLast_eq_some hcut
    simp [pieces_append_cons, pieces_of_not_mem hnot]

end Text

end NodeTelemetry
