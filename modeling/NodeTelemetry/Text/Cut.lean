/-!
# Cutting text at characters

Texts are cut as lists of characters. `pieces` cuts at every occurrence of a separator, so that
the pieces joined by the separator are the text again; `cutAtFirst` and `cutAtLast` cut once, at
the first and at the last occurrence; `lines` cuts a text into its lines.

## Main statements

* `cutAtLast_eq_some`: the parts around the last occurrence make up the text, and the second part
  does not hold the separator.
* `cutAtLast_eq_none`: there is no cut exactly when the separator does not occur.
-/

namespace NodeTelemetry.Text

/-- The pieces of a text between the occurrences of `sep`. A text without `sep` is one piece. -/
def pieces (sep : Char) : List Char → List (List Char)
  | [] => [[]]
  | c :: rest =>
    if c = sep then [] :: pieces sep rest
    else
      match pieces sep rest with
      | [] => [[c]]
      | p :: ps => (c :: p) :: ps

/-- The parts before and after the first occurrence of `sep`. -/
def cutAtFirst (sep : Char) : List Char → Option (List Char × List Char)
  | [] => none
  | c :: rest =>
    if c = sep then some ([], rest)
    else (cutAtFirst sep rest).map fun p => (c :: p.1, p.2)

/-- The parts before and after the last occurrence of `sep`. -/
def cutAtLast (sep : Char) : List Char → Option (List Char × List Char)
  | [] => none
  | c :: rest =>
    match cutAtLast sep rest with
    | some (before, after) => some (c :: before, after)
    | none => if c = sep then some ([], rest) else none

/-- The part after the last occurrence of `sep`, which is the whole text if there is none. -/
def afterLast (sep : Char) (s : List Char) : List Char :=
  match cutAtLast sep s with
  | some (_, after) => after
  | none => s

/-- The part after the first occurrence of `mark`, if there is one. -/
def afterMark (mark : List Char) : List Char → Option (List Char)
  | [] => if mark = [] then some [] else none
  | c :: rest =>
    match mark.isPrefixOf? (c :: rest) with
    | some after => some after
    | none => afterMark mark rest

/-- Drops one carriage return at the end. -/
def dropReturn (s : List Char) : List Char :=
  if s.getLast? = some '\r' then s.dropLast else s

/-- The lines of a text, without their ends: a line ends in a line feed, or in a carriage return
and a line feed, and the last line may have no end. A text that ends in a line end has no empty line
after it. -/
def lines (s : List Char) : List (List Char) :=
  let cut := pieces '\n' s
  let ended := cut.dropLast.map dropReturn
  match cut.getLast? with
  | none | some [] => ended
  | some unended => ended ++ [unended]

/-- The parts around the last occurrence of a character make up the text, and the second part
does not hold the character. -/
theorem cutAtLast_eq_some {sep : Char} {s before after : List Char}
    (h : cutAtLast sep s = some (before, after)) :
    s = before ++ sep :: after ∧ sep ∉ after := by
  induction s generalizing before after with
  | nil => simp [cutAtLast] at h
  | cons c rest ih =>
    rw [cutAtLast] at h
    split at h
    · next b a hr =>
      simp only [Option.some.injEq, Prod.mk.injEq] at h
      obtain ⟨rfl, rfl⟩ := h
      obtain ⟨hs, hn⟩ := ih hr
      exact ⟨by rw [hs, List.cons_append], hn⟩
    · next hr =>
      split at h
      · next hc =>
        simp only [Option.some.injEq, Prod.mk.injEq] at h
        obtain ⟨rfl, rfl⟩ := h
        refine ⟨by rw [hc, List.nil_append], fun hm => ?_⟩
        clear ih hc
        induction rest with
        | nil => simp at hm
        | cons d r ihr =>
          rw [cutAtLast] at hr
          split at hr
          · simp at hr
          · next hn =>
            split at hr
            · simp at hr
            · next hd =>
              rcases List.mem_cons.1 hm with e | hm
              · exact hd e.symm
              · exact ihr hn hm
      · simp at h

/-- There is no cut exactly when the character does not occur. -/
theorem cutAtLast_eq_none {sep : Char} {s : List Char} :
    cutAtLast sep s = none ↔ sep ∉ s := by
  induction s with
  | nil => simp [cutAtLast]
  | cons c rest ih =>
    rw [cutAtLast]
    split
    · next hr =>
      have : sep ∈ rest := Decidable.byContradiction fun hn => by
        rw [ih.2 hn] at hr
        simp at hr
      simp [this]
    · next hr =>
      have hn := ih.1 hr
      by_cases hc : c = sep
      · simp [hc]
      · simp [hc, hn, Ne.symm (a := c) (b := sep) hc]

end NodeTelemetry.Text
