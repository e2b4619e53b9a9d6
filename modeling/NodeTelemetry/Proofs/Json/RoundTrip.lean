import NodeTelemetry.Proofs.Json.Strings

/-!
# Printed values read back

A printed value is read back wherever it stands, up to what ends a value. Numbers are taken as they come: a value
reads back if its numbers do, so a value without numbers always does.

## Main definitions

* `EndsValue`: what may stand behind a value.
* `ReadsBack`: values whose numbers read back.

## Main statements

* `value_chars`: the reader on a printed value.
* `read?_text`: the text of a value reads back.
-/

namespace NodeTelemetry.Json

/-- What may stand behind a value: the end of the text, a comma or a closing bracket. -/
def EndsValue (s : List Char) : Prop :=
  ∀ c ∈ s.head?, c = ',' ∨ c = ']' ∨ c = '\x7d'

/-- A number whose digits are read back before anything that ends a value. -/
structure NumberReadsBack (j : Json) : Prop where
  head : ∃ c rest, j.chars = c :: rest ∧ (c = '-' ∨ c.isDigit = true)
  number : ∀ rest, EndsValue rest → Json.number (j.chars ++ rest) = some (j, rest)

mutual

/-- Every part of a value can be read, and its numbers read back. -/
def ReadsBack : Json → Prop
  | null | bool _ | str _ => True
  | int n => NumberReadsBack (int n)
  | float x => NumberReadsBack (float x)
  | arr items => ItemsReadBack items
  | obj fields => FieldsReadBack fields
  | unreadable => False

/-- Every value of a list reads back. -/
def ItemsReadBack : List Json → Prop
  | [] => True
  | j :: rest => j.ReadsBack ∧ ItemsReadBack rest

/-- The value of every field reads back. -/
def FieldsReadBack : List (String × Json) → Prop
  | [] => True
  | (_, j) :: rest => j.ReadsBack ∧ FieldsReadBack rest

end

/-! ### What stands at the front -/

theorem skipBlanks_cons {c : Char} (h : isBlank c = false) (rest : List Char) :
    skipBlanks (c :: rest) = c :: rest := by
  rw [skipBlanks, List.dropWhile_cons, if_neg (by simp [h])]

theorem NumberReadsBack.exists_head {j : Json} (h : NumberReadsBack j) :
    ∃ c rest, j.chars = c :: rest ∧ isBlank c = false ∧ (c = '-' ∨ c.isDigit = true) := by
  obtain ⟨c, rest, hc, hfirst⟩ := h.head
  refine ⟨c, rest, hc, ?_, hfirst⟩
  rw [isBlank, Bool.eq_false_iff]
  intro hblank
  simp only [Bool.or_eq_true, beq_iff_eq] at hblank
  rcases hblank with ((rfl | rfl) | rfl) | rfl <;> simp at hfirst

/-- A printed value begins with no blank and not with the bracket that closes a list. -/
theorem exists_head_chars {j : Json} (h : j.ReadsBack) :
    ∃ c rest, j.chars = c :: rest ∧ isBlank c = false ∧ c ≠ ']' := by
  have number : NumberReadsBack j → ∃ c rest, j.chars = c :: rest ∧ isBlank c = false ∧ c ≠ ']' := by
    intro hj
    obtain ⟨c, rest, hc, hblank, hfirst⟩ := hj.exists_head
    refine ⟨c, rest, hc, hblank, ?_⟩
    rintro rfl
    simp at hfirst
  cases j with
  | null => exact ⟨'n', "ull".toList, by rw [chars]; rfl, by decide, by decide⟩
  | bool b =>
    cases b with
    | true => exact ⟨'t', "rue".toList, by rw [chars]; rfl, by decide, by decide⟩
    | false => exact ⟨'f', "alse".toList, by rw [chars]; rfl, by decide, by decide⟩
  | int n => exact number h
  | float x => exact number h
  | str s => exact ⟨'"', _, by rw [chars, stringChars], by decide, by decide⟩
  | arr items => exact ⟨'[', _, by rw [chars], by decide, by decide⟩
  | obj fields => exact ⟨'\x7b', _, by rw [chars], by decide, by decide⟩
  | unreadable => exact h.elim

/-- Fields whose keys are texts make an object. -/
theorem ofFields_map (fields : List (String × Json)) :
    ofFields (fields.map fun f => (some f.1.toList, f.2)) = obj fields := by
  have h : (fields.map fun f => (some f.1.toList, f.2)).mapM
      (fun f : Option (List Char) × Json => f.1.map fun key => (String.ofList key, f.2)) =
        some fields := by
    induction fields with
    | nil => rfl
    | cons f rest ih => simp [ih]
  rw [ofFields, h]

/-! ### Values -/

theorem value_number {j : Json} (h : NumberReadsBack j) (fuel : Nat) {rest : List Char}
    (hrest : EndsValue rest) : value (fuel + 1) (j.chars ++ rest) = some (j, rest) := by
  obtain ⟨c, more, hc, hblank, hfirst⟩ := h.exists_head
  have hnumber := h.number rest hrest
  rw [hc, List.cons_append] at hnumber ⊢
  rw [value, skipBlanks_cons hblank]
  -- no other value begins with a sign or a digit
  split
  case h_7 => exact hnumber
  all_goals
    next heq =>
    obtain rfl := (List.cons.inj heq).1
    simp at hfirst

theorem value_str (s : String) (fuel : Nat) (rest : List Char) :
    value (fuel + 1) ((str s).chars ++ rest) = some (str s, rest) := by
  rw [chars, stringChars, List.cons_append, List.append_assoc, value,
    skipBlanks_cons (by decide)]
  simp [stringRest_escaped]

theorem value_arr {items : List Json} (h : ItemsReadBack items) (hne : items ≠ []) {fuel : Nat}
    {rest : List Char} (hitems : Json.items fuel (itemChars items ++ ']' :: rest) = some (items, rest)) :
    value (fuel + 1) ((arr items).chars ++ rest) = some (arr items, rest) := by
  obtain ⟨j, more, rfl⟩ := List.exists_cons_of_ne_nil hne
  obtain ⟨c, tail, hc, hblank, hbracket⟩ := exists_head_chars h.1
  have hhead : ∃ tail', itemChars (j :: more) ++ ']' :: rest = c :: tail' := by
    cases more with
    | nil => exact ⟨_, by rw [itemChars, hc]; rfl⟩
    | cons k more => exact ⟨_, by rw [itemChars, hc]; rfl⟩
  obtain ⟨tail', htail⟩ := hhead
  rw [chars, List.cons_append, List.append_assoc, value, skipBlanks_cons (by decide)]
  simp only [List.singleton_append]
  rw [htail] at hitems ⊢
  rw [skipBlanks_cons hblank]
  -- a list that closes at once is none with items
  split
  · next heq => exact absurd (List.cons.inj heq).1 hbracket
  · rw [hitems]
    rfl

theorem value_obj {fields : List (String × Json)} (hne : fields ≠ []) {fuel : Nat}
    {rest : List Char}
    (hfields : Json.fields fuel (fieldChars fields ++ '\x7d' :: rest) =
      some (fields.map fun f => (some f.1.toList, f.2), rest)) :
    value (fuel + 1) ((obj fields).chars ++ rest) = some (obj fields, rest) := by
  have hhead : ∃ tail, fieldChars fields ++ '\x7d' :: rest = '"' :: tail := by
    match fields, hne with
    | [(key, j)], _ => exact ⟨_, by rw [fieldChars, stringChars]; rfl⟩
    | (key, j) :: f :: more, _ => exact ⟨_, by rw [fieldChars, stringChars]; rfl⟩
  obtain ⟨tail, htail⟩ := hhead
  rw [chars, List.cons_append, List.append_assoc, value, skipBlanks_cons (by decide)]
  simp only [List.singleton_append]
  rw [htail] at hfields ⊢
  rw [skipBlanks_cons (by decide)]
  split
  · next heq => exact absurd (List.cons.inj heq).1 (by decide)
  · rw [hfields, Option.map_some, ofFields_map]

mutual

/-- A printed value is read back, and what stands behind it is left. -/
theorem value_chars : ∀ (j : Json) (fuel : Nat) (rest : List Char), j.ReadsBack →
    j.chars.length ≤ fuel → EndsValue rest → value fuel (j.chars ++ rest) = some (j, rest)
  | null, fuel + 1, rest, _, _, _ => by
    rw [chars, value]
    rfl
  | bool true, fuel + 1, rest, _, _, _ => by
    rw [chars, value]
    rfl
  | bool false, fuel + 1, rest, _, _, _ => by
    rw [chars, value]
    rfl
  | int n, fuel + 1, rest, h, _, hrest => value_number h fuel hrest
  | float x, fuel + 1, rest, h, _, hrest => value_number h fuel hrest
  | str s, fuel + 1, rest, _, _, _ => value_str s fuel rest
  | arr [], fuel + 1, rest, _, _, _ => by
    rw [chars, itemChars, value]
    rfl
  | arr (j :: more), fuel + 1, rest, h, hfuel, _ => by
    refine value_arr h (List.cons_ne_nil _ _) (items_itemChars (j :: more) fuel rest h
      (List.cons_ne_nil _ _) ?_)
    -- the brackets pay for this level
    rw [chars, List.length_cons, List.length_append] at hfuel
    simp only [List.length_singleton] at hfuel
    omega
  | obj [], fuel + 1, rest, _, _, _ => by
    rw [chars, fieldChars, value]
    rfl
  | obj (f :: more), fuel + 1, rest, h, hfuel, _ => by
    refine value_obj (List.cons_ne_nil _ _) (fields_fieldChars (f :: more) fuel rest h
      (List.cons_ne_nil _ _) ?_)
    rw [chars, List.length_cons, List.length_append] at hfuel
    simp only [List.length_singleton] at hfuel
    omega
  | j, 0, rest, h, hfuel, _ => by
    obtain ⟨c, more, hc, -⟩ := exists_head_chars h
    simp [hc] at hfuel

theorem items_itemChars : ∀ (js : List Json) (fuel : Nat) (rest : List Char), ItemsReadBack js →
    js ≠ [] → (itemChars js).length < fuel →
      items fuel (itemChars js ++ ']' :: rest) = some (js, rest)
  | [], _, _, _, hne, _ => absurd rfl hne
  | [j], fuel + 1, rest, h, _, hfuel => by
    rw [itemChars] at hfuel ⊢
    have hj := value_chars j fuel (']' :: rest) h.1 (by omega) (by simp [EndsValue])
    rw [items, hj]
    simp [skipBlanks_cons (show isBlank ']' = false by decide)]
  | j :: k :: more, fuel + 1, rest, h, _, hfuel => by
    rw [itemChars, List.length_append, List.length_cons] at hfuel
    rw [itemChars, List.append_assoc, List.cons_append]
    have hj := value_chars j fuel (',' :: (itemChars (k :: more) ++ ']' :: rest)) h.1 (by omega)
      (by simp [EndsValue])
    have hmore := items_itemChars (k :: more) fuel rest h.2 (by simp) (by omega)
    rw [items, hj]
    simp [skipBlanks_cons (show isBlank ',' = false by decide), hmore]

theorem fields_fieldChars : ∀ (fs : List (String × Json)) (fuel : Nat) (rest : List Char),
    FieldsReadBack fs → fs ≠ [] → (fieldChars fs).length < fuel →
      fields fuel (fieldChars fs ++ '\x7d' :: rest) =
        some (fs.map fun f => (some f.1.toList, f.2), rest)
  | [], _, _, _, hne, _ => absurd rfl hne
  | [(key, j)], fuel + 1, rest, h, _, hfuel => by
    rw [fieldChars, List.length_append, List.length_cons] at hfuel
    have hj := value_chars j fuel ('\x7d' :: rest) h.1 (by omega) (by simp [EndsValue])
    rw [fieldChars, stringChars]
    simp [fields, skipBlanks_cons, isBlank, stringRest_escaped, hj]
  | (key, j) :: f :: more, fuel + 1, rest, h, _, hfuel => by
    rw [fieldChars, List.length_append, List.length_cons, List.length_append,
      List.length_cons] at hfuel
    have hj := value_chars j fuel (',' :: (fieldChars (f :: more) ++ '\x7d' :: rest)) h.1 (by omega)
      (by simp [EndsValue])
    have hmore := fields_fieldChars (f :: more) fuel rest h.2 (by simp) (by omega)
    rw [fieldChars, stringChars]
    simp [fields, skipBlanks_cons, isBlank, stringRest_escaped, hj, hmore]

end

/-- The text of a value reads back. -/
theorem read?_text {j : Json} (h : j.ReadsBack) : read? j.text.toList = some j := by
  have := value_chars j (2 * j.chars.length + 1) [] h (by omega) (by simp [EndsValue])
  rw [text, String.toList_ofList, read?]
  rw [List.append_nil] at this
  rw [this]
  simp [skipBlanks]

end NodeTelemetry.Json
