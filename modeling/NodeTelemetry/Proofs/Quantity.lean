import Mathlib.Data.List.Nodup
import NodeTelemetry.Proofs.Text.Blank
import NodeTelemetry.Quantity

/-!
# Suffixes of quantities

No suffix of a quantity is the end of another one, so a text has at most one of them, and they may be looked for in any
order. A number literal that ends in a digit or a point has none. So a number with a suffix behind it is read
as that number times its factor, and a number alone as itself, also if it has an exponent.

## Main statements

* `Quantity.eq_of_isSuffix`: at most one suffix ends a text.
* `Decimal.head?_of_readFloat?`: number literals begin with no blank.
* `Quantity.read?_unambiguous`: what the value of a quantity is.
-/

namespace NodeTelemetry

/-! ### Number literals -/

theorem Decimal.Literal.read_blank_cons {c : Char} (h : Text.isBlank c = true) (rest : List Char) :
    read (c :: rest) = none := by
  have hne {d : Char} (hd : Text.isBlank d = false) : c ≠ d := by
    rintro rfl
    rw [h] at hd
    cases hd
  have hname : ∀ name ∈ ["inf", "infinity", "nan"], String.ofList ((c :: rest).map Char.toLower) ≠ name := by
    intro name hmem heq
    have hlead : ["inf", "infinity", "nan"].all (fun name => name.toList.head?.all (!Text.isBlank ·)) = true := by
      decide
    have hblank := List.all_eq_true.1 hlead name hmem
    rw [← heq, String.toList_ofList, List.map_cons, List.head?_cons, Option.all_some, Text.toLower_of_isBlank h, h]
      at hblank
    cases hblank
  have hdigit : c.isDigit = false := by
    cases hc : c.isDigit with
    | false => rfl
    | true => rw [Text.isBlank_of_isDigit hc] at h; cases h
  have hsign : cutSign (c :: rest) = (false, c :: rest) := by
    rw [cutSign]
    · intro more hminus
      exact hne (show Text.isBlank '-' = false by decide) (List.cons.inj hminus).1
    · intro more hplus
      exact hne (show Text.isBlank '+' = false by decide) (List.cons.inj hplus).1
  have hdecimal : readDecimal false (c :: rest) = none := by
    have hpoint : c ≠ '.' := hne (by decide)
    simp [readDecimal, hdigit, hpoint]
  have hinfinite := not_or.2 ⟨hname "inf" (by decide), hname "infinity" (by decide)⟩
  rw [read, hsign]
  simp only [Bool.or_eq_true, decide_eq_true_eq]
  rw [if_neg hinfinite, if_neg (hname "nan" (by decide)), hdecimal]

/-- A number literal does not begin with a blank. -/
theorem Decimal.head?_of_readFloat? {s : List Char} {x : Float} (h : readFloat? s = some x) :
    ∀ c ∈ s.head?, Text.isBlank c = false := by
  cases s with
  | nil => simp
  | cons c rest =>
    rintro d hd
    obtain rfl := Option.some.inj hd
    cases hblank : Text.isBlank c with
    | false => rfl
    | true =>
      rw [readFloat?, Literal.read_blank_cons hblank] at h
      cases h

namespace Quantity

variable {s number : List Char} {table : List (String × Float)}

/-! ### The suffix of a text -/

theorem name_eq_of_isSuffix : ∀ a ∈ suffixes, ∀ b ∈ suffixes, a.1.toList <:+ b.1.toList → a.1 = b.1 := by
  decide

theorem nodup_suffixes : (suffixes.map Prod.fst).Nodup := by
  decide

/-- At most one suffix ends a text. -/
theorem eq_of_isSuffix {a b : String × Float} (ha : a ∈ suffixes) (hb : b ∈ suffixes) (hsa : a.1.toList <:+ s)
    (hsb : b.1.toList <:+ s) : a = b := by
  refine List.inj_on_of_nodup_map nodup_suffixes ha hb ?_
  rcases List.suffix_or_suffix_of_suffix hsa hsb with h | h
  · exact name_eq_of_isSuffix a ha b hb h
  · exact (name_eq_of_isSuffix b hb a ha h).symm

theorem cutWith_eq_none_iff : cutWith table s = none ↔ ∀ e ∈ table, ¬e.1.toList <:+ s := by
  rw [cutWith, List.findSome?_eq_none_iff]
  refine forall₂_congr fun e _ => ?_
  rw [Option.map_eq_none_iff, Option.eq_none_iff_forall_ne_some]
  constructor
  · rintro h ⟨number, hnumber⟩
    exact h number (List.isSuffixOf?_eq_some_iff_append_eq.2 hnumber)
  · exact fun h number hnumber => h ⟨number, List.isSuffixOf?_eq_some_iff_append_eq.1 hnumber⟩

theorem mem_of_cutWith {e : String × Float} (h : cutWith table s = some (number, e)) :
    e ∈ table ∧ s = number ++ e.1.toList := by
  obtain ⟨e', hmem, hcut⟩ := List.exists_of_findSome?_eq_some h
  obtain ⟨n, hn, hpair⟩ := Option.map_eq_some_iff.1 hcut
  obtain ⟨rfl, rfl⟩ := Prod.mk.inj hpair
  exact ⟨hmem, (List.isSuffixOf?_eq_some_iff_append_eq.1 hn).symm⟩

/-- A text with a suffix behind it is cut there, whatever the order of the suffixes. -/
theorem cutWith_append (h : ∀ e, e ∈ table ↔ e ∈ suffixes) {e : String × Float} (he : e ∈ suffixes)
    (number : List Char) : cutWith table (number ++ e.1.toList) = some (number, e) := by
  cases hcut : cutWith table (number ++ e.1.toList) with
  | none => exact absurd (List.suffix_append _ _) (cutWith_eq_none_iff.1 hcut e ((h e).2 he))
  | some p =>
    obtain ⟨found, e'⟩ := p
    obtain ⟨hmem, hsplit⟩ := mem_of_cutWith hcut
    obtain rfl : e' = e := eq_of_isSuffix ((h _).1 hmem) he ⟨found, hsplit.symm⟩ (List.suffix_append _ _)
    rw [List.append_cancel_right hsplit]

theorem cutWith_perm (h : table.Perm suffixes) (s : List Char) : cutWith table s = cutWith suffixes s := by
  cases hcut : cutWith suffixes s with
  | none =>
    rw [cutWith_eq_none_iff] at hcut ⊢
    exact fun e he => hcut e (h.mem_iff.1 he)
  | some p =>
    obtain ⟨number, e⟩ := p
    obtain ⟨hmem, rfl⟩ := mem_of_cutWith hcut
    exact cutWith_append (fun e => h.mem_iff) hmem number

/-! ### The value of a quantity -/

/-- No text and a lone `E` need no care: nothing is no number. -/
theorem readWith_eq (table : List (String × Float)) (s : String) : readWith table s =
    match cutWith table (Text.trim s.toList) with
    | some (number, e) => (Decimal.readFloat? number).map (· * e.2)
    | none => Decimal.readFloat? (Text.trim s.toList) := by
  have hempty : Decimal.readFloat? [] = none := rfl
  rw [readWith]
  split
  · next hbody =>
    rw [hbody]
    cases hcut : cutWith table [] with
    | none => exact hempty.symm
    | some p =>
      obtain ⟨number, e⟩ := p
      obtain rfl : number = [] := (List.append_eq_nil_iff.1 (mem_of_cutWith hcut).2.symm).1
      simp [hempty]
  · cases cutWith table (Text.trim s.toList) with
    | none => rfl
    | some p =>
      obtain ⟨number, suffix, factor⟩ := p
      simp only
      split
      · next hlone => simp [hlone.2, hempty]
      · rfl

theorem read?_of_trim_append {text : String} {e : String × Float} (he : e ∈ suffixes)
    (h : Text.trim text.toList = number ++ e.1.toList) :
    read? text = (Decimal.readFloat? number).map (· * e.2) := by
  rw [read?, readWith_eq, h, cutWith_append (fun _ => Iff.rfl) he]

theorem read?_of_forall_not {text : String} (h : ∀ e ∈ suffixes, ¬e.1.toList <:+ Text.trim text.toList) :
    read? text = Decimal.readFloat? (Text.trim text.toList) := by
  rw [read?, readWith_eq, cutWith_eq_none_iff.2 h]

/-- Every suffix ends in a character that is no digit, no point and no blank. -/
theorem exists_last_of_mem_suffixes {e : String × Float} (he : e ∈ suffixes) :
    ∃ c, e.1.toList.getLast? = some c ∧ c.isDigit = false ∧ c ≠ '.' ∧ Text.isBlank c = false := by
  have htable : ∀ e ∈ suffixes, e.1.toList.getLast?.any
      (fun c => !c.isDigit && c != '.' && !Text.isBlank c) = true := by
    decide
  obtain ⟨c, hlast, hc⟩ := (Option.any_eq_true _ _).1 (htable e he)
  simp only [Bool.and_eq_true, Bool.not_eq_true', bne_iff_ne] at hc
  exact ⟨c, hlast, hc.1.1, hc.1.2, hc.2⟩

variable {before after : List Char} {x : Float}

theorem read?_append (hx : Decimal.readFloat? number = some x) (hbefore : ∀ c ∈ before, Text.isBlank c = true)
    (hafter : ∀ c ∈ after, Text.isBlank c = true) {e : String × Float} (he : e ∈ suffixes) :
    read? (String.ofList (before ++ (number ++ e.1.toList) ++ after)) = some (x * e.2) := by
  obtain ⟨last, hlast, -, -, hblank⟩ := exists_last_of_mem_suffixes he
  have htrim : Text.trim (String.ofList (before ++ (number ++ e.1.toList) ++ after)).toList =
      number ++ e.1.toList := by
    rw [String.toList_ofList]
    refine Text.trim_append hbefore hafter ?_ ?_
    · have hfirst := Decimal.head?_of_readFloat? hx
      cases number with
      | nil => cases hx
      | cons c rest => exact hfirst
    · rw [List.getLast?_append, hlast]
      rintro c hc
      obtain rfl := Option.some.inj hc
      exact hblank
  rw [read?_of_trim_append he htrim, hx]
  rfl

theorem read?_number (hx : Decimal.readFloat? number = some x) (hbefore : ∀ c ∈ before, Text.isBlank c = true)
    (hafter : ∀ c ∈ after, Text.isBlank c = true) (hlast : ∀ c ∈ number.getLast?, c.isDigit = true ∨ c = '.') :
    read? (String.ofList (before ++ number ++ after)) = some x := by
  have htrim : Text.trim (String.ofList (before ++ number ++ after)).toList = number := by
    rw [String.toList_ofList]
    refine Text.trim_append hbefore hafter (Decimal.head?_of_readFloat? hx) fun c hc => ?_
    rcases hlast c hc with hdigit | rfl
    · exact Text.isBlank_of_isDigit hdigit
    · decide
  have hnone : ∀ e ∈ suffixes, ¬e.1.toList <:+ number := by
    rintro e he ⟨front, rfl⟩
    obtain ⟨c, hc, hdigit, hpoint, -⟩ := exists_last_of_mem_suffixes he
    rcases hlast c (by rw [List.getLast?_append, hc]; rfl) with h | h
    · rw [hdigit] at h
      cases h
    · exact hpoint h
  rw [read?_of_forall_not (by rwa [htrim]), htrim, hx]

/-- At most one suffix ends a text, so the order of the suffixes does not count. A number with a suffix is that number
times the factor, and a number that ends in a digit or a point is that number, with any blanks around. A text has no
value if it is no number without its suffix, if it has one. -/
theorem read?_unambiguous :
    (∀ s : String, ∀ a ∈ suffixes, ∀ b ∈ suffixes, a.1.toList <:+ Text.trim s.toList →
      b.1.toList <:+ Text.trim s.toList → a = b) ∧
    (∀ table : List (String × Float), table.Perm suffixes → ∀ s, readWith table s = read? s) ∧
    (∀ number x before after, Decimal.readFloat? number = some x → (∀ c ∈ before, Text.isBlank c = true) →
      (∀ c ∈ after, Text.isBlank c = true) →
      (∀ e ∈ suffixes, read? (String.ofList (before ++ (number ++ e.1.toList) ++ after)) = some (x * e.2)) ∧
      ((∀ c ∈ number.getLast?, c.isDigit = true ∨ c = '.') →
        read? (String.ofList (before ++ number ++ after)) = some x)) ∧
    ∀ s : String,
      (∀ e ∈ suffixes, ∀ number, Text.trim s.toList = number ++ e.1.toList →
        (read? s = none ↔ Decimal.readFloat? number = none)) ∧
      ((∀ e ∈ suffixes, ¬e.1.toList <:+ Text.trim s.toList) →
        (read? s = none ↔ Decimal.readFloat? (Text.trim s.toList) = none)) := by
  refine ⟨fun s a ha b hb => eq_of_isSuffix ha hb, fun table htable s => ?_, ?_, fun s => ⟨?_, ?_⟩⟩
  · rw [read?, readWith_eq, readWith_eq, cutWith_perm htable]
  · intro number x before after hx hbefore hafter
    exact ⟨fun e he => read?_append hx hbefore hafter he, read?_number hx hbefore hafter⟩
  · intro e he number htrim
    rw [read?_of_trim_append he htrim, Option.map_eq_none_iff]
  · intro hnone
    rw [read?_of_forall_not hnone]

/-- An exponent is part of the number, also in front of a suffix; and the end of a name of a number is none. -/
theorem read?_unambiguous_exponent :
    let thousand := Decimal.Literal.value (.decimal false 1 3)
    read? " 1E3Ei\n" = some (thousand * 1152921504606846976.0) ∧
      readWith suffixes.reverse "\t1E3" = some thousand ∧ read? "nan" = none := by
  intro thousand
  obtain ⟨-, hperm, hnumber, hnone⟩ := read?_unambiguous
  have hthousand : Decimal.readFloat? "1E3".toList = some thousand := rfl
  have hblanks : ∀ {s : List Char}, s.all Text.isBlank = true → ∀ c ∈ s, Text.isBlank c = true := List.all_eq_true.1
  refine ⟨?_, ?_, ?_⟩
  · exact (hnumber _ _ [' '] ['\n'] hthousand (hblanks (by decide)) (hblanks (by decide))).1
      ("Ei", 1152921504606846976.0) (by simp [suffixes])
  · rw [hperm _ (List.reverse_perm suffixes)]
    exact (hnumber _ _ ['\t'] [] hthousand (hblanks (by decide)) (hblanks (by decide))).2
      (by simp)
  · exact ((hnone "nan").1 ("n", 1e-9) (by simp [suffixes]) ['n', 'a'] (by decide)).2 (by decide)

end Quantity

end NodeTelemetry
