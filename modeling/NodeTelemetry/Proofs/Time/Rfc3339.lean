import NodeTelemetry.Proofs.Decimal.Digits
import NodeTelemetry.Proofs.Text.Blank
import NodeTelemetry.Proofs.Time.Civil

/-!
# Written times read back

The reader takes every part of a written time for what it is: a part is padded to as many digits as the reader takes at
most, or something that is no digit stands behind it.

## Main definitions

* `Instant.IsProper`: the instants that are written as a time of the calendar.
* `Instant.IsReading`: what a clock shows.

## Main statements

* `readDigits_append`: digits are read up to the width or up to what is no digit.
* `Instant.IsProper.read?_text`: the text of a proper instant gives it back.
* `Instant.since_add_since`: times outside of leap seconds add up.
-/

namespace NodeTelemetry.Time

open Decimal (digitsValue NoDigitAhead)

variable {width n : Nat} {rest : List Char}

/-! ### Padded numbers -/

theorem digitsValue_padded (width n : Nat) : digitsValue (padded width n) = n := by
  rw [padded, Decimal.digitsValue_replicate_zero_append, Decimal.digitsValue_toString]

theorem isDigit_of_mem_padded {c : Char} (h : c ∈ padded width n) : c.isDigit = true := by
  rcases List.mem_append.1 h with h | h
  · rw [List.eq_of_mem_replicate h]
    rfl
  · exact Decimal.isDigit_of_mem_toString h

theorem padded_ne_nil (width n : Nat) : padded width n ≠ [] := by
  rw [padded]
  exact fun h => Decimal.toString_ne_nil n (List.append_eq_nil_iff.1 h).2

/-- A padded number begins with a digit. -/
theorem exists_head_padded (width n : Nat) : ∃ c more, padded width n = c :: more ∧ c.isDigit = true := by
  obtain ⟨c, more, h⟩ := List.exists_cons_of_ne_nil (padded_ne_nil width n)
  exact ⟨c, more, h, isDigit_of_mem_padded (by rw [h]; exact .head _)⟩

theorem length_padded (hwidth : 0 < width) (h : n < Decimal.tenTo width) : (padded width n).length = width := by
  have hdigits : (toString n).toList.length ≤ width := by
    rw [Nat.toString_eq_repr, String.length_toList]
    exact (Nat.length_repr_le_iff hwidth).2 h
  rw [padded, List.length_append, List.length_replicate]
  omega

/-! ### Reading the parts -/

theorem readDigits_append {digits : List Char} (hdigits : ∀ c ∈ digits, c.isDigit = true) (hne : digits ≠ [])
    (hwidth : digits.length ≤ width) (hend : digits.length = width ∨ NoDigitAhead rest) :
    readDigits width (digits ++ rest) = some (digitsValue digits, rest) := by
  have htake : ((digits ++ rest).take width).takeWhile Char.isDigit = digits := by
    rw [List.take_append, List.take_of_length_le hwidth, List.takeWhile_append_of_pos hdigits]
    have hnone : (rest.take (width - digits.length)).takeWhile Char.isDigit = [] := by
      rcases hend with heq | hahead
      · simp [heq]
      · cases rest with
        | nil => simp
        | cons c more =>
          cases width - digits.length with
          | zero => rfl
          | succ k => simp [hahead c rfl]
    rw [hnone, List.append_nil]
  rw [readDigits, htake, if_neg hne, List.drop_left]

theorem readDigits_padded (hwidth : 0 < width) (h : n < Decimal.tenTo width) (rest : List Char) :
    readDigits width (padded width n ++ rest) = some (n, rest) := by
  have hlength := length_padded hwidth h
  rw [readDigits_append (fun c => isDigit_of_mem_padded) (padded_ne_nil width n) (Nat.le_of_eq hlength)
    (.inl hlength), digitsValue_padded]

theorem trimStart_padded (width n : Nat) (rest : List Char) :
    Text.trimStart (padded width n ++ rest) = padded width n ++ rest := by
  obtain ⟨c, more, h, hc⟩ := exists_head_padded width n
  rw [h]
  exact Text.trimStart_cons (Text.isBlank_of_isDigit hc) _

theorem readField_padded {low high : Nat} (hlow : low ≤ n) (hhigh : n ≤ high) (h : n < 100)
    (rest : List Char) : readField low high (padded 2 n ++ rest) = some (n, rest) := by
  rw [readField, trimStart_padded, readDigits_padded (by decide) h]
  simp [hlow, hhigh]

theorem readMark_cons {mark : Char} (h : Text.isBlank mark = false) (rest : List Char) :
    readMark mark (mark :: rest) = some rest := by
  rw [readMark, Text.trimStart_cons h]
  simp

/-- A year is read up to the mark behind it. -/
theorem readYear_yearText (year : Int) (rest : List Char) :
    readYear (yearText year ++ '-' :: rest) = some (year, '-' :: rest) := by
  have hdash : NoDigitAhead ('-' :: rest) := by simp [NoDigitAhead]
  rw [yearText]
  split
  · next hplain =>
    simp only [Bool.and_eq_true, decide_eq_true_eq] at hplain
    have hread : readDigits 4 (padded 4 year.natAbs ++ '-' :: rest) = some (year.natAbs, '-' :: rest) :=
      readDigits_padded (by decide) (show year.natAbs < 10000 by omega) _
    obtain ⟨c, more, hpadded, hc⟩ := exists_head_padded 4 year.natAbs
    rw [readYear, trimStart_padded]
    -- a digit is no sign
    split
    case h_3 =>
      rw [hread, Option.map_some]
      dsimp only
      rw [Int.natAbs_of_nonneg hplain.1]
    all_goals
      next heq =>
      rw [hpadded] at heq
      obtain rfl := (List.cons.inj heq).1
      simp at hc
  · have hread : readDigits (padded 4 year.natAbs ++ '-' :: rest).length
        (padded 4 year.natAbs ++ '-' :: rest) = some (year.natAbs, '-' :: rest) := by
      rw [readDigits_append (fun c => isDigit_of_mem_padded) (padded_ne_nil _ _) (by simp) (.inr hdash),
        digitsValue_padded]
    by_cases hneg : year < 0
    · rw [if_pos hneg, List.cons_append, readYear, Text.trimStart_cons (by decide)]
      change (readDigits _ _).map (fun x => (-(x.1 : Int), x.2)) = _
      rw [hread, Option.map_some]
      dsimp only
      rw [show -(year.natAbs : Int) = year by omega]
    · rw [if_neg hneg, List.cons_append, readYear, Text.trimStart_cons (by decide)]
      change (readDigits _ _).map (fun x => ((x.1 : Int), x.2)) = _
      rw [hread, Option.map_some]
      dsimp only
      rw [show (year.natAbs : Int) = year by omega]

/-! ### Fractions -/

/-- Digits behind a point count from the first place. -/
theorem readFraction_point (hwidth : 0 < width) (hwidth' : width ≤ 9) (h : n < Decimal.tenTo width)
    (hrest : NoDigitAhead rest) :
    readFraction ('.' :: (padded width n ++ rest)) = some (n * Decimal.tenTo (9 - width), rest) := by
  have hlength := length_padded hwidth h
  have hdigits : readDigits 9 (padded width n ++ rest) = some (n, rest) := by
    rw [readDigits_append (fun c => isDigit_of_mem_padded) (padded_ne_nil width n) (by omega) (.inr hrest),
      digitsValue_padded]
  have hdrop : rest.dropWhile Char.isDigit = rest := by
    cases rest with
    | nil => rfl
    | cons c more => simp [hrest c rfl]
  rw [readFraction, hdigits]
  simp [hdrop, hlength]

theorem readFraction_fractionText {nanos : Nat} (h : nanos < Instant.nanosPerSecond) (hrest : NoDigitAhead rest)
    (hpoint : rest.head? ≠ some '.') : readFraction (fractionText nanos ++ rest) = some (nanos, rest) := by
  have hbound : nanos < 1000000000 := h
  rw [fractionText]
  split
  · next hzero =>
    subst hzero
    rw [List.nil_append, readFraction]
    rintro more rfl
    exact hpoint rfl
  · split
    · rw [List.cons_append, readFraction_point (by decide) (by decide) (show nanos / 1000000 < 1000 by omega) hrest,
        show Decimal.tenTo (9 - 3) = 1000000 from rfl, show nanos / 1000000 * 1000000 = nanos by omega]
    · split
      · rw [List.cons_append, readFraction_point (by decide) (by decide) (show nanos / 1000 < 1000000 by omega) hrest,
          show Decimal.tenTo (9 - 6) = 1000 from rfl, show nanos / 1000 * 1000 = nanos by omega]
      · rw [List.cons_append, readFraction_point (by decide) (by decide) hbound hrest,
          show Decimal.tenTo (9 - 9) = 1 from rfl, Nat.mul_one]

/-! ### Instants -/

namespace Instant

/-- An instant of the calendar: between the first and the last that can be represented, and in a leap second only
behind the last second of a minute. -/
structure IsProper (t : Instant) : Prop where
  first : range.1 ≤ t.seconds
  last : t.seconds ≤ range.2
  nanos : t.nanos < 2 * nanosPerSecond
  leap : t.isLeap = true → t.secondOfDay % 60 = 59

/-- The parts of a written time are read one after the other. -/
theorem read?_parts {date : Date} {hour minute second nanos : Nat} (seconds : Int)
    (hmonth : 1 ≤ date.month ∧ date.month ≤ 12) (hday : 1 ≤ date.day ∧ date.day ≤ 31) (hhour : hour ≤ 23)
    (hminute : minute ≤ 59) (hsecond : second ≤ 60) (hnanos : nanos < nanosPerSecond) (hvalid : date.isValid = true)
    (hyear : yearRange.1 ≤ date.year ∧ date.year ≤ yearRange.2)
    (hseconds : seconds = date.toDays * 86400 +
      (hour * 3600 + minute * 60 + (if second = 60 then 59 else second) : Nat))
    (hrange : range.1 ≤ seconds ∧ seconds ≤ range.2) :
    read? (String.ofList (yearText date.year ++ '-' :: padded 2 date.month ++ '-' :: padded 2 date.day ++
      'T' :: padded 2 hour ++ ':' :: padded 2 minute ++ ':' :: padded 2 second ++ fractionText nanos ++ "Z".toList)) =
      some ⟨seconds, nanos + if second = 60 then nanosPerSecond else 0⟩ := by
  have hzone : NoDigitAhead "Z".toList := by simp [NoDigitAhead]
  have hfraction := readFraction_fractionText hnanos hzone (by decide)
  have htrim : Text.trimStart "Z".toList = "Z".toList := by decide
  have hread : readZone "Z".toList = some (0, []) := by decide
  have hdash : Text.isBlank '-' = false := by decide
  have hcolon : Text.isBlank ':' = false := by decide
  rw [read?, String.toList_ofList]
  simp only [List.append_assoc, List.cons_append]
  dsimp only [Option.bind_eq_bind]
  -- the date
  rw [readYear_yearText, Option.bind_some, readMark_cons hdash, Option.bind_some,
    readField_padded hmonth.1 hmonth.2 (by omega), Option.bind_some, readMark_cons hdash, Option.bind_some,
    readField_padded hday.1 hday.2 (by omega), Option.bind_some]
  dsimp only
  -- the time of the day
  rw [if_pos (by decide), Option.bind_some, readField_padded (Nat.zero_le _) hhour (by omega), Option.bind_some,
    readMark_cons hcolon, Option.bind_some, readField_padded (Nat.zero_le _) hminute (by omega), Option.bind_some,
    readMark_cons hcolon, Option.bind_some, readField_padded (Nat.zero_le _) hsecond (by omega), Option.bind_some,
    hfraction, Option.bind_some, htrim, hread, Option.bind_some]
  dsimp only
  rw [Int.sub_zero, ← hseconds]
  simp [Text.trimStart, hvalid, hyear, hrange]

/-- The text of a proper instant gives it back. -/
theorem IsProper.read?_text {t : Instant} (h : t.IsProper) : read? (t.text "Z") = some t := by
  obtain ⟨days, hdays⟩ : ∃ days, Int.fdiv t.seconds 86400 = days := ⟨_, rfl⟩
  obtain ⟨ofDay, hofDay⟩ : ∃ ofDay, t.secondOfDay.toNat = ofDay := ⟨_, rfl⟩
  have hcut : t.seconds = days * 86400 + ofDay ∧ ofDay < 86400 ∧ t.secondOfDay = ofDay := by
    rw [secondOfDay, Int.fmod_eq_emod_of_nonneg _ (by decide)] at hofDay ⊢
    rw [Int.fdiv_eq_ediv_of_nonneg _ (by decide)] at hdays
    omega
  have hrange : (-96465292 : Int) * 86400 ≤ t.seconds ∧ t.seconds ≤ 95026236 * 86400 + 86399 :=
    ⟨h.first, h.last⟩
  have hyear := Date.year_ofDays days
    (show (-96465292 : Int) ≤ days by omega) (show days ≤ (95026236 : Int) by omega)
  have hvalid := Date.isValid_ofDays days
  have hcount := Date.toDays_ofDays days
  simp only [text, hdays, hofDay]
  generalize Date.ofDays days = date at hyear hvalid hcount ⊢
  obtain ⟨hmonth, hday⟩ := Date.bounds_of_isValid hvalid
  have hnanos := h.nanos
  -- second 60 is written for leap seconds alone
  obtain ⟨second, hsecond, hshown, hsum⟩ : ∃ second,
      (ofDay % 60 + if t.isLeap then 1 else 0) = second ∧
      (if second = 60 then 59 else second) = ofDay % 60 ∧
      t.nanos % nanosPerSecond + (if second = 60 then nanosPerSecond else 0) = t.nanos := by
    rw [nanosPerSecond] at hnanos ⊢
    cases hleap : t.isLeap with
    | false =>
      have hshort : t.nanos < 1000000000 := Nat.lt_of_not_le (of_decide_eq_false hleap)
      exact ⟨ofDay % 60, rfl, if_neg (by omega), by rw [if_neg (by omega)]; omega⟩
    | true =>
      have hlong : 1000000000 ≤ t.nanos := of_decide_eq_true hleap
      have hend : ofDay % 60 = 59 := by
        have := h.leap hleap
        omega
      exact ⟨60, by rw [hend]; rfl, hend.symm, by rw [if_pos rfl]; omega⟩
  have hbound : second ≤ 60 := by
    rw [← hsecond]
    split <;> omega
  rw [hsecond, read?_parts t.seconds hmonth hday (by omega) (by omega) hbound
    (Nat.mod_lt _ (by decide)) hvalid hyear (by rw [hshown, hcount]; omega) ⟨h.first, h.last⟩, hsum]

/-! ### Clocks -/

/-- What a clock shows, which never shows a leap second. -/
structure IsReading (t : Instant) : Prop extends t.IsProper where
  plain : t.isLeap = false

theorem isReading_iff {t : Instant} :
    t.IsReading ↔ range.1 ≤ t.seconds ∧ t.seconds ≤ range.2 ∧ t.nanos < nanosPerSecond := by
  constructor
  · intro h
    exact ⟨h.first, h.last, Nat.lt_of_not_le (of_decide_eq_false h.plain)⟩
  · rintro ⟨hfirst, hlast, hnanos⟩
    have hplain : t.isLeap = false := decide_eq_false (Nat.not_le.2 hnanos)
    refine ⟨⟨hfirst, hlast, ?_, fun hleap => ?_⟩, hplain⟩
    · rw [nanosPerSecond] at *
      omega
    · rw [hplain] at hleap
      cases hleap

theorem since_eq {a b : Instant} (ha : a.isLeap = false) (hb : b.isLeap = false) :
    a.since b = (a.seconds - b.seconds) * nanosPerSecond + ((a.nanos : Int) - b.nanos) := by
  have hadjustment : leapAdjustment a b = 0 := by simp [leapAdjustment, ha, hb]
  rw [since, hadjustment, Int.add_zero]

/-- Outside of leap seconds the time between two instants adds up over any instant. -/
theorem since_add_since {a b c : Instant} (ha : a.isLeap = false) (hb : b.isLeap = false) (hc : c.isLeap = false) :
    a.since b + b.since c = a.since c := by
  rw [since_eq ha hb, since_eq hb hc, since_eq ha hc, nanosPerSecond]
  omega

end Instant

end NodeTelemetry.Time
