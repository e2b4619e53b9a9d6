import NodeTelemetry.Time.Rfc3339

/-!
# Days and dates

Every count of days is the count of its date. An era of 400 years is cut into centuries of 36524 days, cycles of four
years of 1461 days and years of 365 days; at each cut the last piece may be one day longer, and the longest year is
the one that ends in a leap day. Inside a year, which begins in March, months depend on the day alone.

## Main definitions

* `Date.ofMarch`: the date of a day of a year that begins in March.

## Main statements

* `Date.exists_ofDays`: the year and the day of year behind a count of days.
* `Date.toDays_ofDays`: a count of days is the count of its date.
* `Date.isValid_ofDays`: the calendar has the date of every count of days.
-/

namespace NodeTelemetry.Time.Date

/-- The date of a day of a year, both counted from 1 March. -/
def ofMarch (year day : Int) : Date :=
  let monthFromMarch := (5 * day + 2) / 153
  let month := (if monthFromMarch < 10 then monthFromMarch + 3 else monthFromMarch - 9).toNat
  ⟨if month ≤ 2 then year + 1 else year, month, (day - (153 * monthFromMarch + 2) / 5 + 1).toNat⟩

/-- The days before a year of an era. -/
def daysBefore (yearOfEra : Int) : Int :=
  365 * yearOfEra + yearOfEra / 4 - yearOfEra / 100

/-! ### Days of an era -/

/-- A day of an era lies in a century, in a cycle of four years of it and in a year of that; the 366th day is there
in every fourth year, apart from the last of the first three centuries. -/
theorem exists_eraDay (day : Int) (h0 : 0 ≤ day) (h1 : day < 146097) :
    ∃ c q s r : Int, 0 ≤ c ∧ c ≤ 3 ∧ 0 ≤ q ∧ q ≤ 24 ∧ 0 ≤ s ∧ s ≤ 3 ∧ 0 ≤ r ∧
      (r ≤ 364 ∨ r = 365 ∧ s = 3 ∧ (q < 24 ∨ c = 3)) ∧ day = 36524 * c + 1461 * q + 365 * s + r := by
  obtain ⟨c, hc0, hc3, hlow, hhigh⟩ : ∃ c : Int, 0 ≤ c ∧ c ≤ 3 ∧ 36524 * c ≤ day ∧
      (day < 36524 * c + 36524 ∨ c = 3 ∧ day = 146096) := by
    by_cases hlast : day = 146096
    · exact ⟨3, by omega⟩
    · exact ⟨day / 36524, by omega⟩
  obtain ⟨q, hq⟩ : ∃ q : Int, q = (day - 36524 * c) / 1461 := ⟨_, rfl⟩
  obtain ⟨s, hs0, hs3, hrest⟩ : ∃ s : Int, 0 ≤ s ∧ s ≤ 3 ∧ 365 * s ≤ day - 36524 * c - 1461 * q ∧
      (day - 36524 * c - 1461 * q < 365 * s + 365 ∨ s = 3 ∧ day - 36524 * c - 1461 * q = 1460) := by
    by_cases hlast : day - 36524 * c - 1461 * q = 1460
    · exact ⟨3, by omega⟩
    · exact ⟨(day - 36524 * c - 1461 * q) / 365, by omega⟩
  exact ⟨c, q, s, day - 36524 * c - 1461 * q - 365 * s, by omega⟩

section EraDay

variable {c q s r : Int} (hc : 0 ≤ c ∧ c ≤ 3) (hq : 0 ≤ q ∧ q ≤ 24) (hs : 0 ≤ s ∧ s ≤ 3)
  (hr : 0 ≤ r ∧ (r ≤ 364 ∨ r = 365 ∧ s = 3 ∧ (q < 24 ∨ c = 3)))

include hq hs in
theorem daysBefore_eq : daysBefore (100 * c + 4 * q + s) = 36524 * c + 1461 * q + 365 * s := by
  have hcycles : (100 * c + 4 * q + s) / 4 = 25 * c + q := by omega
  have hcenturies : (100 * c + 4 * q + s) / 100 = c := by omega
  rw [daysBefore, hcycles, hcenturies]
  omega

include hc hq hs hr in
/-- The year of a day, in the form in which it is computed. -/
theorem yearOfEra_eq {day : Int} (hday : day = 36524 * c + 1461 * q + 365 * s + r) :
    (day - day / 1460 + day / 36524 - day / 146096) / 365 = 100 * c + 4 * q + s := by
  obtain ⟨x, hx, hx'⟩ : ∃ x : Int, day / 1460 = 25 * c + q + x ∧
      (x = 0 ∧ 24 * c + q + 365 * s + r < 1460 ∨ x = 1 ∧ 1460 ≤ 24 * c + q + 365 * s + r) := by
    by_cases hcarry : 24 * c + q + 365 * s + r < 1460
    · exact ⟨0, by omega, by omega⟩
    · exact ⟨1, by omega, by omega⟩
  -- only the last day of an era lies behind its fourth century
  have hlast : day / 36524 - day / 146096 = c := by
    by_cases hend : day = 146096
    · omega
    · have hshort : 1461 * q + 365 * s + r < 36524 := by omega
      omega
  omega

end EraDay

/-! ### Dates of a year -/

theorem fdiv_eq_ediv (a : Int) {b : Int} (hb : 0 ≤ b) : Int.fdiv a b = a / b :=
  Int.fdiv_eq_ediv_of_nonneg a hb

/-- The days to a date, by its year and its month, both counted from March. -/
theorem toDays_eq {d : Date} (year month : Int)
    (hyear : (if d.month ≤ 2 then d.year - 1 else d.year) = year)
    (hmonth : (if d.month > 2 then (d.month : Int) - 3 else (d.month : Int) + 9) = month) :
    d.toDays = year / 400 * 146097 +
      (daysBefore (year - year / 400 * 400) + ((153 * month + 2) / 5 + d.day - 1)) - 719468 := by
  rw [toDays, hyear, hmonth]
  simp only [fdiv_eq_ediv _ (show (0 : Int) ≤ 400 by decide), fdiv_eq_ediv _ (show (0 : Int) ≤ 5 by decide),
    fdiv_eq_ediv _ (show (0 : Int) ≤ 4 by decide), fdiv_eq_ediv _ (show (0 : Int) ≤ 100 by decide), daysBefore]
  omega

section OfMarch

variable {year day : Int} (h0 : 0 ≤ day) (h1 : day ≤ 365)

include h0 h1

/-- The month of a day, counted from March, and the day of that month. -/
theorem exists_ofMarch (year : Int) : ∃ month k : Int, 0 ≤ month ∧ month ≤ 11 ∧ (5 * day + 2) / 153 = month ∧
    (153 * month + 2) / 5 = k ∧ k ≤ day ∧
    ofMarch year day = if month < 10 then ⟨year, (month + 3).toNat, (day - k + 1).toNat⟩
      else ⟨year + 1, (month - 9).toNat, (day - k + 1).toNat⟩ := by
  refine ⟨(5 * day + 2) / 153, (153 * ((5 * day + 2) / 153) + 2) / 5, by omega, by omega, rfl, rfl, by omega, ?_⟩
  rw [ofMarch]
  by_cases hmonth : (5 * day + 2) / 153 < 10
  · simp only [if_pos hmonth]
    rw [if_neg (by omega)]
  · simp only [if_neg hmonth]
    rw [if_pos (by omega)]

theorem toDays_ofMarch : (ofMarch year day).toDays =
    year / 400 * 146097 + (daysBefore (year - year / 400 * 400) + day) - 719468 := by
  obtain ⟨month, k, hm0, hm11, -, hk, hday, hdate⟩ := exists_ofMarch h0 h1 year
  rw [hdate]
  split
  · rw [toDays_eq year month (if_neg (by dsimp only; omega))
      ((if_pos (by dsimp only; omega)).trans (by dsimp only; omega))]
    dsimp only
    omega
  · rw [toDays_eq year month ((if_pos (by dsimp only; omega)).trans (by dsimp only; omega))
      ((if_neg (by dsimp only; omega)).trans (by dsimp only; omega))]
    dsimp only
    omega

theorem month_ofMarch : 1 ≤ (ofMarch year day).month ∧ (ofMarch year day).month ≤ 12 := by
  obtain ⟨month, k, hm0, hm11, -, -, -, hdate⟩ := exists_ofMarch h0 h1 year
  rw [hdate]
  split <;> dsimp only <;> omega

/-- The calendar has the date of every day of a year, of the 366th if the year ends in a leap day. -/
theorem isValid_ofMarch (hleap : day = 365 → isLeapYear (year + 1) = true) :
    (ofMarch year day).isValid = true := by
  obtain ⟨month, k, hm0, hm11, hmonth, hk, hday, hdate⟩ := exists_ofMarch h0 h1 year
  have hfebruary : daysInMonth (year + 1) 2 = if isLeapYear (year + 1) then 29 else 28 := rfl
  -- the months have their lengths one by one
  have hlength : (day - k + 1).toNat ≤ daysInMonth (ofMarch year day).year (ofMarch year day).month := by
    rw [hdate]
    obtain rfl | rfl | rfl | rfl | rfl | rfl | rfl | rfl | rfl | rfl | rfl | rfl :
      month = 0 ∨ month = 1 ∨ month = 2 ∨ month = 3 ∨ month = 4 ∨ month = 5 ∨ month = 6 ∨ month = 7 ∨
        month = 8 ∨ month = 9 ∨ month = 10 ∨ month = 11 := by omega
    case inr.inr.inr.inr.inr.inr.inr.inr.inr.inr.inr =>
      change _ ≤ daysInMonth (year + 1) 2
      rw [hfebruary]
      by_cases hlast : day = 365
      · rw [if_pos (hleap hlast)]
        omega
      · split <;> omega
    all_goals
      simp only [Int.reduceLT, if_true, if_false, Int.reduceAdd, Int.reduceSub, Int.reduceToNat, daysInMonth]
      omega
  have hmonths : 1 ≤ (ofMarch year day).month ∧ (ofMarch year day).month ≤ 12 := month_ofMarch h0 h1
  have hfirst : (ofMarch year day).day = (day - k + 1).toNat := by
    rw [hdate]
    split <;> rfl
  simp only [isValid, Bool.and_eq_true, decide_eq_true_eq]
  exact ⟨⟨hmonths, by omega⟩, by omega⟩

end OfMarch

theorem daysInMonth_le (year : Int) (month : Nat) : daysInMonth year month ≤ 31 := by
  rw [daysInMonth.eq_def]
  split
  · split <;> omega
  all_goals omega

/-- The parts of a date that the calendar has. -/
theorem bounds_of_isValid {d : Date} (h : d.isValid = true) :
    (1 ≤ d.month ∧ d.month ≤ 12) ∧ 1 ≤ d.day ∧ d.day ≤ 31 := by
  have hlength := daysInMonth_le d.year d.month
  simp only [isValid, Bool.and_eq_true, decide_eq_true_eq] at h
  omega

/-! ### Days and dates -/

/-- Behind every count of days there are a year and a day of it. -/
theorem exists_ofDays (days : Int) : ∃ year day : Int, 0 ≤ day ∧ day ≤ 365 ∧
    (day = 365 → isLeapYear (year + 1) = true) ∧ ofDays days = ofMarch year day ∧
    year / 400 * 146097 + (daysBefore (year - year / 400 * 400) + day) - 719468 = days := by
  obtain ⟨era, hera⟩ : ∃ era, (days + 719468) / 146097 = era := ⟨_, rfl⟩
  obtain ⟨c, q, s, r, hc0, hc3, hq0, hq24, hs0, hs3, hr0, hr, hday⟩ :=
    exists_eraDay (days + 719468 - era * 146097) (by omega) (by omega)
  have hyear := yearOfEra_eq ⟨hc0, hc3⟩ ⟨hq0, hq24⟩ ⟨hs0, hs3⟩ ⟨hr0, hr⟩ hday
  have hbefore := daysBefore_eq (c := c) ⟨hq0, hq24⟩ ⟨hs0, hs3⟩
  have heraYear : (100 * c + 4 * q + s + era * 400) / 400 = era := by omega
  refine ⟨100 * c + 4 * q + s + era * 400, r, hr0, by omega, fun hlast => ?_, ?_, ?_⟩
  · rw [isLeapYear]
    simp only [Bool.and_eq_true, Bool.or_eq_true, beq_iff_eq, bne_iff_ne]
    omega
  · have hdayOfYear : days + 719468 - era * 146097 - daysBefore (100 * c + 4 * q + s) = r := by omega
    rw [ofDays, ofMarch]
    simp only [fdiv_eq_ediv _ (show (0 : Int) ≤ 146097 by decide), fdiv_eq_ediv _ (show (0 : Int) ≤ 1460 by decide),
      fdiv_eq_ediv _ (show (0 : Int) ≤ 36524 by decide), fdiv_eq_ediv _ (show (0 : Int) ≤ 146096 by decide),
      fdiv_eq_ediv _ (show (0 : Int) ≤ 365 by decide), fdiv_eq_ediv _ (show (0 : Int) ≤ 4 by decide),
      fdiv_eq_ediv _ (show (0 : Int) ≤ 100 by decide), fdiv_eq_ediv _ (show (0 : Int) ≤ 153 by decide),
      fdiv_eq_ediv _ (show (0 : Int) ≤ 5 by decide), hera, hyear]
    rw [daysBefore] at hdayOfYear
    rw [hdayOfYear]
  · rw [heraYear, Int.add_sub_cancel, hbefore]
    omega

/-- A count of days is the count of its date. -/
theorem toDays_ofDays (days : Int) : (ofDays days).toDays = days := by
  obtain ⟨year, day, h0, h1, -, hdate, hdays⟩ := exists_ofDays days
  rw [hdate, toDays_ofMarch h0 h1, hdays]

/-- The calendar has the date of every count of days. -/
theorem isValid_ofDays (days : Int) : (ofDays days).isValid = true := by
  obtain ⟨year, day, h0, h1, hleap, hdate, -⟩ := exists_ofDays days
  rw [hdate]
  exact isValid_ofMarch h0 h1 hleap

/-- The days that can be represented have years that can be represented. -/
theorem year_ofDays (days : Int) (hfirst : toDays ⟨yearRange.1, 1, 1⟩ ≤ days)
    (hlast : days ≤ toDays ⟨yearRange.2, 12, 31⟩) :
    yearRange.1 ≤ (ofDays days).year ∧ (ofDays days).year ≤ yearRange.2 := by
  have hlow : (-96465292 : Int) ≤ days := hfirst
  have hhigh : days ≤ (95026236 : Int) := hlast
  obtain ⟨year, day, h0, h1, -, hdate, hdays⟩ := exists_ofDays days
  obtain ⟨month, k, -, -, hmonth, -, -, hmarch⟩ := exists_ofMarch h0 h1 year
  rw [daysBefore] at hdays
  have hyear : -262144 ≤ year ∧ year ≤ 262142 := by omega
  change (-262143 : Int) ≤ _ ∧ _ ≤ (262142 : Int)
  rw [hdate, hmarch]
  -- only the two months before March can lie in a year behind the one in which they are counted
  split
  · next hlate =>
    have hfrom : year ≠ -262144 := by
      rintro rfl
      omega
    dsimp only
    omega
  · next hearly =>
    have hto : year ≠ 262142 := by
      rintro rfl
      omega
    dsimp only
    omega

end NodeTelemetry.Time.Date
