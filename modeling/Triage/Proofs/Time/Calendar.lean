import Mathlib.Order.Monotone.Basic
import Mathlib.Tactic.IntervalCases
import Triage.Time.Calendar

namespace Triage

namespace Date

/-! ## Valid dates -/

theorem daysInMonth_le (year : Int) (month : Nat) : daysInMonth year month ≤ 31 := by
  unfold daysInMonth
  split
  · split <;> omega
  all_goals omega

theorem month_le {date : Date} (valid : date.isValid = true) : date.month ≤ 12 := by
  simp only [isValid, Bool.and_eq_true, decide_eq_true_eq] at valid
  omega

theorem day_le {date : Date} (valid : date.isValid = true) : date.day ≤ 31 := by
  have most := daysInMonth_le date.year date.month
  simp only [isValid, Bool.and_eq_true, decide_eq_true_eq] at valid
  omega

/-! ## Days of an era -/

/-- The year that a day of an era falls into. -/
def yearOfDay (day : Nat) : Nat :=
  (day - day / 1460 + day / 36524 - day / 146096) / 365

/-- Days from the start of an era to the start of one of its years. -/
def daysBeforeYear (year : Nat) : Nat :=
  365 * year + year / 4 - year / 100

theorem yearOfDay_le_succ (day : Nat) : yearOfDay day ≤ yearOfDay (day + 1) := by
  apply Nat.div_le_div_right
  omega

theorem yearOfDay_monotone : Monotone yearOfDay :=
  monotone_nat_of_le_succ yearOfDay_le_succ

theorem yearOfDay_first {year : Nat} (inEra : year < 400) :
    yearOfDay (daysBeforeYear year) = year := by
  obtain ⟨day, isDay⟩ : ∃ day, day = daysBeforeYear year := ⟨_, rfl⟩
  rw [yearOfDay, ← isDay]
  unfold daysBeforeYear at isDay
  have quarters : day / 1460 = year / 4 := by omega
  have centuries : day / 36524 = year / 100 := by omega
  have eras : day / 146096 = 0 := by omega
  omega

theorem yearOfDay_last {year : Nat} (inEra : year < 400) :
    yearOfDay (daysBeforeYear (year + 1) - 1) = year := by
  obtain ⟨day, isDay⟩ : ∃ day, day = daysBeforeYear (year + 1) - 1 := ⟨_, rfl⟩
  rw [yearOfDay, ← isDay]
  unfold daysBeforeYear at isDay
  have quarters : day / 1460 = (year + 1) / 4 := by omega
  have centuries : day / 36524 = year / 100 := by omega
  have eras : day / 146096 = 0 := by omega
  omega

variable {day : Nat}

theorem yearOfDay_lt (inEra : day < daysPerEra) : yearOfDay day < 400 := by
  unfold daysPerEra at inEra
  unfold yearOfDay
  omega

theorem daysBeforeYear_le (inEra : day < daysPerEra) :
    daysBeforeYear (yearOfDay day) ≤ day := by
  have small := yearOfDay_lt inEra
  by_contra before
  -- Else the day comes no later than the last one of the year before.
  have earlier : day ≤ daysBeforeYear (yearOfDay day - 1 + 1) - 1 := by
    unfold daysBeforeYear at before ⊢
    omega
  have atMost := yearOfDay_monotone earlier
  rw [yearOfDay_last (by omega)] at atMost
  unfold daysBeforeYear at before
  omega

/-- Only the last year of an era, which is a leap year, goes on to the end of it. -/
theorem day_lt (notLast : yearOfDay day < 399) : day < daysBeforeYear (yearOfDay day + 1) := by
  by_contra after
  have atLeast := yearOfDay_monotone (Nat.le_of_not_lt after)
  rw [yearOfDay_first (by omega)] at atLeast
  omega

/-- The day of the year, where a year begins in March. -/
def dayOfYear (day : Nat) : Nat :=
  day - daysBeforeYear (yearOfDay day)

theorem dayOfYear_le (inEra : day < daysPerEra) : dayOfYear day ≤ 365 := by
  have small := yearOfDay_lt inEra
  unfold dayOfYear
  by_cases notLast : yearOfDay day < 399
  · have below := day_lt notLast
    unfold daysBeforeYear at below ⊢
    omega
  · have last : yearOfDay day = 399 := by omega
    unfold daysPerEra at inEra
    rw [last, daysBeforeYear]
    omega

/-- A year with a leap day ends in February of a leap year. -/
theorem isLeap_of_dayOfYear (era : Int) (inEra : day < daysPerEra)
    (leapDay : dayOfYear day = 365) : isLeap (era * 400 + yearOfDay day + 1) = true := by
  have small := yearOfDay_lt inEra
  have leaps : (yearOfDay day + 1) % 4 = 0 ∧
      ((yearOfDay day + 1) % 100 ≠ 0 ∨ yearOfDay day = 399) := by
    by_cases notLast : yearOfDay day < 399
    · have below := day_lt notLast
      have above := daysBeforeYear_le inEra
      unfold dayOfYear at leapDay
      unfold daysBeforeYear at below above leapDay
      omega
    · omega
  unfold isLeap
  simp only [Bool.and_eq_true, Bool.or_eq_true, beq_iff_eq, bne_iff_ne]
  omega

/-! ## Days and dates -/

/-- The date of a day of an era. -/
def ofEra (era : Int) (day : Nat) : Date :=
  let monthFromMarch := (5 * dayOfYear day + 2) / 153
  let month := if monthFromMarch < 10 then monthFromMarch + 3 else monthFromMarch - 9
  { year := if month ≤ 2 then era * 400 + yearOfDay day + 1 else era * 400 + yearOfDay day
    month := month
    day := dayOfYear day - daysBeforeMonth monthFromMarch + 1 }

theorem ofDays_eq (days : Int) :
    ofDays days = ofEra ((days + 719468) / daysPerEra) ((days + 719468) % daysPerEra).toNat :=
  rfl

theorem isValid_ofEra (era : Int) (inEra : day < daysPerEra) : (ofEra era day).isValid = true := by
  have within := dayOfYear_le inEra
  have leaps := isLeap_of_dayOfYear era inEra
  obtain ⟨month, isMonth⟩ : ∃ month, month = (5 * dayOfYear day + 2) / 153 := ⟨_, rfl⟩
  have bound : month ≤ 11 := by omega
  simp only [ofEra, ← isMonth, isValid, Bool.and_eq_true, decide_eq_true_eq, daysBeforeMonth]
  interval_cases month
  case «11» =>
    -- The last month may end with a leap day.
    by_cases leapDay : dayOfYear day = 365
    · simp [daysInMonth, leaps leapDay]
      omega
    · simp [daysInMonth]
      split <;> omega
  all_goals
    simp [daysInMonth]
    omega

theorem toDays_ofEra (era : Int) (inEra : day < daysPerEra) :
    (ofEra era day).toDays = era * daysPerEra + day - 719468 := by
  have within := dayOfYear_le inEra
  have before := daysBeforeYear_le inEra
  have small := yearOfDay_lt inEra
  obtain ⟨month, isMonth⟩ : ∃ month, month = (5 * dayOfYear day + 2) / 153 := ⟨_, rfl⟩
  have year : (era * 400 + (yearOfDay day : Int)) / 400 = era := by omega
  have ofEra : ((era * 400 + (yearOfDay day : Int)) % 400).toNat = yearOfDay day := by omega
  have ofYear : daysBeforeMonth month + (dayOfYear day - daysBeforeMonth month + 1) - 1 =
      dayOfYear day := by
    unfold daysBeforeMonth
    omega
  have days : yearOfDay day * 365 + yearOfDay day / 4 - yearOfDay day / 100 + dayOfYear day =
      day := by
    unfold daysBeforeYear at before
    unfold dayOfYear daysBeforeYear
    omega
  simp only [Date.ofEra, ← isMonth, toDays]
  by_cases fromMarch : month < 10
  · have notBefore : ¬month + 3 ≤ 2 := by omega
    have after : 2 < month + 3 := by omega
    simp only [fromMarch, notBefore, after, if_true, if_false, Nat.add_sub_cancel, year, ofEra,
      ofYear, days]
  · have before : month - 9 ≤ 2 := by omega
    have notAfter : ¬2 < month - 9 := by omega
    have month : month - 9 + 9 = month := by omega
    simp only [fromMarch, before, notAfter, if_true, if_false, Int.add_sub_cancel, month, year,
      ofEra, ofYear, days]

/-- A day and an era that a count of days comes from. -/
theorem exists_era (days : Int) :
    ∃ (era : Int) (day : Nat), day < daysPerEra ∧ days = era * daysPerEra + day - 719468 ∧
      ofDays days = ofEra era day := by
  exists (days + 719468) / daysPerEra, ((days + 719468) % daysPerEra).toNat
  refine ⟨?_, ?_, ofDays_eq days⟩ <;> unfold daysPerEra <;> omega

theorem isValid_ofDays (days : Int) : (ofDays days).isValid = true := by
  obtain ⟨era, day, inEra, -, isDate⟩ := exists_era days
  rw [isDate]
  exact isValid_ofEra era inEra

theorem toDays_ofDays (days : Int) : (ofDays days).toDays = days := by
  obtain ⟨era, day, inEra, isDays, isDate⟩ := exists_era days
  rw [isDate, isDays]
  exact toDays_ofEra era inEra

/-! ## The day after -/

/-- Behind the last day of a month comes the first of the next one, behind December the next
year. -/
def next (date : Date) : Date :=
  if date.day < daysInMonth date.year date.month then { date with day := date.day + 1 }
  else if date.month < 12 then ⟨date.year, date.month + 1, 1⟩
  else ⟨date.year + 1, 1, 1⟩

example : next ⟨2024, 2, 28⟩ = ⟨2024, 2, 29⟩ ∧ next ⟨1900, 2, 28⟩ = ⟨1900, 3, 1⟩ := by decide

theorem daysInMonth_pos (year : Int) (month : Nat) : 1 ≤ daysInMonth year month := by
  unfold daysInMonth
  split
  · split <;> omega
  all_goals omega

variable {date : Date}

theorem isValid_next (valid : date.isValid = true) : date.next.isValid = true := by
  simp only [isValid, Bool.and_eq_true, decide_eq_true_eq] at valid
  unfold next
  split
  · simp only [isValid, Bool.and_eq_true, decide_eq_true_eq]
    omega
  · split <;> simp only [isValid, Bool.and_eq_true, decide_eq_true_eq]
    · exact ⟨⟨⟨by omega, by omega⟩, le_rfl⟩, daysInMonth_pos _ _⟩
    · exact ⟨⟨⟨le_rfl, by omega⟩, le_rfl⟩, daysInMonth_pos _ _⟩

/-- A year that ends in February has one day more if that is a leap day. -/
theorem toDays_march (year : Int) :
    toDays ⟨year, 3, 1⟩ = toDays ⟨year, 2, 1⟩ + daysInMonth year 2 := by
  by_cases leap : isLeap year = true
  · simp only [daysInMonth, leap, if_true]
    simp only [isLeap, Bool.and_eq_true, Bool.or_eq_true, beq_iff_eq, bne_iff_ne] at leap
    simp [toDays, daysBeforeMonth, daysPerEra]
    omega
  · simp only [daysInMonth, leap]
    simp only [isLeap, Bool.and_eq_true, Bool.or_eq_true, beq_iff_eq, bne_iff_ne] at leap
    simp [toDays, daysBeforeMonth, daysPerEra]
    omega

/-- The days count up, one for each date of the calendar, from the first day of 1970. -/
theorem toDays_next (valid : date.isValid = true) : date.next.toDays = date.toDays + 1 := by
  rcases date with ⟨year, month, day⟩
  simp only [isValid, Bool.and_eq_true, decide_eq_true_eq] at valid
  obtain ⟨⟨⟨first, last⟩, dayFirst⟩, dayLast⟩ := valid
  unfold next
  split
  · simp only [toDays]
    omega
  · next isLast =>
    have isLast : day = daysInMonth year month := Nat.le_antisymm dayLast (Nat.le_of_not_lt isLast)
    subst isLast
    interval_cases month
    case «2» =>
      have march := toDays_march year
      have positive := daysInMonth_pos year 2
      simp [toDays] at march ⊢
      omega
    all_goals
      simp [toDays, daysBeforeMonth, daysInMonth]
      omega

end Date

end Triage
