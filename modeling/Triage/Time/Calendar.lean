namespace Triage

/-! Days of the Gregorian calendar, extended in both directions, and moments in
Coordinated Universal Time. -/

/-- A day of the calendar. -/
structure Date where
  year : Int
  month : Nat
  day : Nat
deriving DecidableEq, Repr

namespace Date

def isLeap (year : Int) : Bool :=
  year % 4 == 0 && (year % 100 != 0 || year % 400 == 0)

def daysInMonth (year : Int) (month : Nat) : Nat :=
  match month with
  | 2 => if isLeap year then 29 else 28
  | 4 | 6 | 9 | 11 => 30
  | _ => 31

def leastYear : Int := -262143

def greatestYear : Int := 262142

def isValid (date : Date) : Bool :=
  1 ≤ date.month && date.month ≤ 12 && 1 ≤ date.day &&
    date.day ≤ daysInMonth date.year date.month

def inRange (date : Date) : Bool :=
  leastYear ≤ date.year && date.year ≤ greatestYear

/-! Years are counted from March, so that a leap day is the last of its year, and
in eras of 400 years, which all have the same number of days. -/

def daysPerEra : Nat := 146097

/-- Days from March 1 to the first of a month counted from March. -/
def daysBeforeMonth (monthFromMarch : Nat) : Nat :=
  (153 * monthFromMarch + 2) / 5

/-- Days since 1970-01-01. -/
def toDays (date : Date) : Int :=
  let year := if date.month ≤ 2 then date.year - 1 else date.year
  let era := year / 400
  let yearOfEra := (year % 400).toNat
  let monthFromMarch := if 2 < date.month then date.month - 3 else date.month + 9
  let dayOfYear := daysBeforeMonth monthFromMarch + date.day - 1
  let dayOfEra := yearOfEra * 365 + yearOfEra / 4 - yearOfEra / 100 + dayOfYear
  era * daysPerEra + dayOfEra - 719468

def ofDays (days : Int) : Date :=
  let shifted := days + 719468
  let era := shifted / daysPerEra
  let dayOfEra := (shifted % daysPerEra).toNat
  let yearOfEra := (dayOfEra - dayOfEra / 1460 + dayOfEra / 36524 - dayOfEra / 146096) / 365
  let dayOfYear := dayOfEra - (365 * yearOfEra + yearOfEra / 4 - yearOfEra / 100)
  let monthFromMarch := (5 * dayOfYear + 2) / 153
  let month := if monthFromMarch < 10 then monthFromMarch + 3 else monthFromMarch - 9
  let year := era * 400 + yearOfEra
  { year := if month ≤ 2 then year + 1 else year
    month := month
    day := dayOfYear - daysBeforeMonth monthFromMarch + 1 }

example : toDays ⟨1970, 1, 1⟩ = 0 ∧ toDays ⟨2000, 2, 29⟩ = 11016 := by decide

example : ofDays 0 = ⟨1970, 1, 1⟩ ∧ ofDays (-1) = ⟨1969, 12, 31⟩ := by decide

end Date

def secondsPerDay : Nat := 86400

/-- Seconds since 1970-01-01T00:00:00Z and nanoseconds. A leap second lengthens
the second before it: then there are a thousand million nanoseconds or more. -/
structure Instant where
  seconds : Int
  nanos : Nat
deriving DecidableEq, Repr

namespace Instant

def ofSeconds? (seconds : Int) : Option Instant :=
  if (Date.ofDays (seconds / secondsPerDay)).inRange then some ⟨seconds, 0⟩ else none

def date (instant : Instant) : Date :=
  .ofDays (instant.seconds / secondsPerDay)

def secondOfDay (instant : Instant) : Nat :=
  (instant.seconds % secondsPerDay).toNat

def hour (instant : Instant) : Nat :=
  instant.secondOfDay / 3600

def minute (instant : Instant) : Nat :=
  instant.secondOfDay / 60 % 60

/-- Sixty in a leap second. -/
def second (instant : Instant) : Nat :=
  instant.secondOfDay % 60 + instant.nanos / 1000000000

def fraction (instant : Instant) : Nat :=
  instant.nanos % 1000000000

end Instant

end Triage
