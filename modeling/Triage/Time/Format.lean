import Triage.Text.Chars
import Triage.Time.Calendar

namespace Triage

/-! Moments as text. -/

/-- At least `width` digits. -/
def padded (width : Nat) (value : Nat) : String :=
  let digits := toString value
  String.ofList (List.replicate (width - digits.length) '0') ++ digits

/-- Four digits, and a sign when the year does not lie between 0 and 9999. -/
def yearText (year : Int) : String :=
  if 0 ≤ year ∧ year ≤ 9999 then padded 4 year.toNat
  else (if year < 0 then "-" else "+") ++ padded 4 year.natAbs

namespace Instant

def dateText (instant : Instant) : String :=
  let date := instant.date
  s!"{yearText date.year}-{padded 2 date.month}-{padded 2 date.day}"

def clockText (instant : Instant) : String :=
  s!"{padded 2 instant.hour}:{padded 2 instant.minute}:{padded 2 instant.second}"

/-- Three, six or nine digits, as many as are needed. -/
def fractionText (instant : Instant) : String :=
  let fraction := instant.fraction
  if fraction = 0 then ""
  else if fraction % 1000000 = 0 then "." ++ padded 3 (fraction / 1000000)
  else if fraction % 1000 = 0 then "." ++ padded 6 (fraction / 1000)
  else "." ++ padded 9 fraction

def toSecondsText (instant : Instant) : String :=
  instant.dateText ++ "T" ++ instant.clockText ++ "Z"

def toText (instant : Instant) : String :=
  instant.dateText ++ "T" ++ instant.clockText ++ instant.fractionText ++ "Z"

def toOffsetText (instant : Instant) : String :=
  instant.dateText ++ "T" ++ instant.clockText ++ instant.fractionText ++ "+00:00"

/-- The moment as a part of a file name. -/
def toFileText (instant : Instant) : String :=
  let date := instant.date
  Text.join "_"
    [yearText date.year, padded 2 date.month, padded 2 date.day,
      padded 2 instant.hour, padded 2 instant.minute, padded 2 instant.second]

end Instant

end Triage
