import Triage.Number.Decimal
import Triage.Time.Calendar

namespace Triage.TimeText

/-! Reading moments. Every function takes characters from the front and returns
the rest. -/

/-- From `least` to `most` digits. -/
def digits? (least most : Nat) (chars : Chars) : Option (Nat × Chars) :=
  let digits := (chars.take most).takeWhile Char.isDigit
  if digits.length < least then none
  else (Decimal.nat? digits).map fun value => (value, chars.drop digits.length)

def expect? (char : Char) : Chars → Option Chars
  | found :: rest => if found == char then some rest else none
  | [] => none

def within? (least most : Nat) (value : Nat) : Option Nat :=
  if least ≤ value ∧ value ≤ most then some value else none

/-- Nine digits count; there may be more. -/
def nanos? (chars : Chars) : Option (Nat × Chars) := do
  let (value, rest) ← digits? 1 9 chars
  return (value * tenPow (9 - (chars.length - rest.length)), rest.dropWhile Char.isDigit)

def optionalNanos? : Chars → Option (Nat × Chars)
  | '.' :: rest => nanos? rest
  | rest => some (0, rest)

/-- An offset from UTC in seconds; `separator` reads what stands between hours
and minutes. -/
def offset? (separator : Chars → Option Chars) (chars : Chars) : Option (Int × Chars) :=
  match chars with
  | 'Z' :: rest | 'z' :: rest => some (0, rest)
  | sign :: rest => do
      let negative ←
        if sign == '+' then some false
        else if sign == '-' || sign == '−' then some true
        else none
      let (hours, rest) ← digits? 2 2 rest
      let rest ← separator rest
      let (minutes, rest) ← digits? 2 2 rest
      let minutes ← within? 0 59 minutes
      let seconds : Int := hours * 3600 + minutes * 60
      return (if negative then -seconds else seconds, rest)
  | [] => none

/-- A second numbered sixty lengthens the one before it. -/
def instant? (date : Date) (hour minute second nanos : Nat) (offset : Int) : Option Instant := do
  let hour ← within? 0 23 hour
  let minute ← within? 0 59 minute
  let second ← within? 0 60 second
  if !(date.isValid && date.inRange) then none
  let (second, nanos) := if second == 60 then (59, nanos + 1000000000) else (second, nanos)
  let seconds := date.toDays * secondsPerDay + (hour * 3600 + minute * 60 + second : Nat) - offset
  if (Date.ofDays (seconds / secondsPerDay)).inRange then some ⟨seconds, nanos⟩ else none

def offsetInRange (offset : Int) : Bool :=
  offset.natAbs ≤ (23 * 60 + 59) * 60

def isDateEnd (char : Char) : Bool :=
  char == 'T' || char == 't' || char == ' '

/-! The strict form: date, time and offset in full. -/

/-- Why a text is not a moment. -/
inductive TimeError where
  | tooShort
  | invalid
  | outOfRange
  | tooLong
deriving DecidableEq, Repr

def TimeError.message : TimeError → String
  | .tooShort => "premature end of input"
  | .invalid => "input contains invalid characters"
  | .outOfRange => "input is out of range"
  | .tooLong => "trailing input"

/-- The clock part has a fixed length, counted in bytes; it is checked first. -/
def leastBytes : Nat := 19

def digit (place : Nat) (chars : Chars) : Except TimeError Nat :=
  match (chars[place]?).bind Decimal.digitValue? with
  | some value => .ok value
  | none => .error .invalid

def twoDigits (place : Nat) (chars : Chars) : Except TimeError Nat := do
  return (← digit place chars) * 10 + (← digit (place + 1) chars)

def mark (place : Nat) (isMark : Char → Bool) (chars : Chars) : Except TimeError Unit :=
  if (chars[place]?).any isMark then .ok () else .error .invalid

def dateOf (chars : Chars) : Except TimeError Date := do
  let century ← twoDigits 0 chars
  let year ← twoDigits 2 chars
  mark 4 (· == '-') chars
  let month ← twoDigits 5 chars
  mark 7 (· == '-') chars
  let day ← twoDigits 8 chars
  let date : Date := ⟨(century * 100 + year : Nat), month, day⟩
  if date.isValid then return date else throw .outOfRange

/-- Hour, minute and second. -/
def clockOf (chars : Chars) : Except TimeError (Nat × Nat × Nat) := do
  mark 10 isDateEnd chars
  let hour ← twoDigits 11 chars
  mark 13 (· == ':') chars
  let minute ← twoDigits 14 chars
  mark 16 (· == ':') chars
  return (hour, minute, ← twoDigits 17 chars)

def fractionOf : Chars → Except TimeError (Nat × Chars)
  | ['.'] => .error .tooShort
  | '.' :: rest =>
      match nanos? rest with
      | some found => .ok found
      | none => .error .invalid
  | rest => .ok (0, rest)

/-- Two digits at the front. -/
def pairOf : Chars → Except TimeError (Nat × Chars)
  | tens :: ones :: rest => do return (← twoDigits 0 [tens, ones], rest)
  | _ => .error .tooShort

/-- Hours and minutes behind a sign, in seconds. -/
def distanceOf (chars : Chars) : Except TimeError (Nat × Chars) := do
  let (hours, rest) ← pairOf chars
  match rest with
  | [] => throw .tooShort
  | ':' :: rest =>
      let (minutes, rest) ← pairOf rest
      if 60 ≤ minutes then throw .outOfRange
      return (hours * 3600 + minutes * 60, rest)
  | _ => throw .invalid

def offsetOf : Chars → Except TimeError (Int × Chars)
  | [] => .error .tooShort
  | sign :: rest =>
      if sign == 'Z' || sign == 'z' then .ok (0, rest)
      else if sign == '+' then do
        let (seconds, rest) ← distanceOf rest
        return (seconds, rest)
      else if sign == '-' || sign == '−' then do
        let (seconds, rest) ← distanceOf rest
        return (-(seconds : Int), rest)
      else .error .invalid

def rfc3339 (chars : Chars) : Except TimeError Instant := do
  if chars.byteLength < leastBytes then throw .tooShort
  let date ← dateOf chars
  let (hour, minute, second) ← clockOf chars
  let (nanos, rest) ← fractionOf (chars.drop leastBytes)
  if 23 < hour || 59 < minute || 60 < second then throw .outOfRange
  let (offset, rest) ← offsetOf rest
  if !rest.isEmpty then throw .tooLong
  if !offsetInRange offset then throw .outOfRange
  match instant? date hour minute second nanos offset with
  | some instant => return instant
  | none => throw .outOfRange

def rfc3339? (chars : Chars) : Option Instant :=
  (rfc3339 chars).toOption

/-- A number with white space before it. -/
def number? (most : Nat) (chars : Chars) : Option (Nat × Chars) :=
  digits? 1 most chars.trimStart

/-- A year may have a sign, and only then more than four digits. -/
def year? (chars : Chars) : Option (Int × Chars) :=
  match chars.trimStart with
  | '-' :: rest => (digits? 1 rest.length rest).map fun (value, rest) => (-(value : Int), rest)
  | '+' :: rest => (digits? 1 rest.length rest).map fun (value, rest) => ((value : Int), rest)
  | rest => (digits? 1 4 rest).map fun (value, rest) => ((value : Int), rest)

/-- Year, month and day of a whole text. -/
def date? (chars : Chars) : Option Date := do
  let (year, rest) ← year? chars
  let rest ← expect? '-' rest
  let (month, rest) ← number? 2 rest
  let rest ← expect? '-' rest
  let (day, rest) ← number? 2 rest
  let date : Date := ⟨year, month, day⟩
  if rest.isEmpty && date.isValid && date.inRange then some date else none

def isOffsetSeparator (char : Char) : Bool :=
  char == ':' || Text.isBlank char

/-- The lenient form that documents are read with: white space may stand between
the parts, numbers may be short, and the offset may be the name of UTC. -/
def lenient? (chars : Chars) : Option Instant := do
  let (year, rest) ← year? chars
  let rest ← expect? '-' (Chars.trimStart rest)
  let (month, rest) ← number? 2 rest
  let rest ← expect? '-' (Chars.trimStart rest)
  let (day, rest) ← number? 2 rest
  let rest ← match rest with
    | char :: rest => if isDateEnd char then some rest else none
    | [] => none
  let (hour, rest) ← number? 2 rest
  let rest ← expect? ':' (Chars.trimStart rest)
  let (minute, rest) ← number? 2 rest
  let rest ← expect? ':' (Chars.trimStart rest)
  let (second, rest) ← number? 2 rest
  let (nanos, rest) ← optionalNanos? rest
  let rest := Chars.trimStart rest
  let (offset, rest) ←
    if (rest.take 3).map Char.toUpper == ['U', 'T', 'C'] then some (0, rest.drop 3)
    else offset? (fun chars => some (chars.dropWhile isOffsetSeparator)) rest
  if !(rest.all Text.isBlank) || secondsPerDay ≤ offset.natAbs then none
  instant? ⟨year, month, day⟩ hour minute second nanos offset

end Triage.TimeText

namespace Triage.Instant

def ofRfc3339 (text : String) : Except TimeText.TimeError Instant :=
  TimeText.rfc3339 text.toList

end Triage.Instant
