import Triage.Text.Chars
import Triage.Number.Binary64

namespace Triage.Decimal

/-! Numbers written in decimal digits. -/

def digitValue? (char : Char) : Option Nat :=
  if '0' ≤ char ∧ char ≤ '9' then some (char.toNat - '0'.toNat) else none

def natFrom (value : Nat) : Chars → Option Nat
  | [] => some value
  | char :: rest =>
      match digitValue? char with
      | some digit => natFrom (value * 10 + digit) rest
      | none => none

def nat? (chars : Chars) : Option Nat :=
  if chars.isEmpty then none else natFrom 0 chars

/-- Why a text is not an integer of 64 bits. -/
inductive IntError where
  | empty
  | invalidDigit
  | tooLarge
  | tooSmall
deriving DecidableEq, Repr

def IntError.message : IntError → String
  | .empty => "cannot parse integer from empty string"
  | .invalidDigit => "invalid digit found in string"
  | .tooLarge => "number too large to fit in target type"
  | .tooSmall => "number too small to fit in target type"

def leastInt : Int := -(twoPow 63 : Nat)

def greatestInt : Int := (twoPow 63 : Nat) - 1

def fitsInt (value : Int) : Bool :=
  leastInt ≤ value && value ≤ greatestInt

/-- Digits are read from the left, so a bad digit counts only if the digits
before it still fit. -/
def intFrom (negative : Bool) (value : Int) : Chars → Except IntError Int
  | [] => .ok value
  | char :: rest =>
      match digitValue? char with
      | none => .error .invalidDigit
      | some digit =>
          let value := if negative then value * 10 - digit else value * 10 + digit
          if value < leastInt then .error .tooSmall
          else if greatestInt < value then .error .tooLarge
          else intFrom negative value rest

/-- An integer of 64 bits, with an optional sign. -/
def int (chars : Chars) : Except IntError Int :=
  match chars with
  | [] => .error .empty
  | ['+'] | ['-'] => .error .invalidDigit
  | '+' :: rest => intFrom false 0 rest
  | '-' :: rest => intFrom true 0 rest
  | rest => intFrom false 0 rest

def int? (chars : Chars) : Option Int :=
  (int chars).toOption

/-! Fractions. -/

/-- `digits · 10 ^ place` as the nearest number. Places far outside the range
are not multiplied out. -/
def toBinary64? (negative : Bool) (digits : Nat) (place : Int) : Option Binary64 :=
  if digits = 0 then some (.zero negative)
  else
    let leading := place + (toString digits).length
    if 400 < leading then none
    else if leading < -400 then some (.zero negative)
    else Binary64.ofQuotient? negative (digits * tenPow place.toNat) (tenPow (-place).toNat)

/-- An exponent behind `e`; absent digits are no exponent. -/
def exponent? (chars : Chars) : Option Int :=
  match chars with
  | '+' :: rest => (nat? rest).map Int.ofNat
  | '-' :: rest => (nat? rest).map fun value => -(value : Int)
  | rest => (nat? rest).map Int.ofNat

def isExponentMark (char : Char) : Bool :=
  char == 'e' || char == 'E'

/-- Digits with an optional point and exponent; at least one digit stands before
the exponent. -/
def unsigned? (negative : Bool) (chars : Chars) : Option Binary64 := do
  let mantissa := chars.takeWhile fun char => !isExponentMark char
  let place ←
    match chars.dropWhile fun char => !isExponentMark char with
    | [] => some 0
    | _ :: rest => exponent? rest
  let (whole, fraction) := (Chars.cut? '.' mantissa).getD (mantissa, [])
  let digits ← nat? (whole ++ fraction)
  toBinary64? negative digits (place - fraction.length)

/-- A finite number; the names of infinities and of not-a-number are none. -/
def float? (chars : Chars) : Option Binary64 :=
  match chars with
  | '+' :: rest => unsigned? false rest
  | '-' :: rest => unsigned? true rest
  | rest => unsigned? false rest

end Triage.Decimal
