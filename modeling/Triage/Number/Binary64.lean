import Triage.Number.Power

namespace Triage

/-! Finite double precision numbers, held exactly. Everything that rounds is
integer arithmetic on quotients, so results can be computed in proofs. -/

/-- The number `± significand · 2 ^ exponent`. A number has one representation:
the significand is below `2 ^ 53`, and it is at least `2 ^ 52` unless the exponent
is the least one. -/
structure Binary64 where
  negative : Bool
  significand : Nat
  exponent : Int
deriving DecidableEq, Repr

namespace Binary64

def leastExponent : Int := -1074

def greatestExponent : Int := 971

def zero (negative : Bool) : Binary64 :=
  ⟨negative, 0, leastExponent⟩

def isZero (number : Binary64) : Bool :=
  number.significand == 0

/-- Equal as numbers: the two zeros are. -/
def same (left right : Binary64) : Bool :=
  left == right || (left.isZero && right.isZero)

/-- The quotient rounded to an integer, a half to the even neighbour. -/
def roundQuotient (numerator denominator : Nat) : Nat :=
  let quotient := numerator / denominator
  let remainder := numerator % denominator
  if 2 * remainder < denominator then quotient
  else if denominator < 2 * remainder then quotient + 1
  else quotient + quotient % 2

example : roundQuotient 5 2 = 2 ∧ roundQuotient 7 2 = 4 ∧ roundQuotient 8 3 = 3 := by decide

/-- `numerator / denominator · 2 ^ (- exponent)`, rounded to an integer. -/
def significandAt (numerator denominator : Nat) (exponent : Int) : Nat :=
  roundQuotient (numerator * twoPow (-exponent).toNat) (denominator * twoPow exponent.toNat)

/-- The largest exponent with which the quotient still has 53 digits, or the
least exponent there is. -/
def exponentFor (numerator denominator : Nat) : Int :=
  let guess : Int := (numerator.log2 : Int) - (denominator.log2 : Int) - 53
  let fits (exponent : Int) : Bool :=
    denominator * twoPow (exponent + 52).toNat ≤
      numerator * twoPow (-(exponent + 52)).toNat
  let exponent := if fits (guess + 1) then guess + 1 else guess
  max exponent leastExponent

/-- The nearest number to the quotient, or nothing when it is out of range. -/
def ofQuotient? (negative : Bool) (numerator denominator : Nat) : Option Binary64 :=
  if numerator = 0 then some (zero negative)
  else
    let exponent := exponentFor numerator denominator
    let significand := significandAt numerator denominator exponent
    let carried := significand == twoPow 53
    let exponent := if carried then exponent + 1 else exponent
    let significand := if carried then twoPow 52 else significand
    if greatestExponent < exponent then none else some ⟨negative, significand, exponent⟩

example : ofQuotient? false 1 1 = some ⟨false, twoPow 52, -52⟩ := by decide

example : ofQuotient? false 1 10 = some ⟨false, 7205759403792794, -56⟩ := by decide

def ofInt (value : Int) : Binary64 :=
  (ofQuotient? (value < 0) value.natAbs 1).getD (zero false)

def numerator (number : Binary64) : Nat :=
  number.significand * twoPow number.exponent.toNat

def denominator (number : Binary64) : Nat :=
  twoPow (-number.exponent).toNat

def neg (number : Binary64) : Binary64 :=
  { number with negative := !number.negative }

def mul? (left right : Binary64) : Option Binary64 :=
  ofQuotient? (left.negative != right.negative) (left.numerator * right.numerator)
    (left.denominator * right.denominator)

/-- The divisor is not zero. -/
def div? (left right : Binary64) : Option Binary64 :=
  ofQuotient? (left.negative != right.negative) (left.numerator * right.denominator)
    (left.denominator * right.numerator)

end Binary64

end Triage
