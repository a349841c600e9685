import Triage.Number.Binary64

namespace Triage.Shortest

/-! The decimal text of a number has the fewest digits that still round to it,
and of those the nearest. -/

/-- A positive number as a quotient, with the ends of the interval of quotients
that round to it. All three share the denominator. -/
structure Interval where
  low : Nat
  value : Nat
  high : Nat
  denominator : Nat
  /-- Whether the ends round to the number too. -/
  closed : Bool
deriving Repr

def intervalOf (number : Binary64) : Interval :=
  -- Below a power of two the next number is only half as far away.
  let narrow := number.significand == twoPow 52 && number.exponent != Binary64.leastExponent
  let scale := twoPow number.exponent.toNat
  { low := (4 * number.significand - (if narrow then 1 else 2)) * scale
    value := 4 * number.significand * scale
    high := (4 * number.significand + 2) * scale
    denominator := 4 * number.denominator
    closed := number.significand % 2 == 0 }

/-- Whether `digits · 10 ^ place` rounds to the number. -/
def Interval.holds (interval : Interval) (digits : Nat) (place : Int) : Bool :=
  let scaled := digits * tenPow place.toNat * interval.denominator
  let unit := tenPow (-place).toNat
  if interval.closed then interval.low * unit ≤ scaled && scaled ≤ interval.high * unit
  else interval.low * unit < scaled && scaled < interval.high * unit

/-- The decimal exponent of the first digit. -/
def leadingPlace (numerator denominator : Nat) : Int :=
  go 700 (-330)
where
  go : Nat → Int → Int
    | 0, place => place
    | fuel + 1, place =>
        let next := place + 1
        if denominator * tenPow next.toNat ≤ numerator * tenPow (-next).toNat then go fuel next
        else place

/-- The better of the two neighbours of the number on the grid of `10 ^ place`,
if one of them rounds to the number. -/
def onGrid? (interval : Interval) (place : Int) : Option Nat :=
  let numerator := interval.value * tenPow (-place).toNat
  let denominator := interval.denominator * tenPow place.toNat
  let below := numerator / denominator
  let nearest := Binary64.roundQuotient numerator denominator
  let other := if nearest == below then below + 1 else below
  if interval.holds nearest place then some nearest
  else if interval.holds other place then some other
  else none

def search (interval : Interval) (leading : Int) : Nat → Nat → Nat × Int
  | 0, _ => (0, 0)
  | fuel + 1, count =>
      let place := leading - (count : Int)
      match onGrid? interval place with
      | some digits => (digits, place)
      | none => search interval leading fuel (count + 1)

/-- Digits and the decimal place of the last of them, for a number that is not
zero. -/
def digits (number : Binary64) : Nat × Int :=
  let interval := intervalOf number
  search interval (leadingPlace interval.value interval.denominator) 20 0

example : digits ⟨false, 7205759403792794, -56⟩ = (1, -1) := by decide +kernel

/-! Positional notation has at least one digit behind the point. It is used while
the first digit stands at a place from `10 ^ -5` to `10 ^ 15`; beyond that a
signed exponent follows the digits. -/

def positional (text : String) (first : Int) : String :=
  let digits := text.toList
  if first < 0 then
    String.ofList ("0.".toList ++ List.replicate (-first - 1).toNat '0' ++ digits)
  else
    let whole := digits.take (first.toNat + 1)
    let fraction := digits.drop (first.toNat + 1)
    let whole := whole ++ List.replicate (first.toNat + 1 - whole.length) '0'
    String.ofList (whole ++ ['.'] ++ (if fraction.isEmpty then ['0'] else fraction))

def scientific (text : String) (first : Int) : String :=
  let mantissa :=
    match text.toList with
    | lead :: [] => [lead]
    | lead :: rest => lead :: '.' :: rest
    | [] => []
  String.ofList mantissa ++ "e" ++ (if first < 0 then "-" else "+") ++ toString first.natAbs

/-- Trailing zeros of the digits say nothing. -/
def stripZeros : Nat → Nat × Int → Nat × Int
  | 0, result => result
  | fuel + 1, (digits, place) =>
      if digits != 0 && digits % 10 == 0 then stripZeros fuel (digits / 10, place + 1)
      else (digits, place)

end Triage.Shortest

namespace Triage.Binary64

def text (number : Binary64) : String :=
  let sign := if number.negative then "-" else ""
  if number.isZero then sign ++ "0.0"
  else
    let (digits, place) := Shortest.stripZeros 20 (Shortest.digits number)
    let text := toString digits
    let first := place + (text.length : Int) - 1
    sign ++ (if -5 ≤ first ∧ first ≤ 15 then Shortest.positional text first
      else Shortest.scientific text first)

end Triage.Binary64
