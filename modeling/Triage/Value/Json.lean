import Triage.Value.Syntax

namespace Triage

/-! Numbers of a JSON text. An integer that fits 64 bits, signed or not, is kept;
everything else becomes a float. A float is read from at most as many digits as
fit 64 bits and then scaled by a power of ten, each of the two steps rounding on
its own. -/

namespace Json

def greatestWord : Nat := twoPow 64 - 1

/-- The digits read so far: those that fit, how many did not, and whether one did
not. -/
structure Digits where
  significand : Nat
  dropped : Int
  full : Bool
deriving DecidableEq, Repr

/-- Digits before the point; once one does not fit, the others only count. -/
def Digits.pushWhole (digits : Digits) (char : Char) : Digits :=
  let value := digits.significand * 10 + (char.toNat - '0'.toNat)
  if digits.full || greatestWord < value then
    { digits with dropped := digits.dropped + 1, full := true }
  else { digits with significand := value }

/-- Digits behind the point; the first that does not fit ends the reading. -/
def Digits.pushFraction (digits : Digits) (char : Char) : Digits :=
  let value := digits.significand * 10 + (char.toNat - '0'.toNat)
  if digits.full || greatestWord < value then { digits with full := true }
  else { digits with significand := value, dropped := digits.dropped - 1 }

def powerOfTen (exponent : Nat) : Binary64 :=
  (Binary64.ofQuotient? false (tenPow exponent) 1).getD (.zero false)

/-- `value · 10 ^ exponent`, or nothing when that is too large. -/
def scale? (value : Binary64) (exponent : Int) : (fuel : Nat) → Option Binary64
  | 0 => some value
  | fuel + 1 =>
      if value.isZero then some value
      else if 0 ≤ exponent then
        if 308 < exponent then none else value.mul? (powerOfTen exponent.toNat)
      else if exponent < -308 then
        (value.div? (powerOfTen 308)).bind fun smaller => scale? smaller (exponent + 308) fuel
      else value.div? (powerOfTen (-exponent).toNat)

def float? (negative : Bool) (significand : Nat) (exponent : Int) : Option Number := do
  let magnitude ← Binary64.ofQuotient? false significand 1
  let scaled ← scale? magnitude exponent 8
  return .float { scaled with negative := negative }

def number? (lexeme : Chars) : Option Number :=
  let (negative, unsigned) := match lexeme with
    | '-' :: rest => (true, rest)
    | _ => (false, lexeme)
  let (whole, rest) := takeDigits unsigned
  let digits := whole.foldl Digits.pushWhole ⟨0, 0, false⟩
  match rest with
  | [] =>
      if digits.full then float? negative digits.significand digits.dropped
      else if !negative then some (.integer digits.significand)
      else if digits.significand == 0 || twoPow 63 < digits.significand then
        float? true digits.significand 0
      else some (.integer (-(digits.significand : Int)))
  | _ =>
      let (fraction, rest) := match rest with
        | '.' :: rest => takeDigits rest
        | _ => ([], rest)
      let digits := fraction.foldl Digits.pushFraction { digits with full := false }
      let exponent := match rest with
        | _ :: exponent => (Decimal.exponent? exponent).getD 0
        | [] => 0
      float? negative digits.significand (digits.dropped + exponent)

example : number? ['4', '2'] = some (.integer 42) := by decide

example : number? ['-', '0'] = some (.float (.zero true)) := by decide

/-- How deep the arrays and objects of a text may nest. -/
def depthLimit : Nat := 127

end Json

namespace Value

open Json (Node)

mutual
/-- The value of a tree; of repeated keys the last counts. -/
def ofNode? (depth : Nat) : Node → Option Value
  | .null => some .null
  | .bool flag => some (.bool flag)
  | .number lexeme => (Json.number? lexeme).map .number
  | .string text => some (.string text)
  | .unpaired => none
  | .array items =>
      match depth with
      | 0 => none
      | depth + 1 => (ofNodes? depth items).map .array
  | .object members =>
      match depth with
      | 0 => none
      | depth + 1 => (ofMembers? depth members).map ofFields

def ofNodes? (depth : Nat) : List Node → Option (List Value)
  | [] => some []
  | node :: rest => do return (← ofNode? depth node) :: (← ofNodes? depth rest)

def ofMembers? (depth : Nat) : List (String × Node) → Option (List (String × Value))
  | [] => some []
  | (key, node) :: rest => do return (key, ← ofNode? depth node) :: (← ofMembers? depth rest)
end

mutual
def toNode : Value → Node
  | .null => .null
  | .bool flag => .bool flag
  | .number value => .number value.text.toList
  | .string text => .string text
  | .array items => .array (toNodes items)
  | .object fields => .object (toMembers fields)

def toNodes : List Value → List Node
  | [] => []
  | value :: rest => value.toNode :: toNodes rest

def toMembers : List (String × Value) → List (String × Node)
  | [] => []
  | (key, value) :: rest => (key, value.toNode) :: toMembers rest
end

def read? (text : String) : Option Value :=
  (Node.read? text.toList).bind (ofNode? Json.depthLimit)

/-- The text without spaces. -/
def text (value : Value) : String :=
  String.ofList value.toNode.compact

/-- The text for people: a string as it is, and an absent value by name. -/
def plainText : Value → String
  | .string text => text
  | .null => "unset"
  | other => other.text

end Value

namespace Json

/-! Reading records. A record is an object of known fields, none of them twice,
whose other fields do not matter; or an array of the fields in order. -/

/-- What a record says about one field. -/
inductive Slot where
  | present (node : Node)
  /-- The object has no such field. -/
  | missing
  /-- The array ends before the field. -/
  | beyond
deriving Inhabited

namespace Slot

def required? {α : Type} (decode : Node → Option α) : Slot → Option α
  | .present node => decode node
  | _ => none

/-- A field that may be null, or missing from an object. -/
def optional? {α : Type} (decode : Node → Option α) : Slot → Option (Option α)
  | .present .null | .missing => some none
  | .present node => (decode node).map some
  | .beyond => none

def withDefault? {α : Type} (default : α) (decode : Node → Option α) : Slot → Option α
  | .present node => decode node
  | _ => some default

end Slot

def slotOf (members : List (String × Node)) (name : String) : Option Slot :=
  match members.filter (·.1 == name) with
  | [] => some .missing
  | [(_, node)] => some (.present node)
  | _ => none

def slotsFromItems : List String → List Node → Option (List Slot)
  | [], [] => some []
  | [], _ :: _ => none
  | _ :: names, [] => (slotsFromItems names []).map (Slot.beyond :: ·)
  | _ :: names, node :: rest => (slotsFromItems names rest).map (Slot.present node :: ·)

def Node.slots? (names : List String) : Node → Option (List Slot)
  | .object members => names.mapM (slotOf members)
  | .array items => slotsFromItems names items
  | _ => none

def Node.string? : Node → Option String
  | .string text => some text
  | _ => none

/-- The name of a choice: a string, or an object with that one key and nothing
to say about it. -/
def Node.choice? : Node → Option String
  | .string text => some text
  | .object [(name, .null)] => some name
  | _ => none

def Node.bool? : Node → Option Bool
  | .bool flag => some flag
  | _ => none

/-- An unsigned integer below `bound`. -/
def Node.nat? (bound : Nat) : Node → Option Nat
  | .number lexeme =>
      match number? lexeme with
      | some (.integer value) => if 0 ≤ value ∧ value.toNat < bound then some value.toNat else none
      | _ => none
  | _ => none

def Node.ofNat (value : Nat) : Node :=
  .number (toString value).toList

def Node.ofOption {α : Type} (encode : α → Node) : Option α → Node
  | some value => encode value
  | none => .null

end Json

end Triage
