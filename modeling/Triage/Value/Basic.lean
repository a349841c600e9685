import Triage.Number.Decimal
import Triage.Number.Shortest

namespace Triage

/-! Values of parameters and attributes: what a JSON text can say. -/

inductive Number where
  /-- From `-2 ^ 63` to `2 ^ 64 - 1`. -/
  | integer (value : Int)
  | float (value : Binary64)
deriving DecidableEq, Repr

namespace Number

def text : Number → String
  | .integer value => toString value
  | .float value => value.text

/-- The number as a signed integer of 64 bits; a float is never one. -/
def int? : Number → Option Int
  | .integer value => if Decimal.fitsInt value then some value else none
  | .float _ => none

def toBinary64 : Number → Binary64
  | .integer value => .ofInt value
  | .float value => value

def same : Number → Number → Bool
  | .integer left, .integer right => left == right
  | .float left, .float right => left.same right
  | _, _ => false

end Number

/-- The fields of an object ascend by key, without repetition. -/
inductive Value where
  | null
  | bool (flag : Bool)
  | number (number : Number)
  | string (text : String)
  | array (items : List Value)
  | object (fields : List (String × Value))
deriving Repr, Inhabited

namespace Value

def integer (value : Int) : Value :=
  .number (.integer value)

/-! Equality of values; it tells an integer from a float, and not one zero from
the other. -/

mutual
def same : Value → Value → Bool
  | .null, .null => true
  | .bool left, .bool right => left == right
  | .number left, .number right => left.same right
  | .string left, .string right => left == right
  | .array left, .array right => sameItems left right
  | .object left, .object right => sameFields left right
  | _, _ => false

def sameItems : List Value → List Value → Bool
  | [], [] => true
  | left :: lefts, right :: rights => same left right && sameItems lefts rights
  | _, _ => false

def sameFields : List (String × Value) → List (String × Value) → Bool
  | [], [] => true
  | (key, left) :: lefts, (other, right) :: rights =>
      key == other && same left right && sameFields lefts rights
  | _, _ => false
end

def isNull : Value → Bool
  | .null => true
  | _ => false

def string? : Value → Option String
  | .string text => some text
  | _ => none

def field? (key : String) : Value → Option Value
  | .object fields => fields.lookup key
  | _ => none

/-- A field that holds a text. -/
def textField? (key : String) (value : Value) : Option String :=
  (value.field? key).bind string?

/-- Keys are compared by their characters; an equal key gives way. -/
def insertField (key : String) (value : Value) :
    List (String × Value) → List (String × Value)
  | [] => [(key, value)]
  | (other, held) :: rest =>
      if key == other then (key, value) :: rest
      else if key < other then (key, value) :: (other, held) :: rest
      else (other, held) :: insertField key value rest

def ofFields (fields : List (String × Value)) : Value :=
  .object (fields.foldl (fun sorted (key, value) => insertField key value sorted) [])

/-! Addressing parts of a value. Segments are field names or, in an array,
decimal positions; empty segments stand for nothing. -/

/-- A position of an array: digits, with an optional plus sign. -/
def position? (segment : Chars) : Option Nat :=
  match segment with
  | '+' :: digits => bounded digits
  | digits => bounded digits
where
  bounded (digits : Chars) : Option Nat :=
    (Decimal.nat? digits).filter (· < twoPow 64)

def child? (segment : String) : Value → Option Value
  | .object fields => fields.lookup segment
  | .array items => (position? segment.toList).bind (items[·]?)
  | _ => none

def descend? : List String → Value → Option Value
  | [], value => some value
  | segment :: rest, value => (value.child? segment).bind (descend? rest)

def segments (path : String) : List String :=
  (Text.split '.' path).filter (· != "")

def at? (path : String) (value : Value) : Option Value :=
  value.descend? (segments path)

end Value

end Triage
