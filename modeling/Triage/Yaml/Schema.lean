import Triage.Value.Basic
import Triage.Yaml.Node

namespace Triage.Yaml

/-! The core schema: what plain scalars stand for. -/

namespace Plain

def isNull (text : String) : Bool :=
  ["null", "Null", "NULL", "~"].contains text

def flag? (text : String) : Option Bool :=
  if ["true", "True", "TRUE"].contains text then some true
  else if ["false", "False", "FALSE"].contains text then some false
  else none

/-- Digits behind a superfluous zero are no number. -/
def isPadded (text : Chars) : Bool :=
  let digits := match text with
    | '+' :: rest | '-' :: rest => rest
    | _ => text
  1 < digits.length && digits.head? == some '0' && digits.all Char.isDigit

def digitsFrom? (radix value : Nat) : Chars → Option Nat
  | [] => some value
  | char :: rest =>
      match (Json.hexValue? char).filter (· < radix) with
      | some digit => digitsFrom? radix (value * radix + digit) rest
      | none => none

/-- Digits of a radix that the text announces, or else of ten. -/
def magnitude? (text : Chars) : Option Nat :=
  let (radix, digits) := match text with
    | '0' :: 'x' :: rest => (16, rest)
    | '0' :: 'o' :: rest => (8, rest)
    | '0' :: 'b' :: rest => (2, rest)
    | _ => (10, text)
  if digits.isEmpty then none else digitsFrom? radix 0 digits

/-- Integers of more than 128 bits are none. -/
def integer? (text : Chars) : Option Int :=
  if isPadded text then none
  else
    match text with
    | '-' :: rest =>
        ((magnitude? rest).filter (· ≤ twoPow 127)).map fun value => -(value : Int)
    | '+' :: rest => ((magnitude? rest).filter (· < twoPow 128)).map Int.ofNat
    | _ => ((magnitude? text).filter (· < twoPow 128)).map Int.ofNat

/-- An integer that a value can hold. -/
def ofInteger? (value : Int) : Option Value :=
  if -(twoPow 63 : Nat) ≤ value ∧ value < (twoPow 64 : Nat) then some (.integer value) else none

/-- Infinities and what is not a number have no value. -/
def float? (text : Chars) : Option Value :=
  let special :=
    [".inf", ".Inf", ".INF", "+.inf", "+.Inf", "+.INF", "-.inf", "-.Inf", "-.INF", ".nan", ".NaN",
      ".NAN"]
  if special.contains (String.ofList text) then some .null
  else (Decimal.float? text).map fun value => .number (.float value)

/-- A scalar without a tag. An integer that is too large for a value is an error. -/
def toValue? (text : String) : Option Value :=
  let chars := text.toList
  if text == "" || isNull text then some .null
  else
    match flag? text, integer? chars with
    | some flag, _ => some (.bool flag)
    | none, some value => ofInteger? value
    | none, none =>
        some (((if isPadded chars then none else float? chars)).getD (.string text))

end Plain

/-- A scalar by its tag; tags of an application are not understood. -/
def scalarValue? (tag : Option String) (plain : Bool) (text : String) : Option Value :=
  match tag with
  | none => if plain then Plain.toValue? text else some (.string text)
  | some "tag:yaml.org,2002:bool" => (Plain.flag? text).map .bool
  | some "tag:yaml.org,2002:int" => (Plain.integer? text.toList).bind Plain.ofInteger?
  | some "tag:yaml.org,2002:float" => Plain.float? text.toList
  | some "tag:yaml.org,2002:null" => if Plain.isNull text then some .null else none
  | some tag => if Text.hasPrefix "!" tag then none else some (.string text)

namespace Document

/-! What a reader wants of a node. Any scalar is a text, and nothing is an empty
collection. -/

def text? (document : Document) (node : Node) : Option String :=
  match document.follow? node with
  | some (.scalar _ _ text) => some text
  | _ => none

def items? (document : Document) (node : Node) : Option (List Node) :=
  match document.follow? node with
  | some (.sequence _ items) => some items
  | some (.scalar _ true "") => some []
  | _ => none

def entries? (document : Document) (node : Node) : Option (List (Node × Node)) :=
  match document.follow? node with
  | some (.mapping _ entries) => some entries
  | some (.scalar _ true "") => some []
  | _ => none

/-- A mapping with texts for keys; of repeated keys the last counts. -/
def map? {α : Type} (document : Document) (decode : Node → Option α) (node : Node) :
    Option (Entries α) := do
  let entries ← (← document.entries? node).mapM fun (key, value) => do
    return (← document.text? key, ← decode value)
  return .ofList entries

def isLocal (properties : Properties) : Bool :=
  properties.tag.any (Text.hasPrefix "!")

/-- Collections may nest up to `depth`. -/
def value? (document : Document) : (depth : Nat) → Node → Option Value
  | depth, node =>
      match document.follow? node, depth with
      | some (.scalar properties plain text), _ => scalarValue? properties.tag plain text
      | some (.sequence properties items), depth + 1 =>
          if isLocal properties then none
          else (items.mapM (value? document depth)).map .array
      | some (.mapping properties entries), depth + 1 =>
          if isLocal properties then none
          else do
            let fields ← entries.mapM fun (key, value) => do
              return (← document.text? key, ← value? document depth value)
            return Value.ofFields fields
      | _, _ => none

end Document

/-- How deep collections may nest. -/
def depthLimit : Nat := 128

end Triage.Yaml
