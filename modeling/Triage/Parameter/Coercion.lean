import Triage.Parameter.Spec
import Triage.Time.Format
import Triage.Time.Reader
import Triage.Address

namespace Triage

namespace Instant

/-- A moment in any of the accepted spellings: RFC 3339, a date alone for its
midnight, or seconds since 1970. -/
def ofText? (text : Chars) : Option Instant :=
  let text := text.trim
  match TimeText.rfc3339? text with
  | some instant => some instant
  | none =>
      match TimeText.date? text with
      | some date => some ⟨date.toDays * secondsPerDay, 0⟩
      | none => (Decimal.int? text).bind ofSeconds?

def ofValue? : Value → Option Instant
  | .number number => number.int?.bind ofSeconds?
  | .string text => ofText? text.toList
  | _ => none

end Instant

/-! Reading a value as what a step needs, whatever its type is. -/

/-- A flag in words or digits. -/
def Text.flag? (text : String) : Option Bool :=
  let text := Text.fold text
  if ["true", "yes", "y", "1"].contains text then some true
  else if ["false", "no", "n", "0"].contains text then some false
  else none

namespace Value

def asText? : Value → Option String
  | .string text => some text
  | .number value => some value.text
  | .bool flag => some (toString flag)
  | _ => none

def asInt? : Value → Option Int
  | .number value => value.int?
  | .string text => Decimal.int? (Chars.trim text.toList)
  | _ => none

def asFlag? : Value → Option Bool
  | .bool flag => some flag
  | .string text => Text.flag? text
  | _ => none

end Value

/-! Bringing a value to the declared type. The error is the reason. -/

namespace Coercion

def toText (ignorecase : Bool) (value : Value) : Except String Value :=
  let fold (text : String) : String := if ignorecase then Text.lower text else text
  match value with
  | .string text => .ok (.string (fold text))
  | .number number => .ok (.string (fold number.text))
  | .bool flag => .ok (.string (fold (toString flag)))
  | other => .error s!"cannot use {other.text} as text"

def toInteger : Value → Except String Value
  | .number (.integer value) => .ok (.integer value)
  | .string text =>
      match Decimal.int (Chars.trim text.toList) with
      | .ok value => .ok (.integer value)
      | .error error => .error s!"'{text}': {error.message}"
  | other => .error s!"cannot use {other.text} as an integer"

def toFloat (value : Value) : Except String Value :=
  let number? :=
    match value with
    | .number number => some number.toBinary64
    | .string text => Decimal.float? (Chars.trim text.toList)
    | _ => none
  match number? with
  | some number => .ok (.number (.float number))
  | none => .error s!"cannot use {value.text} as a number"

def toFlag : Value → Except String Value
  | .bool flag => .ok (.bool flag)
  | .string text =>
      match Text.flag? text with
      | some flag => .ok (.bool flag)
      | none => .error s!"'{text}' is not one of true/false/yes/no/1/0"
  | .number number =>
      match number.int? with
      | some 0 => .ok (.bool false)
      | some 1 => .ok (.bool true)
      | _ => .error s!"{number.text} is not 0 or 1"
  | other => .error s!"cannot use {other.text} as a bool"

def toDatetime (value : Value) : Except String Value :=
  match Instant.ofValue? value with
  | some instant => .ok (.string instant.toSecondsText)
  | none => .error s!"{value.text} is not RFC 3339, YYYY-MM-DD, or epoch seconds"

def toAddress : Value → Except String Value
  | .string text =>
      match Address.read? (Chars.trim text.toList) with
      | some address => .ok (.string address.text)
      | none => .error s!"'{text}': invalid IP address syntax"
  | other => .error s!"cannot use {other.text} as an IP address"

end Coercion

namespace ParameterSpec

def coerceReason (spec : ParameterSpec) (value : Value) : Except String Value :=
  match spec.kind with
  | .string => Coercion.toText spec.ignorecase value
  | .integer => Coercion.toInteger value
  | .float => Coercion.toFloat value
  | .bool => Coercion.toFlag value
  | .datetime => Coercion.toDatetime value
  | .address => Coercion.toAddress value

/-- The value of the parameter `name` in its declared type. -/
def coerce (spec : ParameterSpec) (name : String) (value : Value) : Except RunError Value :=
  match spec.coerceReason value with
  | .ok value => .ok value
  | .error reason => .error (.invalidParameter name spec.kind.name reason)

end ParameterSpec

end Triage
