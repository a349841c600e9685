import Triage.Text.Case
import Triage.Value.Json
import Triage.Entries
import Triage.Error

namespace Triage

/-! The contract of a runbook: which parameters it takes and of which type. -/

inductive ParameterType where
  | string
  | integer
  | float
  | bool
  | datetime
  | address
deriving DecidableEq, Repr, Inhabited

namespace ParameterType

def name : ParameterType → String
  | .string => "string"
  | .integer => "integer"
  | .float => "float"
  | .bool => "bool"
  | .datetime => "datetime"
  | .address => "ipaddress"

def all : List ParameterType :=
  [.string, .integer, .float, .bool, .datetime, .address]

def ofName? (name : String) : Option ParameterType :=
  all.find? (·.name == name)

/-- Other spellings of the names. -/
def aliases : List (String × ParameterType) :=
  [("str", .string), ("int", .integer), ("number", .float), ("boolean", .bool), ("ip", .address)]

/-- Reads a name as a person writes it. The error holds the folded name. -/
def read (text : String) : Except String ParameterType :=
  let name := Text.fold text
  match (ofName? name).orElse fun _ => aliases.lookup name with
  | some kind => .ok kind
  | none => .error name

/-- Why a name was refused. -/
def unknownText (name : String) : String :=
  s!"unknown parameter type '{name}'; expected one of " ++
    Text.join ", " (all.map ParameterType.name)

end ParameterType

structure ParameterSpec where
  kind : ParameterType
  help : String
  required : Bool
  default : Option Value
  /-- Texts are stored in lower case. -/
  ignorecase : Bool
  deprecated : Bool
  /-- The parameter that takes the value of a deprecated one. -/
  replacement : Option String
deriving Inhabited

namespace ParameterSpec

def of (kind : ParameterType) (help : String) : ParameterSpec where
  kind := kind
  help := help
  required := false
  default := none
  ignorecase := false
  deprecated := false
  replacement := none

def deprecatedFor (spec : ParameterSpec) (replacement : String) : ParameterSpec :=
  { spec with deprecated := true, replacement := some replacement }

/-- A parameter of the past, whose value belongs to another one. -/
def movesTo? (spec : ParameterSpec) : Option String :=
  if spec.deprecated then spec.replacement.map Text.lower else none

def fieldNames : List String :=
  ["type", "help", "required", "default", "ignorecase", "deprecated", "new_parameter"]

open Json in
def ofNode? (node : Node) : Option ParameterSpec := do
  match ← node.slots? fieldNames with
  | [kind, help, required, default, ignorecase, deprecated, replacement] =>
      return {
        kind := ← kind.required? fun node => node.choice?.bind ParameterType.ofName?
        help := ← help.required? Node.string?
        required := ← required.withDefault? false Node.bool?
        default := ← default.withDefault? none fun
          | .null => some none
          | node => (Value.ofNode? depthLimit node).map some
        ignorecase := ← ignorecase.withDefault? false Node.bool?
        deprecated := ← deprecated.withDefault? false Node.bool?
        replacement := ← replacement.withDefault? none fun
          | .null => some none
          | node => node.string?.map some }
  | _ => none

def toValue (spec : ParameterSpec) : Value :=
  .ofFields [("type", .string spec.kind.name), ("help", .string spec.help),
    ("required", .bool spec.required), ("default", spec.default.getD .null),
    ("ignorecase", .bool spec.ignorecase), ("deprecated", .bool spec.deprecated),
    ("new_parameter", (spec.replacement.map Value.string).getD .null)]

end ParameterSpec

abbrev Specs := Entries ParameterSpec

/-- Values by parameter name, in the order they were given or declared. -/
abbrev Parameters := Entries Value

end Triage
