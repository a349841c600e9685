import Triage.Parameter.Coercion

namespace Triage

namespace Parameters

/-! Checking parameters against a contract. Names are compared without regard to
case. -/

/-- The values as they were given, under folded names. -/
def folded (given : Parameters) : Parameters :=
  .ofList (given.map fun (name, value) => (Text.fold name, value))

end Parameters

namespace Specs

def folded (specs : Specs) : Specs :=
  .ofList (specs.map fun (name, spec) => (Text.lower name, spec))

/-- The value of an old name goes to the new one, unless that has one. -/
def moveAlias (given : Parameters) (name : String) (spec : ParameterSpec) : Parameters :=
  match spec.movesTo?, given.get? name with
  | some target, some value =>
      let rest := given.erase name
      if rest.contains target then rest else rest.insert target value
  | _, _ => given

/-- Old names in the order of their declaration. -/
def moveAliases (given : Parameters) : Specs → Parameters
  | [] => given
  | (name, spec) :: rest => moveAliases (moveAlias given name spec) rest

/-- A value that is present and not null. -/
def valueFor? (given : Parameters) (name : String) : Option Value :=
  (given.get? name).filter (!·.isNull)

/-- Declared parameters in order. `given` holds what is not used up yet; an old
name with a replacement declares nothing. -/
def takeDeclared (given resolved : Parameters) : Specs → Except RunError (Parameters × Parameters)
  | [] => .ok (given, resolved)
  | (name, spec) :: rest =>
      if spec.movesTo?.isSome then takeDeclared given resolved rest
      else
        let left := given.erase name
        match (valueFor? given name).orElse fun _ => spec.default with
        | some value =>
            match spec.coerce name value with
            | .ok value => takeDeclared left (resolved.insert name value) rest
            | .error error => .error error
        | none =>
            if spec.required then .error (.missingParameter name spec.help)
            else takeDeclared left resolved rest

/-- Declared parameters first, each in its type; what the contract does not
mention is passed through as it was given. -/
def resolve (specs : Specs) (given : Parameters) : Except RunError Parameters :=
  let specs := specs.folded
  match specs.takeDeclared (specs.moveAliases given.folded) [] with
  | .ok (undeclared, resolved) => .ok (resolved.extend undeclared)
  | .error error => .error error

/-- How many remarks resolving is worth: one for every old name that was used,
and one for every undeclared name. -/
def remarks (specs : Specs) (given : Parameters) : Nat :=
  let specs := specs.folded
  let moved := specs.moveAliases given.folded
  let used := countUsed given.folded specs
  match specs.takeDeclared moved [] with
  | .ok (undeclared, _) => used + undeclared.length
  | .error _ => used
where
  countUsed (given : Parameters) : Specs → Nat
    | [] => 0
    | (name, spec) :: rest =>
        (if spec.movesTo?.isSome && given.contains name then 1 else 0) +
          countUsed (moveAlias given name spec) rest

end Specs

end Triage
