import Triage.Registry.Id
import Triage.Tree.Basic

namespace Triage

/-! The runbooks of a program, by normalized id, in the order of registration. -/

structure Registered where
  product : String
  tree : Tree

abbrev Registry := Entries Registered

namespace Registry

/-- A refused id leaves the registry as it was. -/
def register (registry : Registry) (id : String) (tree : Tree) : Except RunError Registry :=
  let normal := RunbookId.normalize id
  match Text.cut? '/' normal with
  | none => .error (.invalidTree id "ids have the form <product>/<kebab-case-name>")
  | some (product, name) =>
      if Text.containsChar '/' name then
        .error (.invalidTree id "ids have exactly one '/' separating product and name")
      else if registry.contains normal then
        .error (.invalidTree normal "a tree is already registered under this id")
      else .ok (registry ++ [(normal, ⟨product, tree⟩)])

/-- Products in alphabetical order, each once. -/
def products (registry : Registry) : List String :=
  ((registry.map (·.2.product)).mergeSort (fun left right => decide (left ≤ right))).eraseReps

def idsOf (registry : Registry) (product : String) : List String :=
  (registry.filter (·.2.product == product)).map (·.1)

def convention : String :=
  "Runbook ids have the form <product>/<kebab-case-name>: a tree type `FooBarRunbook` " ++
    "registered for product `foo` is run as `foo/foo-bar-runbook`."

/-- A hint for someone who looked for `normal`. -/
def guidance (registry : Registry) (normal : String) : String :=
  let product := RunbookId.productOf normal
  let ids := registry.idsOf product
  let products := registry.products
  if !ids.isEmpty then
    s!"{convention} Runbooks for '{product}': " ++ Text.join ", " ids ++ "."
  else if products.isEmpty then convention ++ " No runbooks are registered."
  else convention ++ " Known products: " ++ Text.join ", " products ++ "."

/-- Any spelling of an id will do. -/
def find (registry : Registry) (id : String) : Except RunError (String × Registered) :=
  let normal := RunbookId.normalize id
  match registry.get? normal with
  | some registered => .ok (normal, registered)
  | none => .error (.treeNotFound id (registry.guidance normal))

def includes (registry : Registry) (id : String) : Bool :=
  registry.contains (RunbookId.normalize id)

/-- Ids with one line on each. -/
def summaries (registry : Registry) : Entries String :=
  registry.map fun (id, registered) => (id, registered.tree.summary)

def summariesOf (registry : Registry) (product : String) : Entries String :=
  let product := Text.kebab product
  summaries (registry.filter (·.2.product == product))

end Registry

end Triage
