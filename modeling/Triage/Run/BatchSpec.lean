import Triage.Files.Load
import Triage.Run.Engine
import Triage.Yaml.Schema

namespace Triage

/-! Batch specifications: runbooks with their parameters, as a list in YAML. -/

structure BatchEntry where
  runbook : String
  parameters : Parameters

namespace BatchEntry

/-- The one value of a field. A field that is there twice is an error. -/
def field? (fields : List (String × Yaml.Node)) (name : String) : Option (Option Yaml.Node) :=
  match fields.filter (·.1 == name) with
  | [] => some none
  | [(_, node)] => some (some node)
  | _ => none

/-- Fields that are not known do not matter. Three levels of the specification stand
around a parameter. -/
def ofNode? (document : Yaml.Document) (node : Yaml.Node) : Option BatchEntry := do
  let fields ← (← document.entries? node).mapM fun (key, value) => do
    return (← document.text? key, value)
  let runbook ← document.text? (← ← field? fields "runbook")
  let parameters ←
    match ← field? fields "parameters" with
    | none => some []
    | some node => document.map? (document.value? (Yaml.depthLimit - 3)) node
  return ⟨runbook, parameters⟩

/-- What is asked of the engine, in the context that all entries share. -/
def request (entry : BatchEntry) (context : Context) : Request :=
  ⟨entry.runbook, context, entry.parameters⟩

end BatchEntry

namespace BatchSpec

/-- Why a text is no specification. -/
inductive Fault where
  | malformed
  /-- Entries are counted from one. -/
  | emptyId (position : Nat)
deriving DecidableEq, Repr

def Fault.text : Fault → String
  | .malformed => "batch spec is not a list of \x7brunbook, parameters\x7d entries"
  | .emptyId position => s!"batch entry {position} has an empty runbook id"

def entries? (source : String) : Option (List BatchEntry) := do
  let document ← Yaml.Document.read? source
  (← document.items? document.root).mapM (BatchEntry.ofNode? document)

def read (source : String) : Except Fault (List BatchEntry) :=
  match entries? source with
  | none => .error .malformed
  | some entries =>
      match entries.findIdx? (Text.isBlankText ·.runbook) with
      | some index => .error (.emptyId (index + 1))
      | none => .ok entries

def load (path : String) : Job (Except LoadError (List BatchEntry)) :=
  Triage.load "batch spec" (fun source => (read source).mapError Fault.text) path

end BatchSpec

end Triage
