import Triage.Text.Placeholder
import Triage.Entries
import Triage.Error

namespace Triage

/-! Message templates: for every template the texts of its blocks. -/

namespace Block

def stepName : String := "step_name"
def failureReason : String := "failure_reason"
def failureRemediation : String := "failure_remediation"
def successReason : String := "success_reason"
def uncertainReason : String := "uncertain_reason"
def uncertainRemediation : String := "uncertain_remediation"
def skippedReason : String := "skipped_reason"

end Block

abbrev Catalog := Entries (Entries String)

namespace Catalog

def block? (catalog : Catalog) (template block : String) : Option String :=
  (catalog.get? template).bind (Entries.get? block)

/-- Blocks that are there already give way. -/
def add (catalog : Catalog) (template : String) (blocks : Entries String) : Catalog :=
  catalog.insert template (((catalog.get? template).getD []).extend blocks)

def addBlock (catalog : Catalog) (template block text : String) : Catalog :=
  catalog.add template [(block, text)]

def merge (catalog other : Catalog) : Catalog :=
  other.foldl (fun held (template, blocks) => held.add template blocks) catalog

/-- The text of a block with its placeholders filled; those without a value stay
as they are written. -/
def render (catalog : Catalog) (template block : String) (lookup : String → Option String) :
    Except RunError String :=
  match catalog.block? template block with
  | some text => .ok (Text.fillPlaceholders lookup text)
  | none => .error (.unknownTemplate template block)

end Catalog

end Triage
