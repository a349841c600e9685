import Triage.Job

namespace Triage

/-! Files that a person names, and why they could not be used. -/

inductive LoadFault where
  | unreadable (error : FileError)
  /-- The text does not say what it should. -/
  | invalid (reason : String)
deriving DecidableEq, Repr

structure LoadError where
  /-- What the file was to hold. -/
  subject : String
  path : String
  fault : LoadFault
deriving DecidableEq, Repr

namespace LoadError

def headline (error : LoadError) : String :=
  match error.fault with
  | .unreadable _ => s!"failed to read {error.subject} {error.path}"
  | .invalid _ => s!"invalid {error.subject} {error.path}"

def detail (error : LoadError) : String :=
  match error.fault with
  | .unreadable fault => fault.text
  | .invalid reason => reason

def text (error : LoadError) : String :=
  s!"{error.headline}: {error.detail}"

end LoadError

/-- Reads a file and makes something of its text. -/
def load {α : Type} (subject : String) (decode : String → Except String α) (path : String) :
    Job (Except LoadError α) := do
  match ← Job.effect (.readFile path) with
  | .error error => return .error ⟨subject, path, .unreadable error⟩
  | .ok text =>
      match decode text with
      | .ok value => return .ok value
      | .error reason => return .error ⟨subject, path, .invalid reason⟩

end Triage
