namespace Triage

/-! What a check found out about a resource, and how the counts of a run add up. -/

/-- In reporting order. -/
inductive Status where
  | ok
  | failed
  | uncertain
  | skipped
deriving DecidableEq, Repr, Inhabited

namespace Status

def all : List Status :=
  [.ok, .failed, .uncertain, .skipped]

def name : Status → String
  | .ok => "ok"
  | .failed => "failed"
  | .uncertain => "uncertain"
  | .skipped => "skipped"

def ofName? (name : String) : Option Status :=
  all.find? (·.name == name)

/-- An undecided check counts as a finding too. -/
def isFailure : Status → Bool
  | .failed | .uncertain => true
  | .ok | .skipped => false

/-- The status that stands for several, worst first. -/
def bySeverity : List Status :=
  [.failed, .uncertain, .ok, .skipped]

def worst? (statuses : List Status) : Option Status :=
  bySeverity.find? statuses.contains

end Status

/-- How often each status occurs, in reporting order; a status that does not
occur is left out. -/
abbrev Totals := List (Status × Nat)

namespace Totals

def ofStatuses (statuses : List Status) : Totals :=
  Status.all.filterMap fun status =>
    match statuses.count status with
    | 0 => none
    | count => some (status, count)

def count (totals : Totals) (status : Status) : Nat :=
  (totals.lookup status).getD 0

def sum (totals : Totals) : Nat :=
  totals.foldr (fun (_, count) sum => count + sum) 0

example : ofStatuses [.failed, .ok, .failed] = [(.ok, 1), (.failed, 2)] := by decide

end Totals

end Triage
