import Triage.Log
import Triage.Prompt
import Triage.Resource
import Triage.Status
import Triage.Step.Profile

namespace Triage

/-! What a run shows, and who shows it. -/

inductive Notice where
  /-- The steps of a run are counted from one. -/
  | started (index : Nat) (executionId name : String) (kind : StepKind)
  | progress (message : String)
  | outcome (status : Status) (resource : Option Resource) (reason : String)
      (remediation : Option String)
  | info (message : String)
  | summary (runbook : String) (totals : Totals)
deriving DecidableEq, Repr

/-- Only a finding is shown with its remedy. -/
def Notice.ofOutcome (status : Status) (resource : Option Resource) (reason : String)
    (remediation : Option String) : Notice :=
  .outcome status resource reason (if status.isFailure then remediation else none)

/-- What was shown, in order. -/
inductive Event where
  | shown (notice : Notice)
  | asked (kind : PromptKind) (message : String) (response : PromptResponse)
deriving DecidableEq, Repr

inductive Interface where
  | terminal
  | events
deriving DecidableEq, Repr

namespace Interface

def name : Interface → String
  | .terminal => "cli"
  | .events => "api"

def ofName? : String → Option Interface
  | "cli" => some .terminal
  | "api" => some .events
  | _ => none

example (interface : Interface) : ofName? interface.name = some interface := by
  cases interface <;> rfl

end Interface

/-- How labels stand out on a terminal. -/
inductive Ink where
  | none
  /-- In bold type alone. -/
  | bold
  | color
deriving DecidableEq, Repr

/-- How a session is to be shown. -/
structure Presentation where
  interface : Interface
  ink : Ink
  width : Nat
  /-- Lines up to this level are logged. -/
  level : Option LogLevel
deriving DecidableEq, Repr

/-- What a session leaves for programs to read. -/
structure Transcript where
  events : List Event
  logs : String

class Renderer (ρ : Type) where
  notify : Notice → ρ → ρ
  ask : PromptRequest → ρ → PromptResponse × ρ
  log : LogLine → ρ → ρ
  present : Presentation → ρ → ρ
  transcript : ρ → Transcript

end Triage
