import Triage.Status
import Triage.Resource
import Triage.Prompt
import Triage.Parameter.Spec
import Triage.Step.Profile
import Triage.Time.Calendar

namespace Triage

/-! The results of a run, grouped by the step executions that produced them. -/

/-- One outcome for one resource; it does not change once it is recorded. -/
structure Evaluation where
  resource : Option Resource
  status : Status
  reason : String
  remediation : Option String
  remediationSkipped : Bool
  response : Option PromptResponse
deriving DecidableEq, Repr

structure StepResult where
  executionId : String
  stepId : String
  name : String
  kind : StepKind
  startedAt : Instant
  endedAt : Option Instant
  evaluations : List Evaluation
  /-- The last answer that was not given to an evaluation. -/
  response : Option PromptResponse
deriving DecidableEq, Repr

namespace StepResult

def opened (executionId stepId name : String) (kind : StepKind) (moment : Instant) :
    StepResult where
  executionId := executionId
  stepId := stepId
  name := name
  kind := kind
  startedAt := moment
  endedAt := none
  evaluations := []
  response := none

def statuses (result : StepResult) : List Status :=
  result.evaluations.map (·.status)

def overall? (result : StepResult) : Option Status :=
  Status.worst? result.statuses

end StepResult

structure Report where
  runId : String
  runbook : String
  parameters : Parameters
  mode : Mode
  startedAt : Instant
  finishedAt : Option Instant
  /-- In the order of execution, by execution id. -/
  results : Entries StepResult

namespace Report

def opened (runId runbook : String) (parameters : Parameters) (mode : Mode) (moment : Instant) :
    Report where
  runId := runId
  runbook := runbook
  parameters := parameters
  mode := mode
  startedAt := moment
  finishedAt := none
  results := []

def step? (report : Report) (executionId : String) : Option StepResult :=
  report.results.get? executionId

def stepResults (report : Report) : List StepResult :=
  report.results.map (·.2)

/-- Every evaluation with its step. -/
def evaluations (report : Report) : List (StepResult × Evaluation) :=
  report.stepResults.flatMap fun result => result.evaluations.map fun evaluation =>
    (result, evaluation)

def statuses (report : Report) : List Status :=
  report.evaluations.map (·.2.status)

def anyFailed (report : Report) : Bool :=
  report.statuses.any Status.isFailure

def totals (report : Report) : Totals :=
  .ofStatuses report.statuses

/-! What can be written into a report that is open. -/

inductive Change where
  /-- A result under an id that is in use takes the place of the other. -/
  | openStep (result : StepResult)
  | record (executionId : String) (evaluation : Evaluation)
  | respond (executionId : String) (response : PromptResponse)
  | closeStep (executionId : String) (moment : Instant)

def updateStep (report : Report) (executionId : String) (update : StepResult → StepResult) :
    Except ReportError Report :=
  match report.step? executionId with
  | some result =>
      .ok { report with results := report.results.insert executionId (update result) }
  | none => .error (.unknownStep report.runId executionId)

def apply (report : Report) : Change → Except ReportError Report
  | .openStep result =>
      .ok { report with results := report.results.insert result.executionId result }
  | .record executionId evaluation =>
      report.updateStep executionId fun result =>
        { result with evaluations := result.evaluations ++ [evaluation] }
  | .respond executionId response =>
      report.updateStep executionId fun result => { result with response := some response }
  | .closeStep executionId moment =>
      report.updateStep executionId fun result => { result with endedAt := some moment }

end Report

/-- The reports of the runs that are under way, by run id. -/
abbrev ReportStore := Entries Report

namespace ReportStore

def create (store : ReportStore) (report : Report) : ReportStore :=
  store.insert report.runId report

def report (store : ReportStore) (runId : String) : Except ReportError Report :=
  match store.get? runId with
  | some report => .ok report
  | none => .error (.unknownRun runId)

def change (store : ReportStore) (runId : String) (change : Report.Change) :
    Except ReportError ReportStore :=
  match store.report runId with
  | .error error => .error error
  | .ok report =>
      match report.apply change with
      | .error error => .error error
      | .ok report => .ok (store.insert runId report)

def totals (store : ReportStore) (runId : String) : Except ReportError Totals :=
  (store.report runId).map Report.totals

/-- Takes the report out of the store. -/
def finish (store : ReportStore) (runId : String) (moment : Instant) :
    Except ReportError (Report × ReportStore) :=
  match store.report runId with
  | .error error => .error error
  | .ok report => .ok ({ report with finishedAt := some moment }, store.erase runId)

def activeRuns (store : ReportStore) : List String :=
  store.keys.mergeSort (fun left right => decide (left ≤ right))

end ReportStore

end Triage
