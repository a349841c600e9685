import Triage.Report.Basic
import Triage.Time.Format
import Triage.Time.Reader

namespace Triage

/-! The report of a run as a document. -/

structure DocumentEntry where
  /-- Execution id of the step. -/
  step : String
  resource : Option String
  status : Status
  reason : String
  remediation : Option String
  remediationSkipped : Bool
  startedAt : Instant
  endedAt : Option Instant
deriving DecidableEq, Repr

structure Document where
  runbook : String
  runId : String
  parameters : Parameters
  totals : Totals
  mode : Mode
  entries : List DocumentEntry

namespace Document

/-- The totals that the entries themselves give. -/
def counted (document : Document) : Totals :=
  .ofStatuses (document.entries.map (·.status))

/-- In an auto run no remedy was carried out. -/
def ofReport (report : Report) : Document where
  runbook := report.runbook
  runId := report.runId
  parameters := report.parameters
  totals := report.totals
  mode := report.mode
  entries := report.evaluations.map fun (step, evaluation) =>
    { step := step.executionId
      resource := evaluation.resource.map (·.shortPath)
      status := evaluation.status
      reason := evaluation.reason
      remediation := evaluation.remediation
      remediationSkipped := report.mode.isAuto || evaluation.remediationSkipped
      startedAt := step.startedAt
      endedAt := step.endedAt }

open Json

def totalsNode (totals : Totals) : Node :=
  .object (totals.map fun (status, count) => (status.name, .ofNat count))

def parametersNode (parameters : Parameters) : Node :=
  .object (parameters.map fun (name, value) => (name, value.toNode))

def instantNode (instant : Instant) : Node :=
  .string instant.toText

def entryNode (entry : DocumentEntry) : Node :=
  .object [("step", .string entry.step), ("resource", .ofOption .string entry.resource),
    ("status", .string entry.status.name), ("reason", .string entry.reason),
    ("remediation", .ofOption .string entry.remediation),
    ("remediation_skipped", .bool entry.remediationSkipped),
    ("start_time_utc", instantNode entry.startedAt),
    ("end_time_utc", .ofOption instantNode entry.endedAt)]

def toNode (document : Document) : Node :=
  .object [("runbook", .string document.runbook), ("run_id", .string document.runId),
    ("parameters", parametersNode document.parameters),
    ("totals_by_status", totalsNode document.totals),
    ("execution_mode", .string document.mode.name),
    ("results", .array (document.entries.map entryNode))]

/-- The text of the file. -/
def text (document : Document) : String :=
  String.ofList (document.toNode.pretty 0)

/-! Reading a document back. -/

def instant? (node : Node) : Option Instant :=
  node.string?.bind fun text => TimeText.lenient? text.toList

def statusOf? (node : Node) : Option Status :=
  node.choice?.bind Status.ofName?

def entryFields : List String :=
  ["step", "resource", "status", "reason", "remediation", "remediation_skipped",
    "start_time_utc", "end_time_utc"]

def entry? (node : Node) : Option DocumentEntry := do
  match ← node.slots? entryFields with
  | [step, resource, status, reason, remediation, skipped, started, ended] =>
      return {
        step := ← step.required? Node.string?
        resource := ← resource.optional? Node.string?
        status := ← status.required? statusOf?
        reason := ← reason.required? Node.string?
        remediation := ← remediation.optional? Node.string?
        remediationSkipped := ← skipped.required? Node.bool?
        startedAt := ← started.required? instant?
        endedAt := ← ended.optional? instant? }
  | _ => none

/-- Of a repeated status the last count holds; the counts come out in reporting
order. -/
def totals? : Node → Option Totals
  | .object members => do
      let counts ← members.mapM fun (name, node) => do
        return ((← Status.ofName? name), (← node.nat? (twoPow 64)))
      return Status.all.filterMap fun status =>
        (counts.reverse.lookup status).map fun count => (status, count)
  | _ => none

/-- Two levels of the document stand around a parameter. -/
def parameters? : Node → Option Parameters
  | .object members => do
      let values ← members.mapM fun (name, node) => do
        return (name, ← Value.ofNode? (depthLimit - 2) node)
      return .ofList values
  | _ => none

def items? {α : Type} (decode : Node → Option α) : Node → Option (List α)
  | .array items => items.mapM decode
  | _ => none

def fields : List String :=
  ["runbook", "run_id", "parameters", "totals_by_status", "execution_mode", "results"]

def ofNode? (node : Node) : Option Document := do
  match ← node.slots? fields with
  | [runbook, runId, parameters, totals, mode, results] =>
      return {
        runbook := ← runbook.required? Node.string?
        runId := ← runId.required? Node.string?
        parameters := ← parameters.withDefault? [] parameters?
        totals := ← totals.required? totals?
        mode := ← mode.required? fun node => node.choice?.bind Mode.ofName?
        entries := ← results.required? (items? entry?) }
  | _ => none

def read? (text : String) : Option Document :=
  (Node.read? text.toList).bind ofNode?

end Document

end Triage
