import Triage.Renderer.Basic
import Triage.Value.Json

namespace Triage

/-! The renderer for programs. Nothing is shown; every notice becomes an event,
and questions are answered from a list that is given in advance. -/

namespace Event

open Json

def totalsNode (totals : Totals) : Node :=
  .object (totals.map fun (status, count) => (status.name, .ofNat count))

def responseNode : PromptResponse → Node
  | .custom key => .object [("CUSTOM", .string key)]
  | response => .string (response.name?.getD "")

def noticeFields : Notice → String × List (String × Node)
  | .started index executionId name kind =>
      ("step_started", [("index", .ofNat index), ("execution_id", .string executionId),
        ("name", .string name), ("kind", .string kind.name)])
  | .progress message => ("progress", [("message", .string message)])
  | .outcome status resource reason remediation =>
      ("result", [("status", .string status.name),
        ("resource", .ofOption .string (resource.map (·.shortPath))), ("reason", .string reason),
        ("remediation", .ofOption .string remediation)])
  | .info message => ("info", [("message", .string message)])
  | .summary runbook totals =>
      ("summary", [("runbook", .string runbook), ("totals", totalsNode totals)])

/-- An event as an object that names its kind first. -/
def toNode : Event → Node
  | .shown notice =>
      let (kind, fields) := noticeFields notice
      .object (("event", .string kind) :: fields)
  | .asked kind message response =>
      .object [("event", .string "prompt"), ("kind", .string kind.name),
        ("message", .string message), ("response", responseNode response)]

end Event

structure EventLog where
  events : List Event
  /-- Answers that have not been used. -/
  answers : List String
  logs : String
  level : Option LogLevel

namespace EventLog

def withAnswers (answers : List String) : EventLog :=
  ⟨[], answers, "", some .warn⟩

def push (log : EventLog) (event : Event) : EventLog :=
  { log with events := log.events ++ [event] }

/-- An answer is used up even if the question does not offer it. -/
def ask (request : PromptRequest) (log : EventLog) : PromptResponse × EventLog :=
  let response := (log.answers.head?.bind request.resolve?).getD .noAnswer
  let log := { log with answers := log.answers.tail }
  (response, log.push (.asked request.kind request.message response))

def write (line : LogLine) (log : EventLog) : EventLog :=
  if log.level.any fun level => line.level.rank ≤ level.rank then
    { log with logs := log.logs ++ line.text }
  else log

instance : Renderer EventLog where
  notify notice log := log.push (.shown notice)
  ask := ask
  log := write
  present presentation log := { log with level := presentation.level }
  transcript log := ⟨log.events, log.logs⟩

def toNode (log : EventLog) : Json.Node :=
  .array (log.events.map Event.toNode)

end EventLog

end Triage
