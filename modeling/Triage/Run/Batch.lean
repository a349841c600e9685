import Triage.Run.Engine

namespace Triage

/-! Several runs at once. They share the screen and the report store, so nobody is
asked anything. -/

namespace Engine

/-- One run of a batch; a crash becomes an error. -/
def runShared (engine : Engine) (request : Request) : Job RunResult := do
  match ← engine.runIn .auto request with
  | .crashed _ =>
      Job.log .error "batch run panicked"
      return .failed (.crashed request.runbook)
  | result => return result

/-- The results in the order of the requests. -/
def runAll (engine : Engine) : List Request → Job (List RunResult)
  | [] => return []
  | request :: rest => do
      let result ← engine.runShared request
      return result :: (← runAll engine rest)

def runBatch (engine : Engine) (requests : List Request) : Job (List RunResult) := do
  if !engine.settings.mode.isAuto then
    Job.log .warn "batch runs do not prompt; running every runbook in auto mode"
  Job.log .info "starting batch"
  engine.runAll requests

end Engine

end Triage
