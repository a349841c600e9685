import Triage.Context
import Triage.Message
import Triage.Outcome
import Triage.Step.Frame

namespace Triage

/-! What a step does, as data: a sequence of calls to the operator of its run,
each followed by a continuation that takes the reply, up to a success, an error
or a crash. Steps that are queued on the way are part of the data. -/

/-- The fixed part of a run, as its steps see it. -/
structure Setting where
  runId : String
  runbook : String
  mode : Mode
  context : Context
  specs : Specs
  catalog : Catalog

/-- The project, for outcomes that are not about one resource. -/
def Setting.project (setting : Setting) : Resource :=
  .ofProject setting.context.projectId

inductive Call where
  | setting
  | get (key : String)
  | put (key : String) (value : Value)
  | parameters
  /-- The step that is executing. -/
  | active
  | isFinalAttempt
  /-- Phrases a block of the step's own template. -/
  | phrase (block : String) (arguments : List (String × String))
  | render (template block : String) (arguments : List (String × String))
  | record (outcome : Outcome)
  | ask (request : PromptRequest)
  | inform (message : String)
  | progress (message : String)
  /-- Removes the frame of the step. -/
  | take
  /-- Puts a fresh frame in the place of the step's own. -/
  | install (profile : Profile)
  /-- Starts a step, and returns its execution id. -/
  | begin (profile : Profile)
  /-- Ends the step that is executing. -/
  | finish
  /-- Leaves a remark in the journal. -/
  | note (entry : Json.Node)

/-- What the operator answers when nothing is wrong. -/
abbrev Call.Reply : Call → Type
  | .setting => Setting
  | .get _ => Option Value
  | .put _ _ => Unit
  | .parameters => Parameters
  | .active => Option (Frame Profile)
  | .isFinalAttempt => Bool
  | .phrase _ _ => String
  | .render _ _ _ => String
  | .record _ => Option PromptResponse
  | .ask _ => PromptResponse
  | .inform _ => Unit
  | .progress _ => Unit
  | .take => Option (Frame Profile)
  | .install _ => Option (Frame Profile)
  | .begin _ => String
  | .finish => Option (Frame Profile)
  | .note _ => Unit

/-- Which operator a step addresses. -/
inductive Via where
  /-- The one that it was handed. -/
  | own
  /-- The one of the innermost scope that is open on its thread. -/
  | current
deriving DecidableEq, Repr

mutual
/-- A step and what its executions do, counted from zero. -/
inductive Step where
  | mk (profile : Profile) (executions : Nat → Body)

inductive Body where
  | done
  | fail (failure : Failure)
  | crash (message : Crash)
  | call (via : Via) (call : Call) (next : Except RunError call.Reply → Body)
  /-- Queues a step to run after this one, before its siblings. -/
  | queue (via : Via) (child : Step) (next : Except RunError Unit → Body)
end

/-- How an execution of a step ends. -/
inductive Ending where
  | completed
  | failed (failure : Failure)
  | crashed (message : Crash)

namespace Step

def profile : Step → Profile
  | .mk profile _ => profile

def executions : Step → Nat → Body
  | .mk _ executions => executions

/-- A step that does the same every time it is executed. -/
def steady (profile : Profile) (body : Body) : Step :=
  .mk profile fun _ => body

end Step

namespace Body

/-- Calls the own operator; an error ends the step with that error. -/
def invoke (call : Call) (next : call.Reply → Body) : Body :=
  .call .own call fun
    | .ok reply => next reply
    | .error error => .fail (.ofRun error)

/-- Records an outcome and ends. -/
def conclude (outcome : Outcome) : Body :=
  invoke (.record outcome) fun _ => .done

/-- Phrases a block of the step's template, or falls back to a fixed phrase. -/
def phrase (block : String) (arguments : List (String × String)) (fallback : String)
    (next : String → Body) : Body :=
  .call .own (.phrase block arguments) fun
    | .ok text => next text
    | .error _ => next fallback

/-- Queues a step; an error ends the step with that error. -/
def enqueue (child : Step) (next : Body) : Body :=
  .queue .own child fun
    | .ok () => next
    | .error error => .fail (.ofRun error)

end Body

end Triage
