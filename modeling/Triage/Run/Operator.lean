import Triage.Job
import Triage.Parameter.Resolution
import Triage.Step.Basic

namespace Triage

/-! What a step works through: the parameters of its run, the frame of the step
that is executing, and the way to the report and to the screen. -/

structure Operator (κ : Type) where
  setting : Setting
  /-- Steps read and write these. -/
  parameters : Parameters
  /-- How many steps have been started. -/
  started : Nat
  frame : Option (Frame κ)

namespace Operator

variable {κ : Type}

def opened (setting : Setting) : Operator κ :=
  ⟨setting, setting.context.parameters, 0, none⟩

def runId (operator : Operator κ) : String :=
  operator.setting.runId

/-! Parameters. Keys are compared in lower case; a null value counts as none. -/

/-- The value of a parameter, or else the default that the contract declares. -/
def get? (operator : Operator κ) (key : String) : Option Value :=
  let key := Text.lower key
  match Specs.valueFor? operator.parameters key with
  | some value => some value
  | none => (operator.setting.specs.get? key).bind (·.default)

def put (operator : Operator κ) (key : String) (value : Value) : Operator κ :=
  { operator with parameters := operator.parameters.insert (Text.lower key) value }

/-! Messages. Arguments come before parameters. -/

def render (operator : Operator κ) (template block : String)
    (arguments : List (String × String)) : Except RunError String :=
  operator.setting.catalog.render template block fun name =>
    match arguments.lookup name with
    | some text => some text
    | none => (operator.get? name).bind Value.asText?

def phrase (operator : Operator κ) (block : String) (arguments : List (String × String)) :
    Except RunError String :=
  match operator.frame.bind (·.template) with
  | some template => operator.render template block arguments
  | none => .error (.unknownTemplate "<none>" block)

/-! Frames. -/

/-- What needs a step that is executing and found none. -/
def idle (operation : String) : RunError :=
  .invalidStep "<none>" s!"{operation} called while no step is executing"

def isFinalAttempt (operator : Operator κ) : Bool :=
  operator.frame.all (·.retestsLeft == 0)

def setRetestsLeft (operator : Operator κ) (left : Nat) : Except RunError (Operator κ) :=
  match operator.frame with
  | some frame => .ok { operator with frame := some { frame with retestsLeft := left } }
  | none => .error (idle "set_retests_left")

def noteResponse (operator : Operator κ) (response : PromptResponse) : Operator κ :=
  { operator with frame := operator.frame.map (·.note response) }

/-- Children may be queued until the step records an outcome. -/
def queue (operator : Operator κ) (profile : Profile) (child : κ) :
    Operator κ × Except RunError Unit :=
  match operator.frame with
  | none => (operator, .error (idle "add_child"))
  | some frame =>
      if 0 < frame.recorded then
        (operator, .error (.invalidStep frame.executionId
          s!"cannot add child '{profile.id}' after the step recorded an outcome"))
      else if profile.kind.isFixed then
        (operator, .error (.invalidStep frame.executionId
          s!"'{profile.id}' is a {profile.kind.name} step and cannot be added at run time"))
      else
        let frame := { frame with children := frame.children ++ [child] }
        ({ operator with frame := some frame }, .ok ())

/-! Beginning and ending steps. -/

/-- A step without a label may be named by its template. -/
def frameFor (operator : Operator κ) (profile : Profile) (suffix : String) : Frame κ :=
  let frame := Frame.ofProfile profile suffix
  match profile.label, profile.template with
  | none, some template =>
      match operator.render template Block.stepName [] with
      | .ok name => { frame with name := name }
      | .error _ => frame
  | _, _ => frame

/-- A reply, after which the operator is as given. -/
abbrev Answer (κ α : Type) := Operator κ × Except RunError α

/-- A step that is still executing is given up for another one. -/
def giveUp (operator : Operator κ) : Job Unit :=
  if operator.frame.isSome then Job.log .warn "replacing a step that was never finished"
  else return ()

def begin (operator : Operator κ) (profile : Profile) : Job (Answer κ String) := do
  let frame := operator.frameFor profile (← Job.freshSuffix)
  operator.giveUp
  let operator := { operator with frame := some frame }
  let result :=
    StepResult.opened frame.executionId frame.stepId frame.name frame.kind (← Job.now)
  match ← Job.changeReport operator.runId (.openStep result) with
  | .error error => return (operator, .error (.report error))
  | .ok () =>
      let index := operator.started + 1
      Job.notify (.started index frame.executionId frame.name frame.kind)
      return ({ operator with started := index }, .ok frame.executionId)

def finish (operator : Operator κ) : Job (Answer κ (Option (Frame κ))) := do
  match operator.frame with
  | none => return (operator, .ok none)
  | some frame =>
      let operator := { operator with frame := none }
      let change := Report.Change.closeStep frame.executionId (← Job.now)
      match ← Job.changeReport operator.runId change with
      | .error error => return (operator, .error (.report error))
      | .ok () => return (operator, .ok (some frame))

/-! Outcomes and questions. -/

def defaultTask : String := "How would you like to proceed?"

/-- Asks about an outcome that counts as a failure. What comes back is the answer,
if a question was asked, and whether the remedy counts as not carried out. -/
def followUp (mode : Mode) (outcome : Outcome) : Job (Option PromptResponse × Bool) := do
  if !outcome.status.isFailure then return (none, false)
  else if mode.isAuto || !outcome.prompts then return (none, true)
  else
    let message := outcome.taskMessage.getD defaultTask
    let response ← Job.ask (.humanTask message)
    return (some response, response.skipsRemediation)

/-- How an outcome is filed. -/
def evaluationOf (outcome : Outcome) (response : Option PromptResponse) (skipped : Bool) :
    Evaluation where
  resource := outcome.resource
  status := outcome.status
  reason := outcome.reason
  remediation := outcome.remediation
  remediationSkipped := skipped
  response := response

/-- Shows an outcome, asks about it and files it. -/
def record (operator : Operator κ) (outcome : Outcome) :
    Job (Answer κ (Option PromptResponse)) := do
  match operator.frame with
  | none => return (operator, .error (idle "recording an outcome"))
  | some frame =>
      let frame := { frame with recorded := frame.recorded + 1 }
      let operator := { operator with frame := some frame }
      Job.notify
        (.ofOutcome outcome.status outcome.resource outcome.reason outcome.remediation)
      let (response, skipped) ← followUp operator.setting.mode outcome
      let evaluation := evaluationOf outcome response skipped
      match ← Job.changeReport operator.runId (.record frame.executionId evaluation) with
      | .error error => return (operator, .error (.report error))
      | .ok () =>
          match response with
          | some response => return (operator.noteResponse response, .ok (some response))
          | none => return (operator, .ok none)

/-- In auto mode nothing is asked, and the answer is that there is none. -/
def ask (operator : Operator κ) (request : PromptRequest) :
    Job (Answer κ PromptResponse) := do
  if operator.setting.mode.isAuto then
    return (operator.noteResponse .noAnswer, .ok .noAnswer)
  else
    let response ← Job.ask request
    match operator.frame with
    | none => return (operator, .ok response)
    | some frame =>
        match ← Job.changeReport operator.runId (.respond frame.executionId response) with
        | .error error => return (operator, .error (.report error))
        | .ok () => return (operator.noteResponse response, .ok response)

def printSummary (operator : Operator κ) : Action Unit := do
  let totals ← Action.ofReport (Job.totals operator.runId)
  Job.notify (.summary operator.setting.runbook totals)

/-! All calls. `profileOf` tells what is known of a queued step. -/

def call (profileOf : κ → Profile) (operator : Operator κ) :
    (call : Call) → Job (Answer κ call.Reply)
  | .setting => return (operator, .ok operator.setting)
  | .get key => return (operator, .ok (operator.get? key))
  | .put key value => return (operator.put key value, .ok ())
  | .parameters => return (operator, .ok operator.parameters)
  | .active => return (operator, .ok (operator.frame.map (·.map profileOf)))
  | .isFinalAttempt => return (operator, .ok operator.isFinalAttempt)
  | .phrase block arguments => return (operator, operator.phrase block arguments)
  | .render template block arguments =>
      return (operator, operator.render template block arguments)
  | .record outcome => operator.record outcome
  | .ask request => operator.ask request
  | .inform message => do
      Job.notify (.info message)
      return (operator, .ok ())
  | .progress message => do
      Job.notify (.progress message)
      return (operator, .ok ())
  | .take =>
      return ({ operator with frame := none }, .ok (operator.frame.map (·.map profileOf)))
  | .install profile => do
      let frame := Frame.ofProfile profile (← Job.freshSuffix)
      return ({ operator with frame := some frame }, .ok (operator.frame.map (·.map profileOf)))
  | .begin profile => operator.begin profile
  | .finish => do
      let (operator, reply) ← operator.finish
      return (operator, reply.map (·.map (·.map profileOf)))
  | .note entry => do
      Job.note entry
      return (operator, .ok ())

end Operator

end Triage
