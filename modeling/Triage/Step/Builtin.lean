import Triage.Step.Basic
import Triage.Text.Debug

namespace Triage

/-! The steps that every runbook can use. -/

namespace Step

/-- Does nothing; it marks where a run begins. -/
def startMark : Step :=
  .steady
    { typePath := "gcpdiag_engine::steps::StartStep"
      kind := .start
      label := some "Start"
      template := none }
    .done

/-! The last step asks whether the run was of help. -/

def supportHint : String :=
  "Rerun with different parameters, or attach the generated report when contacting support."

def farewell : Body :=
  .invoke .setting fun setting =>
    if setting.mode.isAuto then .done
    else
      .invoke (.ask (.confirmation "Is your issue resolved?")) fun (response : PromptResponse) =>
        if response = .no then .invoke (.inform supportHint) fun () => .done else .done

def endMark : Step :=
  .steady
    { typePath := "gcpdiag_engine::steps::EndStep"
      kind := .end
      label := some "End"
      template := none }
    farewell

end Step

/-! A check that a person carries out. -/

structure HumanTask where
  label : String
  instructions : String
  /-- The project, if it is not said which. -/
  resource : Option Resource

namespace HumanTask

/-- The word for an answer that is told to the person again. -/
def answerWord : PromptResponse → String
  | .yes => "Yes"
  | .no => "No"
  | .uncertain => "Uncertain"
  | .continue => "Continue"
  | .stop => "Stop"
  | .retest => "Retest"
  | .custom key => "Custom(" ++ Text.debug key ++ ")"
  | .noAnswer => "NoAnswer"

def check (task : HumanTask) (ending : String) : String :=
  s!"Manual check '{task.label}' {ending}"

/-- What follows from the answer. A retest answer repeats the step, as long as
there is an attempt left. -/
def conclude (task : HumanTask) (resource : Resource) : PromptResponse → Body
  | .continue | .yes => .conclude (.ok resource (task.check "was completed."))
  | .retest =>
      .invoke .isFinalAttempt fun (final : Bool) =>
        if final then
          .conclude (.skipped resource (task.check "was not completed; no retests are left."))
        else .done
  | other =>
      .conclude (.skipped resource (task.check s!"was not completed ({answerWord other})."))

def body (task : HumanTask) : Body :=
  .invoke .setting fun setting =>
    let resource := task.resource.getD setting.project
    if setting.mode.isAuto then
      .conclude (.skipped resource (task.check "is not performed in auto mode."))
    else .invoke (.ask (.humanTask task.instructions)) (task.conclude resource)

def step (task : HumanTask) : Step :=
  .steady
    { typePath := "gcpdiag_engine::steps::HumanTask"
      kind := .step
      label := some task.label
      template := none }
    task.body

end HumanTask

/-! A check that an attribute of a resource has the value it should have. -/

structure AttributeCheck where
  /-- Fetches the resource, and goes on with it. -/
  query : (Except ApiError Value → Body) → Body
  /-- Where the attribute is in the resource. -/
  path : String
  expected : Value
  label : Option String
  template : Option String

namespace AttributeCheck

def accessHint : String :=
  "Check that the API is enabled and that you are allowed to read the resource, then rerun."

/-- Compares what was fetched. An attribute that is missing counts as null. -/
def compare (check : AttributeCheck) (setting : Setting) (resource : Value) : Body :=
  let subject := (Resource.ofObject? resource).getD setting.project
  let found := (resource.at? check.path).getD .null
  let expected := check.expected.plainText
  let actual := found.plainText
  let arguments :=
    [("attribute", check.path), ("expected", expected), ("actual", actual)]
  if found.same check.expected then
    .phrase Block.successReason arguments s!"{check.path} is {expected}." fun reason =>
      .conclude (.ok subject reason)
  else
    .phrase Block.failureReason arguments
      s!"{check.path} is {actual}, expected {expected}." fun reason =>
      .phrase Block.failureRemediation arguments
        s!"Change {check.path} to {expected}." fun remediation =>
        .conclude (.failed subject reason remediation)

def body (check : AttributeCheck) : Body :=
  check.query fun fetched =>
    .invoke .setting fun setting =>
      match fetched with
      | .ok resource => check.compare setting resource
      | .error error =>
          if error.isNotFound then
            .conclude (.skipped setting.project
              s!"The resource could not be found: {error.message}")
          else
            .conclude (.uncertain setting.project
              s!"The resource could not be read: {error.text}" accessHint)

def step (check : AttributeCheck) : Step :=
  .steady
    { typePath := "gcpdiag_engine::steps::ResourceAttributeCheck"
      kind := .step
      label := check.label
      template := check.template }
    check.body

end AttributeCheck

end Triage
