import Triage.Step.Basic

namespace Triage

/-! ## What steps may do

Whatever the replies are, a body performs only such calls and queues only such
steps. -/

def Body.Every (calls : Call → Prop) (steps : Step → Prop) : Body → Prop
  | .done => True
  | .fail _ => True
  | .crash _ => True
  | .call _ operation next => calls operation ∧ ∀ reply, (next reply).Every calls steps
  | .queue _ child next => steps child ∧ ∀ reply, (next reply).Every calls steps

mutual
/-- Every execution, and every execution of a step that is queued on the way,
performs only such calls. -/
def Step.Uses (calls : Call → Prop) : Step → Prop
  | .mk _ executions => ∀ index, (executions index).Uses calls

def Body.Uses (calls : Call → Prop) : Body → Prop
  | .done => True
  | .fail _ => True
  | .crash _ => True
  | .call _ operation next => calls operation ∧ ∀ reply, (next reply).Uses calls
  | .queue _ child next => child.Uses calls ∧ ∀ reply, (next reply).Uses calls
end

variable {calls : Call → Prop} {steps : Step → Prop}

mutual
/-- To show something of a step, it may be assumed of all steps that it queues. -/
theorem Step.Uses.induction
    (mk : ∀ profile executions, (∀ index, (executions index).Every calls steps) →
      steps (.mk profile executions)) :
    ∀ step : Step, step.Uses calls → steps step
  | .mk profile executions, uses =>
      mk profile executions fun index => Body.Uses.every mk (executions index) (uses index)

theorem Body.Uses.every
    (mk : ∀ profile executions, (∀ index, (executions index).Every calls steps) →
      steps (.mk profile executions)) :
    ∀ body : Body, body.Uses calls → body.Every calls steps
  | .done, _ => trivial
  | .fail _, _ => trivial
  | .crash _, _ => trivial
  | .call _ _ next, uses => ⟨uses.1, fun reply => Body.Uses.every mk (next reply) (uses.2 reply)⟩
  | .queue _ child next, uses =>
      ⟨Step.Uses.induction mk child uses.1, fun reply =>
        Body.Uses.every mk (next reply) (uses.2 reply)⟩
end

mutual
theorem Step.uses_any : ∀ step : Step, step.Uses fun _ => True
  | .mk _ executions => fun index => Body.uses_any (executions index)

theorem Body.uses_any : ∀ body : Body, body.Uses fun _ => True
  | .done => trivial
  | .fail _ => trivial
  | .crash _ => trivial
  | .call _ _ next => ⟨trivial, fun reply => Body.uses_any (next reply)⟩
  | .queue _ child next => ⟨Step.uses_any child, fun reply => Body.uses_any (next reply)⟩
end

theorem Body.every_any (body : Body) : body.Every (fun _ => True) fun _ => True :=
  Body.Uses.every (fun _ _ _ => trivial) body body.uses_any

namespace Call

/-- All calls but those that begin and end steps on their own account. -/
def isOrdinary : Call → Bool
  | .take => false
  | .install _ => false
  | .begin _ => false
  | .finish => false
  | _ => true

/-- Puts a frame into place that the report knows nothing of. -/
def installs : Call → Bool
  | .install _ => true
  | _ => false

end Call

end Triage
