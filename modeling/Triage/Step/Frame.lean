import Triage.Prompt
import Triage.Step.Profile

namespace Triage

/-! The step that is executing, and what has happened to it so far. `κ` stands
for the steps that it queues. -/

structure Frame (κ : Type) where
  executionId : String
  stepId : String
  name : String
  kind : StepKind
  template : Option String
  /-- How many outcomes it recorded. -/
  recorded : Nat
  children : List κ
  retestRequested : Bool
  retestsLeft : Nat
  responses : List PromptResponse
deriving Repr

namespace Frame

variable {κ : Type}

/-- A fresh frame; `suffix` keeps the executions of a step apart. -/
def ofProfile (profile : Profile) (suffix : String) : Frame κ where
  executionId := profile.id ++ "." ++ suffix
  stepId := profile.id
  name := profile.name
  kind := profile.kind
  template := profile.template
  recorded := 0
  children := []
  retestRequested := false
  retestsLeft := 0
  responses := []

def map {τ : Type} (transform : κ → τ) (frame : Frame κ) : Frame τ :=
  { frame with children := frame.children.map transform }

/-- A retest answer asks for another execution; every answer is kept. -/
def note (frame : Frame κ) (response : PromptResponse) : Frame κ :=
  { frame with
    retestRequested := frame.retestRequested || response == .retest
    responses := frame.responses ++ [response] }

end Frame

end Triage
