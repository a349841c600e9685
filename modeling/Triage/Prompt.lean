import Triage.Text.Case
import Triage.Entries

namespace Triage

/-! Questions to a person and their answers. -/

inductive PromptKind where
  | confirmation
  | humanTask
deriving DecidableEq, Repr

def PromptKind.name : PromptKind → String
  | .confirmation => "CONFIRMATION"
  | .humanTask => "HUMAN_TASK"

inductive PromptResponse where
  | yes
  | no
  | uncertain
  | continue
  | stop
  | retest
  /-- The key of an option without a standard meaning. -/
  | custom (key : String)
  /-- No input, or a question that was never asked. -/
  | noAnswer
deriving DecidableEq, Repr

namespace PromptResponse

/-- The answers after which a suggested remedy counts as not carried out. -/
def skipsRemediation : PromptResponse → Bool
  | .continue | .stop | .noAnswer => true
  | _ => false

/-- The standard answers by name. -/
def standard : List (String × PromptResponse) :=
  [("YES", .yes), ("NO", .no), ("UNCERTAIN", .uncertain), ("CONTINUE", .continue),
    ("STOP", .stop), ("RETEST", .retest), ("NO_ANSWER", .noAnswer)]

def name? (response : PromptResponse) : Option String :=
  (standard.find? (·.2 == response)).map (·.1)

end PromptResponse

structure PromptRequest where
  kind : PromptKind
  message : String
  /-- Descriptions by answer key, in the order they are shown. -/
  options : Entries String
deriving DecidableEq, Repr

namespace PromptRequest

def confirmation (message : String) : PromptRequest :=
  ⟨.confirmation, message, [("y", "Yes"), ("n", "No"), ("u", "Unsure")]⟩

def humanTask (message : String) : PromptRequest :=
  ⟨.humanTask, message,
    [("r", "Retest current step"), ("c", "Continue"), ("s", "Stop this runbook")]⟩

/-- What a key means for a kind of question, if it has a fixed meaning. -/
def meaning? : PromptKind → String → Option PromptResponse
  | .confirmation, key =>
      if key = "y" ∨ key = "yes" then some .yes
      else if key = "n" ∨ key = "no" then some .no
      else if key = "u" ∨ key = "unsure" then some .uncertain
      else none
  | .humanTask, key =>
      if key = "c" ∨ key = "continue" then some .continue
      else if key = "s" ∨ key = "stop" then some .stop
      else if key = "r" ∨ key = "retest" then some .retest
      else none

/-- Only the keys of the options are answers; case and surrounding white space of
an answer do not matter. -/
def resolve? (request : PromptRequest) (answer : String) : Option PromptResponse :=
  (request.options.keys.find? (Text.lower · == Text.fold answer)).map fun key =>
    (meaning? request.kind (Text.lower key)).getD (.custom key)

end PromptRequest

/-- Whether a run may ask a person. -/
inductive Mode where
  | interactive
  /-- Nothing is asked, and every remedy counts as not carried out. -/
  | auto
deriving DecidableEq, Repr

namespace Mode

def ofAuto (auto : Bool) : Mode :=
  if auto then .auto else .interactive

def isAuto : Mode → Bool
  | .auto => true
  | .interactive => false

def name : Mode → String
  | .interactive => "INTERACTIVE"
  | .auto => "NON_INTERACTIVE"

def ofName? : String → Option Mode
  | "INTERACTIVE" => some .interactive
  | "NON_INTERACTIVE" => some .auto
  | _ => none

end Mode

end Triage
