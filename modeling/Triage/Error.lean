import Triage.Text.Chars

namespace Triage

/-! What can go wrong, as causes; each kind of error has one wording. -/

/-- An answer of a cloud service that is not a success. -/
structure ApiError where
  status : Nat
  service : String
  message : String
  reason : Option String
deriving DecidableEq, Repr

namespace ApiError

def of (status : Nat) (service message : String) : ApiError :=
  ⟨status, service, message, none⟩

def notFound (service message : String) : ApiError :=
  ⟨404, service, message, some "notFound"⟩

def isNotFound (error : ApiError) : Bool :=
  error.status == 404

def text (error : ApiError) : String :=
  s!"{error.service} API request failed with status {error.status}: {error.message}"

end ApiError

/-- An error of a library: what it says, and what the errors behind it say, the nearest one
first. -/
structure ForeignError where
  message : String
  sources : List String
deriving DecidableEq, Repr

namespace ForeignError

/-- Nothing is behind an error that is made of a text. -/
instance : Coe String ForeignError := ⟨fun message => ⟨message, []⟩⟩

def chain (error : ForeignError) : List String :=
  error.message :: error.sources

end ForeignError

inductive ReportError where
  | unknownRun (run : String)
  | unknownStep (run step : String)
  | file (error : ForeignError)
  | serialization (error : ForeignError)
deriving DecidableEq, Repr

namespace ReportError

def text : ReportError → String
  | .unknownRun run => s!"no report is open for run '{run}'"
  | .unknownStep run step => s!"no step '{step}' is open in run '{run}'"
  | .file error => s!"report I/O error: {error.message}"
  | .serialization error => s!"report serialization error: {error.message}"

/-- A text that quotes the error behind it does not stand for that error. -/
def sources : ReportError → List String
  | .unknownRun _ | .unknownStep _ _ => []
  | .file error | .serialization error => error.chain

end ReportError

inductive RunError where
  | treeNotFound (id guidance : String)
  | treeConstruction (tree message : String)
  | invalidTree (tree message : String)
  /-- A step used its operator in a way that a run does not survive. -/
  | invalidStep (step message : String)
  | missingParameter (name help : String)
  | invalidParameter (name expected message : String)
  /-- There is no open operator scope. -/
  | noOperator
  /-- A run of a batch crashed outside of its steps. -/
  | crashed (runbook : String)
  | unknownTemplate (template block : String)
  | report (error : ReportError)
  | api (error : ApiError)
deriving DecidableEq, Repr

def RunError.text : RunError → String
  | .treeNotFound id guidance => s!"runbook '{id}' was not found. {guidance}"
  | .treeConstruction tree message =>
      s!"failed to construct diagnostic tree '{tree}': {message}"
  | .invalidTree tree message => s!"invalid diagnostic tree '{tree}': {message}"
  | .invalidStep step message => s!"invalid step operation in '{step}': {message}"
  | .missingParameter name help => s!"missing required parameter '{name}': {help}"
  | .invalidParameter name expected message =>
      s!"invalid value for parameter '{name}' (expected {expected}): {message}"
  | .noOperator => "no operator found: step operations must run inside an operator context"
  | .crashed runbook => s!"run of '{runbook}' panicked"
  | .unknownTemplate template block =>
      s!"unknown message template '{template}' (block '{block}')"
  | .report error => error.text
  | .api error => error.text

/-- What the error says, and what the errors behind it say. -/
def RunError.chain (error : RunError) : List String :=
  error.text ::
    match error with
    | .report error => error.sources
    | _ => []

/-- What a step failed with. -/
inductive Cause where
  | run (error : RunError)
  | api (error : ApiError)
  | other (error : ForeignError)
deriving DecidableEq, Repr

def Cause.chain : Cause → List String
  | .run error => error.chain
  | .api error => [error.text]
  | .other error => error.chain

/-- A cause with the circumstances it was reported under, outermost first. -/
structure Failure where
  contexts : List String
  cause : Cause
deriving DecidableEq, Repr

namespace Failure

def ofCause (cause : Cause) : Failure :=
  ⟨[], cause⟩

def ofRun (error : RunError) : Failure :=
  .ofCause (.run error)

def within (failure : Failure) (context : String) : Failure :=
  { failure with contexts := context :: failure.contexts }

/-- Everything that is known, outermost first. -/
def text (failure : Failure) : String :=
  Text.join ": " (failure.contexts ++ failure.cause.chain)

/-- The error of the engine at the bottom, whatever stands around it. -/
def runError? (failure : Failure) : Option RunError :=
  match failure.cause with
  | .run error => some error
  | _ => none

/-- What the report says about a step that failed. Errors of the engine speak for
themselves; of an answer of a cloud service only its message is told. -/
def reason (failure : Failure) : String :=
  match failure.cause with
  | .run error => "The step could not complete: " ++ Text.join ": " error.chain
  | .api error => s!"The step could not query the {error.service} API: {error.message}"
  | .other _ => s!"The step could not complete: {failure.text}"

end Failure

/-- The message of a crash. -/
abbrev Crash := String

end Triage
