import Triage.Error
import Triage.Parameter.Spec
import Triage.Pattern.Reader

namespace Triage

/-! What a run looks at: a project, and a part of its resources. -/

/-- A pattern with the text it was read from. -/
structure NamePattern where
  text : String
  pattern : Pattern
deriving DecidableEq, Repr

namespace NamePattern

def read (text : String) : Except RunError NamePattern :=
  match Pattern.read? text with
  | some pattern => .ok ⟨text, pattern⟩
  | none =>
      .error (.invalidParameter "resources" "regular expression"
        s!"'{text}': not a regular expression")

end NamePattern

structure Context where
  projectId : String
  /-- Regions and zones in lower case; without any, every location counts. -/
  locations : List String
  /-- What a resource must be labelled with. -/
  labels : Entries String
  /-- One of these must occur in the name; without any, every name counts. -/
  patterns : List NamePattern
  /-- The parameters at the start of the run. -/
  parameters : Parameters

namespace Context

def ofProject (projectId : String) : Context :=
  ⟨projectId, [], [], [], []⟩

def withLocations (context : Context) (locations : List String) : Context :=
  { context with locations := locations.map Text.lower }

def withPatterns (context : Context) (texts : List String) : Except RunError Context :=
  match texts.mapM NamePattern.read with
  | .ok patterns => .ok { context with patterns := patterns }
  | .error error => .error error

/-- A location is admitted by its own name and, as a zone, by that of its region. -/
def admitsLocation (context : Context) (location : Option String) : Bool :=
  context.locations.isEmpty || location.any fun location =>
    context.locations.any fun wanted =>
      let location := Text.lower location
      location == wanted || Text.hasPrefix (wanted ++ "-") location

def admitsLabels (context : Context) (labels : Entries String) : Bool :=
  context.labels.all fun (key, value) => labels.get? key == some value

def admitsName (context : Context) (name : String) : Bool :=
  context.patterns.isEmpty || context.patterns.any (·.pattern.occursIn name)

def admits (context : Context) (location : Option String) (labels : Entries String)
    (name : String) : Bool :=
  context.admitsLocation location && context.admitsLabels labels && context.admitsName name

end Context

end Triage
