import Triage.Entries
import Triage.Files.Path

namespace Triage

/-! The variables that a person sets once for all programs. -/

abbrev Environment := Entries String

namespace Environment

/-- The variables that this program looks at. -/
def names : List String :=
  ["HOME", "XDG_CONFIG_HOME", "GCPDIAG_CONFIG_PATH", "NO_COLOR", "RUST_LOG"]

/-- An empty variable says as little as a missing one. -/
def filled? (environment : Environment) (name : String) : Option String :=
  (environment.get? name).filter (· != "")

def home (environment : Environment) : String :=
  (environment.filled? "HOME").getD "~"

/-- Where programs keep their settings. -/
def configDirectory (environment : Environment) : String :=
  match (environment.get? "XDG_CONFIG_HOME").filter fun path => Path.isAbsolute path.toList with
  | some directory => directory
  | none => Path.join environment.home ".config"

/-- The file with the settings of this program. -/
def configPath (environment : Environment) : String :=
  match (environment.get? "GCPDIAG_CONFIG_PATH").filter (!Text.isBlankText ·) with
  | some path => Path.expandTilde environment.home path
  | none => Path.join (Path.join environment.configDirectory "gcpdiag") "runbook.json"

def wantsNoColor (environment : Environment) : Bool :=
  (environment.filled? "NO_COLOR").isSome

end Environment

end Triage
