namespace Triage

/-! Log lines, for whoever looks after the program. -/

/-- In order of urgency. -/
inductive LogLevel where
  | error
  | warn
  | info
  | debug
  | trace
deriving DecidableEq, Repr

namespace LogLevel

/-- The greater, the less urgent. -/
def rank : LogLevel → Nat
  | .error => 1
  | .warn => 2
  | .info => 3
  | .debug => 4
  | .trace => 5

def name : LogLevel → String
  | .error => "ERROR"
  | .warn => "WARN"
  | .info => "INFO"
  | .debug => "DEBUG"
  | .trace => "TRACE"

end LogLevel

structure LogLine where
  level : LogLevel
  message : String
  /-- Further facts by name. -/
  facts : List (String × String)
deriving DecidableEq, Repr

namespace LogLine

def of (level : LogLevel) (message : String) : LogLine :=
  ⟨level, message, []⟩

/-- Names of levels are aligned to the right. -/
def text (line : LogLine) : String :=
  let name := line.level.name
  let padding := String.ofList (List.replicate (5 - name.length) ' ')
  let facts := line.facts.map fun (key, value) => s!" {key}=\"{value}\""
  s!"{padding}{name} {line.message}{String.join facts}\n"

end LogLine

end Triage
