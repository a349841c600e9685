import Triage.Log
import Triage.Text.CodePoints
import Triage.Text.Letter
import Triage.Text.Chars

namespace Triage

/-! Which log lines are kept. A directive speaks for the sources whose names begin
with its own; of several the one with the longest name counts. -/

structure LogDirective where
  source : String
  /-- Lines up to this level are kept; without one, none are. -/
  level : Option LogLevel
deriving DecidableEq, Repr

namespace LogDirective

def levelNamed? (name : String) : Option (Option LogLevel) :=
  let names :=
    [("off", none), ("error", some .error), ("warn", some .warn), ("info", some .info),
      ("debug", some .debug), ("trace", some .trace), ("0", none), ("1", some .error),
      ("2", some .warn), ("3", some .info), ("4", some .debug), ("5", some .trace)]
  names.lookup (String.ofList (name.toList.map Char.toLower))

def isSource (name : String) : Bool :=
  name.toList.head?.any fun char =>
    char == '-' || char == ':' || char == '_' || Text.isAlphanumeric char

/-- A level alone is for every source, and a source alone keeps every line. -/
def read? (text : String) : Option LogDirective := do
  let (source, level) ←
    match levelNamed? text, Text.cut? '=' text with
    | some level, _ => return ⟨"", level⟩
    | none, some (source, "") => pure (source, some .trace)
    | none, some (source, name) => pure (source, ← levelNamed? name)
    | none, none => pure (text, some .trace)
  if isSource source then return ⟨source, level⟩ else none

end LogDirective

abbrev LogFilter := List LogDirective

namespace LogFilter

/-- Directives stand between commas. Without any, errors are kept. -/
def read? (text : String) : Option LogFilter :=
  match (Text.split ',' text).filter (· != "") with
  | [] => some [⟨"", some .error⟩]
  | words => words.mapM LogDirective.read?

/-- Of directives for the same source the last counts. -/
def chosen? (source : String) : LogFilter → Option LogDirective
  | [] => none
  | directive :: rest =>
      match chosen? source rest with
      | some other =>
          if Text.hasPrefix directive.source source ∧ other.source.length < directive.source.length
          then some directive else some other
      | none => if Text.hasPrefix directive.source source then some directive else none

def levelFor (source : String) (filter : LogFilter) : Option LogLevel :=
  (filter.chosen? source).bind (·.level)

end LogFilter

end Triage
