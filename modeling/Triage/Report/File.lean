import Triage.Report.Document
import Triage.Text.Case

namespace Triage

namespace FileName

/-! Parts of file names: characters that are awkward there give way to an
underscore. -/

def isAwkward (char : Char) : Bool :=
  char == '/' || char == '\\' || char == '-' || char == ':' || Text.isBlank char

def sanitizeChars (chars : Chars) : Chars :=
  chars.trim.map fun char => if isAwkward char then '_' else char

def sanitize (text : String) : String :=
  String.ofList (sanitizeChars text.toList)

end FileName

namespace Report

/-- The name of a report's file. The end of the run id keeps runs apart that
finish in the same second. -/
def fileName (runbook runId : String) (moment : Instant) : String :=
  let tail := FileName.sanitize (Text.afterLast '-' runId)
  s!"runbook_report_{FileName.sanitize runbook}_{moment.toFileText}_UTC_{tail}.json"

end Report

end Triage
