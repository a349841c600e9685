import Triage.Renderer.Basic
import Triage.Text.Width
import Triage.Text.Wrap

namespace Triage

/-! The renderer for people. Progress is shown on a line of its own that the next
output clears away; questions are answered by lines of input. -/

structure Terminal where
  ink : Ink
  width : Nat
  /-- The lines that have not been read; one that is not text counts as none. -/
  input : List (Option String)
  screen : String
  progressVisible : Bool
  /-- A screen that takes nothing. -/
  broken : Bool
  /-- Log lines go elsewhere. -/
  logs : String
  level : Option LogLevel

namespace Terminal

def opened (ink : Ink) (width : Nat) (input : List (Option String)) : Terminal where
  ink := ink
  width := width
  input := input
  screen := ""
  progressVisible := false
  broken := false
  logs := ""
  level := none

/-- The lines of an input of bytes. A line may lack its end. -/
def linesOf (bytes : List UInt8) : List (Option String) :=
  (rawLines bytes).map fun line => String.fromUTF8? ⟨line.toArray⟩
where
  rawLines : List UInt8 → List (List UInt8)
    | [] => []
    | byte :: rest =>
        if byte == 10 then [byte] :: rawLines rest
        else
          match rawLines rest with
          | [] => [[byte]]
          | line :: more => (byte :: line) :: more

/-! Labels. -/

/-- The codes of the colours. -/
inductive Color where
  | red
  | green
  | yellow
  | blue
  | cyan
  | white
  | grey
deriving DecidableEq, Repr

def Color.code : Color → String
  | .red => "9"
  | .green => "10"
  | .yellow => "11"
  | .blue => "12"
  | .cyan => "14"
  | .white => "15"
  | .grey => "8"

def paint (terminal : Terminal) (color : Color) (label : String) : String :=
  match terminal.ink with
  | .none => label
  | .bold => "\x1b[m\x1b[1m" ++ label ++ "\x1b[0m"
  | .color => "\x1b[38;5;" ++ color.code ++ "m\x1b[1m" ++ label ++ "\x1b[0m"

/-! Output. -/

def write (text : String) (terminal : Terminal) : Terminal :=
  if terminal.broken then terminal else { terminal with screen := terminal.screen ++ text }

def clearLine : String := "\r\x1b[2K"

def clearProgress (terminal : Terminal) : Terminal :=
  if terminal.progressVisible then { terminal.write clearLine with progressVisible := false }
  else terminal

/-- Whole lines. -/
def emit (lines : String) (terminal : Terminal) : Terminal :=
  terminal.clearProgress.write (lines ++ "\n")

def showProgress (message : String) (terminal : Terminal) : Terminal :=
  let cleared := terminal.clearProgress
  { cleared.write (Text.truncate terminal.width message) with
    progressVisible := !terminal.broken }

def detailIndent : String := "     "

def wrapDetail (terminal : Terminal) (text : String) : String :=
  Text.wrap terminal.width detailIndent text

def statusLabel (terminal : Terminal) : Status → String
  | .ok => terminal.paint .green "[OK]"
  | .failed => terminal.paint .red "[FAIL]"
  | .uncertain => terminal.paint .yellow "[UNCERTAIN]"
  | .skipped => terminal.paint .grey "[SKIP]"

def outcomeText (terminal : Terminal) (status : Status) (resource : Option Resource)
    (reason : String) (remediation : Option String) : String :=
  let subject := (resource.map (·.shortPath)).getD "-"
  let head := "   - " ++ Text.padRight 60 subject ++ " " ++ terminal.statusLabel status
  let reason := if Text.isBlankText reason then "" else "\n" ++ terminal.wrapDetail reason
  let remedy :=
    match remediation.filter (!Text.isBlankText ·) with
    | some remediation =>
        "\n\n" ++ detailIndent ++ terminal.paint .yellow "[REMEDIATION]" ++ "\n" ++
          terminal.wrapDetail remediation
    | none => ""
  head ++ reason ++ remedy

def summaryText (terminal : Terminal) (runbook : String) (totals : Totals) : String :=
  let counts := Status.all.map fun status =>
    "  " ++ Text.padRight 10 status.name ++ " " ++ toString (totals.count status) ++ "\n"
  Text.trimEnd
    ("\n" ++ terminal.paint .white "Runbook finished:" ++ " " ++ runbook ++ "\n" ++
      String.join counts)

/-- Steps that only choose or group others are shown as progress. -/
def notify (notice : Notice) (terminal : Terminal) : Terminal :=
  match notice with
  | .started index _ name kind =>
      if kind = .gateway ∨ kind = .composite then terminal.showProgress s!"[{index}] {name}"
      else terminal.emit (s!"\n[{index}] " ++ terminal.paint .cyan name)
  | .progress message => terminal.showProgress message
  | .outcome status resource reason remediation =>
      terminal.emit (terminal.outcomeText status resource reason remediation)
  | .info message =>
      terminal.emit (detailIndent ++ terminal.paint .blue "[INFO]" ++ " " ++ message)
  | .summary runbook totals => terminal.emit (terminal.summaryText runbook totals)

/-! Questions. -/

def questionText (terminal : Terminal) (request : PromptRequest) : String :=
  let options := request.options.map fun (key, description) =>
    "  [" ++ terminal.paint .cyan key ++ "] " ++ description ++ "\n"
  "\n" ++ Text.wrap terminal.width "" request.message ++ "\n" ++ String.join options

def keysText (request : PromptRequest) : String :=
  Text.join "/" request.options.keys

/-- The next line without white space around it, if there is anything in it. -/
def readAnswer (terminal : Terminal) : Option String × Terminal :=
  match terminal.input with
  | [] => (none, terminal)
  | line :: rest =>
      ((line.map Text.trim).filter (· != ""), { terminal with input := rest })

def pose (request : PromptRequest) (terminal : Terminal) : Terminal :=
  terminal.clearProgress.write (terminal.questionText request)

/-- Asks for a line of input. -/
def invite (request : PromptRequest) (terminal : Terminal) : Terminal :=
  terminal.clearProgress.write ("Choose an option [" ++ keysText request ++ "]: ")

/-- What comes of the next line of input: an answer, or another attempt. -/
def receive (request : PromptRequest) (terminal : Terminal) :
    Option PromptResponse × Terminal :=
  let (answer, terminal) := terminal.readAnswer
  match answer with
  | none => (some .noAnswer, terminal.emit "")
  | some answer =>
      match request.resolve? answer with
      | some response => (some response, terminal)
      | none =>
          (none, terminal.emit ("'" ++ answer ++ "' is not one of [" ++ keysText request ++ "]."))

def askFor (request : PromptRequest) : (attempts : Nat) → Terminal → PromptResponse × Terminal
  | 0, terminal => (.noAnswer, terminal)
  | attempts + 1, terminal =>
      match (terminal.invite request).receive request with
      | (some response, terminal) => (response, terminal)
      | (none, terminal) => askFor request attempts terminal

def greatestAttempts : Nat := 3

/-- A question that cannot be shown is not answered. -/
def ask (request : PromptRequest) (terminal : Terminal) : PromptResponse × Terminal :=
  if terminal.broken then (.noAnswer, terminal)
  else askFor request greatestAttempts (terminal.pose request)

def writeLog (line : LogLine) (terminal : Terminal) : Terminal :=
  if terminal.level.any fun level => line.level.rank ≤ level.rank then
    { terminal with logs := terminal.logs ++ line.text }
  else terminal

instance : Renderer Terminal where
  notify := notify
  ask := ask
  log := writeLog
  present presentation terminal :=
    { terminal with
      ink := presentation.ink
      width := presentation.width
      level := presentation.level }
  transcript _ := ⟨[], ""⟩

end Terminal

end Triage
