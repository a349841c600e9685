import Std.Time.DateTime.Timestamp
import Triage.Program
import Triage.Renderer.Display

namespace Triage.Host

/-! Does the effects of a job for real. -/

structure State where
  reports : ReportStore
  display : Display

abbrev Live := StateT State IO

def fileError : IO.Error → FileError
  | .noFileOrDirectory .. => .notFound
  | .alreadyExists .. => .exists
  | .inappropriateType _ 20 _ => .notDirectory
  | .inappropriateType _ 21 _ => .isDirectory
  | .permissionDenied _ code details | .resourceExhausted _ code details
  | .inappropriateType _ code details | .invalidArgument _ code details =>
      .other s!"{details} (os error {code})"
  | error => .other (toString error)

def attempt {α : Type} (action : IO α) : Live (Except FileError α) := do
  try return .ok (← action) catch error => return .error (fileError error)

def readText (path : String) : Live (Except FileError String) := do
  match ← attempt (IO.FS.readBinFile path) with
  | .error error => return .error error
  | .ok bytes => return (String.fromUTF8? bytes).elim (.error .notText) .ok

/-- Writes what the terminal was given, and forgets it. -/
def flush (terminal : Terminal) : IO Terminal := do
  let output ← IO.getStdout
  output.putStr terminal.screen
  output.flush
  (← IO.getStderr).putStr terminal.logs
  return { terminal with screen := "", logs := "" }

def flushDisplay : Display → IO Display
  | .terminal terminal => return .terminal (← flush terminal)
  | .events log => return .events log

/-- The next line of input, if there is one. -/
def readLine : IO (List (Option String)) := do
  try
    let line ← (← IO.getStdin).getLine
    return if line.isEmpty then [] else [some line]
  catch _ => return [none]

/-- Lines are read when they are needed, and not before. -/
def askFor (request : PromptRequest) : (attempts : Nat) → Terminal → IO (PromptResponse × Terminal)
  | 0, terminal => return (.noAnswer, terminal)
  | attempts + 1, terminal => do
      let invited ← flush (terminal.invite request)
      match { invited with input := ← readLine }.receive request with
      | (some response, terminal) => return (response, ← flush terminal)
      | (none, terminal) => askFor request attempts (← flush terminal)

def ask (request : PromptRequest) : Display → IO (PromptResponse × Display)
  | .terminal terminal => do
      let (response, terminal) ←
        askFor request Terminal.greatestAttempts (terminal.pose request)
      return (response, .terminal terminal)
  | .events log =>
      let (response, log) := Renderer.ask request log
      return (response, .events log)

def show_ (update : Display → Display) : Live Unit := do
  let display ← flushDisplay (update (← get).display)
  modify ({ · with display := display })

def freshSuffix : IO String := do
  let bytes ← IO.getRandomBytes 4
  return String.ofList (bytes.toList.flatMap fun byte =>
    [Json.hexDigit (byte.toNat / 16), Json.hexDigit (byte.toNat % 16)])

def now : IO Instant := do
  let moment := (← Std.Time.Timestamp.now).toNanosecondsSinceUnixEpoch.val
  return ⟨moment / 1000000000, (moment % 1000000000).toNat⟩

def settle {α : Type} (result : Except ReportError α) (update : α → ReportStore) :
    Live (Except ReportError α) := do
  if let .ok value := result then modify ({ · with reports := update value })
  return result

def handle : (effect : Effect) → Live effect.Reply
  | .freshSuffix => freshSuffix
  | .now => now
  | .notify notice => show_ (Renderer.notify notice)
  | .ask request => do
      let (response, display) ← ask request (← get).display
      modify ({ · with display := display })
      return response
  | .log line => show_ (Renderer.log line)
  | .createReport report => modify fun state =>
      { state with reports := state.reports.create report }
  | .changeReport runId change => do
      return (← settle ((← get).reports.change runId change) id).map fun _ => ()
  | .totals runId => do return (← get).reports.totals runId
  | .finishReport runId moment => do
      return (← settle ((← get).reports.finish runId moment) (·.2)).map (·.1)
  | .createDirectory path => attempt (IO.FS.createDirAll path)
  | .writeFile path text => attempt (IO.FS.writeFile path text)
  | .readFile path => readText path
  | .printFallback text => attempt do (← IO.getStderr).putStr text
  | .print text => do (← IO.getStdout).putStr text
  | .printError text => do (← IO.getStderr).putStr text
  | .present presentation => show_ (Renderer.present presentation)
  | .transcript => do return Renderer.transcript (← get).display
  | .note _ => return ()

def perform {α : Type} : Job α → Live α
  | .done value => return value
  | .perform effect next => do perform (next (← handle effect))

def environment : IO Environment := do
  let values ← Environment.names.mapM fun name => return (← IO.getEnv name).map (name, ·)
  return values.filterMap id

end Triage.Host

open Triage in
def main (arguments : List String) : IO UInt32 := do
  let start : Host.State := ⟨[], .terminal (.opened .none 0 [])⟩
  let (code, _) ← (Host.perform (Program.run (← Host.environment) arguments)).run start
  return code.toUInt32
