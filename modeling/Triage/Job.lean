import Triage.Files.Error
import Triage.Renderer.Basic
import Triage.Report.Basic

namespace Triage

/-! Work that involves the surroundings, as data: a sequence of effects, each
followed by a continuation that takes the reply. -/

inductive Effect where
  /-- Eight characters that have not been given out before. -/
  | freshSuffix
  | now
  | notify (notice : Notice)
  | ask (request : PromptRequest)
  | log (line : LogLine)
  | createReport (report : Report)
  | changeReport (runId : String) (change : Report.Change)
  | totals (runId : String)
  | finishReport (runId : String) (moment : Instant)
  | createDirectory (path : String)
  | writeFile (path text : String)
  | readFile (path : String)
  /-- Writes where a report goes that cannot be filed. -/
  | printFallback (text : String)
  | print (text : String)
  | printError (text : String)
  | present (presentation : Presentation)
  | transcript
  /-- Leaves a remark in the journal. -/
  | note (entry : Json.Node)

def Effect.Reply : Effect → Type
  | .freshSuffix => String
  | .now => Instant
  | .notify _ => Unit
  | .ask _ => PromptResponse
  | .log _ => Unit
  | .createReport _ => Unit
  | .changeReport _ _ => Except ReportError Unit
  | .totals _ => Except ReportError Totals
  | .finishReport _ _ => Except ReportError Report
  | .createDirectory _ => Except FileError Unit
  | .writeFile _ _ => Except FileError Unit
  | .readFile _ => Except FileError String
  | .printFallback _ => Except FileError Unit
  | .print _ => Unit
  | .printError _ => Unit
  | .present _ => Unit
  | .transcript => Transcript
  | .note _ => Unit

inductive Job (α : Type) where
  | done (value : α)
  | perform (effect : Effect) (next : effect.Reply → Job α)

namespace Job

variable {α β : Type}

def bind : Job α → (α → Job β) → Job β
  | .done value, continue_ => continue_ value
  | .perform effect next, continue_ => .perform effect fun reply => (next reply).bind continue_

instance : Monad Job where
  pure := .done
  bind := Job.bind

theorem bind_done (job : Job α) : job.bind .done = job := by
  induction job with
  | done value => rfl
  | perform effect next induction => exact congrArg (Job.perform effect) (funext induction)

theorem bind_assoc {γ : Type} (job : Job α) (first : α → Job β) (second : β → Job γ) :
    (job.bind first).bind second = job.bind fun value => (first value).bind second := by
  induction job with
  | done value => rfl
  | perform effect next induction => exact congrArg (Job.perform effect) (funext induction)

instance : LawfulMonad Job :=
  LawfulMonad.mk' Job bind_done (fun _ _ => rfl) bind_assoc

def effect (effect : Effect) : Job effect.Reply :=
  .perform effect .done

/-- Does every effect of a job in a state, one after the other. -/
def exec {σ : Type} (handle : (effect : Effect) → σ → effect.Reply × σ) : Job α → σ → α × σ
  | .done value, state => (value, state)
  | .perform effect next, state =>
      let (reply, state) := handle effect state
      (next reply).exec handle state

theorem exec_bind {σ : Type} (handle : (effect : Effect) → σ → effect.Reply × σ)
    (job : Job α) (continue_ : α → Job β) (state : σ) :
    (job >>= continue_).exec handle state =
      (continue_ (job.exec handle state).1).exec handle (job.exec handle state).2 := by
  induction job generalizing state with
  | done value => rfl
  | perform effect next induction => exact induction _ _

/-- One job after the other. -/
def all : List (Job Unit) → Job Unit
  | [] => .done ()
  | job :: rest => job.bind fun () => all rest

/-! The effects as jobs. -/

def notify (notice : Notice) : Job Unit :=
  effect (.notify notice)

def ask (request : PromptRequest) : Job PromptResponse :=
  effect (.ask request)

def log (level : LogLevel) (message : String) : Job Unit :=
  effect (.log (.of level message))

def now : Job Instant :=
  effect .now

def freshSuffix : Job String :=
  effect .freshSuffix

def note (entry : Json.Node) : Job Unit :=
  effect (.note entry)

def createReport (report : Report) : Job Unit :=
  effect (.createReport report)

def changeReport (runId : String) (change : Report.Change) : Job (Except ReportError Unit) :=
  effect (.changeReport runId change)

def totals (runId : String) : Job (Except ReportError Totals) :=
  effect (.totals runId)

def finishReport (runId : String) (moment : Instant) : Job (Except ReportError Report) :=
  effect (.finishReport runId moment)

def createDirectory (path : String) : Job (Except FileError Unit) :=
  effect (.createDirectory path)

def writeFile (path text : String) : Job (Except FileError Unit) :=
  effect (.writeFile path text)

def printFallback (text : String) : Job (Except FileError Unit) :=
  effect (.printFallback text)

end Job

/-- Work that an error of the engine may end. -/
abbrev Action := ExceptT RunError Job

namespace Action

variable {α : Type}

/-- Work inside of an action that may fail with an error of the report. -/
def ofReport (job : Job (Except ReportError α)) : Action α :=
  ExceptT.mk do
    match ← job with
    | .ok value => return .ok value
    | .error error => return .error (.report error)

end Action

end Triage
