import Triage.Renderer.EventLog
import Triage.Report.Basic

namespace Triage

/-! ## What is shown

The events between two states of a renderer; log lines do not count. -/

inductive Renderer.Shows {ρ : Type} [Renderer ρ] : ρ → List Event → ρ → Prop
  | refl (renderer : ρ) : Shows renderer [] renderer
  | notify {before after : ρ} {shown : List Event} (earlier : Shows before shown after)
      (notice : Notice) : Shows before (shown ++ [.shown notice]) (Renderer.notify notice after)
  | ask {before after : ρ} {shown : List Event} (earlier : Shows before shown after)
      (request : PromptRequest) :
      Shows before
        (shown ++ [.asked request.kind request.message (Renderer.ask request after).1])
        (Renderer.ask request after).2
  | log {before after : ρ} {shown : List Event} (earlier : Shows before shown after)
      (line : LogLine) : Shows before shown (Renderer.log line after)

namespace Renderer.Shows

variable {ρ : Type} [Renderer ρ] {before middle after : ρ} {shown more : List Event}

theorem trans (first : Shows before shown middle) (second : Shows middle more after) :
    Shows before (shown ++ more) after := by
  induction second with
  | refl => simpa using first
  | notify _ notice induction =>
      rw [← List.append_assoc]
      exact .notify induction notice
  | ask _ request induction =>
      rw [← List.append_assoc]
      exact .ask induction request
  | log _ line induction => exact .log induction line

theorem notified (before : ρ) (notice : Notice) :
    Shows before [.shown notice] (Renderer.notify notice before) :=
  .notify (.refl before) notice

theorem logged (before : ρ) (line : LogLine) : Shows before [] (Renderer.log line before) :=
  .log (.refl before) line

theorem asked (before : ρ) (request : PromptRequest) :
    Shows before [.asked request.kind request.message (Renderer.ask request before).1]
      (Renderer.ask request before).2 :=
  .ask (.refl before) request

end Renderer.Shows

/-- The log of events is what was shown. -/
theorem EventLog.events_of_shows {before after : EventLog} {shown : List Event}
    (shows : Renderer.Shows before shown after) : after.events = before.events ++ shown := by
  induction shows with
  | refl => simp
  | @notify after shown _ notice induction =>
      have pushed : (Renderer.notify notice after).events = after.events ++ [.shown notice] := rfl
      rw [pushed, induction, List.append_assoc]
  | @ask after shown _ request induction =>
      have pushed : (Renderer.ask request after).2.events =
          after.events ++ [.asked request.kind request.message (Renderer.ask request after).1] := rfl
      rw [pushed, induction, List.append_assoc]
  | @log after shown _ line induction =>
      have same : (Renderer.log line after).events = after.events := by
        show (EventLog.write line after).events = after.events
        unfold EventLog.write
        split <;> rfl
      rw [same, induction]

/-! ## What events tell -/

/-- How a step is announced. -/
structure Announcement where
  index : Nat
  executionId : String
  name : String
  kind : StepKind
deriving DecidableEq, Repr

namespace Event

def announcement? : Event → Option Announcement
  | .shown (.started index executionId name kind) => some ⟨index, executionId, name, kind⟩
  | _ => none

/-- The notice of an outcome. -/
def outcome? : Event → Option Notice
  | .shown (.outcome status resource reason remediation) =>
      some (.outcome status resource reason remediation)
  | _ => none

def isSummary : Event → Bool
  | .shown (.summary _ _) => true
  | _ => false

def isQuestion : Event → Bool
  | .asked _ _ _ => true
  | _ => false

end Event

/-- Answers are used up by questions alone. -/
theorem EventLog.answers_of_shows {before after : EventLog} {shown : List Event}
    (shows : Renderer.Shows before shown after)
    (unasked : ∀ event ∈ shown, event.isQuestion = false) : after.answers = before.answers := by
  induction shows with
  | refl => rfl
  | @notify after shown _ notice induction =>
      exact induction fun event member => unasked event (List.mem_append_left _ member)
  | @ask after shown _ request _ =>
      have question := unasked _ (List.mem_append_right _ List.mem_cons_self)
      cases question
  | @log after shown _ line induction =>
      have same : (Renderer.log line after).answers = after.answers := by
        show (EventLog.write line after).answers = after.answers
        unfold EventLog.write
        split <;> rfl
      rw [same, induction unasked]

/-- How an answer that is given in advance is read; there may be none. -/
def PromptRequest.read (request : PromptRequest) (answer? : Option String) : PromptResponse :=
  (answer?.bind request.resolve?).getD .noAnswer

/-- The steps that were announced, in order. -/
def announcements (events : List Event) : List Announcement :=
  events.filterMap Event.announcement?

def outcomes (events : List Event) : List Notice :=
  events.filterMap Event.outcome?

/-- How an evaluation is shown. -/
def Evaluation.notice (evaluation : Evaluation) : Notice :=
  .ofOutcome evaluation.status evaluation.resource evaluation.reason evaluation.remediation

@[simp] theorem announcements_append (first second : List Event) :
    announcements (first ++ second) = announcements first ++ announcements second :=
  List.filterMap_append

@[simp] theorem outcomes_append (first second : List Event) :
    outcomes (first ++ second) = outcomes first ++ outcomes second :=
  List.filterMap_append

/-- What is shown while a step executes tells what is added to its result. -/
structure Told (shown : List Event) (added : List Evaluation) : Prop where
  announcements : announcements shown = []
  outcomes : outcomes shown = added.map Evaluation.notice
  summaries : ∀ event ∈ shown, event.isSummary = false

namespace Told

variable {shown more : List Event} {added others : List Evaluation}

theorem nil : Told [] [] :=
  ⟨rfl, rfl, by simp⟩

theorem append (first : Told shown added) (second : Told more others) :
    Told (shown ++ more) (added ++ others) where
  announcements := by simp [first.announcements, second.announcements]
  outcomes := by simp [first.outcomes, second.outcomes]
  summaries event member :=
    (List.mem_append.mp member).elim (first.summaries event) (second.summaries event)

theorem asked (kind : PromptKind) (message : String) (response : PromptResponse) :
    Told [.asked kind message response] [] :=
  ⟨rfl, rfl, by simp [Event.isSummary]⟩

theorem info (message : String) : Told [.shown (.info message)] [] :=
  ⟨rfl, rfl, by simp [Event.isSummary]⟩

theorem progress (message : String) : Told [.shown (.progress message)] [] :=
  ⟨rfl, rfl, by simp [Event.isSummary]⟩

theorem outcome (evaluation : Evaluation) : Told [.shown evaluation.notice] [evaluation] :=
  ⟨rfl, rfl, by simp [Event.isSummary, Evaluation.notice, Notice.ofOutcome]⟩

theorem notices (added : List Evaluation) :
    Told (added.map fun evaluation => .shown evaluation.notice) added := by
  induction added with
  | nil => exact .nil
  | cons evaluation rest induction => exact append (.outcome evaluation) induction

end Told

end Triage
