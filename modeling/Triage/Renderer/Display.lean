import Triage.Renderer.EventLog
import Triage.Renderer.Terminal

namespace Triage

/-! A renderer of either kind, chosen when a session starts. -/

inductive Display where
  | terminal (terminal : Terminal)
  | events (log : EventLog)

namespace Display

/-- The input is read by a terminal only; there are no prepared answers. -/
def present (presentation : Presentation) (display : Display) : Display :=
  match presentation.interface, display with
  | .terminal, .terminal shown => .terminal (Renderer.present presentation shown)
  | .terminal, .events _ =>
      .terminal (Renderer.present presentation (Terminal.opened .none 0 []))
  | .events, _ => .events (Renderer.present presentation (EventLog.withAnswers []))

/-- What a person sees. -/
def screen : Display → String
  | .terminal shown => shown.screen
  | .events _ => ""

instance : Renderer Display where
  notify notice
    | .terminal shown => .terminal (Renderer.notify notice shown)
    | .events log => .events (Renderer.notify notice log)
  ask request
    | .terminal shown =>
        let (response, shown) := Renderer.ask request shown
        (response, .terminal shown)
    | .events log =>
        let (response, log) := Renderer.ask request log
        (response, .events log)
  log line
    | .terminal shown => .terminal (Renderer.log line shown)
    | .events log => .events (Renderer.log line log)
  present := present
  transcript
    | .terminal shown => Renderer.transcript shown
    | .events log => Renderer.transcript log

end Display

end Triage
