import Triage.Proofs.Run.Unseen
import Triage.Renderer.Display

namespace Triage

open Surroundings

/-! ## Answers that a question can have -/

/-- One of its options was chosen, or there was no answer. -/
def PromptRequest.Offers (request : PromptRequest) (response : PromptResponse) : Prop :=
  response = .noAnswer ∨ ∃ answer, request.resolve? answer = some response

/-- A person who was given a task reports on it, and neither agrees nor objects. -/
theorem PromptRequest.offers_humanTask {message : String} {response : PromptResponse}
    (offers : (humanTask message).Offers response) :
    response ∈ [.retest, .continue, .stop, .noAnswer] := by
  rcases offers with rfl | ⟨answer, resolved⟩
  · decide
  · rcases Option.map_eq_some_iff.mp resolved with ⟨key, found, rfl⟩
    have known : ∀ key ∈ ["r", "c", "s"],
        (meaning? .humanTask (Text.lower key)).getD (.custom key) ∈
          [PromptResponse.retest, .continue, .stop, .noAnswer] := by decide
    exact known key (List.mem_of_find?_eq_some found)

namespace Terminal

theorem askFor_offers (request : PromptRequest) (attempts : Nat) (terminal : Terminal) :
    request.Offers (askFor request attempts terminal).1 := by
  induction attempts generalizing terminal with
  | zero => exact .inl rfl
  | succ attempts induction =>
      unfold askFor receive
      rcases (terminal.invite request).readAnswer with ⟨answer, later⟩
      cases answer with
      | none => exact .inl rfl
      | some answer =>
          cases resolved : request.resolve? answer with
          | none =>
              simp only [resolved]
              exact induction _
          | some response =>
              simp only [resolved]
              exact .inr ⟨answer, resolved⟩

theorem ask_offers (request : PromptRequest) (terminal : Terminal) :
    request.Offers (terminal.ask request).1 := by
  unfold ask
  split
  · exact .inl rfl
  · exact askFor_offers request _ _

end Terminal

theorem EventLog.ask_offers (request : PromptRequest) (log : EventLog) :
    request.Offers (log.ask request).1 := by
  unfold ask
  cases chosen : log.answers.head?.bind request.resolve? with
  | none => exact .inl rfl
  | some response =>
      rcases Option.bind_eq_some_iff.mp chosen with ⟨answer, -, resolved⟩
      exact .inr ⟨answer, resolved⟩

theorem Display.ask_offers (request : PromptRequest) (display : Display) :
    request.Offers (Renderer.ask request display).1 := by
  cases display with
  | terminal terminal => exact terminal.ask_offers request
  | events log => exact log.ask_offers request

/-! ## A question that is asked again and again -/

/-- The answers to a question that is asked again and again. -/
def Renderer.reply {ρ : Type} [Renderer ρ] (request : PromptRequest) : ρ → Nat → PromptResponse
  | renderer, 0 => (Renderer.ask request renderer).1
  | renderer, index + 1 => reply request (Renderer.ask request renderer).2 index

namespace Display

theorem reply_offers (request : PromptRequest) (display : Display) (index : Nat) :
    request.Offers (Renderer.reply request display index) := by
  induction index generalizing display with
  | zero => exact display.ask_offers request
  | succ index induction => exact induction _

/-- Answers that are given in advance are taken one after the other. -/
theorem reply_events (request : PromptRequest) (log : EventLog) (index : Nat) :
    Renderer.reply request (Display.events log) index = request.read log.answers[index]? := by
  induction index generalizing log with
  | zero =>
      rw [← List.head?_eq_getElem?]
      rfl
  | succ index induction =>
      refine (induction _).trans ?_
      rw [← List.getElem?_tail]
      rfl

/-- The same is typed in, or the same answers are left. -/
inductive Listens : Display → Display → Prop
  | terminal {first second : Terminal} (typed : first.Typed second) :
      Listens (.terminal first) (.terminal second)
  | events {first second : EventLog} (same : second.answers = first.answers) :
      Listens (.events first) (.events second)

variable {first second : Display} {request : PromptRequest}

theorem ask_listens (request : PromptRequest) (listens : first.Listens second) :
    (Renderer.ask request second).1 = (Renderer.ask request first).1 ∧
      (Renderer.ask request first).2.Listens (Renderer.ask request second).2 := by
  cases listens with
  | terminal typed =>
      have asked := Terminal.ask_typed request typed
      exact ⟨asked.1, .terminal asked.2⟩
  | @events first second same =>
      have asked : (second.ask request).1 = (first.ask request).1 := by
        simp only [EventLog.ask, same]
      exact ⟨asked, .events (congrArg List.tail same)⟩

theorem reply_listens (listens : first.Listens second) :
    Renderer.reply request second = Renderer.reply request first := by
  funext index
  induction index generalizing first second with
  | zero => exact (ask_listens request listens).1
  | succ index induction => exact induction (ask_listens request listens).2

/-- What is shown makes no difference to the answers. -/
theorem listens_after {effect : Effect} (stays : effect.presents = false)
    (spares : ∀ request, effect ≠ .ask request) (display : Display) :
    display.Listens (Renderer.after effect display) := by
  have unchanged : display.Listens display := by
    cases display with
    | terminal terminal => exact .terminal ⟨rfl, rfl⟩
    | events log => exact .events rfl
  cases effect with
  | notify notice =>
      cases display with
      | terminal terminal => exact .terminal (Terminal.typed_notify notice terminal)
      | events log => exact .events rfl
  | log line =>
      cases display with
      | terminal terminal => exact .terminal (Terminal.typed_writeLog line terminal)
      | events log =>
          refine .events ?_
          show (EventLog.write line log).answers = log.answers
          unfold EventLog.write
          split <;> rfl
  | ask request => exact absurd rfl (spares request)
  | present presentation => cases stays
  | _ => exact unchanged

end Display

/-- Where only one question is asked, however often, it has the answers that it would have if
nothing else were done. -/
theorem Surroundings.Leads.replies {before after : Surroundings Display} {deeds : List Deed}
    {request : PromptRequest} (leads : before.Leads deeds after)
    (stays : ∀ deed ∈ deeds, deed.effect.presents = false)
    (only : ∀ question ∈ deeds.filterMap Deed.question?, question.1 = request) :
    deeds.filterMap Deed.question? =
      (List.range (deeds.filterMap Deed.question?).length).map fun index =>
        (request, Renderer.reply request before.renderer index) := by
  induction leads with
  | refl => rfl
  | @deed surroundings after effect rest _ induction =>
      have stay := fun deed member => stays deed (List.mem_cons_of_mem _ member)
      have renderer := handle_renderer effect surroundings
      cases asks : (⟨effect, (handle effect surroundings).1⟩ : Deed).question? with
      | none =>
          rw [List.filterMap_cons_none asks] at only ⊢
          have spares (request : PromptRequest) : effect ≠ .ask request := by
            rintro rfl
            cases asks
          have listens := Display.listens_after (stays _ List.mem_cons_self) spares
            surroundings.renderer
          rw [← renderer] at listens
          rw [← Display.reply_listens listens]
          exact induction stay only
      | some question =>
          rw [List.filterMap_cons_some asks] at only ⊢
          have same := only question List.mem_cons_self
          have rest := induction stay fun other member => only other (List.mem_cons_of_mem _ member)
          cases effect with
          | ask asked =>
              cases asks
              cases same
              rw [List.length_cons, List.range_succ_eq_map, List.map_cons, List.map_map]
              exact congrArg _ rest
          | _ => cases asks

end Triage
