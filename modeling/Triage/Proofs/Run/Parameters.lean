import Triage.Proofs.Entries
import Triage.Proofs.Run.DepthFirst

namespace Triage

open Surroundings

variable {ρ κ : Type} [Renderer ρ] {key : String} {steps : Step → Prop}

/-! ## What an execution does to the parameters of its run -/

namespace Call

/-- The parameters after a call: `put` is the only one that writes. -/
def written : Call → Parameters → Parameters
  | .put key value, held => held.insert (Text.lower key) value
  | _, held => held

/-- The call does not write under the key. -/
def Spares (key : String) : Call → Prop
  | .put other _ => Text.lower other ≠ key
  | _ => True

theorem get?_written {call : Call} (spares : call.Spares key) (held : Parameters) :
    (call.written held).get? key = held.get? key := by
  cases call with
  | put other value => exact Entries.get?_insert_of_ne (Ne.symm spares)
  | _ => rfl

end Call

namespace Operator

theorem begin_writes (operator : Operator κ) (profile : Profile) :
    (operator.begin profile).Meets (fun _ => True)
      fun answer => answer.1.parameters = operator.parameters := by
  refine (Job.meets_any _).bind fun suffix _ => ?_
  refine (Job.meets_any _).bind fun _ _ => ?_
  refine (Job.meets_any _).bind fun moment _ => ?_
  refine (Job.meets_any _).bind fun changed _ => ?_
  cases changed with
  | error error => rfl
  | ok done => exact (Job.meets_any _).bind fun _ _ => rfl

theorem finish_writes (operator : Operator κ) :
    operator.finish.Meets (fun _ => True)
      fun answer => answer.1.parameters = operator.parameters := by
  unfold finish
  split
  · rfl
  · refine (Job.meets_any _).bind fun moment _ => ?_
    refine (Job.meets_any _).bind fun changed _ => ?_
    cases changed <;> rfl

theorem record_writes (operator : Operator κ) (outcome : Outcome) :
    (operator.record outcome).Meets (fun _ => True)
      fun answer => answer.1.parameters = operator.parameters := by
  unfold record
  split
  · rfl
  · refine (Job.meets_any _).bind fun _ _ => ?_
    refine (Job.meets_any _).bind fun answer _ => ?_
    rcases answer with ⟨response, skipped⟩
    refine (Job.meets_any _).bind fun changed _ => ?_
    cases changed with
    | error error => rfl
    | ok done => cases response <;> rfl

theorem ask_writes (operator : Operator κ) (request : PromptRequest) :
    (operator.ask request).Meets (fun _ => True)
      fun answer => answer.1.parameters = operator.parameters := by
  unfold ask
  split
  · rfl
  · refine (Job.meets_any _).bind fun response _ => ?_
    split
    · rfl
    · refine (Job.meets_any _).bind fun changed _ => ?_
      cases changed <;> rfl

theorem call_writes (profileOf : κ → Profile) (operator : Operator κ) (call : Call) :
    (operator.call profileOf call).Meets (fun _ => True)
      fun answer => answer.1.parameters = call.written operator.parameters := by
  cases call with
  | record outcome => exact operator.record_writes outcome
  | ask request => exact operator.ask_writes request
  | begin profile => exact operator.begin_writes profile
  | finish => exact operator.finish_writes.bind fun _ same => Job.meets_pure same
  | inform | progress | note | install => exact (Job.meets_any _).bind fun _ _ => rfl
  | _ => rfl

theorem queue_parameters (operator : Operator κ) (profile : Profile) (child : κ) :
    (operator.queue profile child).1.parameters = operator.parameters := by
  unfold queue
  split
  · rfl
  · split
    · rfl
    · split <;> rfl

end Operator

namespace Walk

theorem play_spares (setting : Setting) (retests : Nat) : ∀ (body : Body)
    (operator : Operator Planned), body.Every (Call.Spares key) steps →
    (play setting retests body operator).Meets (fun _ => True)
      fun ended => ended.1.parameters.get? key = operator.parameters.get? key
  | .done, operator, _ => by
      rw [play]
      rfl
  | .fail _, operator, _ => by
      rw [play]
      rfl
  | .crash _, operator, _ => by
      rw [play]
      rfl
  | .call _ call next, operator, every => by
      rw [play]
      refine (operator.call_writes Planned.profile call).bind fun answer writes => ?_
      have goesOn := play_spares setting retests (next answer.2) answer.1 (every.2 answer.2)
      refine goesOn.imp fun ended same => ?_
      rw [same, writes, Call.get?_written every.1]
  | .queue _ child next, operator, every => by
      rw [play]
      have goesOn := play_spares setting retests
        (next (operator.queue child.profile (plan setting retests child)).2)
        (operator.queue child.profile (plan setting retests child)).1 (every.2 _)
      exact goesOn.imp fun ended same => by rw [same, Operator.queue_parameters]

/-- A step begins with the parameters as they are. -/
theorem enter_writes (operator : Operator Planned) (profile : Profile) (left : Nat) :
    (enter operator profile left).Meets (fun _ => True)
      fun entered => entered.1.parameters = operator.parameters := by
  refine Action.Meets.bind (attend_meets (operator.begin_writes profile)) fun begun writes => ?_
  refine Action.Meets.bind (Action.meets_except fun later counted => ?_) fun _ same =>
    Action.meets_pure same
  show later.parameters = operator.parameters
  unfold Operator.setRetestsLeft at counted
  split at counted
  · cases counted
    exact writes
  · cases counted

end Walk

/-- The operator that an execution starts from. -/
def Occasion.operator (occasion : Occasion ρ) (setting : Setting) : Operator Planned :=
  ⟨setting, occasion.course.parameters, occasion.course.started, none⟩

/-- An execution that does not write under a key leaves what is there. -/
theorem Occasion.outcome_spares (retests : Nat) {setting : Setting} {occasion : Occasion ρ}
    (spares : occasion.body.Every (Call.Spares key) steps) :
    (occasion.outcome setting retests).1.1.parameters.get? key =
      occasion.course.parameters.get? key := by
  have meets : (Walk.attempt setting occasion.node occasion.profile
      (Walk.play setting retests occasion.body) occasion.left occasion.course).Meets
      (fun _ => True) fun later => later.1.parameters.get? key =
        occasion.course.parameters.get? key := by
    refine Job.Meets.bind (Walk.enter_writes _ _ _) fun entered enters => ?_
    cases entered with
    | error error => exact Job.meets_pure rfl
    | ok entered =>
        refine (Walk.play_spares setting retests _ entered.1 spares).bind fun worked same => ?_
        refine (Job.meets_any _).bind fun result _ => Job.meets_pure ?_
        exact same.trans (congrArg (Entries.get? key) (enters entered rfl))
  exact Surroundings.exec_meets meets occasion.surroundings

variable {setting : Setting} {retests : Nat} {course last : Course}
  {surroundings final : Surroundings ρ} {occasions : List (Occasion ρ)}
  {result : Except RunError Unit}

/-- What no execution writes is there at the start of each one, and in the end. -/
theorem Chain.spares
    (chain : Chain setting retests (Call.Spares key) course surroundings occasions result last
      final) :
    (∀ occasion ∈ occasions, occasion.course.parameters.get? key = course.parameters.get? key) ∧
      last.parameters.get? key = course.parameters.get? key := by
  induction chain with
  | done => exact ⟨by simp, rfl⟩
  | @occasion occasion frame? course last after final rest result performs ends _ induction =>
      have same : (occasion.outcome setting retests).1.1.parameters.get? key = _ :=
        occasion.outcome_spares retests performs
      rw [ends] at same
      refine ⟨fun other member => ?_, induction.2.trans same⟩
      rcases List.mem_cons.mp member with rfl | member
      · rfl
      · exact (induction.1 other member).trans same
  | @aborted occasion error course past performs ends =>
      have same : (occasion.outcome setting retests).1.1.parameters.get? key = _ :=
        occasion.outcome_spares retests performs
      rw [ends] at same
      exact ⟨by simp, same⟩
  | attached _ _ induction => exact induction
  | logged _ induction => exact induction

end Triage
