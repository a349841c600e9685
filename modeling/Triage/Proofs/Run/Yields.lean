import Triage.Proofs.Run.Occasion
import Triage.Proofs.Run.Silent

namespace Triage

open Surroundings Walk

/-- A frame once an outcome was recorded, and perhaps answered. -/
def Frame.answered {κ : Type} (frame : Frame κ) (response : Option PromptResponse) : Frame κ :=
  let counted := { frame with recorded := frame.recorded + 1 }
  match response with
  | some response => counted.note response
  | none => counted

theorem Frame.executionId_answered {κ : Type} {frame : Frame κ} {response : Option PromptResponse} :
    (frame.answered response).executionId = frame.executionId := by
  cases response <;> rfl

namespace Operator

variable {κ : Type} {operator : Operator κ} {frame : Frame κ}

/-! ## What a step goes on with after an answer -/

theorem followUp_answers (mode : Mode) (outcome : Outcome) :
    (followUp mode outcome).Meets (fun _ => True)
      fun answer => mode.isAuto = true → answer.1 = none := by
  cases auto : mode.isAuto with
  | true =>
      rw [followUp_auto auto]
      exact Job.meets_pure fun _ => rfl
  | false => exact (Job.meets_any _).imp fun _ _ isAuto => by cases isAuto

/-- Without anybody to ask there is no answer to an outcome. -/
theorem record_answers (active : operator.frame = some frame) (outcome : Outcome) :
    (operator.record outcome).Meets (fun _ => True) fun answer =>
      ∀ response, answer.2 = .ok response →
        answer.1 = { operator with frame := some (frame.answered response) } ∧
          (operator.setting.mode.isAuto = true → response = none) := by
  unfold record
  simp only [active]
  refine (Job.meets_any _).bind fun _ _ => ?_
  refine (followUp_answers operator.setting.mode outcome).bind fun answer silent => ?_
  rcases answer with ⟨response, skipped⟩
  refine (Job.meets_any _).bind fun changed _ => ?_
  cases changed with
  | error error => exact Job.meets_pure fun _ equal => by cases equal
  | ok done =>
      cases response with
      | none => exact Job.meets_pure fun _ equal => by cases equal; exact ⟨rfl, silent⟩
      | some response => exact Job.meets_pure fun _ equal => by cases equal; exact ⟨rfl, silent⟩

theorem ask_answers (operator : Operator κ) (request : PromptRequest) :
    (operator.ask request).Meets (fun _ => True) fun answer =>
      ∀ response, answer.2 = .ok response →
        answer.1 = operator.noteResponse response ∧
          (operator.setting.mode.isAuto = true → response = .noAnswer) := by
  unfold ask
  split
  · exact Job.meets_pure fun _ equal => by cases equal; exact ⟨rfl, fun _ => rfl⟩
  · next interactive =>
    refine (Job.meets_any _).bind fun response _ => ?_
    split
    · next idle =>
      refine Job.meets_pure fun _ equal => ?_
      cases equal
      refine ⟨?_, fun auto => absurd auto interactive⟩
      cases operator
      cases idle
      rfl
    · refine (Job.meets_any _).bind fun changed _ => ?_
      cases changed with
      | error error => exact Job.meets_pure fun _ equal => by cases equal
      | ok done =>
          refine Job.meets_pure fun _ equal => ?_
          cases equal
          exact ⟨rfl, fun auto => absurd auto interactive⟩

end Operator

/-! ## Executions that are completed -/

/-- What has come of an execution so far. -/
structure Draft where
  parameters : Parameters
  frame : Frame Planned
  evaluations : List Evaluation

namespace Draft

/-- The operator that the rest of the execution works with. -/
def operator (draft : Draft) (setting : Setting) (started : Nat) : Operator Planned :=
  ⟨setting, draft.parameters, started, some draft.frame⟩

/-- What a step reads under a key. -/
def value? (draft : Draft) (setting : Setting) (key : String) : Option Value :=
  (draft.operator setting 0).get? key

def put (draft : Draft) (key : String) (value : Value) : Draft :=
  { draft with parameters := draft.parameters.insert (Text.lower key) value }

/-- With an outcome at the end, as it was answered. -/
def recorded (draft : Draft) (outcome : Outcome) (response : Option PromptResponse)
    (skipped : Bool) : Draft :=
  { draft with
    frame := draft.frame.answered response
    evaluations := draft.evaluations ++ [Operator.evaluationOf outcome response skipped] }

def noted (draft : Draft) (response : PromptResponse) : Draft :=
  { draft with frame := draft.frame.note response }

def queued (draft : Draft) (child : Planned) : Draft :=
  { draft with frame := { draft.frame with children := draft.frame.children ++ [child] } }

/-- The report holds the evaluations so far in the result of the step. -/
structure Stored {ρ : Type} (draft : Draft) (setting : Setting) (report : Report)
    (result : StepResult) (surroundings : Surroundings ρ) : Prop where
  evaluations : result.evaluations = draft.evaluations
  own : surroundings.own setting.runId =
    some (report.withResult draft.frame.executionId result)

end Draft

/-- The same result of the same step, with more in it. -/
structure StepResult.Continues (result later : StepResult) : Prop where
  executionId : later.executionId = result.executionId
  stepId : later.stepId = result.stepId

/-- Played from the draft, the body is completed with one as it should be. -/
def Body.Yields (ρ : Type) [Renderer ρ] (setting : Setting) (retests : Nat) (body : Body)
    (draft : Draft) (post : Draft → Prop) : Prop :=
  ∀ (started : Nat) (report : Report) (result : StepResult) (surroundings : Surroundings ρ),
    draft.Stored setting report result surroundings →
      ∃ (last : Draft) (later : StepResult) (after : Surroundings ρ),
        surroundings.exec (play setting retests body (draft.operator setting started)) =
          ((last.operator setting started, .completed), after) ∧
        last.Stored setting report later after ∧
        last.frame.executionId = draft.frame.executionId ∧ result.Continues later ∧ post last

variable {ρ : Type} [Renderer ρ] {setting : Setting} {retests : Nat} {draft : Draft}
  {post weaker : Draft → Prop} {body : Body}

namespace Body

theorem Yields.imp (yields : body.Yields ρ setting retests draft post)
    (implies : ∀ last, post last → weaker last) : body.Yields ρ setting retests draft weaker := by
  intro started report result surroundings stored
  rcases yields started report result surroundings stored with
    ⟨last, later, after, plays, storedLast, same, continues, holds⟩
  exact ⟨last, later, after, plays, storedLast, same, continues, implies last holds⟩

theorem yields_done (holds : post draft) : Body.done.Yields ρ setting retests draft post := by
  intro started report result surroundings stored
  refine ⟨draft, result, surroundings, ?_, stored, rfl, ⟨rfl, rfl⟩, holds⟩
  rw [play]
  rfl

/-- A call whose reply does not depend on the surroundings. -/
theorem yields_silent {call : Call} {next : call.Reply → Body} {reply : call.Reply} (later : Draft)
    (calls : ∀ started, (draft.operator setting started).call Planned.profile call =
      pure (later.operator setting started, .ok reply))
    (sameId : later.frame.executionId = draft.frame.executionId)
    (sameEvaluations : later.evaluations = draft.evaluations)
    (rest : (next reply).Yields ρ setting retests later post) :
    (Body.invoke call next).Yields ρ setting retests draft post := by
  intro started report result surroundings stored
  have storedLater : later.Stored setting report result surroundings :=
    ⟨stored.evaluations.trans sameEvaluations.symm, sameId ▸ stored.own⟩
  rcases rest started report result surroundings storedLater with
    ⟨last, filed, after, plays, storedLast, same, continues, holds⟩
  refine ⟨last, filed, after, ?_, storedLast, same.trans sameId, continues, holds⟩
  rw [Body.invoke, play, calls]
  exact plays

theorem yields_setting {next : Setting → Body}
    (rest : (next setting).Yields ρ setting retests draft post) :
    (Body.invoke .setting next).Yields ρ setting retests draft post :=
  yields_silent draft (fun _ => rfl) rfl rfl rest

theorem yields_get {key : String} {next : Option Value → Body}
    (rest : (next (draft.value? setting key)).Yields ρ setting retests draft post) :
    (Body.invoke (.get key) next).Yields ρ setting retests draft post :=
  yields_silent draft (fun _ => rfl) rfl rfl rest

theorem yields_put {key : String} {value : Value} {next : Unit → Body}
    (rest : (next ()).Yields ρ setting retests (draft.put key value) post) :
    (Body.invoke (.put key value) next).Yields ρ setting retests draft post :=
  yields_silent (draft.put key value) (fun _ => rfl) rfl rfl rest

theorem yields_isFinalAttempt {next : Bool → Body}
    (rest : (next (draft.frame.retestsLeft == 0)).Yields ρ setting retests draft post) :
    (Body.invoke .isFinalAttempt next).Yields ρ setting retests draft post :=
  yields_silent draft (fun _ => rfl) rfl rfl rest

/-- Whatever a message says. -/
theorem yields_phrase {block fallback : String} {arguments : List (String × String)}
    {next : String → Body} (rest : ∀ text, (next text).Yields ρ setting retests draft post) :
    (Body.phrase block arguments fallback next).Yields ρ setting retests draft post := by
  intro started report result surroundings stored
  have phrases : (draft.operator setting started).call Planned.profile (.phrase block arguments) =
      pure (draft.operator setting started,
        (draft.operator setting started).phrase block arguments) := rfl
  rw [Body.phrase, play, phrases]
  simp only [exec_bind, exec_pure]
  cases (draft.operator setting started).phrase block arguments with
  | ok text => exact rest text started report result surroundings stored
  | error error => exact rest fallback started report result surroundings stored

theorem yields_inform {message : String} {next : Unit → Body}
    (rest : (next ()).Yields ρ setting retests draft post) :
    (Body.invoke (.inform message) next).Yields ρ setting retests draft post := by
  intro started report result surroundings stored
  rcases notifying : surroundings.exec (Job.notify (.info message)) with ⟨_, notified⟩
  have storedLater : draft.Stored setting report result notified :=
    ⟨stored.evaluations, (Quiet.notify notifying).own.trans stored.own⟩
  rcases rest started report result notified storedLater with ⟨last, filed, after, plays, others⟩
  refine ⟨last, filed, after, ?_, others⟩
  rw [Body.invoke, play]
  simp only [Operator.call, exec_bind, notifying, exec_pure]
  exact plays

/-- Nothing was recorded yet, and the child is none that only a construction places. -/
theorem yields_enqueue {child : Step} {next : Body} (fresh : draft.frame.recorded = 0)
    (allowed : child.profile.kind.isFixed = false)
    (rest : next.Yields ρ setting retests (draft.queued (plan setting retests child)) post) :
    (Body.enqueue child next).Yields ρ setting retests draft post := by
  intro started report result surroundings stored
  have queues : (draft.operator setting started).queue child.profile (plan setting retests child) =
      ((draft.queued (plan setting retests child)).operator setting started, .ok ()) := by
    simp [Operator.queue, Draft.operator, Draft.queued, fresh, allowed]
  rcases rest started report result surroundings ⟨stored.evaluations, stored.own⟩ with
    ⟨last, filed, after, plays, others⟩
  refine ⟨last, filed, after, ?_, others⟩
  rw [Body.enqueue, play, queues]
  exact plays

theorem yields_record {outcome : Outcome} {next : Option PromptResponse → Body}
    (rest : ∀ response skipped, (setting.mode.isAuto = true → response = none) →
      (next response).Yields ρ setting retests (draft.recorded outcome response skipped) post) :
    (Body.invoke (.record outcome) next).Yields ρ setting retests draft post := by
  intro started report result surroundings stored
  have active : (draft.operator setting started).frame = some draft.frame := rfl
  rcases Operator.exec_record_known active stored.own Report.step?_withResult outcome with
    ⟨worked, response, skipped, -, past, records, own, -⟩
  rw [Report.withResult_withResult] at own
  have answers := exec_meets (Operator.record_answers active outcome) surroundings
  rw [records] at answers
  rcases answers response rfl with ⟨rfl, silent⟩
  let filed : StepResult :=
    { result with evaluations :=
        result.evaluations ++ [Operator.evaluationOf outcome response skipped] }
  have storedLater :
      (draft.recorded outcome response skipped).Stored setting report filed past := by
    refine ⟨congrArg (· ++ _) stored.evaluations, ?_⟩
    rw [Draft.recorded, Frame.executionId_answered]
    exact own
  rcases rest response skipped silent started report filed past storedLater with
    ⟨last, later, after, plays, storedLast, same, continues, holds⟩
  refine ⟨last, later, after, ?_, storedLast, same.trans Frame.executionId_answered,
    ⟨continues.executionId, continues.stepId⟩, holds⟩
  rw [Body.invoke, play, Operator.call, exec_bind, records]
  exact plays

/-- An outcome that is recorded at the end. -/
theorem yields_conclude {outcome : Outcome}
    (holds : ∀ response skipped, (setting.mode.isAuto = true → response = none) →
      post (draft.recorded outcome response skipped)) :
    (Body.conclude outcome).Yields ρ setting retests draft post :=
  yields_record fun response skipped silent => yields_done (holds response skipped silent)

theorem yields_ask {request : PromptRequest} {next : PromptResponse → Body}
    (rest : ∀ response, (setting.mode.isAuto = true → response = .noAnswer) →
      (next response).Yields ρ setting retests (draft.noted response) post) :
    (Body.invoke (.ask request) next).Yields ρ setting retests draft post := by
  intro started report result surroundings stored
  have active : (draft.operator setting started).frame = some draft.frame := rfl
  rcases Operator.exec_ask_known active stored.own request with
    ⟨worked, response, filed, -, past, asks, own, -⟩
  have answers := exec_meets (Operator.ask_answers (draft.operator setting started) request)
    surroundings
  rw [asks] at answers
  rcases answers response rfl with ⟨rfl, silent⟩
  rcases rest response silent started report { result with response := filed } past
    ⟨stored.evaluations, own⟩ with
    ⟨last, later, after, plays, storedLast, same, continues, holds⟩
  refine ⟨last, later, after, ?_, storedLast, same,
    ⟨continues.executionId, continues.stepId⟩, holds⟩
  rw [Body.invoke, play, Operator.call, exec_bind, asks]
  exact plays

end Body

end Triage
