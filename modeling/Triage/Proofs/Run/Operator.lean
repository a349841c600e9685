import Triage.Proofs.Job
import Triage.Proofs.Renderer
import Triage.Proofs.Step.Uses
import Triage.Run.Operator

namespace Triage

/-- What a step may involve: the report of its own run, a question only where questions
are asked, and no summary. -/
def Effect.IsOwn (setting : Setting) : Effect → Prop
  | .freshSuffix => True
  | .now => True
  | .notify notice => (Event.shown notice).isSummary = false
  | .log _ => True
  | .note _ => True
  | .ask _ => setting.mode.isAuto = false
  | .changeReport runId _ => runId = setting.runId
  | _ => False

/-- Nothing was recorded, queued or answered. -/
structure Frame.IsFresh {κ : Type} (frame : Frame κ) : Prop where
  recorded : frame.recorded = 0
  children : frame.children = []
  retestRequested : frame.retestRequested = false
  responses : frame.responses = []

namespace Operator

variable {κ : Type} {operator : Operator κ}

/-- The steps that are queued. -/
def queued (operator : Operator κ) : List κ :=
  (operator.frame.map (·.children)).getD []

/-! ## What operations keep -/

/-- The setting stays what it is, and nothing gets into the queue on the way. -/
structure Follows (operator later : Operator κ) : Prop where
  setting : later.setting = operator.setting
  queued : ∀ child ∈ later.queued, child ∈ operator.queued

/-- The same step is executing, and no other one was started. -/
structure Stays (operator later : Operator κ) : Prop where
  setting : later.setting = operator.setting
  started : later.started = operator.started
  executionId : later.frame.map (·.executionId) = operator.frame.map (·.executionId)

namespace Stays

variable {middle later : Operator κ}

theorem refl : operator.Stays operator :=
  ⟨rfl, rfl, rfl⟩

theorem trans (first : operator.Stays middle) (second : middle.Stays later) :
    operator.Stays later :=
  ⟨second.setting.trans first.setting, second.started.trans first.started,
    second.executionId.trans first.executionId⟩

theorem active {frame : Frame κ} (stays : operator.Stays later)
    (active : operator.frame = some frame) :
    ∃ other, later.frame = some other ∧ other.executionId = frame.executionId := by
  have same := stays.executionId
  rw [active] at same
  simpa using same

end Stays

/-- Nor was any step queued. -/
structure Continues (operator later : Operator κ) : Prop extends operator.Stays later where
  queued : later.queued = operator.queued

namespace Continues

variable {middle later : Operator κ}

theorem refl : operator.Continues operator :=
  ⟨.refl, rfl⟩

theorem trans (first : operator.Continues middle) (second : middle.Continues later) :
    operator.Continues later :=
  ⟨first.toStays.trans second.toStays, second.queued.trans first.queued⟩

theorem follows (continues : operator.Continues later) : operator.Follows later :=
  ⟨continues.setting, fun _ member => continues.queued ▸ member⟩

theorem noteResponse (response : PromptResponse) :
    operator.Continues (operator.noteResponse response) := by
  cases operator with
  | mk setting parameters started frame => cases frame <;> exact ⟨⟨rfl, rfl, rfl⟩, rfl⟩

theorem counted {frame : Frame κ} (active : operator.frame = some frame) :
    operator.Continues
      { operator with frame := some { frame with recorded := frame.recorded + 1 } } :=
  ⟨⟨rfl, rfl, by simp [active]⟩, by simp [Operator.queued, active]⟩

end Continues

/-- What empties the queue follows. -/
theorem follows_of_empty {later : Operator κ}
    (holds : later.setting = operator.setting ∧ later.queued = []) : operator.Follows later :=
  ⟨holds.1, fun child member => by rw [holds.2] at member; cases member⟩

/-- A fresh frame bears no trace of an earlier execution. -/
theorem frameFor_fresh (operator : Operator κ) (profile : Profile) (suffix : String) :
    (operator.frameFor profile suffix).IsFresh := by
  unfold frameFor
  split
  · split <;> exact ⟨rfl, rfl, rfl, rfl⟩
  · exact ⟨rfl, rfl, rfl, rfl⟩

/-! One specification for each operation. -/

theorem giveUp_meets (operator : Operator κ) :
    operator.giveUp.Meets (Effect.IsOwn operator.setting) fun _ => True := by
  unfold giveUp
  split
  · exact Job.meets_effect trivial fun _ => trivial
  · exact trivial

theorem begin_meets (operator : Operator κ) (profile : Profile) :
    (operator.begin profile).Meets (Effect.IsOwn operator.setting)
      fun answer => answer.1.setting = operator.setting ∧ answer.1.queued = [] := by
  apply Job.Meets.bind (Job.meets_effect trivial fun _ => trivial)
  intro suffix _
  have children := (operator.frameFor_fresh profile suffix).children
  apply Job.Meets.bind operator.giveUp_meets
  intro _ _
  apply Job.Meets.bind (Job.meets_effect trivial fun _ => trivial)
  intro moment _
  refine Job.Meets.bind (Job.meets_effect rfl fun _ => trivial) fun reply _ => ?_
  cases reply with
  | error error => exact Job.meets_pure ⟨rfl, children⟩
  | ok done =>
      exact Job.Meets.bind (Job.meets_effect rfl fun _ => trivial) fun _ _ =>
        Job.meets_pure ⟨rfl, children⟩

theorem finish_meets (operator : Operator κ) :
    operator.finish.Meets (Effect.IsOwn operator.setting) fun answer =>
      (answer.1.setting = operator.setting ∧ answer.1.frame = none) ∧
        ∀ frame?, answer.2 = .ok frame? → frame? = operator.frame := by
  unfold finish
  split
  · next idle => exact Job.meets_pure ⟨⟨rfl, idle⟩, by simp [idle]⟩
  · next frame active =>
    apply Job.Meets.bind (Job.meets_effect trivial fun _ => trivial)
    intro moment _
    refine Job.Meets.bind (Job.meets_effect rfl fun _ => trivial) fun reply _ => ?_
    cases reply with
    | error error => exact Job.meets_pure ⟨⟨rfl, rfl⟩, by simp⟩
    | ok done => exact Job.meets_pure ⟨⟨rfl, rfl⟩, by simp [active]⟩

theorem followUp_meets (setting : Setting) (outcome : Outcome) :
    (followUp setting.mode outcome).Meets (Effect.IsOwn setting) fun _ => True := by
  unfold followUp
  split
  · exact trivial
  · split
    · exact trivial
    · next asks =>
      have interactive : setting.mode.isAuto = false := by
        simp only [Bool.or_eq_true, not_or, Bool.not_eq_true] at asks
        exact asks.1
      exact Job.Meets.bind (Job.meets_effect interactive fun _ => trivial) fun _ _ => trivial

theorem record_meets (operator : Operator κ) (outcome : Outcome) :
    (operator.record outcome).Meets (Effect.IsOwn operator.setting)
      fun answer => operator.Continues answer.1 := by
  unfold record
  split
  · exact Job.meets_pure .refl
  · next frame active =>
    have counted := Continues.counted active
    refine Job.Meets.bind (Job.meets_effect rfl fun _ => trivial) fun _ _ => ?_
    apply Job.Meets.bind (followUp_meets operator.setting outcome)
    intro answer _
    rcases answer with ⟨response, skipped⟩
    refine Job.Meets.bind (Job.meets_effect rfl fun _ => trivial) fun reply _ => ?_
    cases reply with
    | error error => exact Job.meets_pure counted
    | ok done =>
        cases response with
        | none => exact Job.meets_pure counted
        | some response => exact Job.meets_pure (counted.trans (.noteResponse response))

theorem ask_meets (operator : Operator κ) (request : PromptRequest) :
    (operator.ask request).Meets (Effect.IsOwn operator.setting)
      fun answer => operator.Continues answer.1 := by
  unfold ask
  split
  · exact Job.meets_pure (.noteResponse _)
  · next interactive =>
    refine Job.Meets.bind (Job.meets_effect (by simpa [Effect.IsOwn] using interactive)
      fun _ => trivial) fun response _ => ?_
    split
    · exact Job.meets_pure .refl
    · refine Job.Meets.bind (Job.meets_effect rfl fun _ => trivial) fun reply _ => ?_
      cases reply with
      | error error => exact Job.meets_pure .refl
      | ok done => exact Job.meets_pure (.noteResponse response)

/-- An ordinary call leaves the step that is executing in place. -/
theorem ordinary_meets (profileOf : κ → Profile) (operator : Operator κ) {call : Call}
    (ordinary : call.isOrdinary = true) :
    (operator.call profileOf call).Meets (Effect.IsOwn operator.setting)
      fun answer => operator.Continues answer.1 := by
  cases call with
  | record outcome => exact operator.record_meets outcome
  | ask request => exact operator.ask_meets request
  | inform message =>
      exact Job.Meets.bind (Job.meets_effect rfl fun _ => trivial) fun _ _ =>
        Job.meets_pure .refl
  | progress message =>
      exact Job.Meets.bind (Job.meets_effect rfl fun _ => trivial) fun _ _ =>
        Job.meets_pure .refl
  | note entry =>
      exact Job.Meets.bind (Job.meets_effect trivial fun _ => trivial) fun _ _ =>
        Job.meets_pure .refl
  | put key value => exact Job.meets_pure ⟨⟨rfl, rfl, rfl⟩, rfl⟩
  | setting => exact Job.meets_pure .refl
  | get key => exact Job.meets_pure .refl
  | parameters => exact Job.meets_pure .refl
  | active => exact Job.meets_pure .refl
  | isFinalAttempt => exact Job.meets_pure .refl
  | phrase block arguments => exact Job.meets_pure .refl
  | render template block arguments => exact Job.meets_pure .refl
  | take => cases ordinary
  | install profile => cases ordinary
  | begin profile => cases ordinary
  | finish => cases ordinary

theorem call_meets (profileOf : κ → Profile) (operator : Operator κ) (call : Call) :
    (operator.call profileOf call).Meets (Effect.IsOwn operator.setting)
      fun answer => operator.Follows answer.1 := by
  cases ordinary : call.isOrdinary with
  | true => exact (operator.ordinary_meets profileOf ordinary).imp fun _ => Continues.follows
  | false =>
      cases call with
      | take => exact Job.meets_pure (follows_of_empty ⟨rfl, rfl⟩)
      | install profile =>
          exact Job.Meets.bind (Job.meets_effect trivial fun _ => trivial) fun suffix _ =>
            Job.meets_pure (follows_of_empty ⟨rfl, rfl⟩)
      | begin profile => exact (operator.begin_meets profile).imp fun _ => follows_of_empty
      | finish =>
          exact Job.Meets.bind operator.finish_meets fun answer holds =>
            Job.meets_pure (follows_of_empty ⟨holds.1.1, by simp [queued, holds.1.2]⟩)
      | _ => cases ordinary

/-! Queueing a step. -/

theorem queue_cases {later : Operator κ} {profile : Profile} {child : κ}
    {reply : Except RunError Unit} (queues : operator.queue profile child = (later, reply)) :
    later = operator ∨ ∃ frame, operator.frame = some frame ∧
      later =
        { operator with frame := some { frame with children := frame.children ++ [child] } } := by
  unfold queue at queues
  split at queues
  · cases queues
    exact .inl rfl
  · next frame active =>
    split at queues
    · cases queues
      exact .inl rfl
    · split at queues
      · cases queues
        exact .inl rfl
      · cases queues
        exact .inr ⟨frame, active, rfl⟩

/-- A step gets into the queue by being queued. -/
theorem queue_queued {later : Operator κ} {profile : Profile} {child : κ}
    {reply : Except RunError Unit} (queues : operator.queue profile child = (later, reply)) :
    ∀ other ∈ later.queued, other ∈ operator.queued ∨ other = child := by
  intro other member
  rcases queue_cases queues with rfl | ⟨frame, active, rfl⟩
  · exact .inl member
  · simpa [queued, active] using member

/-- Apart from the queue nothing changes. -/
theorem queue_same {later : Operator κ} {profile : Profile} {child : κ}
    {reply : Except RunError Unit} (queues : operator.queue profile child = (later, reply)) :
    operator.Stays later := by
  rcases queue_cases queues with rfl | ⟨frame, active, rfl⟩
  · exact .refl
  · exact ⟨rfl, rfl, by simp [active]⟩

end Operator

end Triage
