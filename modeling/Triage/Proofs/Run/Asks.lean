import Triage.Proofs.Run.Hearing
import Triage.Proofs.Run.Yields

namespace Triage

open Surroundings Walk

/-! ## What is asked -/

namespace Surroundings

variable {ρ α β : Type} [Renderer ρ]

/-- The questions of a job with the answers to them, in order. -/
def questions (job : Job α) (surroundings : Surroundings ρ) :
    List (PromptRequest × PromptResponse) :=
  (surroundings.deeds job).filterMap Deed.question?

@[simp] theorem questions_pure (value : α) (surroundings : Surroundings ρ) :
    surroundings.questions (pure value : Job α) = [] := rfl

@[simp] theorem questions_bind (job : Job α) (continue_ : α → Job β)
    (surroundings : Surroundings ρ) :
    surroundings.questions (job >>= continue_) =
      surroundings.questions job ++
        (surroundings.exec job).2.questions (continue_ (surroundings.exec job).1) := by
  rw [questions, deeds_bind, List.filterMap_append]
  rfl

theorem questions_andThen (part : Job (Progress α)) (next : α → Course → Job (Progress β))
    (surroundings : Surroundings ρ) :
    surroundings.questions (Progress.andThen part next) =
      surroundings.questions part ++
        match surroundings.exec part with
        | ((course, .ok value), later) => later.questions (next value course)
        | ((_, .error _), _) => [] := by
  rw [Progress.andThen, questions_bind]
  rcases surroundings.exec part with ⟨⟨course, error | value⟩, later⟩ <;> rfl

end Surroundings

variable {ρ : Type} [Renderer ρ] {setting : Setting} {retests : Nat}

/-- Only questions are asked, and outcomes that are to be asked about. -/
theorem Exchange.asked_eq_nil {exchange : Exchange} (proper : exchange.Proper setting)
    (spares : ∀ request, exchange.call ≠ .ask request)
    (unprompted : ∀ outcome, exchange.call = .record outcome →
      outcome.asks setting.mode = false) : exchange.asked = [] := by
  cases proper with
  | @recorded frame outcome answer? result asked =>
      rw [unprompted outcome rfl] at asked
      cases answer? with
      | none => rfl
      | some answer => cases asked
  | asked | askedIdle | unasked => exact absurd rfl (spares _)
  | _ => rfl

theorem Operator.exchange_asked {κ : Type} (profileOf : κ → Profile) (operator : Operator κ)
    (call : Call) (surroundings : Surroundings ρ) :
    (operator.exchange profileOf call surroundings).asked =
      surroundings.questions (operator.call profileOf call) :=
  unlogged_questions _

theorem Outcome.asks_of_unprompted {outcome : Outcome}
    (unprompted : outcome.status.isFailure = false ∨ outcome.prompts = false) (mode : Mode) :
    outcome.asks mode = false := by
  rcases unprompted with fine | silent
  · simp [Outcome.asks, fine]
  · simp [Outcome.asks, silent]

/-- Nobody is asked anything when a step is over. -/
theorem Walk.Closes.unasked {operator : Operator Planned} {ending : Ending} {exchange : Exchange}
    (closes : Walk.Closes operator ending exchange) : exchange.asked = [] := by
  refine Exchange.asked_eq_nil closes.proper (fun request asks => ?_) fun outcome records => ?_
  · rcases closes.call with finishes | ⟨outcome, records, -⟩
    · cases finishes.symm.trans asks
    · cases records.symm.trans asks
  · rcases closes.call with finishes | ⟨other, same, unprompted, -⟩
    · cases finishes.symm.trans records
    · cases same.symm.trans records
      exact Outcome.asks_of_unprompted unprompted _

/-! ## Executions that are completed, with what they ask -/

variable {draft : Draft} {body : Body}
  {post weaker : Draft → List (PromptRequest × PromptResponse) → Prop}

/-- Played from the draft, the body is completed with one as it should be, and it asks what it
should. -/
def Body.Asks (ρ : Type) [Renderer ρ] (setting : Setting) (retests : Nat) (body : Body)
    (draft : Draft) (post : Draft → List (PromptRequest × PromptResponse) → Prop) : Prop :=
  ∀ (started : Nat) (report : Report) (result : StepResult) (surroundings : Surroundings ρ),
    draft.Stored setting report result surroundings →
      ∃ (last : Draft) (later : StepResult) (after : Surroundings ρ),
        surroundings.exec (play setting retests body (draft.operator setting started)) =
          ((last.operator setting started, .completed), after) ∧
        last.Stored setting report later after ∧
        last.frame.executionId = draft.frame.executionId ∧ result.Continues later ∧
        post last
          (surroundings.questions (play setting retests body (draft.operator setting started)))

namespace Body

theorem Yields.asks {post : Draft → Prop} (yields : body.Yields ρ setting retests draft post) :
    body.Asks ρ setting retests draft fun last _ => post last := yields

theorem Asks.imp (asks : body.Asks ρ setting retests draft post)
    (implies : ∀ last questions, post last questions → weaker last questions) :
    body.Asks ρ setting retests draft weaker := by
  intro started report result surroundings stored
  rcases asks started report result surroundings stored with
    ⟨last, later, after, plays, storedLast, same, continues, holds⟩
  exact ⟨last, later, after, plays, storedLast, same, continues, implies last _ holds⟩

theorem asks_done (holds : post draft []) : Body.done.Asks ρ setting retests draft post := by
  intro started report result surroundings stored
  refine ⟨draft, result, surroundings, ?_, stored, rfl, ⟨rfl, rfl⟩, ?_⟩
  · rw [play]
    rfl
  · rw [play]
    exact holds

/-- A call with nothing to it but the reply. -/
theorem asks_silent {call : Call} {next : call.Reply → Body} {reply : call.Reply}
    (calls : ∀ started, (draft.operator setting started).call Planned.profile call =
      pure (draft.operator setting started, .ok reply))
    (rest : (next reply).Asks ρ setting retests draft post) :
    (Body.invoke call next).Asks ρ setting retests draft post := by
  intro started report result surroundings stored
  rw [Body.invoke, play, calls]
  exact rest started report result surroundings stored

theorem asks_setting {next : Setting → Body}
    (rest : (next setting).Asks ρ setting retests draft post) :
    (Body.invoke .setting next).Asks ρ setting retests draft post :=
  asks_silent (fun _ => rfl) rest

theorem asks_isFinalAttempt {next : Bool → Body}
    (rest : (next (draft.frame.retestsLeft == 0)).Asks ρ setting retests draft post) :
    (Body.invoke .isFinalAttempt next).Asks ρ setting retests draft post :=
  asks_silent (fun _ => rfl) rest

/-- Nobody is asked about an outcome that is no finding. -/
theorem asks_record {outcome : Outcome} {next : Option PromptResponse → Body}
    (fine : outcome.status.isFailure = false)
    (rest : (next none).Asks ρ setting retests (draft.recorded outcome none false) post) :
    (Body.invoke (.record outcome) next).Asks ρ setting retests draft post := by
  intro started report result surroundings stored
  have active : (draft.operator setting started).frame = some draft.frame := rfl
  rcases Operator.exec_record_known active stored.own Report.step?_withResult outcome with
    ⟨worked, response, skipped, shown, past, records, own, -, -, unprompted⟩
  obtain ⟨rfl, rfl, -⟩ := unprompted (.inl fine)
  rw [fine, Report.withResult_withResult] at own
  have answers := exec_meets (Operator.record_answers active outcome) surroundings
  rw [records] at answers
  rcases answers none rfl with ⟨rfl, -⟩
  have unasked : surroundings.questions
      ((draft.operator setting started).call Planned.profile (.record outcome)) = [] := by
    rw [← Operator.exchange_asked]
    refine Exchange.asked_eq_nil (Operator.exchange_proper _ _ _ _) (fun request same => ?_) ?_
    · cases same
    · rintro other ⟨⟩
      exact Outcome.asks_of_unprompted (.inl fine) _
  rcases rest started report _ past ⟨congrArg (· ++ _) stored.evaluations, own⟩ with
    ⟨last, later, after, plays, storedLast, same, continues, holds⟩
  refine ⟨last, later, after, ?_, storedLast, same,
    ⟨continues.executionId, continues.stepId⟩, ?_⟩
  · rw [Body.invoke, play, Operator.call, exec_bind, records]
    exact plays
  · rw [Body.invoke, play, questions_bind, unasked, Operator.call, records]
    exact holds

theorem asks_ask {request : PromptRequest} {next : PromptResponse → Body}
    (interactive : setting.mode.isAuto = false)
    (rest : ∀ answer, (next answer).Asks ρ setting retests (draft.noted answer)
      fun last questions => post last ((request, answer) :: questions)) :
    (Body.invoke (.ask request) next).Asks ρ setting retests draft post := by
  intro started report result surroundings stored
  have active : (draft.operator setting started).frame = some draft.frame := rfl
  rcases Operator.exec_ask_known active stored.own request with
    ⟨worked, answer, filed, -, past, asks, own, -⟩
  have answers := exec_meets (Operator.ask_answers (draft.operator setting started) request)
    surroundings
  rw [asks] at answers
  rcases answers answer rfl with ⟨rfl, -⟩
  have asked : surroundings.questions
      ((draft.operator setting started).call Planned.profile (.ask request)) =
      [(request, answer)] := by
    rw [← Operator.exchange_asked]
    refine (Operator.exchange_proper _ _ _ _).asked_eq interactive ?_
    rw [Operator.call, asks]
  rcases rest answer started report { result with response := filed } past
    ⟨stored.evaluations, own⟩ with
    ⟨last, later, after, plays, storedLast, same, continues, holds⟩
  refine ⟨last, later, after, ?_, storedLast, same,
    ⟨continues.executionId, continues.stepId⟩, ?_⟩
  · rw [Body.invoke, play, Operator.call, exec_bind, asks]
    exact plays
  · rw [Body.invoke, play, questions_bind, asked, Operator.call, asks]
    exact holds

end Body

/-! ## An execution from its start to its end -/

theorem Operator.frameFor_ids {κ : Type} (operator : Operator κ) (profile : Profile)
    (suffix : String) :
    (operator.frameFor profile suffix).stepId = profile.id ∧
      (operator.frameFor profile suffix).executionId = profile.id ++ "." ++ suffix := by
  unfold frameFor
  split
  · split <;> exact ⟨rfl, rfl⟩
  · exact ⟨rfl, rfl⟩

/-- An execution that is completed, with what it files. -/
structure Occasion.Completed (occasion : Occasion ρ) (setting : Setting) (retests : Nat)
    (report : Report) (draft : Draft) (result : StepResult) (later : Course)
    (after : Surroundings ρ) : Prop where
  outcome : occasion.outcome setting retests = ((later, .ok (some draft.frame)), after)
  own : after.own setting.runId = some (report.withResult result.executionId result)
  stepId : result.stepId = occasion.profile.id
  executionId : ∃ suffix, result.executionId = occasion.profile.id ++ "." ++ suffix
  evaluations : result.evaluations = draft.evaluations
  parameters : later.parameters = draft.parameters
  graph : later.graph = occasion.course.graph
  attempts : ∃ attempt, later.attempts = occasion.course.attempts ++ [attempt] ∧
    attempt.executionId = result.executionId

/-- The questions of an execution are those of the step itself. -/
theorem Hearing.questions_eq (hearing : Hearing ρ setting retests) :
    (hearing.exchanges.flatMap Exchange.deeds).filterMap Deed.question? =
      hearing.entered.questions (play setting retests hearing.occasion.body hearing.operator) := by
  have closing : hearing.closing.flatMap Exchange.asked = [] :=
    List.flatMap_eq_nil_iff.mpr fun exchange member => (hearing.closes exchange member).unasked
  have opening : (⟨none, .begin hearing.occasion.profile, .ok hearing.frame.executionId,
      hearing.opening⟩ : Exchange).asked = [] :=
    Exchange.asked_eq_nil hearing.opens (fun request same => by cases same)
      fun outcome same => by cases same
  have said : hearing.said.flatMap Exchange.asked =
      hearing.entered.questions (play setting retests hearing.occasion.body hearing.operator) := by
    rw [questions, ← unlogged_questions, deeds_play, List.filterMap_flatMap]
    rfl
  rw [List.filterMap_flatMap]
  show hearing.exchanges.flatMap Exchange.asked = _
  rw [Hearing.exchanges, List.flatMap_cons, List.flatMap_append, opening, said, closing]
  simp

/-- An execution whose step is played to the end files what was recorded there. -/
theorem Hearing.completes (hearing : Hearing ρ setting retests) {ended : Draft}
    {filed : StepResult} {after : Surroundings ρ}
    (plays : hearing.entered.exec (play setting retests hearing.occasion.body hearing.operator) =
      ((ended.operator setting (hearing.occasion.course.started + 1), .completed), after))
    (stored : ended.Stored setting hearing.before filed after)
    (same : ended.frame.executionId = hearing.frame.executionId)
    (continues : (StepResult.opened hearing.frame.executionId hearing.frame.stepId
      hearing.frame.name hearing.frame.kind hearing.moment).Continues filed) :
    ∃ result later past,
      hearing.occasion.Completed setting retests hearing.before ended result later past := by
  have parts := hearing.performed
  obtain ⟨worked, isPlayed⟩ := Prod.mk.inj (parts.plays.symm.trans plays)
  obtain ⟨isWorked, isEnding⟩ := Prod.mk.inj worked
  have leaves := hearing.leaves
  rw [isPlayed, isWorked, isEnding] at leaves
  have active : (ended.operator setting (hearing.occasion.course.started + 1)).frame =
      some ended.frame := rfl
  rcases exec_leave_known active stored.own hearing.frame.executionId .completed with
    ⟨left, finished, past, leaving, own, -, goesOn⟩
  cases left with
  | error error => cases goesOn.1
  | ok frame? =>
      obtain ⟨-, rfl⟩ := goesOn
      obtain ⟨isResult, isPast⟩ := Prod.mk.inj (leaves.symm.trans leaving)
      let closed : StepResult :=
        { filed with evaluations := filed.evaluations ++ [], endedAt := some finished }
      have closedId : closed.executionId = hearing.frame.executionId := continues.executionId
      rcases parts.fresh with ⟨suffix, isFrame⟩
      rcases Operator.frameFor_ids (⟨setting, hearing.occasion.course.parameters,
        hearing.occasion.course.started, none⟩ : Operator Planned) hearing.occasion.profile suffix
        with ⟨stepId, executionId⟩
      rw [← isFrame] at stepId executionId
      let later : Course :=
        { parameters := ended.parameters
          started := hearing.worked.started
          graph := hearing.occasion.course.graph
          attempts := hearing.occasion.course.attempts ++ [hearing.attempt] }
      refine ⟨closed, later, past, ?_, ?_, continues.stepId.trans stepId,
        ⟨suffix, closedId.trans executionId⟩, ?_, rfl, rfl, hearing.attempt, rfl, closedId.symm⟩
      · rw [hearing.outcome_eq, isResult, isPast, isWorked]
        simp only [later, isWorked]
        rfl
      · rw [closedId, ← same]
        exact own
      · rw [← stored.evaluations]
        exact List.append_nil _

/-- One execution files what it recorded, and leaves its frame. -/
theorem Occasion.completed (occasion : Occasion ρ) {report : Report}
    (asks : ∀ draft : Draft, draft.parameters = occasion.course.parameters →
      draft.evaluations = [] → draft.frame.IsFresh → draft.frame.retestsLeft = occasion.left →
      occasion.body.Asks ρ setting retests draft post)
    (known : occasion.surroundings.own setting.runId = some report) :
    ∃ draft result later after,
      occasion.Completed setting retests report draft result later after ∧
      post draft (occasion.surroundings.questions (attempt setting occasion.node occasion.profile
        (play setting retests occasion.body) occasion.left occasion.course)) := by
  rcases Occasion.heard retests occasion.body.every_any known with ⟨hearing, rfl, rfl, heard⟩
  have asked : hearing.occasion.surroundings.questions (attempt setting hearing.occasion.node
      hearing.occasion.profile (play setting retests hearing.occasion.body) hearing.occasion.left
      hearing.occasion.course) =
      hearing.entered.questions (play setting retests hearing.occasion.body hearing.operator) := by
    rw [← hearing.questions_eq, ← heard, unlogged_questions]
    rfl
  have parts := hearing.performed
  rcases parts.fresh with ⟨suffix, isFrame⟩
  have fresh : hearing.frame.IsFresh := isFrame ▸ Operator.frameFor_fresh _ _ _
  let draft : Draft := ⟨hearing.occasion.course.parameters,
    { hearing.frame with retestsLeft := hearing.occasion.left }, []⟩
  have operates : hearing.operator =
      draft.operator setting (hearing.occasion.course.started + 1) := parts.operator_eq
  rcases asks draft rfl rfl ⟨fresh.recorded, fresh.children, fresh.retestRequested,
      fresh.responses⟩ rfl (hearing.occasion.course.started + 1) hearing.before _ hearing.entered
      ⟨rfl, parts.own⟩ with
    ⟨ended, filed, after, plays, stored, same, continues, holds⟩
  rw [← operates] at plays holds
  rcases hearing.completes plays stored same continues with ⟨result, later, past, completed⟩
  exact ⟨ended, result, later, past, completed, asked ▸ holds⟩

namespace Walk

variable {node : NodeId} {profile : Profile} (executions : Nat → Execution) (done : Nat)
  {left : Nat} {course later : Course} {frame : Frame Planned}
  {surroundings after logged : Surroundings ρ}

/-- An execution that is not to be repeated is the last one. -/
theorem attempts_last
    (attempted : surroundings.exec (attempt setting node profile (executions done) left course) =
      ((later, .ok (some frame)), after))
    (ends : left = 0 ∨ frame.retestRequested = false) :
    surroundings.exec (attempts setting node profile executions done left course) =
        ((later, .ok (some frame.children)), after) ∧
      surroundings.questions (attempts setting node profile executions done left course) =
        surroundings.questions (attempt setting node profile (executions done) left course) := by
  cases left with
  | zero =>
      simp only [attempts]
      rw [exec_andThen, questions_andThen, attempted]
      exact ⟨rfl, List.append_nil _⟩
  | succ left =>
      have settled := ends.resolve_left (Nat.succ_ne_zero left)
      simp only [attempts]
      rw [exec_andThen, questions_andThen, attempted]
      simp only [settled, Bool.false_eq_true, if_false, exec_pure, questions_pure,
        List.append_nil, and_self]

/-- One that is to be repeated is followed by the others. -/
theorem attempts_again
    (attempted : surroundings.exec
      (attempt setting node profile (executions done) (left + 1) course) =
        ((later, .ok (some frame)), after))
    (again : frame.retestRequested = true)
    (logging : after.exec (Job.log .info "retesting step") = ((), logged)) :
    surroundings.exec (attempts setting node profile executions done (left + 1) course) =
        logged.exec (attempts setting node profile executions (done + 1) left later) ∧
      surroundings.questions (attempts setting node profile executions done (left + 1) course) =
        surroundings.questions
            (attempt setting node profile (executions done) (left + 1) course) ++
          logged.questions (attempts setting node profile executions (done + 1) left later) := by
  have unasked : after.questions (Job.log .info "retesting step") = [] := rfl
  simp only [attempts]
  rw [exec_andThen, questions_andThen, attempted]
  simp only [again, if_true, exec_bind, questions_bind, logging, unasked, List.nil_append,
    and_self]

end Walk

end Triage
