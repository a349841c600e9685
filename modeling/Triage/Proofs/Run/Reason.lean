import Triage.Proofs.Run.Failure
import Triage.Proofs.Run.Hearing
import Triage.Proofs.Text.Words

namespace Triage

namespace Chars

theorem length_join_le (separator : Chars) (before : List Chars) {pieces : List Chars}
    (nonempty : pieces ≠ []) :
    (join separator pieces).length + before.length * separator.length ≤
      (join separator (before ++ pieces)).length := by
  induction before with
  | nil => simp
  | cons first rest induction =>
      obtain ⟨second, others, isRest⟩ :=
        List.exists_cons_of_ne_nil (List.append_ne_nil_of_right_ne_nil rest nonempty)
      rw [List.cons_append, isRest, join_cons_cons, ← isRest, List.length_append,
        List.length_append, List.length_cons, Nat.succ_mul]
      omega

end Chars

namespace Failure

variable {failure : Failure}

/-! ## What a failure is said to come from -/

/-- All that there is to tell: of an answer of a cloud service, as such or as an error of the
engine, its message; of anything else the circumstances and every error behind it. -/
def fullReason (failure : Failure) : String :=
  match failure.cause with
  | .api error | .run (.api error) =>
      s!"The step could not query the {error.service} API: {error.message}"
  | _ => "The step could not complete: " ++ failure.text

/-- An error of the engine, if the failure is one, is not the answer of a cloud service and has
no circumstances. -/
def Bare (failure : Failure) : Prop :=
  ∀ error, failure.cause = .run error → failure.contexts = [] ∧ ∀ answer, error ≠ .api answer

theorem text_ne_of_contexts {contexts : List String} (some : contexts ≠ []) (cause : Cause) :
    Failure.text ⟨contexts, cause⟩ ≠ Failure.text ⟨[], cause⟩ := by
  have chain : cause.chain.map String.toList ≠ [] := by
    cases cause <;> exact List.cons_ne_nil _ _
  have positive := List.length_pos_iff.mpr some
  have longer := Chars.length_join_le ": ".toList (contexts.map String.toList) chain
  have separator : ": ".toList.length = 2 := rfl
  rw [List.length_map, separator] at longer
  intro same
  have sameLength := congrArg (fun text => text.toList.length) same
  simp only [text, Text.join, String.toList_ofList, List.map_append, List.nil_append] at sameLength
  omega

theorem reason_ne_query (text service message : String) :
    "The step could not complete: " ++ text ≠
      s!"The step could not query the {service} API: {message}" := by
  intro same
  have sameText := congrArg String.toList same
  have same (text : String) : toString text = text := rfl
  simp [same] at sameText

theorem reason_eq_fullReason_iff : failure.reason = failure.fullReason ↔ failure.Bare := by
  rcases failure with ⟨contexts, cause⟩
  cases cause with
  | api error => exact iff_of_true rfl nofun
  | other error => exact iff_of_true rfl nofun
  | run error =>
      by_cases isAnswer : ∃ answer, error = .api answer
      · obtain ⟨answer, rfl⟩ := isAnswer
        refine iff_of_false (reason_ne_query _ _ _) fun bare => ?_
        exact (bare _ rfl).2 answer rfl
      · have noAnswer : ∀ answer, error ≠ .api answer := fun answer same => isAnswer ⟨answer, same⟩
        have full : Failure.fullReason ⟨contexts, .run error⟩ =
            "The step could not complete: " ++ Failure.text ⟨contexts, .run error⟩ := by
          cases error <;> first | rfl | exact absurd rfl (noAnswer _)
        have reason : Failure.reason ⟨contexts, .run error⟩ =
            "The step could not complete: " ++ Failure.text ⟨[], .run error⟩ := rfl
        rw [full, reason, String.append_right_inj]
        constructor
        · intro same other isOther
          cases isOther
          refine ⟨?_, noAnswer⟩
          by_contra some
          exact text_ne_of_contexts some _ same.symm
        · intro bare
          have noContexts : contexts = [] := (bare error rfl).1
          rw [noContexts]

end Failure

open Surroundings Walk

variable {ρ : Type} [Renderer ρ] {setting : Setting} {retests : Nat} {calls : Call → Prop}

/-! ## What a returned error comes to -/

namespace Hearing

variable {hearing : Hearing ρ setting retests} {frame : Frame Planned} {report : Report}
  {recorded : StepResult} {failure : Failure}

/-- When the step comes back a frame is in place, and so far `recorded` is filed for it. -/
structure Stands (hearing : Hearing ρ setting retests) (frame : Frame Planned) (report : Report)
    (recorded : StepResult) : Prop where
  active : hearing.worked.frame = some frame
  own : hearing.played.own setting.runId = some (report.withResult frame.executionId recorded)

/-- What is made of an error that the step returned. -/
structure Wraps (hearing : Hearing ρ setting retests) (frame : Frame Planned) (report : Report)
    (recorded : StepResult) (failure : Failure) : Prop where
  /-- A forbidden use of the operator is passed on as it is, and nothing is filed. -/
  aborts : ∀ step message, failure.cause = .run (.invalidStep step message) →
    hearing.result = .error (.invalidStep step message) ∧
    ∃ moment, hearing.past.own setting.runId =
      some (report.withResult frame.executionId { recorded with endedAt := some moment })
  /-- Anything else is filed once, behind what the step recorded, and the run goes on. -/
  adds : (∀ step message, failure.cause ≠ .run (.invalidStep step message)) →
    hearing.result = .ok none ∧
    ∃ evaluation moment,
      hearing.past.own setting.runId = some (report.withResult frame.executionId
        { recorded with
          evaluations := recorded.evaluations ++ [evaluation]
          endedAt := some moment }) ∧
      evaluation.status = .skipped ∧ evaluation.resource = some setting.project ∧
      evaluation.reason = failure.reason

theorem wraps_of_failed (stands : hearing.Stands frame report recorded)
    (failed : hearing.ending = .failed failure) : hearing.Wraps frame report recorded failure := by
  have own : hearing.played.own hearing.worked.setting.runId =
      some (report.withResult frame.executionId recorded) := by
    rw [hearing.setting_eq]
    exact stands.own
  rcases exec_leave_known stands.active own hearing.frame.executionId hearing.ending with
    ⟨result, moment, past, leaves, closed, -, ends⟩
  rw [hearing.leaves, Prod.mk.injEq] at leaves
  obtain ⟨isResult, isPast⟩ := leaves
  rw [← isPast, hearing.setting_eq, failed] at closed
  rw [← isResult, failed] at ends
  constructor
  · intro step message isCause
    have returned : failure.runError? = some (.invalidStep step message) := by
      rw [Failure.runError?, isCause]
    have forbidden : (Ending.failed failure).isForbidden = true := by
      rw [Ending.isForbidden, returned]
      rfl
    have verdict : (Ending.failed failure).verdict setting = [] := if_pos forbidden
    rw [verdict, List.append_nil] at closed
    refine ⟨?_, moment, closed⟩
    cases reply : hearing.result with
    | ok frame? =>
        rw [reply] at ends
        exact absurd forbidden (Bool.eq_false_iff.mp ends.1)
    | error error =>
        rw [reply] at ends
        cases ends.2 with
        | returned same isInvalid =>
            cases same
            rw [returned, Option.some.injEq] at isInvalid
            rw [isInvalid]
        | removed gone => cases gone
        | unfiled gone => cases gone
  · intro allowed
    have permitted : (Ending.failed failure).isForbidden = false := by
      rcases failure with ⟨contexts, error | error | error⟩
      · cases error <;> first | rfl | exact absurd rfl (allowed _ _)
      · rfl
      · rfl
    have verdict : (Ending.failed failure).verdict setting =
        [Operator.evaluationOf (failureOutcome setting failure) none false] :=
      if_neg (by simpa [Ending.isForbidden] using permitted)
    rw [verdict] at closed
    refine ⟨?_, _, moment, closed, rfl, rfl, rfl⟩
    cases reply : hearing.result with
    | ok frame? =>
        rw [reply] at ends
        exact congrArg Except.ok ends.2
    | error error =>
        rw [reply] at ends
        rw [permitted] at ends
        cases ends.1

/-- Without its frame, or with one that the report knows nothing of, the step ends the run,
whatever it returned. -/
theorem aborts_of_not_stands (performs : hearing.occasion.body.Every calls fun _ => True)
    (lost : ∀ frame report recorded, ¬hearing.Stands frame report recorded) :
    ∃ error, hearing.result = .error error := by
  rcases hearing.performed.grows performs with ⟨middle, stored, -⟩
  cases active : hearing.worked.frame with
  | none =>
      rcases exec_leave_idle active hearing.frame.executionId hearing.ending hearing.played with
        ⟨error, past, leaves, -⟩
      rw [hearing.leaves] at leaves
      exact ⟨error, congrArg Prod.fst leaves⟩
  | some frame =>
      cases found : middle.step? frame.executionId with
      | some recorded =>
          rw [← Report.withResult_of_step? found] at stored
          exact absurd ⟨active, stored⟩ (lost frame middle recorded)
      | none =>
          have own : hearing.played.own hearing.worked.setting.runId = some middle := by
            rw [hearing.setting_eq]
            exact stored
          rcases exec_leave_unknown active own found hearing.frame.executionId hearing.ending with
            ⟨past, leaves, -⟩
          rw [hearing.leaves] at leaves
          exact ⟨_, congrArg Prod.fst leaves⟩

/-- A step that leaves its frame alone comes back with it. -/
theorem stands_of_ordinary
    (ordinary : hearing.occasion.body.Every (fun call => call.isOrdinary = true) fun _ => True) :
    ∃ frame report recorded, hearing.Stands frame report recorded := by
  have active : hearing.operator.frame =
      some { hearing.frame with retestsLeft := hearing.occasion.left } := hearing.active
  have same : hearing.operator.setting = setting := by rw [hearing.performed.operator_eq]
  have begun : hearing.entered.own hearing.operator.setting.runId =
      some (hearing.before.withResult hearing.frame.executionId (.opened hearing.frame.executionId
        hearing.frame.stepId hearing.frame.name hearing.frame.kind hearing.moment)) := by
    rw [same]
    exact hearing.performed.own
  rcases exec_play_ordinary setting retests hearing.occasion.body hearing.operator hearing.entered
    ordinary active begun with ⟨stays, shown, added, recorded, records⟩
  rw [hearing.performed.plays] at stays records
  rcases stays.active active with ⟨left, activeLeft, sameId⟩
  have own := records.own
  rw [same] at own
  refine ⟨left, hearing.before, recorded, activeLeft, ?_⟩
  rw [sameId]
  exact own

end Hearing

/-! ## The end of a run -/

/-- A run ends with an error if and only if one of its executions does. -/
theorem Chain.result_eq_error {course last : Course} {surroundings final : Surroundings ρ}
    {occasions : List (Occasion ρ)} {result : Except RunError Unit} {error : RunError}
    (chain : Chain setting retests calls course surroundings occasions result last final) :
    result = .error error ↔
      ∃ occasion ∈ occasions, (occasion.outcome setting retests).1.2 = .error error := by
  induction chain with
  | done => simp
  | occasion performs ends _ induction => simp [ends, induction]
  | aborted performs ends => simp [ends]
  | attached _ _ induction => exact induction
  | logged _ induction => exact induction

/-- What the steps of a chain do is within what the chain allows. -/
theorem Chain.performs {course last : Course} {surroundings final : Surroundings ρ}
    {occasions : List (Occasion ρ)} {result : Except RunError Unit}
    (chain : Chain setting retests calls course surroundings occasions result last final) :
    ∀ occasion ∈ occasions, occasion.body.Every calls fun _ => True := by
  induction chain with
  | done => simp
  | occasion performs _ _ induction => simpa using ⟨performs, induction⟩
  | aborted performs => simpa using performs
  | attached _ _ induction => exact induction
  | logged _ induction => exact induction

namespace Engine

variable {engine : Engine} {name : String} {blueprint : Blueprint} {notes : List Json.Node}
  {graph : Graph Step} {surroundings final : Surroundings ρ} {course : Course}
  {result : Except RunError Unit}

/-- A run is aborted by an execution whose step returned a forbidden use of the operator, under
whatever circumstances, or lost its frame. For every other error that a step returns one skipped
evaluation is added, and it tells all that there is to tell unless an error of the engine has
lost its circumstances or hides the answer of a cloud service. -/
theorem walk_wraps (built : blueprint.build name = (notes, .ok (.ok graph)))
    (uses : graph.Uses calls)
    (walked : surroundings.exec (engine.walk setting graph) = ((course, result), final)) :
    ∃ hearings : List (Hearing ρ setting engine.settings.retests),
      engine.Unfolds setting graph calls surroundings (hearings.map Hearing.occasion) result course
        final ∧
      course.attempts = hearings.map Hearing.attempt ∧
      (∀ error, result = .error error ↔ ∃ hearing ∈ hearings, hearing.result = .error error) ∧
      (∀ hearing ∈ hearings, ∀ failure, hearing.ending = .failed failure →
        ∀ frame report recorded, hearing.Stands frame report recorded →
          hearing.Wraps frame report recorded failure) ∧
      (∀ failure : Failure, failure.reason = failure.fullReason ↔ failure.Bare) ∧
      (∀ hearing ∈ hearings, (∀ frame report recorded, ¬hearing.Stands frame report recorded) →
        ∃ error, hearing.result = .error error) ∧
      ((∀ call, calls call → call.isOrdinary = true) →
        ∀ hearing ∈ hearings, ∃ frame report recorded, hearing.Stands frame report recorded) := by
  rcases walk_unfolds built uses walked with ⟨occasions, moment, opened, reports, shows, chain⟩
  have known := (filed_of_opened graph reports).own
  rcases chain.heard known with ⟨hearings, rfl, overheard⟩
  have attempts : course.attempts = hearings.map Hearing.attempt := by
    simpa using overheard.attempts
  have performs : ∀ hearing ∈ hearings, hearing.occasion.body.Every calls fun _ => True :=
    fun hearing isMember => chain.performs hearing.occasion (List.mem_map_of_mem isMember)
  refine ⟨hearings, ⟨moment, opened, reports, shows, chain⟩, attempts, fun error => ?_,
    fun hearing _ failure failed _ _ _ stands => Hearing.wraps_of_failed stands failed,
    fun _ => Failure.reason_eq_fullReason_iff, fun hearing isMember lost => ?_,
    fun ordinary hearing isMember => ?_⟩
  · rw [chain.result_eq_error]
    simp only [List.mem_map, exists_exists_and_eq_and, Hearing.outcome_eq]
  · exact Hearing.aborts_of_not_stands
      ((performs hearing isMember).imp (fun _ _ => trivial) fun _ _ => trivial) lost
  · exact Hearing.stands_of_ordinary ((performs hearing isMember).imp ordinary fun _ _ => trivial)

open Sample in
/-- A step that fails with an error that has others behind it, before one that uses its operator
in a forbidden way. -/
theorem walk_wraps_failing :
    let failing := pair (.fail ⟨["listing disks"], .other ⟨"broken pipe", ["reset by peer"]⟩⟩)
      (.fail ((Failure.ofRun (.invalidStep "second" "no frame")).within "asking"))
    ∃ hearings : List (Hearing EventLog Sample.setting 3),
      (ended failing).1.1.attempts = hearings.map Hearing.attempt ∧
      (∀ error, (ended failing).1.2 = .error error ↔
        ∃ hearing ∈ hearings, hearing.result = .error error) ∧
      ∀ hearing ∈ hearings, ∃ frame report recorded, hearing.Stands frame report recorded ∧
        ∀ failure, hearing.ending = .failed failure →
          hearing.Wraps frame report recorded failure := by
  intro failing
  have complete : (tree failing).start.isSome = true := by decide +kernel
  have uses : failing.Uses fun call => call.isOrdinary = true := pair_uses trivial trivial
  have built := build_tree complete
  rcases walked : ended failing with ⟨⟨course, result⟩, final⟩
  rcases walk_wraps built (Blueprint.build_uses uses built) walked with
    ⟨hearings, -, attempts, aborts, wraps, -, -, stand⟩
  refine ⟨hearings, attempts, aborts, fun hearing isMember => ?_⟩
  rcases stand (fun _ ordinary => ordinary) hearing isMember with
    ⟨frame, report, recorded, stands⟩
  exact ⟨frame, report, recorded, stands, fun failure failed =>
    wraps hearing isMember failure failed frame report recorded stands⟩

open Sample in
/-- The answer of a cloud service as an error of the engine, and another error of the engine with
its circumstances. -/
theorem walk_tells_less :
    let answered := Failure.ofRun (.api (.of 403 "compute" "permission denied"))
    let within := (Failure.ofRun .noOperator).within "listing disks"
    ((ended (pair (.fail answered) (.fail within))).2.own "run").map
        (fun report => report.evaluations.map (·.2.reason)) =
      some ["The step could not complete: compute API request failed with status 403: permission denied",
        "The step could not complete: no operator found: step operations must run inside an operator context"] ∧
    answered.fullReason = "The step could not query the compute API: permission denied" ∧
    within.fullReason =
      "The step could not complete: listing disks: no operator found: step operations must run inside an operator context" := by
  exact ⟨by decide +kernel, by decide, by decide⟩

end Engine

end Triage
