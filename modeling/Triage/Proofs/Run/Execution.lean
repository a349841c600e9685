import Triage.Proofs.Run.Attempt
import Triage.Proofs.Run.Surroundings

namespace Triage

def RunError.isInvalidStep : RunError → Bool
  | .invalidStep _ _ => true
  | _ => false

namespace Ending

/-- A forbidden use of the operator. -/
def isForbidden : Ending → Bool
  | .failed failure => failure.runError?.any RunError.isInvalidStep
  | _ => false

/-- What is filed after the execution, behind everything that it recorded. -/
def verdict (setting : Setting) : Ending → List Evaluation
  | .completed => []
  | .failed failure =>
      if failure.runError?.any RunError.isInvalidStep then []
      else [Operator.evaluationOf (Walk.failureOutcome setting failure) none false]
  | .crashed message => [Operator.evaluationOf (Walk.crashOutcome setting message) none true]

/-- Why a run is over after an execution: the step came back from a forbidden use of the
operator, or its frame was gone when it was needed. -/
inductive Aborts (executionId : String) (framed : Bool) (ending : Ending) : RunError → Prop
  | returned {failure : Failure} {step message : String} (failed : ending = .failed failure)
      (forbidden : failure.runError? = some (.invalidStep step message)) :
      Aborts executionId framed ending (.invalidStep step message)
  | removed (gone : framed = false) (completed : ending.isCompleted = true) :
      Aborts executionId framed ending
        (.invalidStep executionId "the step frame was removed during execution")
  | unfiled (gone : framed = false) (halted : ending.isCompleted = false)
      (allowed : ending.isForbidden = false) :
      Aborts executionId framed ending (Operator.idle "recording an outcome")

variable {ending : Ending} {error : RunError}

theorem Aborts.isInvalidStep {executionId : String} {framed : Bool}
    (aborts : ending.Aborts executionId framed error) : error.isInvalidStep = true := by
  cases aborts <;> rfl

theorem not_aborts (allowed : ending.isForbidden = false) (executionId : String)
    (error : RunError) : ¬ending.Aborts executionId true error := by
  intro aborts
  cases aborts with
  | returned failed forbidden =>
      simp [failed, isForbidden, forbidden, RunError.isInvalidStep] at allowed
  | removed gone => cases gone
  | unfiled gone => cases gone

end Ending

namespace Walk

open Surroundings

variable {ρ : Type} [Renderer ρ] {surroundings : Surroundings ρ} {operator : Operator Planned}
  {frame : Frame Planned} {report : Report} {left : StepResult}

/-! ## How an execution begins and ends -/

theorem exec_attend {κ α : Type} (job : Job (Operator.Answer κ α))
    (surroundings : Surroundings ρ) :
    surroundings.exec (attend job).run =
      match surroundings.exec job with
      | ((operator, .ok reply), later) => (.ok (operator, reply), later)
      | ((_, .error error), later) => (.error error, later) := by
  apply (exec_bind job _ surroundings).trans
  rcases surroundings.exec job with ⟨⟨operator, error | reply⟩, later⟩ <;> rfl

/-- The frame of a step that has begun counts the executions to come. -/
theorem exec_enter {begun : Operator Planned} {profile : Profile} {executionId : String}
    {after : Surroundings ρ} (times : Nat) (active : begun.frame = some frame)
    (begins : surroundings.exec (operator.begin profile) = ((begun, .ok executionId), after)) :
    surroundings.exec (enter operator profile times).run =
      (.ok ({ begun with frame := some { frame with retestsLeft := times } }, executionId),
        after) := by
  unfold enter
  simp only [exec_run_bind, exec_attend, begins, Operator.setRetestsLeft, active]
  rfl

/-- What settling an execution comes to, by the three kinds of endings. -/
inductive Settling (operator : Operator Planned) (ending : Ending) : Prop
  | completed (completed : ending.isCompleted = true) (allowed : ending.isForbidden = false)
      (verdict : ending.verdict operator.setting = [])
      (settles : settle operator ending = pure (operator, true))
  | forbidden (halted : ending.isCompleted = false) (forbidden : ending.isForbidden = true)
      (verdict : ending.verdict operator.setting = []) (failure : Failure) (step message : String)
      (failed : ending = .failed failure)
      (returned : failure.runError? = some (.invalidStep step message))
      (settles : settle operator ending = do
        let _ ← attend operator.finish
        throw (.invalidStep step message))
  | concluded (halted : ending.isCompleted = false) (allowed : ending.isForbidden = false)
      (level : LogLevel) (remark : String) (outcome : Outcome)
      (unprompted : outcome.status.isFailure = false ∨ outcome.prompts = false)
      (verdict : ending.verdict operator.setting =
        [Operator.evaluationOf outcome none outcome.status.isFailure])
      (settles : settle operator ending = conclude operator level remark outcome)

theorem settling (operator : Operator Planned) (ending : Ending) : Settling operator ending := by
  cases ending with
  | completed => exact .completed rfl rfl rfl rfl
  | crashed message => exact .concluded rfl rfl _ _ _ (.inr rfl) rfl rfl
  | failed failure =>
      cases forbidden : (Ending.failed failure).isForbidden with
      | true =>
          have verdict : (Ending.failed failure).verdict operator.setting = [] := if_pos forbidden
          cases cause : failure.runError? with
          | none => simp [Ending.isForbidden, cause] at forbidden
          | some error =>
              cases error with
              | invalidStep step message =>
                  exact .forbidden rfl forbidden verdict failure step message rfl cause
                    (by simp only [settle, cause])
              | _ => simp [Ending.isForbidden, cause, RunError.isInvalidStep] at forbidden
      | false =>
          have verdict : (Ending.failed failure).verdict operator.setting =
              [Operator.evaluationOf (failureOutcome operator.setting failure) none false] :=
            if_neg (by simpa [Ending.isForbidden] using forbidden)
          refine .concluded rfl forbidden .warn "step failed; skipping its subtree"
            (failureOutcome operator.setting failure) (.inl rfl) verdict ?_
          simp only [settle]
          split
          · next step message cause =>
            simp [Ending.isForbidden, cause, RunError.isInvalidStep] at forbidden
          · rfl

/-- Without a frame every way of leaving ends the run. -/
theorem exec_leave_idle (idle : operator.frame = none) (executionId : String) (ending : Ending)
    (surroundings : Surroundings ρ) :
    ∃ error after,
      surroundings.exec (leave operator executionId ending).run = (.error error, after) ∧
      ending.Aborts executionId false error := by
  have finishes (later : Surroundings ρ) := Operator.exec_finish_idle idle later
  cases settling operator ending with
  | completed completed _ _ settles =>
      refine ⟨.invalidStep executionId "the step frame was removed during execution",
        surroundings, ?_, .removed rfl completed⟩
      simp only [leave, settles, exec_run_bind, exec_run_pure, exec_attend, finishes]
      rfl
  | forbidden _ _ _ failure step message failed returned settles =>
      refine ⟨.invalidStep step message, surroundings, ?_, .returned failed returned⟩
      simp only [leave, settles, exec_run_bind, exec_attend, finishes]
      rfl
  | concluded halted allowed level remark outcome _ _ settles =>
      have records := Operator.exec_record_idle idle outcome
        (surroundings.exec (Job.log level remark)).2
      refine ⟨Operator.idle "recording an outcome", (surroundings.exec (Job.log level remark)).2,
        ?_, .unfiled rfl halted allowed⟩
      simp only [leave, settles, conclude, exec_run_bind, exec_run_lift, exec_attend, records]

/-- With a frame that the report knows nothing of every way of leaving ends the run. -/
theorem exec_leave_unknown (active : operator.frame = some frame)
    (known : surroundings.own operator.setting.runId = some report)
    (missing : report.step? frame.executionId = none) (executionId : String) (ending : Ending) :
    ∃ after,
      surroundings.exec (leave operator executionId ending).run =
        (.error (.report (.unknownStep report.runId frame.executionId)), after) ∧
      after.own operator.setting.runId = some report := by
  cases settling operator ending with
  | completed _ _ _ settles =>
      rcases Operator.exec_finish_unknown active known missing with ⟨after, finishes, own⟩
      refine ⟨after, ?_, own⟩
      simp only [leave, settles, exec_run_bind, exec_run_pure, exec_attend, finishes]
  | forbidden _ _ _ _ step message _ _ settles =>
      rcases Operator.exec_finish_unknown active known missing with ⟨after, finishes, own⟩
      refine ⟨after, ?_, own⟩
      simp only [leave, settles, exec_run_bind, exec_attend, finishes]
  | concluded _ _ level remark outcome _ _ settles =>
      rcases logging : surroundings.exec (Job.log level remark) with ⟨_, logged⟩
      have stored := (Quiet.log logging).own.trans known
      rcases Operator.exec_record_unknown active stored missing outcome with
        ⟨later, after, records, own⟩
      refine ⟨after, ?_, own⟩
      simp only [leave, settles, conclude, exec_run_bind, exec_run_lift, logging, exec_attend,
        records]

/-- Otherwise the result is closed behind the verdict, and the run goes on unless the
ending is forbidden. -/
theorem exec_leave_known (active : operator.frame = some frame)
    (known : surroundings.own operator.setting.runId =
      some (report.withResult frame.executionId left)) (executionId : String) (ending : Ending) :
    ∃ result moment after,
      surroundings.exec (leave operator executionId ending).run = (result, after) ∧
      after.own operator.setting.runId = some (report.withResult frame.executionId
        { left with
          evaluations := left.evaluations ++ ending.verdict operator.setting
          endedAt := some moment }) ∧
      Renderer.Shows surroundings.renderer
        ((ending.verdict operator.setting).map fun evaluation => .shown evaluation.notice)
        after.renderer ∧
      match result with
      | .ok frame? =>
          ending.isForbidden = false ∧ frame? = if ending.isCompleted then some frame else none
      | .error error => ending.isForbidden = true ∧ ending.Aborts executionId true error := by
  cases settling operator ending with
  | completed completed allowed verdict settles =>
      rcases Operator.exec_finish_known active known Report.step?_withResult with
        ⟨moment, after, finishes, own, shows⟩
      refine ⟨.ok (some frame), moment, after, ?_, ?_, ?_, allowed, ?_⟩
      · simp only [leave, settles, exec_run_bind, exec_run_pure, exec_attend, finishes]
        rfl
      · simpa [verdict] using own
      · simpa [verdict] using shows
      · simp [completed]
  | forbidden halted forbidden verdict failure step message failed returned settles =>
      rcases Operator.exec_finish_known active known Report.step?_withResult with
        ⟨moment, after, finishes, own, shows⟩
      refine ⟨.error (.invalidStep step message), moment, after, ?_, ?_, ?_, forbidden,
        .returned failed returned⟩
      · simp only [leave, settles, exec_run_bind, exec_attend, finishes]
        rfl
      · simpa [verdict] using own
      · simpa [verdict] using shows
  | concluded halted allowed level remark outcome unprompted verdict settles =>
      rcases logging : surroundings.exec (Job.log level remark) with ⟨_, logged⟩
      have quiet := Quiet.log logging
      rcases Operator.exec_record_known active (quiet.own.trans known) Report.step?_withResult
        outcome with ⟨later, response, skipped, shown, recorded, records, own, shows, -, silent⟩
      have goesOn := Surroundings.exec_meets (operator.record_meets outcome) logged
      rw [records] at goesOn
      obtain ⟨rfl, rfl, rfl⟩ := silent unprompted
      rw [Report.withResult_withResult] at own
      rcases goesOn.active active with ⟨counted, countedActive, sameId⟩
      rw [← goesOn.setting, ← sameId] at own
      rcases Operator.exec_finish_known countedActive own Report.step?_withResult with
        ⟨moment, after, finishes, closed, closes⟩
      rw [Report.withResult_withResult, goesOn.setting, sameId] at closed
      refine ⟨.ok none, moment, after, ?_, ?_, ?_, allowed, by simp [halted]⟩
      · simp only [leave, settles, conclude, exec_run_bind, exec_run_lift, logging, exec_attend,
          records, exec_run_pure, finishes]
        rfl
      · rw [verdict]
        exact closed
      · simpa [verdict] using quiet.shows.trans (shows.trans closes)

end Walk

end Triage
