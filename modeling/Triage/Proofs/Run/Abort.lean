import Triage.Proofs.Run.Occasion

namespace Triage

open Surroundings

variable {ρ : Type} [Renderer ρ] {setting : Setting} {retests : Nat} {calls : Call → Prop}

/-! ## Frames that the report knows nothing of -/

/-- An execution that left a frame without a result in the report. -/
def Attempt.Strays (attempt : Attempt) (report : Report) : Prop :=
  ∃ frame, attempt.frame = some frame ∧ frame.executionId ∉ report.results.keys

/-- The run was over after this execution. -/
def Attempt.Aborts (attempt : Attempt) (error : RunError) : Prop :=
  attempt.ending.Aborts attempt.executionId attempt.frame.isSome error

theorem Attempt.Strays.of_extends {attempt : Attempt} {report changed : Report}
    (strays : attempt.Strays changed) (extended : report.Extends changed) :
    attempt.Strays report := by
  rcases strays with ⟨frame, active, absent⟩
  exact ⟨frame, active, fun member => absent (extended.keys _ member)⟩

/-- How a run stands with its report. -/
structure Filed (setting : Setting) (course : Course) (surroundings : Surroundings ρ)
    (report : Report) : Prop where
  own : surroundings.own setting.runId = some report
  runId : report.runId = setting.runId
  results : ∀ attempt ∈ course.attempts, ¬attempt.Strays report

omit [Renderer ρ] in
/-- The attempts of the past keep their results when a report grows. -/
theorem Filed.attempted {course : Course} {surroundings after : Surroundings ρ}
    {report changed : Report} (filed : Filed setting course surroundings report)
    (grown : report.Extends changed) (own : after.own setting.runId = some changed)
    {attempt : Attempt} (found : ¬attempt.Strays changed) (parameters : Parameters)
    (started : Nat) :
    Filed setting ⟨parameters, started, course.graph, course.attempts ++ [attempt]⟩ after
      changed := by
  refine ⟨own, grown.runId.trans filed.runId, fun other member => ?_⟩
  rcases List.mem_append.mp member with member | member
  · exact fun strays => filed.results other member (strays.of_extends grown)
  · rw [List.mem_singleton.mp member]
    exact found

/-- A run that an error ended: a forbidden use of the operator, or a last execution
that strays. -/
inductive Ended (setting : Setting) (course : Course) (surroundings : Surroundings ρ)
    (report : Report) (error : RunError) : Prop
  | forbidden (invalid : error.isInvalidStep = true)
      (filed : Filed setting course surroundings report)
  | strayed (own : surroundings.own setting.runId = some report) (last : Attempt)
      (isLast : course.attempts.getLast? = some last) (frame : Frame Profile)
      (active : last.frame = some frame) (absent : frame.executionId ∉ report.results.keys)
      (unknown : error = .report (.unknownStep setting.runId frame.executionId))

namespace Walk

variable {occasion : Occasion ρ} {operator worked : Operator Planned} {executionId : String}
  {ending : Ending} {entered played past : Surroundings ρ}
  {result : Except RunError (Option (Frame Planned))}

theorem Attempt.not_strays_of_idle {attempt : Attempt} {report : Report}
    (idle : attempt.frame = none) : ¬attempt.Strays report := by
  rintro ⟨frame, active, -⟩
  rw [idle] at active
  cases active

/-- What an execution leaves in the report, or why it ended the run. -/
theorem outcome_filed (retests : Nat) {report : Report}
    (performs : occasion.body.Every calls fun _ => True)
    (filed : Filed setting occasion.course occasion.surroundings report) :
    ∃ changed, report.Extends changed ∧
      match (occasion.outcome setting retests).1.2 with
      | .ok _ => Filed setting (occasion.outcome setting retests).1.1
          (occasion.outcome setting retests).2 changed
      | .error error => Ended setting (occasion.outcome setting retests).1.1
          (occasion.outcome setting retests).2 changed error := by
  rcases performed retests filed.own with
    ⟨operator, frame, moment, entered, worked, ending, played, parts⟩
  rcases parts.grows performs with ⟨middle, stored, all⟩
  have same := parts.setting_eq performs
  have runId : middle.runId = setting.runId := all.runId.trans filed.runId
  cases active : worked.frame with
  | none =>
      rcases exec_leave_idle active frame.executionId ending played with
        ⟨error, past, leaves, aborts⟩
      rcases exec_own (leave_meets same frame.executionId ending) stored with
        ⟨changed, own, grown⟩
      rw [leaves] at own
      rw [parts.outcome leaves]
      have extends_ := all.trans grown
      refine ⟨changed, extends_, .forbidden aborts.isInvalidStep (filed.attempted extends_ own ?_ _ _)⟩
      exact Attempt.not_strays_of_idle (by simp [attemptOf, active])
  | some left =>
      rw [← same] at stored runId
      cases found : middle.step? left.executionId with
      | none =>
          rcases exec_leave_unknown active stored found frame.executionId ending with
            ⟨past, leaves, own⟩
          rw [parts.outcome leaves]
          rw [same] at own runId
          refine ⟨middle, all, .strayed own _ List.getLast?_concat (left.map Planned.profile)
            ?_ ?_ ?_⟩
          · simp [attemptOf, active]
          · exact Report.step?_eq_none_iff.mp found
          · rw [runId]
            rfl
      | some result =>
          rw [← Report.withResult_of_step? found] at stored
          rcases exec_leave_known active stored frame.executionId ending with
            ⟨outcome, finished, past, leaves, own, -, ends⟩
          rw [parts.outcome leaves]
          rw [same] at own
          generalize ({ result with
            evaluations := result.evaluations ++ ending.verdict setting
            endedAt := some finished } : StepResult) = closed at own
          have extends_ : report.Extends (middle.withResult left.executionId closed) :=
            all.trans Report.extends_withResult
          refine ⟨middle.withResult left.executionId closed, extends_, ?_⟩
          have isFound : ¬(attemptOf occasion frame.executionId ending worked outcome).Strays
              (middle.withResult left.executionId closed) := by
            rintro ⟨other, leftOther, absent⟩
            have equal : left.map Planned.profile = other := by
              simpa [attemptOf, active] using leftOther
            rw [← equal] at absent
            exact absent (Entries.mem_keys_insert.mpr (.inl rfl))
          have isFiled := filed.attempted extends_ own isFound worked.parameters worked.started
          cases outcome with
          | ok frame? => exact isFiled
          | error error => exact .forbidden ends.2.isInvalidStep isFiled

/-! ## Steps that install no frames -/

/-- The frame that is active has its result in the report. -/
def Held (operator : Operator Planned) (surroundings : Surroundings ρ) : Prop :=
  ∃ report, surroundings.own operator.setting.runId = some report ∧
    ∀ frame, operator.frame = some frame → frame.executionId ∈ report.results.keys

omit [Renderer ρ] in
theorem Held.of_same {operator later : Operator Planned} {surroundings after : Surroundings ρ}
    (held : Held operator surroundings) {changed : Report}
    (own : after.own later.setting.runId = some changed)
    (extended : ∀ report, surroundings.own operator.setting.runId = some report →
      report.Extends changed)
    (same : later.frame.map (·.executionId) = operator.frame.map (·.executionId)) :
    Held later after := by
  rcases held with ⟨report, known, filed⟩
  refine ⟨changed, own, fun frame active => ?_⟩
  rw [active, Option.map_some] at same
  rcases Option.map_eq_some_iff.mp same.symm with ⟨before, activeBefore, equal⟩
  exact equal ▸ (extended report known).keys _ (filed before activeBefore)

omit [Renderer ρ] in
theorem held_idle {surroundings : Surroundings ρ} {report : Report}
    (own : surroundings.own operator.setting.runId = some report) (idle : operator.frame = none) :
    Held operator surroundings :=
  ⟨report, own, fun frame active => by rw [idle] at active; cases active⟩

theorem exec_call_held {surroundings : Surroundings ρ} {call : Call}
    (plain : call.installs = false) (held : Held operator surroundings) :
    Held (surroundings.exec (operator.call Planned.profile call)).1.1
      (surroundings.exec (operator.call Planned.profile call)).2 := by
  rcases held with ⟨report, own, filed⟩
  rcases exec_own (operator.call_meets Planned.profile call) own with ⟨changed, later, extended⟩
  have follows := exec_meets (operator.call_meets Planned.profile call) surroundings
  rw [← follows.setting] at later
  cases ordinary : call.isOrdinary with
  | true =>
      have continues := exec_meets (operator.ordinary_meets Planned.profile ordinary) surroundings
      refine Held.of_same ⟨report, own, filed⟩ later (fun other known => ?_) continues.executionId
      rw [own] at known
      cases known
      exact extended
  | false =>
      cases call with
      | take => exact held_idle later rfl
      | install profile => cases plain
      | begin profile =>
          rcases operator.exec_begin profile own with
            ⟨frame, suffix, moment, after, -, begins, opened, -⟩
          have called : surroundings.exec (operator.call Planned.profile (.begin profile)) = _ :=
            begins
          rw [called]
          refine ⟨_, opened, fun other active => ?_⟩
          cases active
          exact Entries.mem_keys_insert.mpr (.inl rfl)
      | finish =>
          refine held_idle later ?_
          have finished := (exec_meets operator.finish_meets surroundings).1.2
          simp only [Operator.call, exec_bind, exec_pure]
          exact finished
      | _ => cases ordinary

theorem exec_play_held (setting : Setting) (retests : Nat) {steps : Step → Prop} :
    ∀ (body : Body) (operator : Operator Planned) (surroundings : Surroundings ρ),
      body.Every (fun call => call.installs = false) steps → Held operator surroundings →
      Held (surroundings.exec (play setting retests body operator)).1.1
        (surroundings.exec (play setting retests body operator)).2
  | .done, _, _, _, held => by
      simp only [play]
      exact held
  | .fail _, _, _, _, held => by
      simp only [play]
      exact held
  | .crash _, _, _, _, held => by
      simp only [play]
      exact held
  | .call _ call next, operator, surroundings, every, held => by
      simp only [play, exec_bind]
      exact exec_play_held _ _ _ _ _ (every.2 _) (exec_call_held every.1 held)
  | .queue _ child next, operator, surroundings, every, held => by
      rcases queues : operator.queue child.profile (plan setting retests child) with ⟨later, reply⟩
      simp only [play, queues]
      rcases Operator.queue_same queues with ⟨same, -, executionId⟩
      refine exec_play_held _ _ _ _ _ (every.2 _) ?_
      rcases held with ⟨report, own, filed⟩
      refine Held.of_same ⟨report, own, filed⟩ (same ▸ own) (fun other known => ?_) executionId
      rw [own] at known
      cases known
      exact .refl

theorem Performed.held {report : Report} {frame : Frame Planned} {moment : Instant}
    {steps : Step → Prop}
    (parts : Performed setting retests occasion report operator frame moment entered worked ending
      played) (plain : occasion.body.Every (fun call => call.installs = false) steps) :
    Held worked played := by
  have begins : Held operator entered := by
    rw [parts.operator_eq]
    refine ⟨_, parts.own, fun other active => ?_⟩
    cases active
    exact Entries.mem_keys_insert.mpr (.inl rfl)
  have plays := exec_play_held setting retests occasion.body operator entered plain begins
  rw [parts.plays] at plays
  exact plays

/-- An execution that installs no frame ends the run for one of three reasons, and for
no other one. -/
theorem outcome_aborts (retests : Nat) {report : Report}
    (plain : occasion.body.Every (fun call => call.installs = false) fun _ => True)
    (filed : Filed setting occasion.course occasion.surroundings report) :
    ∃ attempt : Attempt,
      (occasion.outcome setting retests).1.1.attempts = occasion.course.attempts ++ [attempt] ∧
      match (occasion.outcome setting retests).1.2 with
      | .ok _ => ∀ error, ¬attempt.Aborts error
      | .error error => attempt.Aborts error := by
  rcases performed retests filed.own with
    ⟨operator, frame, moment, entered, worked, ending, played, parts⟩
  have same := parts.setting_eq plain
  rcases parts.held plain with ⟨middle, stored, known⟩
  cases active : worked.frame with
  | none =>
      rcases exec_leave_idle active frame.executionId ending played with
        ⟨error, past, leaves, aborts⟩
      rw [parts.outcome leaves]
      refine ⟨_, rfl, ?_⟩
      simpa [Attempt.Aborts, attemptOf, active] using aborts
  | some left =>
      rcases Entries.mem_keys_iff.mp (known left active) with ⟨result, found⟩
      rw [← Report.withResult_of_step? found] at stored
      rcases exec_leave_known active stored frame.executionId ending with
        ⟨outcome, finished, past, leaves, own, -, concluded⟩
      rw [parts.outcome leaves]
      refine ⟨_, rfl, ?_⟩
      cases outcome with
      | ok frame? =>
          have goesOn := Ending.not_aborts concluded.1 frame.executionId
          simpa [Attempt.Aborts, attemptOf, active] using goesOn
      | error error => simpa [Attempt.Aborts, attemptOf, active] using concluded.2

/-- Such an execution is aborted by a forbidden use of the operator or not at all. -/
theorem outcome_plain (retests : Nat) {report : Report} {error : RunError}
    (plain : occasion.body.Every (fun call => call.installs = false) fun _ => True)
    (filed : Filed setting occasion.course occasion.surroundings report)
    (ends : (occasion.outcome setting retests).1.2 = .error error) :
    error.isInvalidStep = true := by
  rcases outcome_aborts retests plain filed with ⟨attempt, -, aborts⟩
  rw [ends] at aborts
  exact aborts.isInvalidStep

end Walk

/-! ## How a run ends -/

/-- A run that goes on has all its results in the report. Otherwise its last
execution was begun in such a state. -/
theorem Chain.filed {course last : Course} {surroundings final : Surroundings ρ}
    {occasions : List (Occasion ρ)} {result : Except RunError Unit} {report : Report}
    (chain : Chain setting retests calls course surroundings occasions result last final)
    (filed : Filed setting course surroundings report) :
    (result = .ok () → ∃ changed, Filed setting last final changed) ∧
      ∀ error, result = .error error → ∃ (occasion : Occasion ρ) (before : Report),
        (occasion.body.Every calls fun _ => True) ∧
          Filed setting occasion.course occasion.surroundings before ∧
          occasion.outcome setting retests = ((last, .error error), final) := by
  induction chain generalizing report with
  | done => exact ⟨fun _ => ⟨report, filed⟩, by simp⟩
  | occasion performs ends _ induction =>
      have permits := performs.imp (fun _ _ => trivial) fun _ _ => trivial
      rcases Walk.outcome_filed retests permits filed with ⟨changed, -, goesOn⟩
      rw [ends] at goesOn
      exact induction goesOn
  | aborted performs ends =>
      refine ⟨by simp, fun error came => ?_⟩
      cases came
      exact ⟨_, report, performs, filed, ends⟩
  | attached _ _ induction => exact induction ⟨filed.own, filed.runId, filed.results⟩
  | logged _ induction => exact induction ⟨filed.own, filed.runId, filed.results⟩

/-! ## The execution that ends a run -/

/-- Executions that let the run go on, up to the end or to one that ends it. -/
inductive RunsUntil : List Attempt → Except RunError Unit → Prop
  | done : RunsUntil [] (.ok ())
  | goesOn {attempt : Attempt} {rest : List Attempt} {result : Except RunError Unit}
      (allowed : ∀ error, ¬attempt.Aborts error) (more : RunsUntil rest result) :
      RunsUntil (attempt :: rest) result
  | aborted {attempt : Attempt} {error : RunError} (aborts : attempt.Aborts error) :
      RunsUntil [attempt] (.error error)

theorem RunsUntil.last {attempts : List Attempt} {error : RunError}
    (runs : RunsUntil attempts (.error error)) :
    ∃ earlier attempt, attempts = earlier ++ [attempt] ∧ attempt.Aborts error ∧
      ∀ other ∈ earlier, ∀ another, ¬other.Aborts another := by
  generalize ended : (Except.error error : Except RunError Unit) = result at runs
  induction runs with
  | done => cases ended
  | @goesOn first rest result allowed _ induction =>
      rcases induction ended with ⟨earlier, attempt, rfl, aborts, before⟩
      refine ⟨first :: earlier, attempt, rfl, aborts, fun other member => ?_⟩
      rcases List.mem_cons.mp member with rfl | member
      · exact allowed
      · exact before other member
  | @aborted attempt error aborts =>
      cases ended
      exact ⟨[], attempt, rfl, aborts, by simp⟩

end Triage
