import Triage.Proofs.Renderer
import Triage.Proofs.Report
import Triage.Proofs.Run.Operator

namespace Triage

namespace Surroundings

variable {ρ : Type} {before middle after surroundings : Surroundings ρ}
  {shown more : List Event} {runId : String} {report : Report}

/-! ## The report of a run -/

/-- The report of a run that is under way. -/
def own (surroundings : Surroundings ρ) (runId : String) : Option Report :=
  surroundings.reports.get? runId

def withOwn (surroundings : Surroundings ρ) (runId : String) (report : Report) :
    Surroundings ρ :=
  { surroundings with reports := surroundings.reports.insert runId report }

@[simp] theorem own_withOwn : (surroundings.withOwn runId report).own runId = some report :=
  Entries.get?_insert_self

variable [Renderer ρ]

theorem exec_changeReport (known : surroundings.own runId = some report)
    (change : Report.Change) :
    surroundings.exec (Job.changeReport runId change) =
      match report.apply change with
      | .ok changed => (.ok (), surroundings.withOwn runId changed)
      | .error error => (.error error, surroundings) := by
  have stored : surroundings.reports.get? runId = some report := known
  have handled : surroundings.exec (Job.changeReport runId change) =
      handle (.changeReport runId change) surroundings := rfl
  rw [handled]
  cases applied : report.apply change with
  | ok changed =>
      simp only [handle, settle, ReportStore.change, ReportStore.report, stored, applied]
      rfl
  | error error =>
      simp only [handle, settle, ReportStore.change, ReportStore.report, stored, applied]

/-- Something is shown, and no report is written. -/
structure Quiet (before : Surroundings ρ) (shown : List Event) (after : Surroundings ρ) :
    Prop where
  reports : after.reports = before.reports
  shows : Renderer.Shows before.renderer shown after.renderer

namespace Quiet

theorem refl : Quiet before [] before :=
  ⟨rfl, .refl _⟩

theorem trans (first : Quiet before shown middle) (second : Quiet middle more after) :
    Quiet before (shown ++ more) after :=
  ⟨second.reports.trans first.reports, first.shows.trans second.shows⟩

theorem own (quiet : Quiet before shown after) : after.own runId = before.own runId := by
  simp [Surroundings.own, quiet.reports]

theorem freshSuffix {suffix : String}
    (draws : before.exec Job.freshSuffix = (suffix, after)) : Quiet before [] after := by
  cases draws
  exact ⟨rfl, .refl _⟩

theorem now {moment : Instant} (reads : before.exec Job.now = (moment, after)) :
    Quiet before [] after := by
  cases reads
  exact ⟨rfl, .refl _⟩

theorem note {entry : Json.Node} {done : Unit}
    (notes : before.exec (Job.note entry) = (done, after)) : Quiet before [] after := by
  cases notes
  exact ⟨rfl, .refl _⟩

theorem log {level : LogLevel} {message : String} {done : Unit}
    (logs : before.exec (Job.log level message) = (done, after)) : Quiet before [] after := by
  cases logs
  exact ⟨rfl, .logged _ _⟩

theorem notify {notice : Notice} {done : Unit}
    (notifies : before.exec (Job.notify notice) = (done, after)) :
    Quiet before [.shown notice] after := by
  cases notifies
  exact ⟨rfl, .notified _ notice⟩

theorem ask {request : PromptRequest} {response : PromptResponse}
    (asks : before.exec (Job.ask request) = (response, after)) :
    Quiet before [.asked request.kind request.message response] after := by
  cases asks
  exact ⟨rfl, .asked _ request⟩

end Quiet

/-- Lines were logged and remarks were left in the journal, and nothing else happened. -/
def Untouched (before after : Surroundings ρ) : Prop :=
  ∃ renderer journal, Renderer.Shows before.renderer [] renderer ∧
    after = { before with renderer := renderer, journal := journal }

namespace Untouched

theorem refl : before.Untouched before :=
  ⟨_, _, .refl _, rfl⟩

theorem trans (first : before.Untouched middle) (second : middle.Untouched after) :
    before.Untouched after := by
  rcases first with ⟨renderer, journal, shows, rfl⟩
  rcases second with ⟨last, whole, more, rfl⟩
  exact ⟨last, whole, shows.trans more, rfl⟩

theorem quiet (untouched : before.Untouched after) : Quiet before [] after := by
  rcases untouched with ⟨renderer, journal, shows, rfl⟩
  exact ⟨rfl, shows⟩

theorem note {entry : Json.Node} {done : Unit}
    (notes : before.exec (Job.note entry) = (done, after)) : before.Untouched after := by
  cases notes
  exact ⟨_, _, .refl _, rfl⟩

theorem log {level : LogLevel} {message : String} {done : Unit}
    (logs : before.exec (Job.log level message) = (done, after)) : before.Untouched after := by
  cases logs
  exact ⟨_, _, .logged _ _, rfl⟩

/-- Jobs one after the other. -/
theorem all {jobs : List (Job Unit)}
    (each : ∀ job ∈ jobs, ∀ state : Surroundings ρ, state.Untouched (state.exec job).2)
    (surroundings : Surroundings ρ) :
    surroundings.Untouched (surroundings.exec (Job.all jobs)).2 := by
  induction jobs generalizing surroundings with
  | nil => exact .refl
  | cons job rest induction =>
      have first := each job List.mem_cons_self surroundings
      have others := induction (fun other member => each other (List.mem_cons_of_mem _ member))
        (surroundings.exec job).2
      have bound : surroundings.exec (Job.all (job :: rest)) =
          (surroundings.exec job).2.exec (Job.all rest) := exec_bind job _ surroundings
      rw [bound]
      exact first.trans others

end Untouched

end Surroundings

/-- What an effect shows, once it was replied to. -/
def Effect.events : (effect : Effect) → effect.Reply → List Event
  | .notify notice, _ => [.shown notice]
  | .ask request, response => [.asked request.kind request.message response]
  | _, _ => []

/-- A presentation is the one thing that leaves no events. -/
def Effect.presents : Effect → Bool
  | .present _ => true
  | _ => false

theorem Effect.IsOwn.shows {setting : Setting} {effect : Effect} (isOwn : effect.IsOwn setting) :
    effect.presents = false := by
  cases effect with
  | present => cases isOwn
  | _ => rfl

theorem Surroundings.handle_shows {ρ : Type} [Renderer ρ] {effect : Effect}
    (events : effect.presents = false) (surroundings : Surroundings ρ) :
    Renderer.Shows surroundings.renderer (effect.events (handle effect surroundings).1)
      (handle effect surroundings).2.renderer := by
  cases effect with
  | notify notice => exact .notified _ notice
  | ask request => exact .asked _ request
  | log line => exact .logged _ line
  | present presentation => cases events
  | changeReport | finishReport | createDirectory | writeFile | printFallback =>
      simp only [handle, settle]
      split <;> exact .refl _
  | _ => exact .refl _

/-- Has to do with a report in the store. -/
def Effect.stores : Effect → Bool
  | .createReport _ => true
  | .changeReport _ _ => true
  | .finishReport _ _ => true
  | _ => false

theorem Surroundings.handle_reports {ρ : Type} [Renderer ρ] {effect : Effect}
    (apart : effect.stores = false) (surroundings : Surroundings ρ) :
    (handle effect surroundings).2.reports = surroundings.reports := by
  cases effect with
  | createReport | changeReport | finishReport => cases apart
  | createDirectory | writeFile | printFallback =>
      simp only [handle, settle]
      split <;> rfl
  | _ => rfl

namespace Operator

open Surroundings

variable {ρ κ : Type} [Renderer ρ] {surroundings : Surroundings ρ} {operator : Operator κ}
  {frame : Frame κ} {report : Report} {result : StepResult}

/-! ## One specification for each operation -/

theorem quiet_giveUp {operator : Operator κ} {after : Surroundings ρ} {done : Unit}
    (gives : surroundings.exec operator.giveUp = (done, after)) : Quiet surroundings [] after := by
  unfold giveUp at gives
  split at gives
  · exact .log gives
  · cases gives
    exact .refl

/-- A step that begins has a fresh frame and an empty result, and is announced. -/
theorem exec_begin (operator : Operator κ) (profile : Profile)
    (known : surroundings.own operator.setting.runId = some report) :
    ∃ frame suffix moment after, frame = operator.frameFor profile suffix ∧
      surroundings.exec (operator.begin profile) =
        ((⟨operator.setting, operator.parameters, operator.started + 1, some frame⟩,
          .ok frame.executionId), after) ∧
      after.own operator.setting.runId = some (report.withResult frame.executionId
        (.opened frame.executionId frame.stepId frame.name frame.kind moment)) ∧
      Renderer.Shows surroundings.renderer
        [.shown (.started (operator.started + 1) frame.executionId frame.name frame.kind)]
        after.renderer := by
  rcases drawing : surroundings.exec Job.freshSuffix with ⟨suffix, drawn⟩
  rcases giving : drawn.exec operator.giveUp with ⟨_, noted⟩
  rcases timing : noted.exec Job.now with ⟨moment, timed⟩
  obtain ⟨frame, isFrame⟩ : ∃ frame, operator.frameFor profile suffix = frame := ⟨_, rfl⟩
  have quiet : Quiet surroundings [] timed :=
    ((Quiet.freshSuffix drawing).trans (quiet_giveUp giving)).trans (.now timing)
  let result := StepResult.opened frame.executionId frame.stepId frame.name frame.kind moment
  let changed := report.withResult frame.executionId result
  have opens : timed.exec (Job.changeReport operator.setting.runId (.openStep result)) =
      (.ok (), timed.withOwn operator.setting.runId changed) :=
    exec_changeReport (quiet.own.trans known) _
  rcases announcing : (timed.withOwn operator.setting.runId changed).exec (Job.notify
    (.started (operator.started + 1) frame.executionId frame.name frame.kind)) with ⟨_, after⟩
  have announced := Quiet.notify announcing
  refine ⟨frame, suffix, moment, after, isFrame.symm, ?_, ?_, ?_⟩
  · simp only [begin, exec_bind, drawing, giving, timing, isFrame, runId]
    rw [opens]
    simp only [exec_bind, announcing, exec_pure]
  · rw [announced.own]
    exact own_withOwn
  · exact quiet.shows.trans announced.shows

theorem exec_finish_known (active : operator.frame = some frame)
    (known : surroundings.own operator.setting.runId = some report)
    (found : report.step? frame.executionId = some result) :
    ∃ moment after,
      surroundings.exec operator.finish =
        (({ operator with frame := none }, .ok (some frame)), after) ∧
      after.own operator.setting.runId = some (report.withResult frame.executionId
        { result with endedAt := some moment }) ∧
      Renderer.Shows surroundings.renderer [] after.renderer := by
  rcases timing : surroundings.exec Job.now with ⟨moment, timed⟩
  have quiet := Quiet.now timing
  let changed := report.withResult frame.executionId { result with endedAt := some moment }
  have closes : timed.exec (Job.changeReport operator.setting.runId
      (.closeStep frame.executionId moment)) =
      (.ok (), timed.withOwn operator.setting.runId changed) := by
    rw [exec_changeReport (quiet.own.trans known), Report.apply, Report.updateStep_known found]
  refine ⟨moment, timed.withOwn operator.setting.runId changed, ?_, own_withOwn, quiet.shows⟩
  simp only [finish, active, exec_bind, timing, runId]
  rw [closes]
  simp only [exec_pure]

theorem exec_finish_unknown (active : operator.frame = some frame)
    (known : surroundings.own operator.setting.runId = some report)
    (missing : report.step? frame.executionId = none) :
    ∃ after,
      surroundings.exec operator.finish =
        (({ operator with frame := none },
          .error (.report (.unknownStep report.runId frame.executionId))), after) ∧
      after.own operator.setting.runId = some report := by
  rcases timing : surroundings.exec Job.now with ⟨moment, timed⟩
  have stored := (Quiet.now timing).own.trans known
  have closes : timed.exec (Job.changeReport operator.setting.runId
      (.closeStep frame.executionId moment)) =
      (.error (.unknownStep report.runId frame.executionId), timed) := by
    rw [exec_changeReport stored, Report.apply, Report.updateStep_unknown missing]
  refine ⟨timed, ?_, stored⟩
  simp only [finish, active, exec_bind, timing, runId]
  rw [closes]
  simp only [exec_pure]

theorem exec_finish_idle (idle : operator.frame = none) (surroundings : Surroundings ρ) :
    surroundings.exec operator.finish = ((operator, .ok none), surroundings) := by
  simp only [finish, idle, exec_pure]

/-! Questions about an outcome. -/

theorem quiet_followUp {mode : Mode} {outcome : Outcome} {answer : Option PromptResponse × Bool}
    {after : Surroundings ρ}
    (follows : surroundings.exec (followUp mode outcome) = (answer, after)) :
    ∃ shown, Quiet surroundings shown after ∧ Told shown [] ∧
      (outcome.status.isFailure = false ∨ outcome.prompts = false → shown = []) := by
  unfold followUp at follows
  split at follows
  · cases follows
    exact ⟨[], .refl, .nil, fun _ => rfl⟩
  · next failure =>
    split at follows
    · cases follows
      exact ⟨[], .refl, .nil, fun _ => rfl⟩
    · next asks =>
      rcases asking : surroundings.exec (Job.ask (.humanTask (outcome.taskMessage.getD
        defaultTask))) with ⟨response, asked⟩
      simp only [exec_bind, asking, exec_pure] at follows
      cases follows
      refine ⟨_, .ask asking, .asked _ _ _, fun unprompted => ?_⟩
      have isFailure : outcome.status.isFailure = true := by simpa using failure
      have prompts : outcome.prompts = true := by
        simp only [Bool.or_eq_true, not_or, Bool.not_eq_true', Bool.not_eq_true] at asks
        simpa using asks.2
      simp [isFailure, prompts] at unprompted

/-- Nobody is asked about an outcome that is not a finding, or not to be asked about. -/
theorem exec_followUp_unprompted {outcome : Outcome}
    (unprompted : outcome.status.isFailure = false ∨ outcome.prompts = false) (mode : Mode)
    (surroundings : Surroundings ρ) :
    surroundings.exec (followUp mode outcome) =
      ((none, outcome.status.isFailure), surroundings) := by
  unfold followUp
  cases failure : outcome.status.isFailure with
  | false => rfl
  | true =>
      rw [failure] at unprompted
      have silent : outcome.prompts = false := by simpa using unprompted
      simp [silent]

/-- An outcome that is recorded is shown, and filed at the end of the result. -/
theorem exec_record_known (active : operator.frame = some frame)
    (known : surroundings.own operator.setting.runId = some report)
    (found : report.step? frame.executionId = some result) (outcome : Outcome) :
    ∃ later response skipped shown after,
      let evaluation := evaluationOf outcome response skipped
      surroundings.exec (operator.record outcome) = ((later, .ok response), after) ∧
      after.own operator.setting.runId = some (report.withResult frame.executionId
        { result with evaluations := result.evaluations ++ [evaluation] }) ∧
      Renderer.Shows surroundings.renderer shown after.renderer ∧ Told shown [evaluation] ∧
      (outcome.status.isFailure = false ∨ outcome.prompts = false →
        response = none ∧ skipped = outcome.status.isFailure ∧
          shown = [.shown evaluation.notice]) := by
  let notice :=
    Notice.ofOutcome outcome.status outcome.resource outcome.reason outcome.remediation
  rcases announcing : surroundings.exec (Job.notify notice) with ⟨_, announced⟩
  rcases following : announced.exec (followUp operator.setting.mode outcome) with
    ⟨⟨response, skipped⟩, followed⟩
  rcases quiet_followUp following with ⟨shown, quiet, told, silent⟩
  have all := (Quiet.notify announcing).trans quiet
  let evaluation := evaluationOf outcome response skipped
  let changed := report.withResult frame.executionId
    { result with evaluations := result.evaluations ++ [evaluation] }
  have files : followed.exec (Job.changeReport operator.setting.runId
      (.record frame.executionId evaluation)) =
      (.ok (), followed.withOwn operator.setting.runId changed) := by
    rw [exec_changeReport (all.own.trans known), Report.apply, Report.updateStep_known found]
  let counted : Operator κ :=
    { operator with frame := some { frame with recorded := frame.recorded + 1 } }
  have unprompted (either : outcome.status.isFailure = false ∨ outcome.prompts = false) :
      response = none ∧ skipped = outcome.status.isFailure ∧
        [.shown notice] ++ shown = [.shown notice] := by
    rw [exec_followUp_unprompted either] at following
    cases following
    exact ⟨rfl, rfl, by rw [silent either, List.append_nil]⟩
  have tells : Told ([.shown notice] ++ shown) [evaluation] :=
    Told.append (.outcome evaluation) told
  cases response with
  | none =>
      refine ⟨counted, none, skipped, _, _, ?_, own_withOwn, all.shows, tells, unprompted⟩
      simp only [record, active, exec_bind, announcing, following, runId, notice]
      rw [files]
      rfl
  | some response =>
      refine ⟨counted.noteResponse response, some response, skipped, _, _, ?_,
        own_withOwn, all.shows, tells, unprompted⟩
      simp only [record, active, exec_bind, announcing, following, runId, notice]
      rw [files]
      rfl

theorem exec_record_unknown (active : operator.frame = some frame)
    (known : surroundings.own operator.setting.runId = some report)
    (missing : report.step? frame.executionId = none) (outcome : Outcome) :
    ∃ later after,
      surroundings.exec (operator.record outcome) =
        ((later, .error (.report (.unknownStep report.runId frame.executionId))), after) ∧
      after.own operator.setting.runId = some report := by
  let notice :=
    Notice.ofOutcome outcome.status outcome.resource outcome.reason outcome.remediation
  rcases announcing : surroundings.exec (Job.notify notice) with ⟨_, announced⟩
  rcases following : announced.exec (followUp operator.setting.mode outcome) with
    ⟨⟨response, skipped⟩, followed⟩
  rcases quiet_followUp following with ⟨shown, quiet, -, -⟩
  have stored := ((Quiet.notify announcing).trans quiet).own.trans known
  have files : followed.exec (Job.changeReport operator.setting.runId
      (.record frame.executionId (evaluationOf outcome response skipped))) =
      (.error (.unknownStep report.runId frame.executionId), followed) := by
    rw [exec_changeReport stored, Report.apply, Report.updateStep_unknown missing]
  refine ⟨{ operator with frame := some { frame with recorded := frame.recorded + 1 } }, followed,
    ?_, stored⟩
  simp only [record, active, exec_bind, announcing, following, runId, notice]
  rw [files]
  rfl

theorem exec_record_idle (idle : operator.frame = none) (outcome : Outcome)
    (surroundings : Surroundings ρ) :
    surroundings.exec (operator.record outcome) =
      ((operator, .error (Operator.idle "recording an outcome")), surroundings) := by
  simp only [record, idle, exec_pure]

/-- An answer is filed with the result, unless nobody was asked. -/
theorem exec_ask_known (active : operator.frame = some frame)
    (known : surroundings.own operator.setting.runId =
      some (report.withResult frame.executionId result)) (request : PromptRequest) :
    ∃ later response filed shown after,
      surroundings.exec (operator.ask request) = ((later, .ok response), after) ∧
      after.own operator.setting.runId =
        some (report.withResult frame.executionId { result with response := filed }) ∧
      Renderer.Shows surroundings.renderer shown after.renderer ∧ Told shown [] := by
  cases auto : operator.setting.mode.isAuto with
  | true =>
      refine ⟨operator.noteResponse .noAnswer, .noAnswer, result.response, [], surroundings, ?_,
        known, .refl _, .nil⟩
      simp only [ask, auto, if_true, exec_pure]
  | false =>
      rcases asking : surroundings.exec (Job.ask request) with ⟨response, asked⟩
      have quiet := Quiet.ask asking
      let changed := report.withResult frame.executionId { result with response := some response }
      have files : asked.exec (Job.changeReport operator.setting.runId
          (.respond frame.executionId response)) =
          (.ok (), asked.withOwn operator.setting.runId changed) := by
        rw [exec_changeReport (quiet.own.trans known), Report.apply,
          Report.updateStep_known Report.step?_withResult, Report.withResult_withResult]
      refine ⟨operator.noteResponse response, response, some response, _,
        asked.withOwn operator.setting.runId changed, ?_, own_withOwn, quiet.shows, .asked _ _ _⟩
      simp only [ask, auto, Bool.false_eq_true, if_false, exec_bind, asking, active, runId]
      rw [files]
      rfl

end Operator

end Triage
