import Triage.Proofs.Run.Chain
import Triage.Proofs.Run.Execution

namespace Triage

open Surroundings

variable {ρ : Type} [Renderer ρ] {setting : Setting} {retests : Nat} {calls : Call → Prop}
  {report : Report}

/-! ## What a run does to its report -/

namespace Surroundings

variable {α : Type} {job : Job α} {post : α → Prop} {surroundings : Surroundings ρ}
  {store : ReportStore} {effect : Effect}

/-- A step writes in the report of its own run, and in no other one. -/
theorem handle_rewrites (isOwn : effect.IsOwn setting)
    (opened : surroundings.reports = store.insert setting.runId report) :
    ∃ changed, (handle effect surroundings).2.reports = store.insert setting.runId changed ∧
      report.Extends changed := by
  cases stores : effect.stores with
  | false =>
      rw [handle_reports stores]
      exact ⟨report, opened, .refl⟩
  | true =>
  cases effect with
  | changeReport runId change =>
      obtain rfl : runId = setting.runId := isOwn
      have known : surroundings.own setting.runId = some report := by
        rw [own, opened]
        exact Entries.get?_insert_self
      have handled : handle (.changeReport setting.runId change) surroundings =
          surroundings.exec (Job.changeReport setting.runId change) := rfl
      rw [handled, exec_changeReport known]
      cases applied : report.apply change with
      | error error => exact ⟨report, opened, .refl⟩
      | ok changed =>
          refine ⟨changed, ?_, Report.extends_apply applied⟩
          show surroundings.reports.insert setting.runId changed = _
          rw [opened]
          exact Entries.insert_insert
  | createReport | finishReport => cases isOwn
  | _ => cases stores

theorem exec_rewrites (meets : job.Meets (Effect.IsOwn setting) post)
    (opened : surroundings.reports = store.insert setting.runId report) :
    ∃ changed, (surroundings.exec job).2.reports = store.insert setting.runId changed ∧
      report.Extends changed := by
  have keeps (effect : Effect) (state : Surroundings ρ) (isOwn : effect.IsOwn setting)
      (kept : ∃ changed, state.reports = store.insert setting.runId changed ∧
        report.Extends changed) :
      ∃ changed, (handle effect state).2.reports = store.insert setting.runId changed ∧
        report.Extends changed := by
    rcases kept with ⟨changed, reports, extended⟩
    rcases handle_rewrites isOwn reports with ⟨last, rewritten, grown⟩
    exact ⟨last, rewritten, extended.trans grown⟩
  exact (meets.exec keeps ⟨report, opened, .refl⟩).2

/-- Nothing that is filed in the report gets lost while steps are executed. -/
theorem exec_own (meets : job.Meets (Effect.IsOwn setting) post)
    (known : surroundings.own setting.runId = some report) :
    ∃ changed, (surroundings.exec job).2.own setting.runId = some changed ∧
      report.Extends changed := by
  have opened : surroundings.reports = surroundings.reports.insert setting.runId report :=
    (Entries.insert_of_get? known).symm
  rcases exec_rewrites meets opened with ⟨changed, rewritten, extended⟩
  refine ⟨changed, ?_, extended⟩
  rw [own, rewritten]
  exact Entries.get?_insert_self

end Surroundings

namespace Walk

/-! ## The parts of an execution -/

/-- An execution as it is recorded. -/
def attemptOf (occasion : Occasion ρ) (executionId : String) (ending : Ending)
    (worked : Operator Planned) (result : Except RunError (Option (Frame Planned))) : Attempt where
  node := occasion.node
  executionId := executionId
  ending := ending
  frame := worked.frame.map (·.map Planned.profile)
  retested := isRetested occasion.left result

/-- A step is started under a fresh frame, its body is played, and the step is left. -/
structure Performed (setting : Setting) (retests : Nat) (occasion : Occasion ρ) (report : Report)
    (operator : Operator Planned) (frame : Frame Planned) (moment : Instant)
    (entered : Surroundings ρ) (worked : Operator Planned) (ending : Ending)
    (played : Surroundings ρ) : Prop where
  fresh : ∃ suffix, frame =
    (⟨setting, occasion.course.parameters, occasion.course.started, none⟩ :
      Operator Planned).frameFor occasion.profile suffix
  operator_eq : operator = ⟨setting, occasion.course.parameters, occasion.course.started + 1,
    some { frame with retestsLeft := occasion.left }⟩
  own : entered.own setting.runId = some (report.withResult frame.executionId
    (.opened frame.executionId frame.stepId frame.name frame.kind moment))
  shows : Renderer.Shows occasion.surroundings.renderer
    [.shown (.started (occasion.course.started + 1) frame.executionId frame.name frame.kind)]
    entered.renderer
  plays : entered.exec (play setting retests occasion.body operator) = ((worked, ending), played)
  outcome : ∀ {result : Except RunError (Option (Frame Planned))} {past : Surroundings ρ},
    played.exec (leave worked frame.executionId ending).run = (result, past) →
    occasion.outcome setting retests =
      ((⟨worked.parameters, worked.started, occasion.course.graph, occasion.course.attempts ++
        [attemptOf occasion frame.executionId ending worked result]⟩, result), past)

theorem performed_of_begins (retests : Nat) {occasion : Occasion ρ} {frame : Frame Planned}
    {suffix : String} {moment : Instant} {entered : Surroundings ρ}
    (fresh : frame = (⟨setting, occasion.course.parameters, occasion.course.started, none⟩ :
      Operator Planned).frameFor occasion.profile suffix)
    (begins : occasion.surroundings.exec ((⟨setting, occasion.course.parameters,
      occasion.course.started, none⟩ : Operator Planned).begin occasion.profile) =
        ((⟨setting, occasion.course.parameters, occasion.course.started + 1, some frame⟩,
          .ok frame.executionId), entered))
    (own : entered.own setting.runId = some (report.withResult frame.executionId
      (.opened frame.executionId frame.stepId frame.name frame.kind moment)))
    (shows : Renderer.Shows occasion.surroundings.renderer
      [.shown (.started (occasion.course.started + 1) frame.executionId frame.name frame.kind)]
      entered.renderer) :
    ∃ operator worked ending played,
      Performed setting retests occasion report operator frame moment entered worked ending
        played := by
  let operator : Operator Planned := ⟨setting, occasion.course.parameters,
    occasion.course.started + 1, some { frame with retestsLeft := occasion.left }⟩
  have enters := exec_enter occasion.left rfl begins
  rcases plays : entered.exec (play setting retests occasion.body operator) with
    ⟨⟨worked, ending⟩, played⟩
  refine ⟨operator, worked, ending, played, ⟨suffix, fresh⟩, rfl, own, shows, plays, ?_⟩
  intro result past leaves
  simp only [Occasion.outcome, attempt, exec_bind]
  simp only [enters, exec_bind]
  simp only [operator] at plays
  simp only [plays, leaves]
  rfl

theorem performed (retests : Nat) {occasion : Occasion ρ}
    (known : occasion.surroundings.own setting.runId = some report) :
    ∃ operator frame moment entered worked ending played,
      Performed setting retests occasion report operator frame moment entered worked ending
        played := by
  let idle : Operator Planned :=
    ⟨setting, occasion.course.parameters, occasion.course.started, none⟩
  have begins : occasion.surroundings.own idle.setting.runId = some report := known
  rcases idle.exec_begin occasion.profile begins with
    ⟨frame, suffix, moment, entered, fresh, begun, own, shows⟩
  rcases performed_of_begins retests fresh begun own shows with
    ⟨operator, worked, ending, played, parts⟩
  exact ⟨operator, frame, moment, entered, worked, ending, played, parts⟩

namespace Performed

variable {occasion : Occasion ρ} {operator worked : Operator Planned} {frame : Frame Planned}
  {moment : Instant} {entered played : Surroundings ρ} {ending : Ending}

theorem setting_eq
    (performed : Performed setting retests occasion report operator frame moment entered worked
      ending played) (performs : occasion.body.Every calls fun _ => True) :
    worked.setting = setting := by
  have queues : Queues setting (fun _ => True) (play setting retests occasion.body) :=
    play_queues occasion.body performs
  have same : operator.setting = setting := by rw [performed.operator_eq]
  have works := Surroundings.exec_meets (queues operator same fun _ _ => trivial) entered
  rw [performed.plays] at works
  exact works.1

theorem grows
    (performed : Performed setting retests occasion report operator frame moment entered worked
      ending played) (performs : occasion.body.Every calls fun _ => True) :
    ∃ middle, played.own setting.runId = some middle ∧ report.Extends middle := by
  have queues : Queues setting (fun _ => True) (play setting retests occasion.body) :=
    play_queues occasion.body performs
  have same : operator.setting = setting := by rw [performed.operator_eq]
  rcases exec_own (queues operator same fun _ _ => trivial) performed.own with
    ⟨middle, stored, extended⟩
  rw [performed.plays] at stored
  exact ⟨middle, stored, Report.extends_withResult.trans extended⟩

end Performed

end Walk

end Triage
