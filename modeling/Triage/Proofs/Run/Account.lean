import Triage.Proofs.Run.Ordinary

namespace Triage

open Surroundings Walk

variable {ρ : Type} [Renderer ρ] {setting : Setting} {retests : Nat}

/-! ## What an execution comes to

An execution of an ordinary step, with its result as the step left it and as it
was closed. -/

structure Account (ρ : Type) [Renderer ρ] (setting : Setting) (retests : Nat) where
  occasion : Occasion ρ
  /-- The report when the step was started. -/
  before : Report
  operator : Operator Planned
  frame : Frame Planned
  moment : Instant
  entered : Surroundings ρ
  worked : Operator Planned
  ending : Ending
  played : Surroundings ρ
  performed : Performed setting retests occasion before operator frame moment entered worked ending
    played
  stays : operator.Stays worked
  recorded : StepResult
  shown : List Event
  records : Recorded setting.runId before frame.executionId
    (.opened frame.executionId frame.stepId frame.name frame.kind moment) entered shown
    recorded.evaluations recorded played
  result : Except RunError (Option (Frame Planned))
  finished : Instant
  past : Surroundings ρ
  leaves : played.exec (leave worked frame.executionId ending).run = (result, past)
  own : past.own setting.runId = some (before.withResult frame.executionId
    { recorded with
      evaluations := recorded.evaluations ++ ending.verdict setting
      endedAt := some finished })
  tells : Renderer.Shows played.renderer
    ((ending.verdict setting).map fun evaluation => .shown evaluation.notice) past.renderer
  goesOn : ∀ frame?, result = .ok frame? →
    ending.isForbidden = false ∧ frame?.isSome = ending.isCompleted
  aborts : ∀ error, result = .error error →
    ending.isForbidden = true ∧ error.isInvalidStep = true

namespace Account

variable (account : Account ρ setting retests)

/-- The result as it stays in the report. -/
def closed : StepResult :=
  { account.recorded with
    evaluations := account.recorded.evaluations ++ account.ending.verdict setting
    endedAt := some account.finished }

def file (report : Report) : Report :=
  report.withResult account.frame.executionId account.closed

def attempt : Attempt :=
  attemptOf account.occasion account.frame.executionId account.ending account.worked
    account.result

def announcement : Announcement :=
  ⟨account.occasion.course.started + 1, account.frame.executionId, account.frame.name,
    account.frame.kind⟩

/-- Everything that was shown from the start of the step to its end. -/
def events : List Event :=
  .shown (.started (account.occasion.course.started + 1) account.frame.executionId
    account.frame.name account.frame.kind) ::
    (account.shown ++ (account.ending.verdict setting).map fun evaluation =>
      .shown evaluation.notice)

theorem outcome_eq : account.occasion.outcome setting retests =
    ((⟨account.worked.parameters, account.occasion.course.started + 1,
      account.occasion.course.graph, account.occasion.course.attempts ++ [account.attempt]⟩,
      account.result), account.past) := by
  have started : account.worked.started = account.occasion.course.started + 1 := by
    rw [account.stays.started, account.performed.operator_eq]
  rw [account.performed.outcome account.leaves, started]
  rfl

theorem shows : Renderer.Shows account.occasion.surroundings.renderer account.events
    account.past.renderer := by
  have all := account.performed.shows.trans (account.records.shows.trans account.tells)
  simpa [events] using all

theorem told : Told (account.shown ++ (account.ending.verdict setting).map fun evaluation =>
    .shown evaluation.notice) account.closed.evaluations :=
  account.records.told.append (.notices _)

end Account

/-- There is an account of every execution of an ordinary step. -/
theorem Occasion.accounted (retests : Nat) {occasion : Occasion ρ} {report : Report}
    {steps : Step → Prop}
    (ordinary : occasion.body.Every (fun call => call.isOrdinary = true) steps)
    (known : occasion.surroundings.own setting.runId = some report) :
    ∃ account : Account ρ setting retests, account.occasion = occasion ∧
      account.before = report := by
  rcases performed retests known with
    ⟨operator, frame, moment, entered, worked, ending, played, parts⟩
  have same : operator.setting = setting := by rw [parts.operator_eq]
  have active : operator.frame = some { frame with retestsLeft := occasion.left } := by
    rw [parts.operator_eq]
  have begun := parts.own
  rw [← same] at begun
  rcases exec_play_ordinary setting retests occasion.body operator entered ordinary active begun
    with ⟨stays, shown, added, recorded, records⟩
  rw [parts.plays, same] at records
  rw [parts.plays] at stays
  have evaluations : recorded.evaluations = added := by
    have grown := congrArg StepResult.evaluations records.last_eq
    simpa [StepResult.opened] using grown
  rw [← evaluations] at records
  rcases stays.active active with ⟨left, activeLeft, sameId⟩
  have stored := records.own
  rw [← same, ← stays.setting] at stored
  have leftId : left.executionId = frame.executionId := sameId
  have storedLeft : played.own worked.setting.runId =
      some (report.withResult left.executionId recorded) := by
    rw [leftId]
    exact stored
  rcases exec_leave_known activeLeft storedLeft frame.executionId ending with
    ⟨result, finished, past, leaves, own, tells, ends⟩
  rw [leftId, stays.setting, same] at own
  rw [stays.setting, same] at tells
  let account : Account ρ setting retests :=
    { occasion, before := report, operator, frame, moment, entered, worked, ending, played
      performed := parts
      stays, recorded, shown, records, result, finished, past, leaves, own, tells
      goesOn := by
        rintro frame? rfl
        refine ⟨ends.1, ?_⟩
        rw [ends.2]
        cases ending.isCompleted <;> rfl
      aborts := by
        rintro error rfl
        exact ⟨ends.1, ends.2.isInvalidStep⟩ }
  exact ⟨account, rfl, rfl⟩

/-! ## The accounts of a run -/

/-- What a part of a run changes, by the accounts of its executions. -/
structure Ledger (report : Report) (course : Course) (surroundings : Surroundings ρ)
    (accounts : List (Account ρ setting retests)) (result : Except RunError Unit) (last : Course)
    (final : Surroundings ρ) : Prop where
  attempts : last.attempts = course.attempts ++ accounts.map Account.attempt
  starts : accounts.map (·.occasion.course.started) =
    List.range' course.started accounts.length
  own : final.own setting.runId =
    some (accounts.foldl (fun report account => account.file report) report)
  shows : Renderer.Shows surroundings.renderer (accounts.flatMap Account.events) final.renderer
  result : (∀ account ∈ accounts, account.ending.isForbidden = false) ∧ result = .ok () ∨
    (∃ account ∈ accounts, account.ending.isForbidden = true) ∧
      ∃ error, result = .error error ∧ error.isInvalidStep = true

theorem Chain.accounted {course last : Course} {surroundings final : Surroundings ρ}
    {occasions : List (Occasion ρ)} {result : Except RunError Unit} {report : Report}
    (chain : Chain setting retests (fun call => call.isOrdinary = true) course surroundings
      occasions result last final) (known : surroundings.own setting.runId = some report) :
    ∃ accounts : List (Account ρ setting retests), accounts.map Account.occasion = occasions ∧
      Ledger report course surroundings accounts result last final := by
  induction chain generalizing report with
  | done => exact ⟨[], rfl, by simp, rfl, known, .refl _, .inl ⟨by simp, rfl⟩⟩
  | @occasion occasion frame? course last after final rest result performs ends _ induction =>
      rcases Occasion.accounted retests performs known with ⟨account, rfl, rfl⟩
      have outcome := account.outcome_eq
      simp only [ends, Prod.mk.injEq] at outcome
      rcases outcome with ⟨⟨rfl, wentOn⟩, rfl⟩
      rcases induction account.own with ⟨accounts, same, ledger⟩
      have allowed := account.goesOn _ wentOn.symm
      refine ⟨account :: accounts, by rw [List.map_cons, same], ?_, ?_, ledger.own, ?_, ?_⟩
      · simpa using ledger.attempts
      · simpa [List.range'_succ] using ledger.starts
      · simpa using account.shows.trans ledger.shows
      · rcases ledger.result with ⟨all, completed⟩ | ⟨⟨other, member, forbidden⟩, aborted⟩
        · refine .inl ⟨fun other member => ?_, completed⟩
          rcases List.mem_cons.mp member with rfl | member
          · exact allowed.1
          · exact all other member
        · exact .inr ⟨⟨other, List.mem_cons_of_mem _ member, forbidden⟩, aborted⟩
  | @aborted occasion error course past performs ends =>
      rcases Occasion.accounted retests performs known with ⟨account, rfl, rfl⟩
      have outcome := account.outcome_eq
      simp only [ends, Prod.mk.injEq] at outcome
      rcases outcome with ⟨⟨rfl, failed⟩, rfl⟩
      have forbidden := account.aborts _ failed.symm
      refine ⟨[account], rfl, rfl, rfl, account.own, ?_, .inr ⟨⟨account, ?_, forbidden.1⟩, _, rfl,
        forbidden.2⟩⟩
      · simpa using account.shows
      · exact List.mem_singleton_self account
  | attached _ _ induction =>
      rcases induction known with ⟨accounts, same, ledger⟩
      exact ⟨accounts, same, ledger.attempts, ledger.starts, ledger.own, ledger.shows,
        ledger.result⟩
  | @logged course last surroundings final line rest result _ induction =>
      rcases induction known with ⟨accounts, same, ledger⟩
      refine ⟨accounts, same, ledger.attempts, ledger.starts, ledger.own, ?_, ledger.result⟩
      exact (Renderer.Shows.logged surroundings.renderer line).trans ledger.shows

end Triage
