import Triage.Proofs.Run.Kept
import Triage.Proofs.Run.Story

namespace Triage

open Surroundings

/-! ## Where the answers go -/

namespace Outcome

/-- What becomes of an outcome where questions are asked. -/
inductive Settled (outcome : Outcome) : Option PromptResponse → Prop
  | fine (noFinding : outcome.status.isFailure = false)
      (filed : outcome.filed none = Operator.evaluationOf outcome none false) :
      Settled outcome none
  | unprompted (finding : outcome.status.isFailure = true) (silent : outcome.prompts = false)
      (filed : outcome.filed none = Operator.evaluationOf outcome none true) :
      Settled outcome none
  | answered {answer : PromptResponse} {skipped : Bool}
      (finding : outcome.status.isFailure = true) (prompts : outcome.prompts = true)
      (skips : skipped = true ↔ answer = .continue ∨ answer = .stop ∨ answer = .noAnswer)
      (filed : outcome.filed (some answer) =
        Operator.evaluationOf outcome (some answer) skipped) :
      Settled outcome (some answer)

theorem skipsRemediation_iff {answer : PromptResponse} : answer.skipsRemediation = true ↔
    answer = .continue ∨ answer = .stop ∨ answer = .noAnswer := by
  cases answer <;> simp [PromptResponse.skipsRemediation]

theorem settled {outcome : Outcome} {answer? : Option PromptResponse}
    (asked : answer?.isSome = (outcome.status.isFailure && outcome.prompts)) :
    outcome.Settled answer? := by
  cases finding : outcome.status.isFailure with
  | false =>
      rw [finding, Bool.false_and, Option.isSome_eq_false_iff, Option.isNone_iff_eq_none] at asked
      subst asked
      exact .fine finding (by simp [filed, skips, finding])
  | true =>
      rw [finding, Bool.true_and] at asked
      cases answer? with
      | none => exact .unprompted finding asked.symm (by simp [filed, skips, finding])
      | some answer =>
          exact .answered finding asked.symm skipsRemediation_iff (by simp [filed, skips, finding])

end Outcome

namespace Exchange

variable {setting : Setting} {exchange : Exchange}

/-- An outcome is shown, and a person is asked about it right then, or nobody is. -/
structure Follows (exchange : Exchange) (outcome : Outcome) (answer? : Option PromptResponse) :
    Prop where
  events : exchange.events = .shown outcome.notice :: answer?.toList.map fun answer =>
    .asked .humanTask (outcome.taskMessage.getD Operator.defaultTask) answer
  asked : exchange.asked = answer?.toList.map fun answer => (outcome.question, answer)
  settled : outcome.Settled answer?

theorem Proper.follows {frame : Frame Profile} {outcome : Outcome}
    {reply : Except RunError (Option PromptResponse)} {deeds : List Deed}
    (proper : Proper setting ⟨some frame, .record outcome, reply, deeds⟩)
    (interactive : setting.mode.isAuto = false) :
    ∃ answer?, Follows ⟨some frame, .record outcome, reply, deeds⟩ outcome answer? ∧
      ∀ returned, reply = .ok returned → returned = answer? := by
  cases proper with
  | @recorded _ _ answer? result asked =>
      rw [Outcome.asks, interactive, Bool.not_false, Bool.and_true] at asked
      refine ⟨answer?, ⟨?_, ?_, Outcome.settled asked⟩, fun returned came => ?_⟩
      · cases answer? <;> rfl
      · cases answer? <;> rfl
      · cases result with
        | ok done => exact (Except.ok.inj came).symm
        | error error => cases came
  | silent isSilent => cases isSilent

end Exchange

/-- What was asked in a run, by its calls, and what became of the answers. -/
structure Attributed (setting : Setting) (exchanges : List Exchange) (report : Report)
    (before after : EventLog) : Prop extends Kept setting exchanges report where
  events : after.events = before.events ++ exchanges.flatMap Exchange.events
  questions : (exchanges.flatMap Exchange.asked).map (·.1) =
    exchanges.filterMap Exchange.question?
  /-- Every question takes the next answer. -/
  answers : ∀ (index : Nat) (request : PromptRequest) (response : PromptResponse),
    (exchanges.flatMap Exchange.asked)[index]? = some (request, response) →
    response = request.read before.answers[index]?
  used : after.answers = before.answers.drop (exchanges.flatMap Exchange.asked).length
  recorded : ∀ frame outcome reply deeds,
    ⟨some frame, .record outcome, reply, deeds⟩ ∈ exchanges →
    ∃ answer?, Exchange.Follows ⟨some frame, .record outcome, reply, deeds⟩ outcome answer? ∧
      ∀ returned, reply = .ok returned → returned = answer?
  asked : ∀ frame? request answer deeds, ⟨frame?, .ask request, .ok answer, deeds⟩ ∈ exchanges →
    Exchange.asked ⟨frame?, .ask request, .ok answer, deeds⟩ = [(request, answer)]

variable {setting : Setting} {retests : Nat}

/-- Nothing is shown or asked before the first call. -/
theorem Attributed.after {exchanges : List Exchange} {report : Report}
    {before middle final : EventLog} (attributed : Attributed setting exchanges report middle final)
    (shows : Renderer.Shows before [] middle) :
    Attributed setting exchanges report before final := by
  have events : middle.events = before.events := by simpa using EventLog.events_of_shows shows
  have answers : middle.answers = before.answers := EventLog.answers_of_shows shows (by simp)
  exact { attributed with
    events := events ▸ attributed.events
    answers := answers ▸ attributed.answers
    used := answers ▸ attributed.used }

theorem Overheard.attributed {course last : Course} {surroundings final : Surroundings EventLog}
    {hearings : List (Hearing EventLog setting retests)} {report : Report}
    (overheard : Overheard course surroundings hearings last final)
    (known : surroundings.own setting.runId = some report)
    (interactive : setting.mode.isAuto = false) (empty : report.results = []) :
    ∃ later, final.own setting.runId = some later ∧
      Attributed setting (hearings.flatMap Hearing.exchanges) later surroundings.renderer
        final.renderer := by
  rcases overheard.kept known empty with ⟨later, own, kept⟩
  have events := EventLog.events_of_shows overheard.shows
  rcases overheard.deeds with ⟨deeds, leads, isOwn, heard⟩
  have proper := kept.proper
  generalize hearings.flatMap Hearing.exchanges = exchanges at *
  have questions : deeds.filterMap Deed.question? = exchanges.flatMap Exchange.asked := by
    rw [← unlogged_questions, heard, List.filterMap_flatMap]
    rfl
  -- What the calls asked is what was asked in the run, so it took the answers one by one.
  have given := leads.answered
  rw [questions] at given
  refine ⟨later, own, kept, events, ?_, given.2, given.1, ?_, ?_⟩
  · rw [List.map_flatMap, List.filterMap_eq_flatMap_toList]
    apply List.flatMap_congr
    exact fun exchange member => (proper exchange member).asks interactive
  · exact fun frame outcome reply deeds member => (proper _ member).follows interactive
  · exact fun frame? request answer deeds member => (proper _ member).asked_eq interactive rfl

/-! ## All that is asked in a run -/

/-- Until a step replaces its frame, what it calls is called on behalf of this execution. -/
structure Hearing.IsOwn (hearing : Hearing EventLog setting retests) : Prop where
  said : ∀ front exchange back, hearing.said = front ++ exchange :: back →
    (∀ earlier ∈ front, earlier.call.isOrdinary = true) →
    exchange.executionId? = some hearing.frame.executionId
  closing : (∀ exchange ∈ hearing.said, exchange.call.isOrdinary = true) →
    ∀ exchange ∈ hearing.closing, exchange.executionId? = some hearing.frame.executionId

theorem Hearing.isOwn (hearing : Hearing EventLog setting retests) : hearing.IsOwn where
  said front exchange back split ordinary := by
    rcases (hearing.said_inPlace split).own ordinary with ⟨kept, active, keeps⟩
    rw [Exchange.executionId?, active]
    exact congrArg some keeps.executionId
  closing ordinary exchange member := by
    rcases hearing.worked_inPlace.own ordinary with ⟨kept, active, keeps⟩
    rw [(hearing.closes exchange member).executionId, active]
    exact congrArg some keeps.executionId

/-- What is left of a run when its last step is over. -/
inductive Engine.Concludes (runbook : String) (report : Report) (final after : EventLog) :
    Except RunError Unit → RunResult → Prop
  | completed {run : Completed} (results : run.report.results = report.results)
      (events : after.events = final.events ++ [.shown (.summary runbook run.report.totals)])
      (answers : after.answers = final.answers) :
      Concludes runbook report final after (.ok ()) (.completed run)
  | failed {error : RunError} (events : after.events = final.events)
      (answers : after.answers = final.answers) :
      Concludes runbook report final after (.error error) (.failed error)

/-- A run with the calls that were made in it. -/
inductive Engine.Interview (engine : Engine) (mode : Mode) (request : Request)
    (before after : Surroundings EventLog) (result : RunResult) : Prop
  /-- No step is executed, and nobody is asked. -/
  | refused (incomplete : ∀ run, result ≠ .completed run)
      (events : after.renderer.events = before.renderer.events)
      (answers : after.renderer.answers = before.renderer.answers)
  | held {registered : Registered} {graph : Graph Step} {setting : Setting}
      {prepared final : Surroundings EventLog} {course : Course} {ended : Except RunError Unit}
      {hearings : List (Hearing EventLog setting engine.settings.retests)} {report : Report}
      (admits : engine.Admits mode request (before.suffixes before.drawn) registered graph setting)
      (unfolds : engine.Unfolds setting graph (fun _ => True) prepared
        (hearings.map Hearing.occasion) ended course final)
      (attempts : course.attempts = hearings.map Hearing.attempt)
      (isOwn : ∀ hearing ∈ hearings, hearing.IsOwn)
      (attributed : Attributed setting (hearings.flatMap Hearing.exchanges) report
        before.renderer final.renderer)
      (concludes : Concludes setting.runbook report final.renderer after.renderer ended result)

namespace Engine

variable {engine : Engine} {mode : Mode} {request : Request} {name : String}
  {blueprint : Blueprint} {notes : List Json.Node} {graph : Graph Step} {course : Course}
  {surroundings final : Surroundings EventLog} {result : Except RunError Unit}

theorem walk_attributed (interactive : setting.mode.isAuto = false)
    (built : blueprint.build name = (notes, .ok (.ok graph)))
    (walked : surroundings.exec (engine.walk setting graph) = ((course, result), final)) :
    ∃ (hearings : List (Hearing EventLog setting engine.settings.retests)) (report : Report),
      engine.Unfolds setting graph (fun _ => True) surroundings (hearings.map Hearing.occasion)
        result course final ∧
      course.attempts = hearings.map Hearing.attempt ∧
      final.own setting.runId = some report ∧
      Attributed setting (hearings.flatMap Hearing.exchanges) report surroundings.renderer
        final.renderer := by
  rcases walk_unfolds built (fun _ step _ => step.uses_any) walked with
    ⟨occasions, moment, opened, reports, shows, chain⟩
  have known := (filed_of_opened graph reports).own
  rcases chain.heard known with ⟨hearings, rfl, overheard⟩
  rcases overheard.attributed known interactive rfl with ⟨report, own, attributed⟩
  exact ⟨hearings, report, ⟨moment, opened, reports, shows, chain⟩, overheard.attempts, own,
    attributed.after shows⟩

/-- In a run that may ask, every question that is to be asked is asked once and takes the
next answer. What is answered is returned to the step and kept under the execution that is
under way, unless no result was opened for it: then an error is returned. -/
theorem runIn_attributed {after : Surroundings EventLog} {result : RunResult}
    (interactive : mode.isAuto = false)
    (ran : surroundings.exec (engine.runIn mode request) = (result, after)) :
    engine.Interview mode request surroundings after result := by
  have refused {later : Surroundings EventLog} {result : RunResult}
      (incomplete : ∀ run, result ≠ .completed run) (quiet : Quiet surroundings [] later) :
      engine.Interview mode request surroundings later result :=
    .refused incomplete (by simpa using EventLog.events_of_shows quiet.shows)
      (EventLog.answers_of_shows quiet.shows (by simp))
  cases engine.admission mode request surroundings with
  | refused _ runs untouched =>
      rw [ran] at runs
      cases runs
      exact refused (by simp) untouched.quiet
  | crashed runs untouched =>
      rw [ran] at runs
      cases runs
      exact refused (by simp) untouched.quiet
  | @admitted registered graph setting prepared admits untouched runs =>
      have quiet := untouched.quiet.trans (.freshSuffix rfl)
      generalize { prepared with drawn := prepared.drawn + 1 } = begun at runs quiet
      rcases admits.built with ⟨notes, built⟩
      rcases walked : begun.exec (engine.walk setting graph) with ⟨⟨course, ended⟩, final⟩
      have asks : setting.mode.isAuto = false := admits.mode ▸ interactive
      rcases walk_attributed asks built walked with
        ⟨hearings, report, unfolds, attempts, own, attributed⟩
      have whole := attributed.after quiet.shows
      refine .held admits unfolds attempts (fun hearing _ => hearing.isOwn) whole ?_
      rcases exec_execute walked own with ⟨moment, past, -, ends⟩
      cases ended with
      | error error =>
          rcases ends with ⟨executed, shows, -, -⟩
          rw [ran, executed] at runs
          cases runs
          exact .failed (by simpa using EventLog.events_of_shows shows)
            (EventLog.answers_of_shows shows (by simp))
      | ok done =>
          rcases ends with ⟨path, executed, shows⟩
          rw [ran, executed] at runs
          cases runs
          exact .completed rfl (EventLog.events_of_shows shows)
            (EventLog.answers_of_shows shows (by simp [Event.isQuestion]))

open Sample in
/-- A step that records an outcome and then asks, and is executed again. -/
theorem runIn_attributed_retesting :
    let asking := pair (.invoke (.record full) fun _ =>
      .invoke (.ask (.confirmation "Sure?")) fun _ => .done) .done
    let engine := library asking
    let before := answering ["r", "y", "c", "n"]
    let ended := before.exec (engine.runIn .interactive Sample.request)
    engine.Interview .interactive Sample.request before ended.2 ended.1 ∧
      ended.2.renderer.events.filter Event.isQuestion =
        [.asked .humanTask Operator.defaultTask .retest, .asked .confirmation "Sure?" .yes,
          .asked .humanTask Operator.defaultTask .continue, .asked .confirmation "Sure?" .no] ∧
      ended.2.renderer.answers = [] := by
  intro asking engine before ended
  have questions : ended.2.renderer.events.filter Event.isQuestion =
      [.asked .humanTask Operator.defaultTask .retest, .asked .confirmation "Sure?" .yes,
        .asked .humanTask Operator.defaultTask .continue, .asked .confirmation "Sure?" .no] := by
    decide +kernel
  have used : ended.2.renderer.answers = [] := by decide +kernel
  rcases ran : ended with ⟨result, after⟩
  rw [ran] at questions used
  exact ⟨runIn_attributed rfl ran, questions, used⟩

open Sample in
/-- An answer is asked for and kept nowhere if the step took its frame away, and it is not
returned either if the step put another frame in place. -/
theorem answers_lost :
    let replacing : Body :=
      .call .own .take fun _ =>
      .call .own (.ask (.confirmation "Sure?")) fun _ =>
      .call .own (.install ⟨"other", .step, some "other", none⟩) fun _ =>
      .call .own (.record full) fun reply =>
      .call .own (.inform (if reply.isOk then "answered" else "refused")) fun _ => .done
    let asking : Setting := { Sample.setting with mode := .interactive }
    let ended := (answering ["y", "c"]).exec
      (Sample.engine.walk asking (tree (pair replacing .done)))
    ended.2.renderer.events.drop 2 =
        [.asked .confirmation "Sure?" .yes, .shown full.notice,
          .asked .humanTask Operator.defaultTask .continue, .shown (.info "refused")] ∧
      (ended.2.own asking.runId).map (fun report => report.stepResults.map fun result =>
        (result.response, result.evaluations)) = some [(none, []), (none, [])] := by
  intro replacing asking ended
  exact ⟨by decide +kernel, by decide +kernel⟩

end Engine

end Triage
