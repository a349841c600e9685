import Mathlib.Data.List.Induction
import Triage.Proofs.Run.Notes
import Triage.Proofs.Trace

namespace Triage

/-! ## What becomes of an outcome -/

namespace Outcome

/-- How the outcome is shown. -/
def notice (outcome : Outcome) : Notice :=
  .ofOutcome outcome.status outcome.resource outcome.reason outcome.remediation

/-- Whether a person is asked about the outcome. -/
def asks (outcome : Outcome) (mode : Mode) : Bool :=
  outcome.status.isFailure && outcome.prompts && !mode.isAuto

/-- What a person is asked. -/
def question (outcome : Outcome) : PromptRequest :=
  .humanTask (outcome.taskMessage.getD Operator.defaultTask)

/-- What is to be asked where questions are asked. -/
def question? (outcome : Outcome) : Option PromptRequest :=
  if outcome.status.isFailure && outcome.prompts then some outcome.question else none

/-- Whether the remedy counts as not carried out: of a finding, unless an answer tells
otherwise. -/
def skips (outcome : Outcome) (answer? : Option PromptResponse) : Bool :=
  outcome.status.isFailure && answer?.all PromptResponse.skipsRemediation

/-- How the outcome is filed with the answer, if a person was asked. -/
def filed (outcome : Outcome) (answer? : Option PromptResponse) : Evaluation :=
  Operator.evaluationOf outcome answer? (outcome.skips answer?)

end Outcome

/-! ## Calls and what comes of them -/

/-- Reads or writes what the operator holds, and nothing else. -/
def Call.isSilent : Call → Bool
  | .setting | .get _ | .put _ _ | .parameters | .active => true
  | .phrase _ _ | .render _ _ _ | .take => true
  | _ => false

/-- A call, the frame that it found in place, the reply, and what was done apart from
lines that were logged. -/
structure Exchange where
  frame : Option (Frame Profile)
  call : Call
  reply : Except RunError call.Reply
  deeds : List Deed

/-- What is replied when a change of the report was tried. -/
def Report.replied {α : Type} (result : Except ReportError Unit) (value : α) : Except RunError α :=
  match result with
  | .ok () => .ok value
  | .error error => .error (.report error)

theorem Report.replied_map {α β : Type} (result : Except ReportError Unit) (value : α)
    (map : α → β) : (replied result value).map map = replied result (map value) := by
  cases result <;> rfl

namespace Exchange

/-- The id of the execution that is under way. -/
def executionId? (exchange : Exchange) : Option String :=
  exchange.frame.map (·.executionId)

def events (exchange : Exchange) : List Event :=
  exchange.deeds.flatMap Deed.events

/-- The questions that were asked, with the answers. -/
def asked (exchange : Exchange) : List (PromptRequest × PromptResponse) :=
  exchange.deeds.filterMap Deed.question?

/-- The answers that the frame keeps, as long as it is in place. -/
def noted (exchange : Exchange) : List PromptResponse :=
  exchange.call.noted exchange.reply

/-- The changes that were made in the report. -/
def changes (exchange : Exchange) : List Report.Change :=
  exchange.deeds.filterMap Deed.change?

/-- The question that is to be asked where questions are asked. -/
def question? (exchange : Exchange) : Option PromptRequest :=
  match exchange.call with
  | .record outcome => exchange.frame.bind fun _ => outcome.question?
  | .ask request => some request
  | _ => none

/-- The id under which a result was opened. -/
def opened? (exchange : Exchange) : Option String :=
  match exchange.call, exchange.reply with
  | .begin _, .ok executionId => some executionId
  | _, _ => none

def opens (executionId : String) (exchange : Exchange) : Bool :=
  exchange.opened? == some executionId

/-- What was filed. -/
def filed? (exchange : Exchange) : Option Evaluation :=
  match exchange.call, exchange.reply with
  | .record outcome, .ok answer? => some (outcome.filed answer?)
  | _, _ => none

/-- What was filed under the id. -/
def evaluation? (executionId : String) (exchange : Exchange) : Option Evaluation :=
  if exchange.executionId? = some executionId then exchange.filed? else none

/-- The answer to a question that was asked apart from outcomes. -/
def given? (exchange : Exchange) : Option PromptResponse :=
  match exchange.call, exchange.reply with
  | .ask _, .ok answer => if exchange.asked.isEmpty then none else some answer
  | _, _ => none

/-- The answer to a question that the execution under the id asked by itself. -/
def answer? (executionId : String) (exchange : Exchange) : Option PromptResponse :=
  if exchange.executionId? = some executionId then exchange.given? else none

open Report in
/-- What each kind of call comes to in a run. -/
inductive Proper (setting : Setting) : Exchange → Prop
  /-- The outcome is shown, then a person is asked about it if need be, and then it is
  filed with the answer. -/
  | recorded {frame : Frame Profile} {outcome : Outcome} {answer? : Option PromptResponse}
      {result : Except ReportError Unit} (asked : answer?.isSome = outcome.asks setting.mode) :
      Proper setting ⟨some frame, .record outcome, replied result answer?,
        ⟨.notify outcome.notice, ()⟩ ::
          (answer?.toList.map fun answer => ⟨.ask outcome.question, answer⟩) ++
          [⟨.changeReport setting.runId (.record frame.executionId (outcome.filed answer?)),
            result⟩]⟩
  | unrecorded {outcome : Outcome} :
      Proper setting
        ⟨none, .record outcome, .error (Operator.idle "recording an outcome"), []⟩
  | asked {frame : Frame Profile} {request : PromptRequest} {answer : PromptResponse}
      {result : Except ReportError Unit} (interactive : setting.mode.isAuto = false) :
      Proper setting ⟨some frame, .ask request, replied result answer,
        [⟨.ask request, answer⟩,
          ⟨.changeReport setting.runId (.respond frame.executionId answer), result⟩]⟩
  | askedIdle {request : PromptRequest} {answer : PromptResponse}
      (interactive : setting.mode.isAuto = false) :
      Proper setting ⟨none, .ask request, .ok answer, [⟨.ask request, answer⟩]⟩
  | unasked {frame? : Option (Frame Profile)} {request : PromptRequest}
      (auto : setting.mode.isAuto = true) :
      Proper setting ⟨frame?, .ask request, .ok .noAnswer, []⟩
  | begun {frame? : Option (Frame Profile)} {profile : Profile} {suffix : String}
      {moment : Instant} {executionId stepId name : String} {kind : StepKind} {index : Nat} :
      Proper setting ⟨frame?, .begin profile, .ok executionId,
        [⟨.freshSuffix, suffix⟩, ⟨.now, moment⟩,
          ⟨.changeReport setting.runId (.openStep (.opened executionId stepId name kind moment)),
            .ok ()⟩,
          ⟨.notify (.started index executionId name kind), ()⟩]⟩
  | unbegun {frame? : Option (Frame Profile)} {profile : Profile} {suffix : String}
      {moment : Instant} {result : StepResult} {error : ReportError} :
      Proper setting ⟨frame?, .begin profile, .error (.report error),
        [⟨.freshSuffix, suffix⟩, ⟨.now, moment⟩,
          ⟨.changeReport setting.runId (.openStep result), .error error⟩]⟩
  | finished {frame : Frame Profile} {moment : Instant} {result : Except ReportError Unit} :
      Proper setting ⟨some frame, .finish, replied result (some frame),
        [⟨.now, moment⟩,
          ⟨.changeReport setting.runId (.closeStep frame.executionId moment), result⟩]⟩
  | unfinished : Proper setting ⟨none, .finish, .ok none, []⟩
  | installed {frame? : Option (Frame Profile)} {profile : Profile} {suffix : String} :
      Proper setting ⟨frame?, .install profile, .ok frame?, [⟨.freshSuffix, suffix⟩]⟩
  | informed {frame? : Option (Frame Profile)} {message : String} :
      Proper setting ⟨frame?, .inform message, .ok (), [⟨.notify (.info message), ()⟩]⟩
  | progressed {frame? : Option (Frame Profile)} {message : String} :
      Proper setting ⟨frame?, .progress message, .ok (), [⟨.notify (.progress message), ()⟩]⟩
  | noted {frame? : Option (Frame Profile)} {entry : Json.Node} :
      Proper setting ⟨frame?, .note entry, .ok (), [⟨.note entry, ()⟩]⟩
  | judged {frame? : Option (Frame Profile)} :
      Proper setting
        ⟨frame?, .isFinalAttempt, .ok (frame?.all fun frame => frame.retestsLeft == 0), []⟩
  /-- What has to do with the operator alone. -/
  | silent {frame? : Option (Frame Profile)} {call : Call} {reply : Except RunError call.Reply}
      (isSilent : call.isSilent = true) : Proper setting ⟨frame?, call, reply, []⟩

/-! ## What comes of a call -/

section Proper

variable {setting : Setting} {exchange : Exchange} {executionId : String}
  {found : Option StepResult}

/-- Each question that is to be asked is asked once, and no other one is. -/
theorem Proper.asks (proper : exchange.Proper setting) (interactive : setting.mode.isAuto = false) :
    exchange.asked.map (·.1) = exchange.question?.toList := by
  cases proper with
  | @recorded frame outcome answer? result asked =>
      rw [Outcome.asks, interactive, Bool.not_false, Bool.and_true] at asked
      have question : outcome.question? = answer?.map fun _ => outcome.question := by
        unfold Outcome.question?
        rw [← asked]
        cases answer? <;> rfl
      refine Eq.trans ?_ (congrArg Option.toList question.symm)
      cases answer? <;> rfl
  | unasked auto => simp [interactive] at auto
  | @silent frame? call reply isSilent => cases call <;> first | rfl | cases isSilent
  | _ => rfl

theorem Proper.asked_eq {frame? : Option (Frame Profile)} {request : PromptRequest}
    {reply : Except RunError PromptResponse} {deeds : List Deed}
    (proper : Proper setting ⟨frame?, .ask request, reply, deeds⟩)
    (interactive : setting.mode.isAuto = false) {answer : PromptResponse}
    (came : reply = .ok answer) :
    Exchange.asked ⟨frame?, .ask request, reply, deeds⟩ = [(request, answer)] := by
  cases proper with
  | @asked frame _ given result _ =>
      cases result with
      | ok done =>
          cases came
          rfl
      | error error => cases came
  | askedIdle _ =>
      cases came
      rfl
  | unasked auto => simp [interactive] at auto
  | silent isSilent => cases isSilent

theorem opens_iff {exchange : Exchange} :
    exchange.opens executionId = true ↔ exchange.opened? = some executionId :=
  beq_iff_eq

theorem Proper.revise_of_opens (proper : exchange.Proper setting)
    (opens : exchange.opens executionId = true) (found : Option StepResult) :
    ∃ result, exchange.changes.foldl (fun found change => change.revise executionId found) found =
      some result ∧ result.evaluations = [] ∧ result.response = none := by
  have opened := opens_iff.mp opens
  cases proper with
  | begun => exact ⟨_, if_pos (Option.some.inj opened), rfl, rfl⟩
  | @silent frame? call reply isSilent => cases call <;> first | cases opened | cases isSilent
  | _ => cases opened

/-- Otherwise what is filed under the id is added, and the last answer is kept. -/
structure Adds (executionId : String) (exchange : Exchange) (found later? : Option StepResult) :
    Prop where
  isSome : later?.isSome = found.isSome
  results : ∀ later, later? = some later → ∃ result, found = some result ∧
    later.evaluations = result.evaluations ++ (exchange.evaluation? executionId).toList ∧
    later.response = (exchange.answer? executionId).or result.response

theorem adds_nothing (unfiled : exchange.filed? = none) (unanswered : exchange.given? = none)
    (found : Option StepResult) : exchange.Adds executionId found found :=
  ⟨rfl, fun later known =>
    ⟨later, known, by simp [evaluation?, unfiled], by simp [answer?, unanswered]⟩⟩

theorem adds_idle (idle : exchange.executionId? = none) (found : Option StepResult) :
    exchange.Adds executionId found found :=
  ⟨rfl, fun later known =>
    ⟨later, known, by simp [evaluation?, idle], by simp [answer?, idle]⟩⟩

theorem adds_update {changed : String} {update : StepResult → StepResult}
    (active : exchange.executionId? = some changed)
    (updates : ∀ result,
      (update result).evaluations = result.evaluations ++ exchange.filed?.toList ∧
        (update result).response = exchange.given?.or result.response)
    (found : Option StepResult) :
    exchange.Adds executionId found
      (if changed = executionId then found.map update else found) := by
  split
  · next same =>
    refine ⟨by simp, fun later updated => ?_⟩
    rcases Option.map_eq_some_iff.mp updated with ⟨result, known, rfl⟩
    refine ⟨result, known, ?_⟩
    simp only [evaluation?, answer?, active, same, if_true]
    exact updates result
  · next different =>
    refine ⟨rfl, fun later known => ⟨later, known, ?_⟩⟩
    simp [evaluation?, answer?, active, different]

theorem Proper.revise_of_not_opens (proper : exchange.Proper setting)
    (closed : exchange.opens executionId = false) (found : Option StepResult) :
    exchange.Adds executionId found
      (exchange.changes.foldl (fun found change => change.revise executionId found) found) := by
  cases proper with
  | @recorded frame outcome answer? result asked =>
      cases result with
      | error error => cases answer? <;> exact adds_nothing rfl rfl found
      | ok done => cases answer? <;> exact adds_update rfl (fun result => ⟨rfl, rfl⟩) found
  | @asked frame request answer result _ =>
      cases result with
      | error error => exact adds_nothing rfl rfl found
      | ok done => exact adds_update rfl (fun result => ⟨(List.append_nil _).symm, rfl⟩) found
  | @finished frame moment result =>
      cases result with
      | error error => exact adds_nothing rfl rfl found
      | ok done => exact adds_update rfl (fun result => ⟨(List.append_nil _).symm, rfl⟩) found
  | begun =>
      have different : ¬_ = executionId := fun same =>
        ne_of_beq_false closed (congrArg some same)
      exact Eq.mpr (congrArg _ (if_neg different)) (adds_nothing rfl rfl found)
  | askedIdle => exact adds_idle rfl found
  | @silent frame? call reply isSilent =>
      cases call <;> first | exact adds_nothing rfl rfl found | cases isSilent
  | _ => exact adds_nothing rfl rfl found

variable {exchanges : List Exchange} {report : Report}

/-- The exchanges behind the last one that opened a result under the id. -/
def Since (executionId : String) (exchanges back : List Exchange) : Prop :=
  ∃ front opener, exchanges = front ++ opener :: back ∧ opener.opens executionId = true ∧
    ∀ later ∈ back, later.opens executionId = false

theorem step?_write_concat (report : Report) (exchanges : List Exchange) (exchange : Exchange) :
    (report.write ((exchanges ++ [exchange]).flatMap changes)).step? executionId =
      exchange.changes.foldl (fun found change => change.revise executionId found)
        ((report.write (exchanges.flatMap changes)).step? executionId) := by
  simp only [List.flatMap_append, List.flatMap_singleton, Report.write_append, Report.step?_write]

/-- A result holds what was filed under its id since it was opened, and the last answer. -/
theorem since_of_written (proper : ∀ exchange ∈ exchanges, exchange.Proper setting)
    (empty : report.step? executionId = none) {result : StepResult}
    (known : (report.write (exchanges.flatMap changes)).step? executionId = some result) :
    ∃ back, Since executionId exchanges back ∧
      result.evaluations = back.filterMap (evaluation? executionId) ∧
      result.response = (back.filterMap (answer? executionId)).getLast? := by
  -- From the back, since the last call may open the result anew and so forget what came before.
  induction exchanges using List.reverseRecOn generalizing result with
  | nil =>
      rw [List.flatMap_nil, Report.write_nil, empty] at known
      cases known
  | append_singleton earlier exchange induction =>
      have isProper := proper exchange (by simp)
      rw [step?_write_concat] at known
      cases opens : exchange.opens executionId with
      | true =>
          rcases isProper.revise_of_opens opens
            ((report.write (earlier.flatMap changes)).step? executionId) with
            ⟨opened, revised, evaluations, response⟩
          rw [revised] at known
          cases known
          exact ⟨[], ⟨earlier, exchange, rfl, opens, by simp⟩, evaluations, response⟩
      | false =>
          rcases (isProper.revise_of_not_opens opens _).results result known with
            ⟨before, knownBefore, evaluations, response⟩
          rcases induction (fun other member => proper other (List.mem_append_left _ member))
            knownBefore with ⟨back, ⟨front, opener, split, opened, unopened⟩, filed, answered⟩
          refine ⟨back ++ [exchange], ⟨front, opener, by simp [split], opened, ?_⟩, ?_, ?_⟩
          · intro later member
            rcases List.mem_append.mp member with member | member
            · exact unopened later member
            · rw [List.mem_singleton.mp member]
              exact opens
          · rw [evaluations, filed, List.filterMap_append]
            cases filing : exchange.evaluation? executionId <;> simp [filing]
          · rw [response, answered, List.filterMap_append]
            cases answering : exchange.answer? executionId <;> simp [answering]

theorem isSome_of_written (proper : ∀ exchange ∈ exchanges, exchange.Proper setting)
    (empty : report.step? executionId = none) :
    ((report.write (exchanges.flatMap changes)).step? executionId).isSome =
      exchanges.any (·.opens executionId) := by
  induction exchanges using List.reverseRecOn with
  | nil => simp [empty]
  | append_singleton earlier exchange induction =>
      have isProper := proper exchange (by simp)
      have before := induction fun other member => proper other (List.mem_append_left _ member)
      rw [step?_write_concat, List.any_append, ← before]
      cases opens : exchange.opens executionId with
      | true =>
          rcases isProper.revise_of_opens opens
            ((report.write (earlier.flatMap changes)).step? executionId) with ⟨opened, revised, -⟩
          simp [revised, opens]
      | false =>
          rw [(isProper.revise_of_not_opens opens _).isSome]
          simp [opens]

end Proper

end Exchange

namespace Operator

open Surroundings

variable {ρ κ : Type} [Renderer ρ] {operator : Operator κ} {setting : Setting}
  {surroundings : Surroundings ρ}

/-- A call to an operator in these surroundings. -/
def exchange (profileOf : κ → Profile) (operator : Operator κ) (call : Call)
    (surroundings : Surroundings ρ) : Exchange where
  frame := operator.frame.map (·.map profileOf)
  call := call
  reply := (surroundings.exec (operator.call profileOf call)).1.2
  deeds := unlogged (surroundings.deeds (operator.call profileOf call))

theorem followUp_asks {mode : Mode} {outcome : Outcome} (asks : outcome.asks mode = true) :
    followUp mode outcome = do
      let response ← Job.ask outcome.question
      return (some response, outcome.skips (some response)) := by
  simp only [Outcome.asks, Bool.and_eq_true, Bool.not_eq_true'] at asks
  simp only [followUp, Outcome.skips, asks, Bool.not_true, Bool.or_false, Bool.false_eq_true,
    if_false, Option.all_some, Bool.true_and]
  rfl

theorem followUp_unasked {mode : Mode} {outcome : Outcome} (asks : outcome.asks mode = false) :
    followUp mode outcome = pure (none, outcome.skips none) := by
  unfold followUp Outcome.skips
  cases failure : outcome.status.isFailure with
  | false => rfl
  | true =>
      have silent : (mode.isAuto || !outcome.prompts) = true := by
        simp only [Outcome.asks, failure, Bool.true_and] at asks
        cases prompts : outcome.prompts <;> simp_all
      simp [silent]

/-- A person is asked about an outcome, or nobody. -/
theorem followUp_does (mode : Mode) (outcome : Outcome) (surroundings : Surroundings ρ) :
    ∃ answer? after, answer?.isSome = outcome.asks mode ∧
      surroundings.Does (followUp mode outcome)
        (answer?.toList.map fun answer => ⟨.ask outcome.question, answer⟩)
        (answer?, outcome.skips answer?) after := by
  cases asks : outcome.asks mode with
  | false =>
      rw [followUp_unasked asks]
      exact ⟨none, surroundings, rfl, .pure _ _⟩
  | true =>
      rw [followUp_asks asks]
      refine ⟨some _, _, rfl, .bind (.effect _ _) (.pure _ _)⟩

theorem record_does {frame : Frame κ} (active : operator.frame = some frame) (outcome : Outcome)
    (surroundings : Surroundings ρ) :
    ∃ (answer? : Option PromptResponse) (result : Except ReportError Unit) (later : Operator κ)
      (after : Surroundings ρ), answer?.isSome = outcome.asks operator.setting.mode ∧
      surroundings.Does (operator.record outcome)
        (⟨.notify outcome.notice, ()⟩ ::
          (answer?.toList.map fun answer => ⟨.ask outcome.question, answer⟩) ++
          [⟨.changeReport operator.setting.runId
            (.record frame.executionId (outcome.filed answer?)), result⟩])
        (later, Report.replied result answer?) after := by
  rcases Does.notify outcome.notice surroundings with ⟨shown, notifies⟩
  rcases followUp_does operator.setting.mode outcome shown with ⟨answer?, asked, asks, follows⟩
  rcases Does.changeReport operator.setting.runId (.record frame.executionId
    (outcome.filed answer?)) asked with ⟨result, filed, files⟩
  unfold record
  simp only [active]
  cases result with
  | error error =>
      exact ⟨answer?, .error error, _, filed, asks,
        notifies.bind (follows.bind (files.bind (.pure _ _)))⟩
  | ok done =>
      cases answer? with
      | none =>
          exact ⟨none, .ok (), _, filed, asks,
            notifies.bind (follows.bind (files.bind (.pure _ _)))⟩
      | some answer =>
          exact ⟨some answer, .ok (), _, filed, asks,
            notifies.bind (follows.bind (files.bind (.pure _ _)))⟩

theorem ask_does {frame : Frame κ} (active : operator.frame = some frame)
    (interactive : operator.setting.mode.isAuto = false) (request : PromptRequest)
    (surroundings : Surroundings ρ) :
    ∃ (answer : PromptResponse) (result : Except ReportError Unit) (later : Operator κ)
      (after : Surroundings ρ),
      surroundings.Does (operator.ask request)
        [⟨.ask request, answer⟩,
          ⟨.changeReport operator.setting.runId (.respond frame.executionId answer), result⟩]
        (later, Report.replied result answer) after := by
  rcases Does.ask request surroundings with ⟨answer, asked, asks⟩
  rcases Does.changeReport operator.setting.runId (.respond frame.executionId answer) asked with
    ⟨result, filed, files⟩
  unfold ask
  simp only [interactive, Bool.false_eq_true, if_false, active]
  cases result with
  | error error => exact ⟨answer, .error error, _, filed, asks.bind (files.bind (.pure _ _))⟩
  | ok done => exact ⟨answer, .ok (), _, filed, asks.bind (files.bind (.pure _ _))⟩

theorem finish_does {frame : Frame κ} (active : operator.frame = some frame)
    (surroundings : Surroundings ρ) :
    ∃ (moment : Instant) (result : Except ReportError Unit) (later : Operator κ)
      (after : Surroundings ρ),
      surroundings.Does operator.finish
        [⟨.now, moment⟩,
          ⟨.changeReport operator.setting.runId (.closeStep frame.executionId moment), result⟩]
        (later, Report.replied result (some frame)) after := by
  rcases Does.now surroundings with ⟨moment, timed, times⟩
  rcases Does.changeReport operator.setting.runId (.closeStep frame.executionId moment) timed with
    ⟨result, filed, files⟩
  unfold finish
  simp only [active]
  cases result with
  | error error => exact ⟨moment, .error error, _, filed, times.bind (files.bind (.pure _ _))⟩
  | ok done => exact ⟨moment, .ok (), _, filed, times.bind (files.bind (.pure _ _))⟩

theorem giveUp_does (operator : Operator κ) (surroundings : Surroundings ρ) :
    ∃ deeds after, unlogged deeds = [] ∧ surroundings.Does operator.giveUp deeds () after := by
  unfold giveUp
  split
  · exact ⟨_, _, rfl, .effect _ _⟩
  · exact ⟨[], surroundings, rfl, .pure _ _⟩

theorem begin_does (operator : Operator κ) (profile : Profile) (surroundings : Surroundings ρ) :
    ∃ deeds reply later after,
      surroundings.Does (operator.begin profile) deeds (later, reply) after ∧
      ∀ frame? : Option (Frame Profile),
        Exchange.Proper operator.setting ⟨frame?, .begin profile, reply, unlogged deeds⟩ := by
  rcases Does.freshSuffix surroundings with ⟨suffix, drawn, draws⟩
  rcases operator.giveUp_does drawn with ⟨lines, given, silent, gives⟩
  rcases Does.now given with ⟨moment, timed, times⟩
  let frame := operator.frameFor profile suffix
  let result :=
    StepResult.opened frame.executionId frame.stepId frame.name frame.kind moment
  rcases Does.changeReport operator.setting.runId (.openStep result) timed with
    ⟨opening, opened, opens⟩
  unfold begin
  cases opening with
  | error error =>
      refine ⟨_, _, _, opened, draws.bind (gives.bind (times.bind (opens.bind (.pure _ _)))),
        fun frame? => ?_⟩
      simp only [unlogged_append, silent]
      exact .unbegun
  | ok done =>
      rcases Does.notify (.started (operator.started + 1) frame.executionId frame.name frame.kind)
        opened with ⟨announced, notifies⟩
      refine ⟨_, _, _, announced,
        draws.bind (gives.bind (times.bind (opens.bind (notifies.bind (.pure _ _))))),
        fun frame? => ?_⟩
      simp only [unlogged_append, silent]
      exact .begun

theorem exchange_of_does {profileOf : κ → Profile} {call : Call} {deeds : List Deed}
    {later : Operator κ} {reply : Except RunError call.Reply} {after : Surroundings ρ}
    (does : surroundings.Does (operator.call profileOf call) deeds (later, reply) after) :
    operator.exchange profileOf call surroundings =
      ⟨operator.frame.map (·.map profileOf), call, reply, unlogged deeds⟩ := by
  unfold exchange
  rw [does.deeds, does.exec]

theorem record_proper (profileOf : κ → Profile) (operator : Operator κ) (outcome : Outcome)
    (surroundings : Surroundings ρ) :
    (operator.exchange profileOf (.record outcome) surroundings).Proper operator.setting := by
  cases active : operator.frame with
  | none =>
      have idle : surroundings.Does (operator.record outcome) []
          (operator, .error (Operator.idle "recording an outcome")) surroundings := by
        unfold record
        simp only [active]
        exact .pure _ _
      rw [exchange_of_does idle, active]
      exact .unrecorded
  | some frame =>
      rcases record_does active outcome surroundings with
        ⟨answer?, result, later, after, asks, does⟩
      rw [exchange_of_does does, active]
      cases answer? <;> exact .recorded asks

theorem ask_proper (profileOf : κ → Profile) (operator : Operator κ) (request : PromptRequest)
    (surroundings : Surroundings ρ) :
    (operator.exchange profileOf (.ask request) surroundings).Proper operator.setting := by
  cases mode : operator.setting.mode.isAuto with
  | true =>
      have quiet : surroundings.Does (operator.ask request) []
          (operator.noteResponse .noAnswer, .ok .noAnswer) surroundings := by
        unfold ask
        simp only [mode, if_true]
        exact .pure _ _
      rw [exchange_of_does quiet]
      exact .unasked mode
  | false =>
      cases active : operator.frame with
      | none =>
          rcases Does.ask request surroundings with ⟨answer, asked, asks⟩
          have idle : surroundings.Does (operator.ask request) [⟨.ask request, answer⟩]
              (operator, .ok answer) asked := by
            unfold ask
            simp only [mode, Bool.false_eq_true, if_false, active]
            exact asks.bind (.pure _ _)
          rw [exchange_of_does idle, active]
          exact .askedIdle mode
      | some frame =>
          rcases ask_does active mode request surroundings with
            ⟨answer, result, later, after, does⟩
          rw [exchange_of_does does, active]
          exact .asked mode

theorem finish_proper (profileOf : κ → Profile) (operator : Operator κ)
    (surroundings : Surroundings ρ) :
    (operator.exchange profileOf .finish surroundings).Proper operator.setting := by
  have maps {deeds : List Deed} {later : Operator κ} {reply : Except RunError (Option (Frame κ))}
      {after : Surroundings ρ}
      (does : surroundings.Does operator.finish deeds (later, reply) after) :
      surroundings.Does (operator.call profileOf .finish) (deeds ++ [])
        (later, reply.map fun frame? => frame?.map (·.map profileOf)) after :=
    does.bind (.pure _ _)
  cases active : operator.frame with
  | none =>
      have idle : surroundings.Does operator.finish [] (operator, .ok none) surroundings := by
        unfold finish
        simp only [active]
        exact .pure _ _
      rw [exchange_of_does (maps idle), active]
      exact .unfinished
  | some frame =>
      rcases finish_does active surroundings with ⟨moment, result, later, after, does⟩
      rw [exchange_of_does (maps does), active, Report.replied_map]
      exact .finished

/-- Every call comes to what calls of its kind come to. -/
theorem exchange_proper (profileOf : κ → Profile) (operator : Operator κ) (call : Call)
    (surroundings : Surroundings ρ) :
    (operator.exchange profileOf call surroundings).Proper operator.setting := by
  cases call with
  | record outcome => exact record_proper profileOf operator outcome surroundings
  | ask request => exact ask_proper profileOf operator request surroundings
  | begin profile =>
      rcases operator.begin_does profile surroundings with
        ⟨deeds, reply, later, after, does, proper⟩
      rw [exchange_of_does does]
      exact proper _
  | finish => exact finish_proper profileOf operator surroundings
  | isFinalAttempt =>
      have same : operator.isFinalAttempt =
          (operator.frame.map (·.map profileOf)).all fun frame => frame.retestsLeft == 0 := by
        rw [isFinalAttempt, Option.all_map]
        rfl
      have judges : surroundings.Does (operator.call profileOf .isFinalAttempt) []
          (operator, .ok operator.isFinalAttempt) surroundings := .pure _ _
      rw [exchange_of_does judges, same]
      exact .judged
  | install profile => exact .installed
  | inform message => exact .informed
  | progress message => exact .progressed
  | note entry => exact .noted
  | setting | get | put | parameters | active | phrase | render | take => exact .silent rfl

end Operator

end Triage
