import Triage.Proofs.Run.Account
import Triage.Proofs.Run.DepthFirst

namespace Triage

open Surroundings Walk

variable {ρ : Type} [Renderer ρ] {setting : Setting} {retests : Nat}

namespace Account

variable {account : Account ρ setting retests}

/-! ## What is filed for a failure -/

theorem frame_fresh (account : Account ρ setting retests) : account.frame.IsFresh := by
  rcases account.performed.fresh with ⟨suffix, same⟩
  rw [same]
  exact Operator.frameFor_fresh _ _ _

/-- Behind what the step recorded there is one more evaluation, about the project,
and it was shown without a question. -/
structure Adds (account : Account ρ setting retests) (evaluation : Evaluation) : Prop where
  closed : account.closed.evaluations = account.recorded.evaluations ++ [evaluation]
  shows : Renderer.Shows account.played.renderer [.shown evaluation.notice] account.past.renderer
  resource : evaluation.resource = some setting.project
  response : evaluation.response = none

theorem adds_of_verdict {evaluation : Evaluation}
    (verdict : account.ending.verdict setting = [evaluation])
    (resource : evaluation.resource = some setting.project)
    (response : evaluation.response = none) : account.Adds evaluation where
  closed := by rw [← verdict]; rfl
  shows := by
    have shows := account.tells
    rw [verdict] at shows
    exact shows
  resource := resource
  response := response

theorem adds_of_failed {failure : Failure} (failed : account.ending = .failed failure)
    (allowed : account.ending.isForbidden = false) :
    ∃ evaluation, account.Adds evaluation ∧ evaluation.status = .skipped := by
  have verdict : account.ending.verdict setting =
      [Operator.evaluationOf (failureOutcome setting failure) none false] := by
    rw [failed] at allowed ⊢
    exact if_neg (by simpa [Ending.isForbidden] using allowed)
  exact ⟨_, adds_of_verdict verdict rfl rfl, rfl⟩

theorem adds_of_crashed {message : Crash} (crashed : account.ending = .crashed message) :
    ∃ evaluation, account.Adds evaluation ∧ evaluation.status = .failed ∧
      evaluation.remediationSkipped = true := by
  have verdict : account.ending.verdict setting =
      [Operator.evaluationOf (crashOutcome setting message) none true] := by
    rw [crashed]
    rfl
  exact ⟨_, adds_of_verdict verdict rfl rfl, rfl, rfl⟩

/-! ## The report in the end -/

/-- A result stays as it was closed unless its id is given out again. -/
theorem step?_foldl_file (report : Report) {first rest : List (Account ρ setting retests)}
    (last : ∀ other ∈ rest, other.frame.executionId ≠ account.frame.executionId) :
    ((first ++ account :: rest).foldl (fun report account => account.file report) report).step?
      account.frame.executionId = some account.closed := by
  rw [List.foldl_append, List.foldl_cons]
  have filed : (account.file (first.foldl (fun report account => account.file report)
      report)).step? account.frame.executionId = some account.closed := Report.step?_withResult
  generalize account.file (first.foldl (fun report account => account.file report) report) =
    changed at filed
  induction rest generalizing changed with
  | nil => exact filed
  | cons other rest induction =>
      have different := last other List.mem_cons_self
      refine induction (fun later member => last later (List.mem_cons_of_mem _ member)) _ ?_
      rw [← filed]
      exact Entries.get?_insert_of_ne different.symm

end Account

/-! ## What is left out after a failure -/

/-- An execution that failed or crashed is the last one of its step. Nothing that it
queued is attached and nothing below is executed, and its siblings are executed
after it. -/
structure Abandoned (base : Graph Profile) (course : Course) (attempt : Attempt) : Prop where
  retested : attempt.retested = false
  last : ∃ earlier, course.attempts.filter (·.node == attempt.node) = earlier ++ [attempt]
  children : course.graph.children attempt.node = base.children attempt.node
  below : ∀ other ∈ course.attempts, course.graph.AtOrAbove attempt.node other.node →
    other.node = attempt.node
  siblings : ∀ parent before after,
    course.graph.children parent = before ++ attempt.node :: after → ∀ sibling ∈ after,
      ∃ earlier later, course.attempts = earlier ++ later ∧
        (∀ other ∈ earlier, other.node ≠ sibling) ∧
        (∀ other ∈ later, other.node ≠ attempt.node) ∧ ∃ other ∈ later, other.node = sibling

theorem Traversal.abandoned {base : Graph Profile} {start : Nat} {course : Course}
    {attempt : Attempt} (traversal : Traversal base retests course)
    (forest : course.graph.Forest) (started : course.graph.start = some start)
    (member : attempt ∈ course.attempts) (stopped : attempt.ending.isCompleted = false) :
    Abandoned base course attempt where
  retested := (traversal.last_of_stopped member stopped).1
  last := (traversal.last_of_stopped member stopped).2
  children := traversal.children_of_stopped member stopped
  below _ isOther below := traversal.not_below_stopped forest member stopped isOther below
  siblings _ _ _ children _ isLater :=
    traversal.siblings forest started children isLater (traversal.mem_route member)

namespace Engine

variable {engine : Engine} {name : String} {blueprint : Blueprint} {notes : List Json.Node}
  {graph : Graph Step} {surroundings final : Surroundings ρ} {course : Course}
  {result : Except RunError Unit}

/-- Whatever errors and crashes there are in the steps of a run, it comes to its end
unless an operator is used in a forbidden way. Each of them is filed once, behind
what the execution recorded, and ends the branch of its step only. -/
theorem execute_survives (built : blueprint.build name = (notes, .ok (.ok graph)))
    (ordinary : graph.Uses fun call => call.isOrdinary = true)
    (walked : surroundings.exec (engine.walk setting graph) = ((course, result), final))
    (allowed : ∀ attempt ∈ course.attempts, attempt.ending.isForbidden = false) :
    ∃ (run : Completed) (after : Surroundings ρ)
        (accounts : List (Account ρ setting engine.settings.retests)),
      surroundings.exec (engine.execute setting graph).run = (.ok run, after) ∧
      engine.Unfolds setting graph (fun call => call.isOrdinary = true) surroundings
        (accounts.map Account.occasion) result course final ∧
      course.attempts = accounts.map Account.attempt ∧
      (∀ account ∈ accounts, account.frame.IsFresh ∧
        (∀ failure, account.ending = .failed failure →
          ∃ evaluation, account.Adds evaluation ∧ evaluation.status = .skipped) ∧
        ∀ message, account.ending = .crashed message →
          ∃ evaluation, account.Adds evaluation ∧ evaluation.status = .failed ∧
            evaluation.remediationSkipped = true) ∧
      (∀ first account rest, accounts = first ++ account :: rest →
        (∀ other ∈ rest, other.frame.executionId ≠ account.frame.executionId) →
        run.report.step? account.frame.executionId = some account.closed) ∧
      ∀ attempt ∈ course.attempts, attempt.ending.isCompleted = false →
        Abandoned graph.outline course attempt := by
  rcases walk_unfolds built ordinary walked with ⟨occasions, unfolds⟩
  rcases unfolds with ⟨moment, opened, reports, shows, chain⟩
  have known := (filed_of_opened graph reports).own
  rcases chain.accounted known with ⟨accounts, rfl, ledger⟩
  have attempts : course.attempts = accounts.map Account.attempt := by simpa using ledger.attempts
  have permitted : ∀ account ∈ accounts, account.ending.isForbidden = false := by
    intro account member
    have isAttempt : account.attempt ∈ course.attempts := by
      rw [attempts]
      exact List.mem_map_of_mem member
    exact allowed _ isAttempt
  rcases ledger.result with ⟨-, rfl⟩ | ⟨⟨account, member, forbidden⟩, -⟩
  · rcases walk_traversal built walked with ⟨start, started, traversal, forest, -⟩
    rcases exec_execute walked ledger.own with ⟨finished, after, -, path, executes, -⟩
    refine ⟨_, after, accounts, executes, ⟨moment, opened, reports, shows, chain⟩, attempts,
      ?_, ?_, ?_⟩
    · intro account member
      exact ⟨account.frame_fresh,
        fun failure failed => Account.adds_of_failed failed (permitted account member),
        fun message crashed => Account.adds_of_crashed crashed⟩
    · rintro first account rest rfl last
      exact Account.step?_foldl_file _ last
    · exact fun attempt member stopped => traversal.abandoned forest started member stopped
  · rw [permitted account member] at forbidden
    cases forbidden

open Sample in
/-- A step that fails behind an outcome, before a step that crashes. -/
theorem execute_survives_failing :
    let failing := pair (.invoke (.record (.ok ⟨"disk", "disk"⟩ "enough space")) fun _ =>
      .fail (.ofCause (.other "lost"))) (.crash "broken")
    (∃ run after, Sample.surroundings.exec (Sample.engine.execute Sample.setting
        (tree failing)).run = (.ok run, after)) ∧
      ∀ attempt ∈ (ended failing).1.1.attempts, attempt.ending.isCompleted = false →
        Abandoned (tree failing).outline (ended failing).1.1 attempt := by
  intro failing
  have complete : (tree failing).start.isSome = true := by decide +kernel
  have settled : (ended failing).1.1.attempts.all
      (fun attempt => !attempt.ending.isForbidden) = true := by decide +kernel
  have uses : failing.Uses fun call => call.isOrdinary = true :=
    pair_uses (Body.invoke_uses rfl fun _ => trivial) trivial
  have built := build_tree complete
  rcases walked : ended failing with ⟨⟨course, result⟩, final⟩
  rw [walked] at settled
  have allowed : ∀ attempt ∈ course.attempts, attempt.ending.isForbidden = false := by
    simpa using settled
  rcases execute_survives built (Blueprint.build_uses uses built) walked allowed with
    ⟨run, after, -, executes, -, -, -, -, abandoned⟩
  exact ⟨⟨run, after, executes⟩, abandoned⟩

end Engine

end Triage
