import Triage.Proofs.Run.HumanTask
import Triage.Proofs.Value.Basic
import Triage.Step.Builtin

namespace Triage

open Surroundings Walk

namespace AttributeCheck

variable {check : AttributeCheck} {ρ : Type} [Renderer ρ] {setting : Setting} {retests : Nat}
  {draft between : Draft} {fetched : Except ApiError Value} {report : Report}

/-- What a resource has where the attribute should be; a missing attribute counts as null. -/
def held (check : AttributeCheck) (resource : Value) : Value :=
  (resource.at? check.path).getD .null

/-- What is recorded when the query has come back. -/
def mark (check : AttributeCheck) (project : Resource) : Except ApiError Value → Mark
  | .ok resource =>
      (if (check.held resource).same check.expected then .ok else .failed,
        some ((Resource.ofObject? resource).getD project))
  | .error error => (if error.isNotFound then .skipped else .uncertain, some project)

theorem mark_ok_iff {project : Resource} {value : Value} :
    (check.mark project (.ok value)).1 = .ok ↔
      (check.held value).unsigned = check.expected.unsigned := by
  rw [← Value.same_iff, mark]
  cases (check.held value).same check.expected <;> simp

/-- Started from a draft, the query comes back with what it fetched and leaves another draft to
go on from. -/
def Fetches (ρ : Type) [Renderer ρ] (setting : Setting) (retests : Nat) (check : AttributeCheck)
    (draft : Draft) (fetched : Except ApiError Value) (between : Draft) : Prop :=
  ∀ (next : Except ApiError Value → Body) (post : Draft → Prop),
    (next fetched).Yields ρ setting retests between post →
      (check.query next).Yields ρ setting retests draft post

/-- One outcome is recorded, whatever was fetched. -/
theorem body_yields {post : Draft → Prop}
    (fetches : check.Fetches ρ setting retests draft fetched between)
    (holds : ∀ outcome response skipped,
      (outcome.status, outcome.resource) = check.mark setting.project fetched →
        (setting.mode.isAuto = true → response = none) →
          post (between.recorded outcome response skipped)) :
    check.body.Yields ρ setting retests draft post := by
  have concludes {outcome : Outcome}
      (marks : (outcome.status, outcome.resource) = check.mark setting.project fetched) :
      (Body.conclude outcome).Yields ρ setting retests between post :=
    Body.yields_conclude fun response skipped silent => holds outcome response skipped marks silent
  refine fetches _ _ (Body.yields_setting ?_)
  cases fetched with
  | ok resource =>
      dsimp only [compare]
      split
      · next equal =>
        refine Body.yields_phrase fun reason => concludes ?_
        rw [mark, held, if_pos equal]
        rfl
      · next differs =>
        refine Body.yields_phrase fun reason => Body.yields_phrase fun remediation => concludes ?_
        rw [mark, held, if_neg differs]
        rfl
  | error error =>
      dsimp only
      split
      · next missing =>
        refine concludes ?_
        rw [mark, if_pos missing]
        rfl
      · next present =>
        refine concludes ?_
        rw [mark, if_neg present]
        rfl

/-- An execution of the check files what the query recorded, if anything, and one evaluation. -/
theorem execution_records {occasion : Occasion ρ} {recorded : List Evaluation}
    (checks : occasion.body = check.body)
    (known : occasion.surroundings.own setting.runId = some report)
    (fetches : ∀ draft : Draft, draft.parameters = occasion.course.parameters →
      draft.evaluations = [] → draft.frame.IsFresh →
        ∃ between, check.Fetches ρ setting retests draft fetched between ∧
          between.evaluations = recorded) :
    ∃ draft result later after evaluation,
      occasion.Completed setting retests report draft result later after ∧
      result.evaluations = recorded ++ [evaluation] ∧
      evaluation.mark = check.mark setting.project fetched := by
  have asks (draft : Draft) (same : draft.parameters = occasion.course.parameters)
      (empty : draft.evaluations = []) (fresh : draft.frame.IsFresh)
      (_ : draft.frame.retestsLeft = occasion.left) :
      occasion.body.Asks ρ setting retests draft fun last _ =>
        ∃ evaluation, last.evaluations = recorded ++ [evaluation] ∧
          evaluation.mark = check.mark setting.project fetched := by
    rcases fetches draft same empty fresh with ⟨between, comesBack, sofar⟩
    rw [checks]
    refine (body_yields comesBack fun outcome response skipped marks _ => ?_).asks
    exact ⟨Operator.evaluationOf outcome response skipped, by rw [Draft.recorded, sofar], marks⟩
  rcases Occasion.completed occasion asks known with
    ⟨draft, result, later, after, completed, evaluation, evaluated, marks⟩
  exact ⟨draft, result, later, after, evaluation, completed,
    completed.evaluations.trans evaluated, marks⟩

/-- An address leads to exactly what stands there, a path leads on from where its first part led,
and an execution of the check on a fetched resource records ok exactly if the path leads to what is
expected. -/
theorem compares_at_path :
    (∀ value turns found, Value.Holds value turns found →
      value.at? (Value.address turns) = some found) ∧
    (∀ (value : Value) (first second : String),
      value.at? (first ++ "." ++ second) = (value.at? first).bind (·.at? second)) ∧
    ∀ {ρ : Type} [Renderer ρ] (check : AttributeCheck) (setting : Setting) (retests : Nat)
      (occasion : Occasion ρ) (report : Report) (resource : Value) (recorded : List Evaluation),
      occasion.body = check.body →
      occasion.surroundings.own setting.runId = some report →
      (∀ draft : Draft, draft.parameters = occasion.course.parameters →
        draft.evaluations = [] → draft.frame.IsFresh →
          ∃ between, check.Fetches ρ setting retests draft (.ok resource) between ∧
            between.evaluations = recorded) →
      ∃ draft result later after evaluation,
        occasion.Completed setting retests report draft result later after ∧
        result.evaluations = recorded ++ [evaluation] ∧
        (evaluation.status = .ok ↔
          ((resource.at? check.path).getD .null).unsigned = check.expected.unsigned) := by
  refine ⟨fun _ _ _ holds => holds.at?, Value.at?_append, ?_⟩
  intro ρ _ check setting retests occasion report resource recorded checks known fetches
  rcases execution_records checks known fetches with
    ⟨draft, result, later, after, evaluation, completed, evaluated, marks⟩
  have status : evaluation.status = (check.mark setting.project (.ok resource)).1 :=
    congrArg Prod.fst marks
  exact ⟨draft, result, later, after, evaluation, completed, evaluated, status ▸ mark_ok_iff⟩

end AttributeCheck

namespace Sample

def disks : List Value :=
  [.null, .object [("0", .string "boot")]]

def machine : Value :=
  .object [("disks", .array disks), ("status", .string "UP")]

def bootCheck : AttributeCheck :=
  ⟨fun next => next (.ok machine), "disks..1.0", .string "boot", none, none⟩

def bootOccasion : Occasion Display :=
  ⟨0, bootCheck.step.profile, bootCheck.body, 0, ⟨[], 0, .empty, []⟩, listening []⟩

end Sample

open Sample in
/-- A position of an array and a field whose name is a number. -/
theorem AttributeCheck.compares_at_path_boot :
    machine.at? "disks.1.0" = some (.string "boot") ∧
    ∃ draft result later after evaluation,
      bootOccasion.Completed attended 3
        (.opened attended.runId attended.runbook [] attended.mode ⟨0, 0⟩) draft result later after ∧
      result.evaluations = [evaluation] ∧ evaluation.status = .ok := by
  rcases compares_at_path with ⟨leads, -, records⟩
  let turns : List Value.Turn :=
    [.field "disks" (by decide) (by decide), .item 1, .field "0" (by decide) (by decide)]
  have drive : disks[1]? = some (.object [("0", .string "boot")]) := rfl
  have stands : machine.Holds turns (.string "boot") :=
    .field (by decide) List.mem_cons_self
      (.item drive (.field (by decide) List.mem_cons_self (.here _)))
  have spelled : Value.address turns = "disks.1.0" := by decide
  have stood : machine.at? "disks.1.0" = some (.string "boot") := spelled ▸ leads _ _ _ stands
  refine ⟨stood, ?_⟩
  rcases records bootCheck attended 3 bootOccasion _ machine [] rfl own_withOwn
    (fun draft _ empty _ => ⟨draft, fun next post yields => yields, empty⟩) with
    ⟨draft, result, later, after, evaluation, completed, evaluated, status⟩
  have same : Value.segments bootCheck.path = Value.segments "disks.1.0" := by decide
  have found : machine.at? bootCheck.path = some (.string "boot") := by
    rw [Value.at?, same]
    exact stood
  exact ⟨draft, result, later, after, evaluation, completed, evaluated,
    status.mpr (by rw [found]; rfl)⟩

end Triage
