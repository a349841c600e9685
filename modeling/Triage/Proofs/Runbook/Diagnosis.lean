import Triage.Proofs.Run.Spelling
import Triage.Proofs.Runbook.Results
import Triage.Proofs.Verdict

namespace Triage

namespace VmRunningState

variable {ρ : Type} [Renderer ρ] {snapshot : Snapshot} {context : Context}
  {parameters : Parameters} {instance_ : Value}

/-! ## The diagnosis of an instance -/

/-- What is said of an instance, by the field that tells its status. -/
def diagnosis : Option Value → List Status
  | some (.string status) =>
      if status = "RUNNING" then [.ok]
      else if status ∈ ["TERMINATED", "STOPPED", "SUSPENDED"] then [.failed, .skipped]
      else [.uncertain]
  | _ => [.uncertain]

theorem isStopped_iff {status : String} :
    isStopped status = true ↔ status ∈ ["TERMINATED", "STOPPED", "SUSPENDED"] := by
  simp [isStopped, or_assoc]

theorem diagnosis_eq (instance_ : Value) : diagnosis (instance_.field? "status") =
    if statusOf instance_ = "RUNNING" then [.ok]
    else if isStopped (statusOf instance_) then [.failed, .skipped] else [.uncertain] := by
  have untold : isStopped "UNKNOWN" = false := by decide
  have read : statusOf instance_ =
      ((instance_.field? "status").bind Value.string?).getD "UNKNOWN" := rfl
  rcases field : instance_.field? "status" with _ | held
  · have status : statusOf instance_ = "UNKNOWN" := by rw [read, field]; rfl
    simp [diagnosis, status, untold]
  rw [field, Option.bind_some] at read
  cases held with
  | string status =>
      have status : statusOf instance_ = status := read
      simp only [diagnosis, status, isStopped_iff]
  | _ =>
      have status : statusOf instance_ = "UNKNOWN" := read
      simp [diagnosis, status, untold]

theorem diagnosis_eq_ok {field : Option Value} :
    diagnosis field = [.ok] ↔ field = some (.string "RUNNING") := by
  unfold diagnosis
  split
  · next status =>
    by_cases running : status = "RUNNING"
    · simp [running]
    · rw [if_neg running]
      split <;> simp [running]
  · next other => exact iff_of_false (by simp) (other _)

/-- Anything else that is said counts as a finding. -/
theorem diagnosis_findings {field : Option Value} :
    (∀ status ∈ diagnosis field, status.isFailure = false) ↔ field = some (.string "RUNNING") := by
  rw [← diagnosis_eq_ok]
  unfold diagnosis
  split
  · split
    · simp [Status.isFailure]
    · split <;> simp [Status.isFailure]
  · simp [Status.isFailure]

/-- Without anybody to ask every step is executed once. -/
theorem Chosen.auto {results : List StepResult}
    (chosen : Chosen snapshot context .auto parameters results)
    (resolved : isResolved parameters = true)
    (looked : fetched snapshot context parameters = .ok instance_) :
    (results.map (·.stepId)).Nodup ∧ results.flatMap StepResult.marks =
      (diagnosis (instance_.field? "status")).map (·, some (subjectOf context instance_)) := by
  rw [diagnosis_eq]
  cases chosen with
  | unresolved unresolved => cases unresolved.symm.trans resolved
  | unread _ unread => cases unread.symm.trans looked
  | transitional _ lookedToo other unstopped gateway =>
      cases lookedToo.symm.trans looked
      rcases gateway.single rfl with ⟨first, rfl, tells⟩
      simp [tells.marks, other, unstopped]
  | running _ lookedToo running gateway check =>
      cases lookedToo.symm.trans looked
      rcases gateway.single rfl with ⟨first, rfl, tells⟩
      rcases check.single rfl with ⟨second, rfl, checks⟩
      simp [tells.marks, checks.marks, tells.stepId, checks.stepId, running, gatewayStep_id,
        runningCheck_id]
  | stopped _ lookedToo stopped gateway check task =>
      cases lookedToo.symm.trans looked
      have other : statusOf instance_ ≠ "RUNNING" := by
        intro running
        rw [running] at stopped
        exact absurd stopped (by decide)
      rcases gateway.single rfl with ⟨first, rfl, tells⟩
      rcases check.single rfl with ⟨second, rfl, checks⟩
      rcases task.single rfl with ⟨third, rfl, asks⟩
      have skips : third.marks = [(.skipped, some (subjectOf context instance_))] :=
        asks.marks.resolve_right fun answered => by cases answered.1
      simp [tells.marks, checks.marks, skips, tells.stepId, checks.stepId, asks.stepId, other,
        stopped, gatewayStep_id, runningCheck_id, startTask_id]

/-- So is every step of a run that finds the instance, and no two of its results are of one step. -/
theorem Results.auto {results : List StepResult}
    (files : Results snapshot context .auto parameters results)
    (found : sought snapshot context parameters = .ok instance_)
    (looked : fetched snapshot context (published parameters instance_) = .ok instance_) :
    (results.map (·.stepId)).Nodup ∧ results.flatMap StepResult.marks =
      (diagnosis (instance_.field? "status")).map (·, some (subjectOf context instance_)) := by
  rcases files with ⟨starts, checks, ends, rfl, start, chosen, ended⟩
  rcases finding_ok found with ⟨writes, marks⟩
  rw [marks] at start
  rw [writes] at chosen
  rcases start.single rfl with ⟨first, rfl, starts⟩
  rcases ended.single rfl with ⟨last, rfl, ends⟩
  rcases chosen.auto isResolved_published looked with ⟨distinct, tells⟩
  have inner : ∀ id ∈ checks.map (·.stepId), id ∈ innerIds := by
    intro id member
    rcases List.mem_map.mp member with ⟨result, inside, rfl⟩
    exact (chosen.ours result inside).2
  have startOutside : first.stepId ∉ innerIds := starts.stepId ▸ findStep_outside snapshot
  have endOutside : last.stepId ∉ innerIds := by
    rw [ends.stepId, endMark_id]
    decide
  have endsApart : first.stepId ≠ last.stepId := by
    rw [starts.stepId, ends.stepId, findStep_id, endMark_id]
    decide
  constructor
  · simp only [List.map_append, List.map_cons, List.map_nil, List.singleton_append,
      List.nodup_cons, List.mem_append, List.mem_singleton, not_or, List.nodup_append]
    refine ⟨⟨fun member => startOutside (inner _ member), endsApart⟩, distinct, by simp, ?_⟩
    rintro id member _ rfl same
    exact endOutside (same ▸ inner _ member)
  · simp [starts.marks, ends.marks, tells]

/-- The program is content with a run if nothing in its report is a finding. -/
theorem settles_iff {run : Completed} {interface : Interface} {surroundings : Surroundings ρ} :
    (surroundings.exec (Program.settle interface [.completed run])).1 = Program.successCode ↔
      ∀ status ∈ run.report.statuses, status.isFailure = false := by
  have single : List.map RunResult.of [.ok run] = [.completed run] := rfl
  rw [← single, Program.exec_settle, Program.verdict_eq_successCode]
  simp [Report.anyFailed]

open Engine (withProject contextFor) in
/-- An instance that is given by its name and zone, and that is in the scope of the run, is
diagnosed by the field that tells its status, whatever other parameters there are. -/
theorem runIn_diagnoses {engine : Engine} {request : Request} {id : String}
    {registered : Registered} {zone name : String}
    (found : engine.registry.find request.runbook = .ok (id, registered))
    (isTree : registered.tree = tree snapshot)
    (resolved : specs.resolve (withProject request.context (adapt request.parameters)) =
      .ok parameters)
    (named : parameters.get? "instance_name" = some (.string name))
    (zoned : parameters.get? "zone" = some (.string zone))
    (looked : snapshot.instance? (contextFor request.context parameters).projectId zone name =
      .ok instance_)
    (admitted : (contextFor request.context parameters).admits (Snapshot.zoneOf? instance_)
      (labelsOf instance_) (nameOf instance_) = true)
    (surroundings : Surroundings ρ) :
    let project := Resource.ofProject (contextFor request.context parameters).projectId
    ∃ run after, surroundings.exec (engine.runIn .auto request) = (.completed run, after) ∧
      run.report.evaluations.map (fun entry => (entry.2.status, entry.2.resource)) =
        (diagnosis (instance_.field? "status")).map
          (·, some ((Resource.ofObject? instance_).getD project)) ∧
      ∀ (interface : Interface) (past : Surroundings ρ),
        (past.exec (Program.settle interface [.completed run])).1 = Program.successCode ↔
          instance_.field? "status" = some (.string "RUNNING") := by
  intro project
  have reads {key text : String} (held : parameters.get? key = some (.string text)) :
      textOf? parameters key = some text := by
    rw [textOf?, Specs.valueFor?, held]
    rfl
  have finds : Finds snapshot (contextFor request.context parameters) parameters instance_ :=
    .named (reads named) (reads zoned) looked
  rcases runIn_results found isTree resolved .auto surroundings with
    ⟨run, after, results, runs, files, -, filed⟩
  have isSought := sought_eq_ok_iff.mpr ⟨finds, admitted⟩
  rcases files.auto isSought (finds.fetched_self (by simp [reads named])) with ⟨distinct, tells⟩
  have marked := (marks_of_distinct filed (nodup_executionIds files.ours distinct)).trans tells
  refine ⟨run, after, runs, marked, fun interface past => ?_⟩
  have statuses : run.report.statuses = diagnosis (instance_.field? "status") := by
    have firsts := congrArg (List.map Prod.fst) marked
    simpa [Report.statuses, Function.comp_def] using firsts
  rw [settles_iff, statuses, diagnosis_findings]

namespace Sample

/-- An instance that is stopped, as it is in the file. -/
def listed : Value :=
  .object [("id", .string "102"), ("name", .string "db-1"), ("status", .string "TERMINATED"),
    ("zone", .string "us-central1-b")]

def database : Value := Snapshot.withSelfLink "demo" listed

def halted : Snapshot := [("demo", [listed])]

theorem database_found : halted.instance? "demo" "us-central1-b" "db-1" = .ok database := rfl

def stocked : Engine :=
  { Triage.Sample.engine with
    registry := [("gce/vm-running-state", ⟨"gce", tree halted⟩)] }

/-- A request for that instance, which also says itself whether the instance was resolved. -/
def asked (locations : List String) (flag : String) : Request :=
  ⟨"gce/vm-running-state", (Context.ofProject "demo").withLocations locations,
    [("instance_name", .string "db-1"), ("zone", .string "us-central1-b"),
      ("instance_resolved", .string flag)]⟩

def held (flag : String) : Parameters :=
  [("project_id", .string "demo"), ("zone", .string "us-central1-b"),
    ("instance_name", .string "db-1"), ("instance_resolved", .string flag)]

variable {locations : List String} {flag : String}

theorem stocked_found : stocked.registry.find (asked locations flag).runbook =
    .ok ("gce/vm-running-state", ⟨"gce", tree halted⟩) := by
  have named : (asked locations flag).runbook = "gce/vm-running-state" := rfl
  rw [named, Registry.find, normalized]
  rfl

theorem asked_resolved : specs.resolve (Engine.withProject (asked locations flag).context
    (adapt (asked locations flag).parameters)) = .ok (held flag) := by
  rfl

end Sample

open VmRunningState.Sample in
open Engine (withProject contextFor) in
theorem runIn_diagnoses_halted :
    let request := asked ["US-central1"] "no"
    let context := contextFor request.context (held "no")
    specs.resolve (withProject request.context (adapt request.parameters)) = .ok (held "no") ∧
      (held "no").get? "instance_name" = some (.string "db-1") ∧
      (held "no").get? "zone" = some (.string "us-central1-b") ∧
      halted.instance? context.projectId "us-central1-b" "db-1" = .ok database ∧
      context.admits (Snapshot.zoneOf? database) (labelsOf database) (nameOf database) = true ∧
      ∃ run after, Triage.Sample.surroundings.exec (stocked.runIn .auto request) =
          (.completed run, after) ∧
        run.report.evaluations.map (fun entry => entry.2.status) = [.failed, .skipped] := by
  intro request context
  have admitted : context.admits (Snapshot.zoneOf? database) (labelsOf database)
      (nameOf database) = true := by decide
  rcases runIn_diagnoses stocked_found rfl asked_resolved rfl rfl database_found admitted
    Triage.Sample.surroundings with ⟨run, after, runs, marked, -⟩
  refine ⟨asked_resolved, rfl, rfl, database_found, admitted, run, after, runs, ?_⟩
  have firsts := congrArg (List.map Prod.fst) marked
  rw [List.map_map, List.map_map] at firsts
  exact firsts

end VmRunningState

end Triage
