import Triage.Proofs.Runbook.Diagnosis

namespace Triage

namespace VmRunningState

variable {ρ : Type} [Renderer ρ] {snapshot : Snapshot} {context : Context} {mode : Mode}
  {parameters : Parameters}

/-! ## What the steps look at -/

/-- What the steps behind the first one record, by the instance that they look at. -/
inductive Decided (snapshot : Snapshot) (context : Context) :
    Except ApiError Value → (stepId : String) → Mark → Prop
  | unread {error : ApiError} : Decided snapshot context (.error error)
      (gatewayStep snapshot).profile.id (.skipped, some context.project)
  | transitional {instance_ : Value} (other : statusOf instance_ ≠ "RUNNING")
      (unstopped : isStopped (statusOf instance_) = false) :
      Decided snapshot context (.ok instance_) (gatewayStep snapshot).profile.id
        (.uncertain, some (subjectOf context instance_))
  | running {instance_ : Value} (running : statusOf instance_ = "RUNNING") :
      Decided snapshot context (.ok instance_) (runningCheck snapshot).profile.id
        (.ok, some (subjectOf context instance_))
  | stopped {instance_ : Value} (stopped : isStopped (statusOf instance_) = true) :
      Decided snapshot context (.ok instance_) (runningCheck snapshot).profile.id
        (.failed, some (subjectOf context instance_))
  | byHand {instance_ : Value} {zone name : String} {status : Status}
      (stopped : isStopped (statusOf instance_) = true)
      (answered : status = .ok ∨ status = .skipped) :
      Decided snapshot context (.ok instance_)
        (startTask zone name (subjectOf context instance_)).profile.id
        (status, some (subjectOf context instance_))

namespace Chosen

variable {results : List StepResult}

/-- Everything is decided on what the steps look at. -/
theorem decided (chosen : Chosen snapshot context mode parameters results) :
    ∀ result ∈ results, ∀ mark ∈ result.marks,
      Decided snapshot context (fetched snapshot context parameters) result.stepId mark := by
  have empty {profile : Profile} {part : List StepResult}
      (tried : Tried mode profile (· = []) part) : ∀ result ∈ part, ∀ mark ∈ result.marks,
      Decided snapshot context (fetched snapshot context parameters) result.stepId mark := by
    intro result member mark inside
    rw [(tried.each result member).marks] at inside
    cases inside
  have single {profile : Profile} {only : Mark} {part : List StepResult}
      (tried : Tried mode profile (· = [only]) part)
      (decides : Decided snapshot context (fetched snapshot context parameters) profile.id only) :
      ∀ result ∈ part, ∀ mark ∈ result.marks,
        Decided snapshot context (fetched snapshot context parameters) result.stepId mark := by
    intro result member mark inside
    have tells := tried.each result member
    rw [tells.marks] at inside
    rw [tells.stepId, List.mem_singleton.mp inside]
    exact decides
  cases chosen with
  | unresolved _ gateway => exact empty gateway
  | unread _ looked gateway => exact single gateway (looked ▸ .unread)
  | transitional _ looked other unstopped gateway =>
      exact single gateway (looked ▸ .transitional other unstopped)
  | running _ looked running gateway check =>
      exact List.forall_mem_append.mpr ⟨empty gateway, single check (looked ▸ .running running)⟩
  | stopped _ looked stopped gateway check task =>
      refine List.forall_mem_append.mpr ⟨empty gateway, List.forall_mem_append.mpr
        ⟨single check (looked ▸ .stopped stopped), fun result member mark inside => ?_⟩⟩
      have tells := task.each result member
      rw [tells.stepId, looked]
      rcases tells.marks with skipped | ⟨-, completed | unanswered⟩
      · rw [skipped] at inside
        cases List.mem_singleton.mp inside
        exact .byHand stopped (.inr rfl)
      · rw [completed] at inside
        cases List.mem_singleton.mp inside
        exact .byHand stopped (.inl rfl)
      · rw [unanswered] at inside
        cases inside

theorem silent (chosen : Chosen snapshot context mode parameters results)
    (unresolved : isResolved parameters = false) : ∀ result ∈ results, result.marks = [] := by
  cases chosen with
  | unresolved _ gateway => exact fun result member => (gateway.each result member).marks
  | unread resolved => cases unresolved.symm.trans resolved
  | transitional resolved => cases unresolved.symm.trans resolved
  | running resolved => cases unresolved.symm.trans resolved
  | stopped resolved => cases unresolved.symm.trans resolved

/-- Some step records something, whenever it is executed. -/
theorem telling (chosen : Chosen snapshot context mode parameters results)
    (resolved : isResolved parameters = true) :
    ∃ told ∈ results, ∀ result ∈ results, result.stepId = told.stepId → result.marks ≠ [] := by
  have tells {profile : Profile} {mark : Mark} {part : List StepResult}
      (tried : Tried mode profile (· = [mark]) part) : ∀ result ∈ part, result.marks ≠ [] := by
    intro result member
    rw [(tried.each result member).marks]
    simp
  have elsewhere {profile : Profile} {marks : List Mark → Prop} {part : List StepResult}
      {told : StepResult} (tried : Tried mode profile marks part)
      (different : profile.id ≠ told.stepId) :
      ∀ result ∈ part, result.stepId = told.stepId → result.marks ≠ [] := by
    intro result member same
    exact absurd ((tried.each result member).stepId.symm.trans same) different
  cases chosen with
  | unresolved unresolved => cases unresolved.symm.trans resolved
  | unread _ _ gateway =>
      rcases List.exists_mem_of_ne_nil _ gateway.tried with ⟨told, member⟩
      exact ⟨told, member, fun result inside _ => tells gateway result inside⟩
  | transitional _ _ _ _ gateway =>
      rcases List.exists_mem_of_ne_nil _ gateway.tried with ⟨told, member⟩
      exact ⟨told, member, fun result inside _ => tells gateway result inside⟩
  | running _ _ _ gateway check =>
      rcases List.exists_mem_of_ne_nil _ check.tried with ⟨told, member⟩
      have isCheck := (check.each told member).stepId
      rw [runningCheck_id] at isCheck
      refine ⟨told, List.mem_append_right _ member, List.forall_mem_append.mpr
        ⟨elsewhere gateway ?_, fun result inside _ => tells check result inside⟩⟩
      rw [isCheck, gatewayStep_id]
      decide
  | stopped _ _ _ gateway check task =>
      rcases List.exists_mem_of_ne_nil _ check.tried with ⟨told, member⟩
      have isCheck := (check.each told member).stepId
      rw [runningCheck_id] at isCheck
      refine ⟨told, List.mem_append_right _ (List.mem_append_left _ member),
        List.forall_mem_append.mpr ⟨elsewhere gateway ?_, List.forall_mem_append.mpr
          ⟨fun result inside _ => tells check result inside, elsewhere task ?_⟩⟩⟩
      · rw [isCheck, gatewayStep_id]
        decide
      · rw [isCheck, startTask_id]
        decide

end Chosen

theorem marks_eq_nil {result : StepResult} : result.marks = [] ↔ result.evaluations = [] :=
  List.map_eq_nil_iff

namespace Results

variable {results : List StepResult}

theorem decided (files : Results snapshot context mode parameters results) :
    ∀ result ∈ results, result.stepId ≠ (findStep snapshot).profile.id → ∀ mark ∈ result.marks,
      Decided snapshot context
        (fetched snapshot context ((finding snapshot context).writes parameters))
        result.stepId mark := by
  rcases files.others with ⟨checks, chosen, -, others⟩
  intro result member other mark inside
  rcases others result member other with isChosen | ⟨-, silent⟩
  · exact chosen.decided result isChosen mark inside
  · rw [silent] at inside
    cases inside

/-- Behind the first step nothing is recorded if and only if the instance was not resolved. -/
theorem silent_iff {report : Report} (files : Results snapshot context mode parameters results)
    (filed : report.results = .ofList (results.map StepResult.entry)) :
    (∀ result ∈ report.stepResults, result.stepId ≠ (findStep snapshot).profile.id →
      result.evaluations = []) ↔
      isResolved ((finding snapshot context).writes parameters) = false := by
  rcases files.others with ⟨checks, chosen, within, others⟩
  constructor
  · intro silent
    cases resolved : isResolved ((finding snapshot context).writes parameters) with
    | false => rfl
    | true =>
        rcases chosen.telling resolved with ⟨told, isTold, tells⟩
        have isInner := (chosen.ours told isTold).2
        rcases files.kept filed (within told isTold) with ⟨other, inside, isResult, sameStep⟩
        rw [← sameStep] at isInner
        have notStart : other.stepId ≠ (findStep snapshot).profile.id := by
          intro isStart
          rw [isStart] at isInner
          exact findStep_outside snapshot isInner
        rcases others other isResult notStart with isChosen | ⟨isOuter, -⟩
        · exact absurd (marks_eq_nil.mpr (silent other inside notStart))
            (tells other isChosen sameStep)
        · exact absurd isInner isOuter
  · intro unresolved result member other
    refine marks_eq_nil.mp ?_
    rcases others result (mem_of_stepResults filed member) other with isChosen | ⟨-, silent⟩
    · exact chosen.silent unresolved result isChosen
    · exact silent

end Results

open Engine (withProject contextFor) in
/-- Either the first step finds an instance that is in the scope of the run, or it records one
outcome that says why not. In the first case everything else is decided on the instance that is
found under the zone and the name of that one, which is the same one if the first step found it by
its name, and the first one of these if it found it by its id. In the second case nothing else is
recorded, unless the parameters already said that the instance was resolved. -/
theorem runIn_confined {engine : Engine} {request : Request} {id : String} {registered : Registered}
    (found : engine.registry.find request.runbook = .ok (id, registered))
    (isTree : registered.tree = tree snapshot)
    (resolved : specs.resolve (withProject request.context (adapt request.parameters)) =
      .ok parameters)
    (mode : Mode) (surroundings : Surroundings ρ) :
    let context := contextFor request.context parameters
    let start := (findStep snapshot).profile.id
    ∃ run after, surroundings.exec (engine.runIn mode request) = (.completed run, after) ∧
      run.report.parameters = parameters ∧
      (∃ result ∈ run.report.stepResults, result.stepId = start) ∧
      ((∃ instance_, Finds snapshot context parameters instance_ ∧ Admitted context instance_ ∧
          let looked := fetched snapshot context (published parameters instance_)
          (∀ result ∈ run.report.stepResults, result.stepId = start → result.evaluations = []) ∧
          (∀ result ∈ run.report.stepResults, result.stepId ≠ start → ∀ mark ∈ result.marks,
            Decided snapshot context looked result.stepId mark) ∧
          (textOf? parameters "instance_name" ≠ none → looked = .ok instance_) ∧
          ∀ zone name, Snapshot.zoneOf? instance_ = some zone →
            instance_.textField? "name" = some name →
            looked = snapshot.instance? context.projectId zone name) ∨
        (¬∃ instance_, Finds snapshot context parameters instance_ ∧ Admitted context instance_) ∧
          ∃ mark : Mark, (mark.1 = .skipped ∨ mark.1 = .uncertain) ∧
            (∀ result ∈ run.report.stepResults, result.stepId = start → result.marks = [mark]) ∧
            ((∀ result ∈ run.report.stepResults, result.stepId ≠ start →
                result.evaluations = []) ↔ isResolved parameters = false) ∧
            ∀ result ∈ run.report.stepResults, result.stepId ≠ start → ∀ mark ∈ result.marks,
              Decided snapshot context (fetched snapshot context parameters)
                result.stepId mark) := by
  intro context start
  rcases runIn_results found isTree resolved mode surroundings with
    ⟨run, after, results, runs, files, same, filed⟩
  rcases files.starts with ⟨⟨first, isFirst, started⟩, recorded⟩
  have decided := files.decided
  have silent := files.silent_iff filed
  refine ⟨run, after, runs, same, ?_, ?_⟩
  · rcases files.kept filed isFirst with ⟨other, inside, -, sameStep⟩
    exact ⟨other, inside, sameStep.trans started⟩
  cases looks : sought snapshot context parameters with
  | ok instance_ =>
      rcases finding_ok looks with ⟨writes, marks⟩
      rw [marks] at recorded
      rw [writes] at decided
      rcases sought_eq_ok_iff.mp looks with ⟨finds, admitted⟩
      refine .inl ⟨instance_, finds, admitted, fun result member isStart => ?_,
        fun result member => decided result (mem_of_stepResults filed member),
        finds.fetched_self, fun _ _ => finds.fetched⟩
      exact marks_eq_nil.mp (recorded result (mem_of_stepResults filed member) isStart)
  | error mark =>
      rcases finding_error looks with ⟨writes, marks⟩
      rw [marks] at recorded
      rw [writes] at decided silent
      refine .inr ⟨?_, mark, mark_of_sought looks, fun result member =>
        recorded result (mem_of_stepResults filed member), silent,
        fun result member => decided result (mem_of_stepResults filed member)⟩
      rintro ⟨instance_, finds⟩
      cases looks.symm.trans (sought_eq_ok_iff.mpr finds)

open VmRunningState.Sample in
open Engine (withProject contextFor) in
/-- Outside of the locations that were asked for, nothing is looked at any further. -/
theorem runIn_confined_outside :
    let request := asked ["europe-west1"] "no"
    specs.resolve (withProject request.context (adapt request.parameters)) = .ok (held "no") ∧
      ∃ run after, Triage.Sample.surroundings.exec (stocked.runIn .interactive request) =
          (.completed run, after) ∧
        ∀ result ∈ run.report.stepResults, result.stepId ≠ (findStep halted).profile.id →
          result.evaluations = [] := by
  intro request
  have refused : sought halted (contextFor request.context (held "no")) (held "no") =
      .error (.skipped, some (subjectOf (contextFor request.context (held "no")) database)) := rfl
  rcases runIn_confined stocked_found rfl asked_resolved .interactive Triage.Sample.surroundings
    with ⟨run, after, runs, -, -, ⟨instance_, finds, admitted, -⟩ | ⟨-, mark, -, -, silent, -⟩⟩
  · cases refused.symm.trans (sought_eq_ok_iff.mpr ⟨finds, admitted⟩)
  · exact ⟨asked_resolved, run, after, runs, silent.mpr (by decide)⟩

namespace Sample

/-- What the steps of a run record. -/
def recorded (request : Request) : Option (List (String × Status)) :=
  match (Triage.Sample.surroundings.exec (stocked.runIn .auto request)).1 with
  | .completed run =>
      some (run.report.evaluations.map fun entry => (entry.1.stepId, entry.2.status))
  | _ => none

end Sample

open VmRunningState.Sample in
/-- A request that says itself that the instance was resolved gets the other steps to look at an
instance that is outside of the locations it asks for. -/
theorem runIn_presumed :
    Shipped.registry halted = .ok stocked.registry ∧
      recorded (asked ["europe-west1"] "true") =
        some [("gcpdiag.runbooks.gce.ResolveInstance", .skipped),
          ("gcpdiag_engine.steps.ResourceAttributeCheck", .failed),
          ("gcpdiag_engine.steps.HumanTask", .skipped)] := by
  refine ⟨?_, by decide +kernel⟩
  rw [Shipped.registry, Registry.register, normalized]
  rfl

end VmRunningState

end Triage
