import Triage.Proofs.Parameter.Declared
import Triage.Proofs.Run.Parameters
import Triage.Proofs.Run.Spelling
import Triage.Proofs.Runbook.Calls

namespace Triage

namespace Specs

variable {specs : Specs} {given parameters : Parameters} {key : String} {spec : ParameterSpec}
  {value : Value}

/-! ## A parameter in use -/

/-- Old names do not get in the way of a value under a name in use. -/
theorem get?_moveAliases_of_live (nodup : specs.keys.Nodup) (isLive : specs.target? key = none)
    (givenNodup : given.keys.Nodup) (held : given.get? key = some value) :
    (specs.moveAliases given).get? key = some value := by
  induction specs generalizing given with
  | nil => exact held
  | cons entry rest induction =>
      rcases entry with ⟨old, spec⟩
      rcases List.nodup_cons.mp nodup with ⟨absent, restNodup⟩
      rw [target?_cons] at isLive
      have restLive : target? rest key = none := by
        split at isLive
        · next same => rw [same, target?_of_not_mem absent]
        · exact isLive
      rw [moveAliases]
      refine induction restNodup restLive (nodup_keys_moveAlias givenNodup) ?_
      cases moves : spec.movesTo? with
      | none => rwa [moveAlias_of_live moves]
      | some target =>
          have different : key ≠ old := by
            intro same
            rw [if_pos same, moves] at isLive
            cases isLive
          by_cases itself : target = old
          · rwa [get?_moveAlias_self givenNodup (itself ▸ moves)]
          · rw [get?_moveAlias givenNodup moves itself, if_neg different]
            split
            · next isTarget => rw [← isTarget, held, Option.some_or]
            · exact held

/-- What a parameter in use gets is in the result, in its type. -/
theorem get?_resolved (declared : specs.folded.get? key = some spec)
    (isLive : spec.movesTo? = none) (required : spec.required = true)
    (resolved : specs.resolve given = .ok parameters) :
    ∃ value coerced, candidate? (specs.moved given) (key, spec) = some value ∧
      spec.coerce key value = .ok coerced ∧ parameters.get? key = some coerced := by
  rcases resolve_eq_ok_iff.mp resolved with ⟨accepts, rfl⟩
  have member : (key, spec) ∈ specs.folded.live :=
    mem_live.mpr ⟨Entries.mem_of_get? declared, isLive⟩
  have taken := accepts (key, spec) member
  cases gets : candidate? (specs.moved given) (key, spec) with
  | none =>
      rw [gets] at taken
      exact absurd (.missing required) (taken _)
  | some value =>
      rw [gets] at taken
      cases coercion : spec.coerce key value with
      | error error => exact absurd (ParameterSpec.refuses_some_iff.mpr coercion) (taken error)
      | ok coerced =>
          refine ⟨value, coerced, rfl, coercion, ?_⟩
          refine Entries.get?_of_mem (nodup_keys_settled specs given) ?_
          exact List.mem_append_left _ (mem_bound.mpr ⟨spec, value, member, gets, coercion⟩)

end Specs

namespace ParameterSpec

variable {spec : ParameterSpec} {name : String} {value coerced : Value}

/-- A text, in lower case where the case does not count. -/
def spelled (spec : ParameterSpec) (text : String) : String :=
  if spec.ignorecase then Text.lower text else text

theorem coerce_text (isText : spec.kind = .string)
    (coercion : spec.coerce name value = .ok coerced) :
    ∃ text, coerced = .string text := by
  have reason : spec.coerceReason value = .ok coerced := by
    unfold coerce at coercion
    split at coercion
    · next found => rwa [← Except.ok.inj coercion]
    · cases coercion
  rw [coerceReason, isText] at reason
  simp only [Coercion.toText] at reason
  split at reason <;> cases reason <;> exact ⟨_, rfl⟩

theorem coerce_string (isText : spec.kind = .string) (text : String) :
    spec.coerce name (.string text) = .ok (.string (spec.spelled text)) := by
  rw [coerce, coerceReason, isText]
  rfl

end ParameterSpec

/-! ## The parameters that a report keeps -/

namespace Report

variable {report changed : Report}

theorem parameters_apply {change : Change} (applied : report.apply change = .ok changed) :
    changed.parameters = report.parameters := by
  have updated {executionId : String} {update : StepResult → StepResult}
      (applied : report.updateStep executionId update = .ok changed) :
      changed.parameters = report.parameters := by
    unfold updateStep at applied
    split at applied
    · cases applied
      rfl
    · cases applied
  cases change with
  | openStep result =>
      cases applied
      rfl
  | record id evaluation => exact updated applied
  | respond id response => exact updated applied
  | closeStep id moment => exact updated applied

end Report

namespace Surroundings

variable {ρ α : Type} [Renderer ρ] {setting : Setting} {report : Report} {job : Job α}
  {post : α → Prop} {surroundings : Surroundings ρ}

theorem exec_own_parameters (meets : job.Meets (Effect.IsOwn setting) post)
    (known : surroundings.own setting.runId = some report) :
    ∃ changed, (surroundings.exec job).2.own setting.runId = some changed ∧
      changed.parameters = report.parameters := by
  have keeps (effect : Effect) (state : Surroundings ρ) (isOwn : effect.IsOwn setting)
      (kept : ∃ changed, state.own setting.runId = some changed ∧
        changed.parameters = report.parameters) :
      ∃ changed, (handle effect state).2.own setting.runId = some changed ∧
        changed.parameters = report.parameters := by
    rcases kept with ⟨changed, stored, same⟩
    cases stores : effect.stores with
    | false =>
        refine ⟨changed, ?_, same⟩
        rwa [own, handle_reports stores]
    | true =>
        cases effect with
        | changeReport runId change =>
            obtain rfl : runId = setting.runId := isOwn
            have handled : handle (.changeReport setting.runId change) state =
                state.exec (Job.changeReport setting.runId change) := rfl
            rw [handled, exec_changeReport stored]
            cases applied : changed.apply change with
            | error error => exact ⟨changed, stored, same⟩
            | ok later => exact ⟨later, own_withOwn, (Report.parameters_apply applied).trans same⟩
        | createReport | finishReport => cases isOwn
        | _ => cases stores
  exact (meets.exec keeps ⟨report, known, rfl⟩).2

end Surroundings

namespace Engine

open Surroundings Walk

variable {ρ : Type} [Renderer ρ] {engine : Engine} {mode : Mode} {request : Request}
  {setting : Setting} {id : String} {registered : Registered} {notes : List Json.Node}
  {graph : Graph Step} {surroundings after : Surroundings ρ} {run : Completed}
  {context : Context} {given parameters : Parameters} {spec : ParameterSpec}

/-- The report of a run has the parameters that its steps started from. -/
theorem execute_parameters (built : registered.tree.blueprint.build id = (notes, .ok (.ok graph)))
    (executes : surroundings.exec (engine.execute setting graph).run = (.ok run, after)) :
    run.report.parameters = setting.context.parameters := by
  rcases walked : surroundings.exec (engine.walk setting graph) with ⟨⟨course, result⟩, final⟩
  rcases engine.exec_walk setting graph surroundings with ⟨moment, opened, through, reports, -⟩
  rcases Blueprint.build_start built with ⟨start, started⟩
  have meets := through_meets setting engine.settings.retests (Blueprint.build_forest built) started
  rcases exec_own_parameters meets (filed_of_opened graph reports).own with ⟨report, own, same⟩
  rw [← through, walked] at own
  rcases exec_execute walked own with ⟨finished, past, -, ends⟩
  cases result with
  | error error =>
      rw [ends.1] at executes
      cases executes
  | ok done =>
      rcases ends with ⟨path, executed, -⟩
      rw [executed] at executes
      cases executes
      exact same

theorem runIn_parameters (found : engine.registry.find request.runbook = .ok (id, registered))
    (adapted : registered.tree.adapt request.parameters = .ok given)
    (resolved : registered.tree.specs.resolve (withProject request.context given) = .ok parameters)
    (runs : surroundings.exec (engine.runIn mode request) = (.completed run, after)) :
    run.report.parameters = parameters := by
  cases engine.admission mode request surroundings with
  | refused _ refused _ =>
      rw [refused] at runs
      cases runs
  | crashed crashed _ =>
      rw [crashed] at runs
      cases runs
  | @admitted registeredToo graph setting prepared admits _ goesOn =>
      have foundToo := admits.found
      rw [found] at foundToo
      cases foundToo
      rcases admits.resolved with ⟨givenToo, parametersToo, adaptedToo, resolvedToo, context⟩
      rw [adapted] at adaptedToo
      cases adaptedToo
      rw [resolved] at resolvedToo
      cases resolvedToo
      rcases admits.built with ⟨notes, built⟩
      rw [goesOn] at runs
      rcases executes : Surroundings.exec (engine.execute setting graph).run
        { prepared with drawn := prepared.drawn + 1 } with ⟨error | finished, past⟩
      · rw [executes] at runs
        cases runs
      · rw [executes] at runs
        cases runs
        rw [execute_parameters built executes, context]
        rfl

/-! ## The project of a run -/

/-- The project of the context is a parameter if no other one is given. -/
theorem get?_withProject (named : context.projectId ≠ "")
    (none_ : ∀ name ∈ given.keys, sameName name projectKey = false) :
    (withProject context given).folded.get? projectKey = some (.string context.projectId) := by
  have missing : given.any (fun entry => sameName entry.1 projectKey) = false := by
    rw [List.any_eq_false]
    exact fun entry member => by simp [none_ entry.1 (List.mem_map_of_mem member)]
  have absent : projectKey ∉ given.keys := by
    intro member
    exact absurd (none_ projectKey member) (by decide)
  have inserted : withProject context given =
      given ++ [(projectKey, .string context.projectId)] := by
    rw [withProject, ← Entries.insert_of_not_mem absent]
    simp [named, missing]
  have folds : Text.fold projectKey = projectKey := by decide
  rw [inserted, Parameters.folded_append, folds, Entries.get?_insert_self]

theorem candidate?_withProject {specs : Specs} {spec : ParameterSpec}
    (declared : specs.folded.get? projectKey = some spec) (isLive : spec.movesTo? = none)
    (named : context.projectId ≠ "")
    (none_ : ∀ name ∈ given.keys, sameName name projectKey = false) :
    Specs.candidate? (specs.moved (withProject context given)) (projectKey, spec) =
      some (.string context.projectId) := by
  have target : specs.folded.target? projectKey = none := by
    rw [Specs.target?, declared, Option.bind_some, isLive]
  have moved : (specs.moved (withProject context given)).get? projectKey =
      some (.string context.projectId) :=
    Specs.get?_moveAliases_of_live (Specs.nodup_keys_folded _) target
      (Parameters.nodup_keys_folded _) (get?_withProject named none_)
  rw [Specs.candidate?, Specs.valueFor?, moved]
  rfl

theorem projectId_contextFor {project : String}
    (resolved : parameters.get? projectKey = some (.string project)) :
    (contextFor context parameters).projectId =
      if context.projectId = "" then project else context.projectId := by
  rw [contextFor, resolved]
  by_cases unnamed : context.projectId = ""
  · simp [unnamed]
  · simp only [if_neg unnamed]
    split
    · next empty _ => exact absurd empty unnamed
    · rfl

theorem projectId_contextFor_iff {project : String}
    (resolved : parameters.get? projectKey = some (.string project)) :
    (contextFor context parameters).projectId = project ↔
      context.projectId = "" ∨ context.projectId = project := by
  rw [projectId_contextFor resolved]
  by_cases unnamed : context.projectId = ""
  · simp [unnamed]
  · simp [unnamed]

/-- What no step writes is what messages say of the project all the way. -/
theorem walk_says_project {project : String} (declares : parameters.get? projectKey =
      some (.string project))
    (spares : registered.tree.blueprint.Uses (Call.Spares projectKey))
    (built : registered.tree.blueprint.build id = (notes, .ok (.ok graph)))
    (sees : setting.context.parameters = parameters) (surroundings : Surroundings ρ) :
    let ended := surroundings.exec (engine.walk setting graph)
    ∃ occasions : List (Occasion ρ), engine.Unfolds setting graph (Call.Spares projectKey)
        surroundings occasions ended.1.2 ended.1.1 ended.2 ∧
      ∀ occasion ∈ occasions,
        ((occasion.operator setting).get? projectKey).bind Value.asText? = some project := by
  intro ended
  have walked : surroundings.exec (engine.walk setting graph) = ((ended.1.1, ended.1.2), ended.2) :=
    rfl
  rcases walk_unfolds built (Blueprint.build_uses spares built) walked with ⟨occasions, unfolds⟩
  refine ⟨occasions, unfolds, fun occasion member => ?_⟩
  rcases unfolds with ⟨moment, opened, -, -, chain⟩
  have held := (chain.spares.1 occasion member).trans ((congrArg _ sees).trans declares)
  have lower : Text.lower projectKey = projectKey := by decide
  simp only [Operator.get?, Occasion.operator, lower, Specs.valueFor?, held]
  rfl

/-- A tree that requires a project has one text for it in the parameters, in the report and in
messages. Steps ask about the project of the context, and only a context without one takes it from
the parameters: where both are given, nothing makes them the same. -/
theorem runIn_project (found : engine.registry.find request.runbook = .ok (id, registered))
    (adapted : registered.tree.adapt request.parameters = .ok given)
    (resolved : registered.tree.specs.resolve (withProject request.context given) = .ok parameters)
    (declared : registered.tree.specs.folded.get? projectKey = some spec)
    (isText : spec.kind = .string) (required : spec.required = true)
    (isLive : spec.movesTo? = none) :
    ∃ project, parameters.get? projectKey = some (.string project) ∧
      (∀ (mode : Mode) (surroundings after : Surroundings ρ) (run : Completed),
        surroundings.exec (engine.runIn mode request) = (.completed run, after) →
          run.report.parameters.get? projectKey = some (.string project)) ∧
      (request.context.projectId ≠ "" → (∀ name ∈ given.keys, sameName name projectKey = false) →
        project = spec.spelled request.context.projectId) ∧
      ∀ setting : Setting, setting.context = contextFor request.context parameters →
        setting.context.projectId =
            (if request.context.projectId = "" then project else request.context.projectId) ∧
          (setting.context.projectId = project ↔
            request.context.projectId = "" ∨ request.context.projectId = project) ∧
          (setting.project = .ofProject project ↔
            request.context.projectId = "" ∨ request.context.projectId = project) ∧
          (registered.tree.blueprint.Uses (Call.Spares projectKey) → ∀ notes graph,
            registered.tree.blueprint.build id = (notes, .ok (.ok graph)) →
            ∀ surroundings : Surroundings ρ,
              let ended := surroundings.exec (engine.walk setting graph)
              ∃ occasions : List (Occasion ρ), engine.Unfolds setting graph
                  (Call.Spares projectKey) surroundings occasions ended.1.2 ended.1.1 ended.2 ∧
                ∀ occasion ∈ occasions,
                  ((occasion.operator setting).get? projectKey).bind Value.asText? =
                    some project) := by
  rcases Specs.get?_resolved declared isLive required resolved with
    ⟨value, coerced, gets, coercion, held⟩
  rcases ParameterSpec.coerce_text isText coercion with ⟨project, rfl⟩
  refine ⟨project, held, ?_, ?_, ?_⟩
  · intro mode surroundings after run runs
    rwa [runIn_parameters found adapted resolved runs]
  · intro named none_
    cases gets.symm.trans (candidate?_withProject declared isLive named none_)
    rw [ParameterSpec.coerce_string isText] at coercion
    cases coercion
    rfl
  · intro setting sees
    have same : (contextFor request.context parameters).projectId = _ ↔ _ :=
      projectId_contextFor_iff held
    rw [← sees] at same
    refine ⟨sees ▸ projectId_contextFor held, same, ?_, ?_⟩
    · rw [← same]
      exact ⟨congrArg Resource.shortPath, congrArg Resource.ofProject⟩
    · intro spares notes graph built surroundings
      have parametersSame : setting.context.parameters = parameters := by
        rw [sees]
        rfl
      exact walk_says_project held spares built parametersSame surroundings

end Engine

namespace VmRunningState

open Engine (withProject contextFor projectKey)

theorem spares_project (snapshot : Snapshot) :
    (blueprint snapshot).Uses (Call.Spares projectKey) := by
  refine blueprint_uses (Permits.mk trivial (fun _ => trivial) ?_ trivial (fun _ _ => trivial)
    (fun _ => trivial) (fun _ => trivial) fun _ => trivial) snapshot
  have others : ∀ key ∈ publishedKeys, Text.lower key ≠ projectKey := by decide
  exact fun key published value => others key published

open VmRunningState.Sample in
/-- The project of the context is that of the parameters, and messages say so. -/
theorem runIn_project_shared :
    ∃ parameters spec,
      specs.resolve (withProject request.context (adapt request.parameters)) = .ok parameters ∧
        specs.folded.get? projectKey = some spec ∧ spec.kind = .string ∧ spec.required = true ∧
        spec.movesTo? = none ∧ (blueprint snapshot).Uses (Call.Spares projectKey) ∧
        ∃ project, parameters.get? projectKey = some (.string project) ∧
          (contextFor request.context parameters).projectId = project := by
  obtain ⟨parameters, resolved⟩ : ∃ parameters,
      specs.resolve (withProject request.context (adapt request.parameters)) = .ok parameters :=
    ⟨_, rfl⟩
  obtain ⟨spec, declared⟩ : ∃ spec, specs.folded.get? projectKey = some spec := ⟨_, rfl⟩
  have isSpec : some { ParameterSpec.of .string "Project hosting the instance" with
      required := true } = some spec := declared
  cases isSpec
  have named : request.context.projectId ≠ "" := by decide
  have none_ : ∀ name ∈ Entries.keys (adapt request.parameters),
      Engine.sameName name projectKey = false := by decide
  rcases Engine.runIn_project (ρ := EventLog) found rfl resolved declared rfl rfl rfl with
    ⟨project, held, -, shared, sees⟩
  let setting : Setting :=
    { Triage.Sample.setting with context := contextFor request.context parameters }
  refine ⟨parameters, _, resolved, declared, rfl, rfl, rfl, spares_project snapshot, project, held,
    ?_⟩
  exact (sees setting rfl).2.1.mpr (.inr (shared named none_).symm)

namespace Sample

/-- A request that names two projects. -/
def divided : Request :=
  ⟨"gce/vm-running-state", .ofProject "demo",
    [("instance_name", .string "web-2"), ("zone", .string "us-central1-a"),
      ("project_id", .string "other")]⟩

/-- The project in the report of a run, and what its outcomes are about. -/
def projects (request : Request) : Option (Option String × List (Option Resource)) :=
  match (Triage.Sample.surroundings.exec (shipped.runIn .auto request)).1 with
  | .completed run => some ((run.report.parameters.get? projectKey).bind Value.asText?,
      run.report.evaluations.map fun entry => entry.2.resource)
  | _ => none

end Sample

open VmRunningState.Sample in
/-- The report is about one project, and its outcomes are about another one. -/
theorem runIn_divided :
    Shipped.registry snapshot = .ok shipped.registry ∧
      projects divided = some (some "other", [some (.ofProject "demo")]) := by
  refine ⟨registered, ?_⟩
  decide +kernel

end VmRunningState

end Triage
