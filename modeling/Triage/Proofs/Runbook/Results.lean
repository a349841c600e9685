import Triage.Proofs.Runbook.Finding

namespace Triage

open Walk

namespace VmRunningState

variable {ρ : Type} [Renderer ρ] {setting : Setting} {retests : Nat} {snapshot : Snapshot}
  {context : Context} {mode : Mode} {parameters : Parameters} {instance_ : Value}

/-! ## The results of a run -/

def statusOf (instance_ : Value) : String :=
  (instance_.textField? "status").getD "UNKNOWN"

theorem verdict_ok : verdict context (.ok instance_) =
    (if statusOf instance_ = "RUNNING" then .ok else .failed,
      some (subjectOf context instance_)) := by
  have isRunning : ((instance_.at? "status").getD .null).same (.string "RUNNING") = true ↔
      statusOf instance_ = "RUNNING" := by
    rw [Value.same_string_iff, Value.at?_status, statusOf, Value.textField?]
    cases instance_.field? "status" with
    | none => simp
    | some held => cases held <;> simp [Value.string?]
  simp only [verdict, isRunning]

/-- What the gateway and the checks that it chooses record. -/
inductive Chosen (snapshot : Snapshot) (context : Context) (mode : Mode)
    (parameters : Parameters) : List StepResult → Prop
  | unresolved {results : List StepResult} (unresolved : isResolved parameters = false)
      (gateway : Tried mode (gatewayStep snapshot).profile (· = []) results) :
      Chosen snapshot context mode parameters results
  | unread {results : List StepResult} {error : ApiError} (resolved : isResolved parameters = true)
      (looked : fetched snapshot context parameters = .error error)
      (gateway : Tried mode (gatewayStep snapshot).profile
        (· = [(.skipped, some context.project)]) results) :
      Chosen snapshot context mode parameters results
  | transitional {results : List StepResult} {instance_ : Value}
      (resolved : isResolved parameters = true)
      (looked : fetched snapshot context parameters = .ok instance_)
      (other : statusOf instance_ ≠ "RUNNING") (unstopped : isStopped (statusOf instance_) = false)
      (gateway : Tried mode (gatewayStep snapshot).profile
        (· = [(.uncertain, some (subjectOf context instance_))]) results) :
      Chosen snapshot context mode parameters results
  | running {front back : List StepResult} {instance_ : Value}
      (resolved : isResolved parameters = true)
      (looked : fetched snapshot context parameters = .ok instance_)
      (running : statusOf instance_ = "RUNNING")
      (gateway : Tried mode (gatewayStep snapshot).profile (· = []) front)
      (check : Tried mode (runningCheck snapshot).profile
        (· = [(.ok, some (subjectOf context instance_))]) back) :
      Chosen snapshot context mode parameters (front ++ back)
  | stopped {front middle back : List StepResult} {instance_ : Value} {zone name : String}
      (resolved : isResolved parameters = true)
      (looked : fetched snapshot context parameters = .ok instance_)
      (stopped : isStopped (statusOf instance_) = true)
      (gateway : Tried mode (gatewayStep snapshot).profile (· = []) front)
      (check : Tried mode (runningCheck snapshot).profile
        (· = [(.failed, some (subjectOf context instance_))]) middle)
      (task : Tried mode (startTask zone name (subjectOf context instance_)).profile
        ((starting mode (subjectOf context instance_)).marks parameters) back) :
      Chosen snapshot context mode parameters (front ++ (middle ++ back))

/-- The results of a run: of the first step, of what the gateway makes of it, of the last step. -/
def Results (snapshot : Snapshot) (context : Context) (mode : Mode) (parameters : Parameters)
    (results : List StepResult) : Prop :=
  ∃ starts checks ends, results = starts ++ (checks ++ ends) ∧
    Tried mode (findStep snapshot).profile ((finding snapshot context).marks parameters) starts ∧
    Chosen snapshot context mode ((finding snapshot context).writes parameters) checks ∧
    Tried mode Step.endMark.profile (· = []) ends

section

variable (declares : setting.specs = specs)
include declares

theorem check_files {mark : Mark}
    (told : verdict setting.context (fetched snapshot setting.context parameters) = mark)
    (id : NodeId) :
    Files ρ setting parameters (Tried setting.mode (runningCheck snapshot).profile (· = [mark]))
      parameters ((plan setting retests (runningCheck snapshot)).walk id) := by
  rw [← told]
  exact files_planned (runningCheck_conducts declares snapshot) rfl id

/-- The gateway, with the steps that it queues. -/
theorem gateway_files {marks : List Mark} {steps : List Step}
    {each : List (List StepResult → Prop)}
    (comes : choice snapshot setting.context parameters = (marks, steps))
    (filing : List.Forall₂ (fun (step : Step) files => ∀ id,
      Files ρ setting parameters files parameters ((plan setting retests step).walk id)) steps each)
    (node : NodeId) :
    Files ρ setting parameters
      (Then (Tried setting.mode (gatewayStep snapshot).profile (· = marks)) (InTurn each))
      parameters (Walk.step setting retests (gatewayStep snapshot).profile
        (fun _ => play setting retests (gateway snapshot)) node stay stay) := by
  have queued : (choosing snapshot setting.context).queues parameters = steps :=
    congrArg Prod.snd comes
  have recorded : (choosing snapshot setting.context).marks parameters = (· = marks) := by
    funext found
    exact congrArg (found = ·) (congrArg Prod.fst comes)
  have below (graph : Graph Profile) : Files ρ setting parameters (Then (InTurn each) (InTurn []))
      parameters ((all (attachAll graph node (((choosing snapshot setting.context).queues
        parameters).map (plan setting retests))).2).followedBy stay) := by
    rw [queued]
    exact files_followedBy (files_queued filing graph node) files_stay
  refine (files_step (fun _ => gateway_conducts declares snapshot) files_stay below).imp ?_
  rw [recorded]
  rintro results ⟨front, back, rfl, tried, _, _, rfl, rfl, rest⟩
  exact ⟨front, _, rfl, tried, by simpa using then_nil.mp rest⟩

theorem chosen_files (snapshot : Snapshot) (parameters : Parameters) (node : NodeId) :
    Files ρ setting parameters (Chosen snapshot setting.context setting.mode parameters) parameters
      (Walk.step setting retests (gatewayStep snapshot).profile
        (fun _ => play setting retests (gateway snapshot)) node stay stay) := by
  have alone {marks : List Mark}
      (comes : choice snapshot setting.context parameters = (marks, [])) :
      Files ρ setting parameters (Tried setting.mode (gatewayStep snapshot).profile (· = marks))
        parameters (Walk.step setting retests (gatewayStep snapshot).profile
          (fun _ => play setting retests (gateway snapshot)) node stay stay) :=
    (gateway_files declares comes .nil node).imp fun _ => then_nil.mp
  cases resolved : isResolved parameters with
  | false =>
      have comes : choice snapshot setting.context parameters = ([], []) := by
        simp only [choice, resolved, Bool.false_eq_true, if_false]
      exact (alone comes).imp fun _ tried => .unresolved resolved tried
  | true =>
  cases looked : fetched snapshot setting.context parameters with
  | error error =>
      have comes : choice snapshot setting.context parameters =
          ([(.skipped, some setting.context.project)], []) := by
        simp only [choice, resolved, if_true, looked]
      exact (alone comes).imp fun _ tried => .unread resolved looked tried
  | ok instance_ =>
  have comes : choice snapshot setting.context parameters =
      chosen snapshot ((textOf? parameters "zone").getD "")
        ((textOf? parameters "instance_name").getD "") (subjectOf setting.context instance_)
        (statusOf instance_) := by
    simp only [choice, resolved, if_true, looked]
    rfl
  have told : verdict setting.context (fetched snapshot setting.context parameters) = _ :=
    (congrArg _ looked).trans verdict_ok
  by_cases running : statusOf instance_ = "RUNNING"
  · rw [chosen, if_pos running] at comes
    rw [if_pos running] at told
    refine (gateway_files declares comes (.cons (check_files declares told) .nil) node).imp ?_
    rintro _ ⟨front, _, rfl, gateway, back, _, rfl, checked, rfl⟩
    rw [List.append_nil]
    exact .running resolved looked running gateway checked
  rw [chosen, if_neg running] at comes
  rw [if_neg running] at told
  cases stopped : isStopped (statusOf instance_) with
  | false =>
      rw [stopped] at comes
      exact (alone comes).imp fun _ tried => .transitional resolved looked running stopped tried
  | true =>
      rw [stopped] at comes
      refine (gateway_files declares comes (.cons (check_files declares told) (.cons
        (files_planned (startTask_conducts _ _ _) rfl) .nil)) node).imp ?_
      rintro _ ⟨front, _, rfl, gateway, middle, _, rfl, checked, back, _, rfl, task, rfl⟩
      rw [List.append_nil]
      exact .stopped resolved looked stopped gateway checked task

variable (ρ retests snapshot) in
/-- The tree as it is walked: the gateway stands between the first step and the last one. -/
theorem from_files (parameters : Parameters) :
    ∃ graph : Graph Step, (∀ id, (blueprint snapshot).build id = ([], .ok (.ok graph))) ∧
      graph.start = some 0 ∧
      Files ρ setting parameters (Results snapshot setting.context setting.mode parameters)
        ((finding snapshot setting.context).writes parameters)
        (from_ setting retests graph graph.size 0) := by
  let graph : Graph Step :=
    ⟨[⟨findStep snapshot, .start, none, [1, 2]⟩, ⟨gatewayStep snapshot, .gateway, some 0, []⟩,
      ⟨Step.endMark, .end, some 0, []⟩], some 0, some 2⟩
  refine ⟨graph, fun _ => rfl, rfl, ?_⟩
  have walked : from_ setting retests graph graph.size 0 =
      Walk.step setting retests (findStep snapshot).profile
        (fun _ => play setting retests (find snapshot)) 0
        (all [Walk.step setting retests (gatewayStep snapshot).profile
          (fun _ => play setting retests (gateway snapshot)) 1 stay stay])
        (all [Walk.step setting retests Step.endMark.profile
          (fun _ => play setting retests Step.farewell) 2 stay stay]) := rfl
  let last := (finding snapshot setting.context).writes parameters
  have gateway : Files ρ setting last
      (Then (Chosen snapshot setting.context setting.mode last) (InTurn [])) last
      (all [Walk.step setting retests (gatewayStep snapshot).profile
        (fun _ => play setting retests (gateway snapshot)) 1 stay stay]) :=
    files_followedBy (chosen_files declares snapshot last 1) files_stay
  have farewell : Files ρ setting last
      (Then (Tried setting.mode Step.endMark.profile (parting.marks last)) (InTurn [])) last
      (all [Walk.step setting retests Step.endMark.profile
        (fun _ => play setting retests Step.farewell) 2 stay stay]) :=
    files_followedBy (files_leaf (fun _ => farewell_conducts) rfl) files_stay
  rw [walked]
  refine (files_step (fun _ => find_conducts declares snapshot) gateway
    fun graph => files_followedBy files_stay farewell).imp ?_
  rintro _ ⟨starts, _, rfl, found, _, _, rfl, chosen, _, _, rfl, rfl, ended⟩
  refine ⟨starts, _, _, ?_, found, then_nil.mp chosen, then_nil.mp ended⟩
  rfl

end

/-! ## The steps that results belong to -/

/-- The ids of the steps between the first one and the last one. -/
def innerIds : List String :=
  ["gcpdiag.runbooks.gce.VmStatusGateway", "gcpdiag_engine.steps.ResourceAttributeCheck",
    "gcpdiag_engine.steps.HumanTask"]

def stepIds : List String :=
  "gcpdiag.runbooks.gce.ResolveInstance" :: innerIds ++ ["gcpdiag_engine.steps.EndStep"]

theorem id_of_typePath {profile : Profile} {id : String} (path : String)
    (named : profile.typePath = path)
    (dotted : String.ofList (TypePath.dotted path.toList) = id) : profile.id = id := by
  rw [Profile.id, named, dotted]

theorem findStep_id (snapshot : Snapshot) :
    (findStep snapshot).profile.id = "gcpdiag.runbooks.gce.ResolveInstance" :=
  id_of_typePath "gcpdiag::runbooks::gce::ResolveInstance" rfl (by decide)

theorem gatewayStep_id (snapshot : Snapshot) :
    (gatewayStep snapshot).profile.id = "gcpdiag.runbooks.gce.VmStatusGateway" :=
  id_of_typePath "gcpdiag::runbooks::gce::VmStatusGateway" rfl (by decide)

theorem runningCheck_id (snapshot : Snapshot) :
    (runningCheck snapshot).profile.id = "gcpdiag_engine.steps.ResourceAttributeCheck" :=
  id_of_typePath "gcpdiag_engine::steps::ResourceAttributeCheck" rfl (by decide)

theorem startTask_id (zone name : String) (subject : Resource) :
    (startTask zone name subject).profile.id = "gcpdiag_engine.steps.HumanTask" :=
  id_of_typePath "gcpdiag_engine::steps::HumanTask" rfl (by decide)

theorem endMark_id : Step.endMark.profile.id = "gcpdiag_engine.steps.EndStep" :=
  id_of_typePath "gcpdiag_engine::steps::EndStep" rfl (by decide)

theorem findStep_outside (snapshot : Snapshot) : (findStep snapshot).profile.id ∉ innerIds := by
  rw [findStep_id]
  decide

/-- The result of a step of the runbook, under an id that tells which one. -/
structure Ours (result : StepResult) : Prop where
  step : result.stepId ∈ stepIds
  executionId : ∃ suffix, result.executionId = result.stepId ++ "." ++ suffix

/-- No step has an id that goes on like that of another one. -/
theorem Ours.same_step {first second : StepResult} (ours : Ours first) (oursToo : Ours second)
    (same : first.executionId = second.executionId) : first.stepId = second.stepId := by
  rcases ours with ⟨step, suffix, executionId⟩
  rcases oursToo with ⟨other, ending, spelled⟩
  have apart : ∀ left ∈ stepIds, ∀ right ∈ stepIds,
      (left ++ ".").toList <+: (right ++ ".").toList → left = right := by
    decide
  rw [executionId, spelled] at same
  have spells := congrArg String.toList same
  rw [String.toList_append, String.toList_append (s := second.stepId ++ ".")] at spells
  have starts : (first.stepId ++ ".").toList <+: (second.stepId ++ ".").toList ++ ending.toList :=
    ⟨suffix.toList, spells⟩
  rcases List.prefix_or_prefix_of_prefix starts (List.prefix_append _ _) with before | after
  · exact apart _ step _ other before
  · exact (apart _ other _ step after).symm

theorem nodup_executionIds {results : List StepResult} (ours : ∀ result ∈ results, Ours result)
    (distinct : (results.map (·.stepId)).Nodup) : (results.map (·.executionId)).Nodup := by
  rw [List.Nodup, List.pairwise_map] at distinct ⊢
  refine distinct.imp_of_mem fun member memberToo different same => different ?_
  exact (ours _ member).same_step (ours _ memberToo) same

theorem ours_of_tells {profile : Profile} {marks : List Mark → Prop} {result : StepResult}
    (tells : result.Tells profile marks) (isOurs : profile.id ∈ stepIds) : Ours result := by
  rcases tells.executionId with ⟨suffix, executionId⟩
  exact ⟨tells.stepId ▸ isOurs, suffix, tells.stepId ▸ executionId⟩

namespace Chosen

variable {results : List StepResult}

theorem ours (chosen : Chosen snapshot context mode parameters results) :
    ∀ result ∈ results, Ours result ∧ result.stepId ∈ innerIds := by
  have inner : ∀ id ∈ innerIds, id ∈ stepIds := by decide
  have belongs {profile : Profile} {marks : List Mark → Prop} {part : List StepResult}
      (tried : Tried mode profile marks part) (isInner : profile.id ∈ innerIds) :
      ∀ result ∈ part, Ours result ∧ result.stepId ∈ innerIds := by
    intro result member
    have tells := tried.each result member
    exact ⟨ours_of_tells tells (inner _ isInner), tells.stepId ▸ isInner⟩
  have isGateway : (gatewayStep snapshot).profile.id ∈ innerIds := by
    rw [gatewayStep_id]
    decide
  have isCheck : (runningCheck snapshot).profile.id ∈ innerIds := by
    rw [runningCheck_id]
    decide
  have isTask (zone name : String) (subject : Resource) :
      (startTask zone name subject).profile.id ∈ innerIds := by
    rw [startTask_id]
    decide
  cases chosen with
  | unresolved _ gateway => exact belongs gateway isGateway
  | unread _ _ gateway => exact belongs gateway isGateway
  | transitional _ _ _ _ gateway => exact belongs gateway isGateway
  | running _ _ _ gateway check =>
      exact List.forall_mem_append.mpr ⟨belongs gateway isGateway, belongs check isCheck⟩
  | stopped _ _ _ gateway check task =>
      exact List.forall_mem_append.mpr ⟨belongs gateway isGateway,
        List.forall_mem_append.mpr ⟨belongs check isCheck, belongs task (isTask _ _ _)⟩⟩

end Chosen

namespace Results

variable {results : List StepResult}

theorem ours (files : Results snapshot context mode parameters results) :
    ∀ result ∈ results, Ours result := by
  rcases files with ⟨starts, checks, ends, rfl, found, chosen, ended⟩
  have isStart : (findStep snapshot).profile.id ∈ stepIds := by
    rw [findStep_id]
    decide
  have isEnd : Step.endMark.profile.id ∈ stepIds := by
    rw [endMark_id]
    decide
  refine List.forall_mem_append.mpr ⟨fun result member => ?_, List.forall_mem_append.mpr
    ⟨fun result member => (chosen.ours result member).1, fun result member => ?_⟩⟩
  · exact ours_of_tells (found.each result member) isStart
  · exact ours_of_tells (ended.each result member) isEnd

/-- The report has a result of every step that was executed. -/
theorem kept {report : Report} {result : StepResult}
    (files : Results snapshot context mode parameters results)
    (filed : report.results = .ofList (results.map StepResult.entry)) (member : result ∈ results) :
    ∃ other ∈ report.stepResults, other ∈ results ∧ other.stepId = result.stepId := by
  rcases kept_of_mem member with ⟨other, inside, sameId⟩
  have isResult := mem_of_mem_ofList inside
  rw [← filed] at inside
  exact ⟨other, inside, isResult, (files.ours other isResult).same_step (files.ours result member)
    sameId⟩

/-- What belongs to the first step, and what belongs to others. -/
theorem starts (files : Results snapshot context mode parameters results) :
    (∃ result ∈ results, result.stepId = (findStep snapshot).profile.id) ∧
      ∀ result ∈ results, result.stepId = (findStep snapshot).profile.id →
        (finding snapshot context).marks parameters result.marks := by
  rcases files with ⟨starts, checks, ends, rfl, found, chosen, ended⟩
  refine ⟨?_, List.forall_mem_append.mpr ⟨fun result member _ => (found.each result member).marks,
    List.forall_mem_append.mpr ⟨?_, ?_⟩⟩⟩
  · rcases List.exists_mem_of_ne_nil _ found.tried with ⟨result, member⟩
    exact ⟨result, List.mem_append_left _ member, (found.each result member).stepId⟩
  · exact fun result member same =>
      absurd (same ▸ (chosen.ours result member).2) (findStep_outside snapshot)
  · intro result member same
    rw [(ended.each result member).stepId, endMark_id, findStep_id] at same
    exact absurd same (by decide)

theorem others (files : Results snapshot context mode parameters results) :
    ∃ checks, Chosen snapshot context mode ((finding snapshot context).writes parameters) checks ∧
      (∀ result ∈ checks, result ∈ results) ∧
      ∀ result ∈ results, result.stepId ≠ (findStep snapshot).profile.id →
        result ∈ checks ∨ result.stepId ∉ innerIds ∧ result.marks = [] := by
  rcases files with ⟨starts, checks, ends, rfl, found, chosen, ended⟩
  refine ⟨checks, chosen, fun result member => List.mem_append_right _
    (List.mem_append_left _ member), List.forall_mem_append.mpr ⟨fun result member other => ?_,
      List.forall_mem_append.mpr ⟨fun result member _ => .inl member, fun result member _ => ?_⟩⟩⟩
  · exact absurd (found.each result member).stepId other
  · refine .inr ⟨?_, (ended.each result member).marks⟩
    rw [(ended.each result member).stepId, endMark_id]
    decide

end Results

/-! ## The report of a run -/

open Engine (withProject contextFor) in
theorem runIn_results {engine : Engine} {request : Request} {id : String} {registered : Registered}
    (found : engine.registry.find request.runbook = .ok (id, registered))
    (isTree : registered.tree = tree snapshot)
    (resolved : specs.resolve (withProject request.context (adapt request.parameters)) =
      .ok parameters)
    (mode : Mode) (surroundings : Surroundings ρ) :
    ∃ run after results, surroundings.exec (engine.runIn mode request) = (.completed run, after) ∧
      Results snapshot (contextFor request.context parameters) mode parameters results ∧
      run.report.parameters = parameters ∧
      run.report.results = .ofList (results.map StepResult.entry) := by
  let setting := engine.settingFor mode request.context id registered.tree parameters
    (surroundings.suffixes surroundings.drawn)
  have declares : setting.specs = specs := congrArg Tree.specs isTree
  rcases from_files ρ engine.settings.retests snapshot declares parameters with ⟨graph, built, started, walks⟩
  have builds : registered.tree.blueprint.build id = ([], .ok (.ok graph)) := by
    rw [isTree]
    exact built id
  have adapted : registered.tree.adapt request.parameters = .ok (adapt request.parameters) := by
    rw [isTree]
    rfl
  have resolves : registered.tree.specs.resolve (withProject request.context
      (adapt request.parameters)) = .ok parameters := by
    rw [isTree]
    exact resolved
  rcases Engine.exec_runIn mode found builds adapted resolves surroundings with
    ⟨prepared, -, runs⟩
  rcases engine.execute_files started walks
    { prepared with drawn := prepared.drawn + 1 } with
    ⟨run, after, results, executes, files, same, filed⟩
  refine ⟨run, after, results, ?_, files, same, filed⟩
  rw [runs, executes]

end VmRunningState

end Triage
