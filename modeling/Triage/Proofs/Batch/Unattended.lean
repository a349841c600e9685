import Triage.Proofs.Batch.Confined
import Triage.Proofs.Run.Silent

namespace Triage

/-! ## Jobs that ask nothing -/

namespace Effect

/-- The report that is changed or taken out of the store. -/
def touched? : Effect → Option String
  | .changeReport runId _ => some runId
  | .finishReport runId _ => some runId
  | _ => none

/-- The report that a run has in the store after an effect. -/
def holds (opened : Option String) : Effect → Option String
  | .createReport report => some report.runId
  | .finishReport _ _ => none
  | _ => opened

/-- A report that comes back is silent. -/
def Returns : (effect : Effect) → effect.Reply → Prop
  | .finishReport _ _, .ok report => report.IsSilent
  | _, _ => True

/-- Has nothing to do with reports in the store, and asks nothing. -/
def IsNeutral (effect : Effect) : Prop :=
  effect.IsSilent ∧ effect.stores = false

variable {effect : Effect}

theorem touched?_of_apart (apart : effect.stores = false) : effect.touched? = none := by
  cases effect with
  | changeReport | finishReport => cases apart
  | _ => rfl

theorem holds_of_apart (apart : effect.stores = false) (opened : Option String) :
    effect.holds opened = opened := by
  cases effect with
  | createReport | finishReport => cases apart
  | _ => rfl

end Effect

namespace Job

variable {α β : Type} {opened : Option String}

/-- A job asks nothing and files only what is silent, in the report that it opened. -/
def Unattended (post : Option String → α → Prop) : Job α → Option String → Prop
  | .done value, opened => post opened value
  | .perform effect next, opened =>
      effect.IsSilent ∧ (∀ runId, effect.touched? = some runId → opened = some runId) ∧
        ∀ reply, effect.Returns reply → (next reply).Unattended post (effect.holds opened)

variable {post weaker : Option String → α → Prop} {last : Option String → β → Prop} {job : Job α}
  {continue_ : α → Job β}

theorem Unattended.bind (first : job.Unattended post opened)
    (rest : ∀ later value, post later value → (continue_ value).Unattended last later) :
    (job >>= continue_).Unattended last opened := by
  induction job generalizing opened with
  | done value => exact rest opened value first
  | perform effect next induction =>
      exact ⟨first.1, first.2.1, fun reply returns => induction reply (first.2.2 reply returns)⟩

theorem Unattended.imp (unattended : job.Unattended post opened)
    (implies : ∀ later value, post later value → weaker later value) :
    job.Unattended weaker opened := by
  induction job generalizing opened with
  | done value => exact implies opened value unattended
  | perform effect next induction =>
      exact ⟨unattended.1, unattended.2.1, fun reply returns =>
        induction reply (unattended.2.2 reply returns)⟩

/-- A job that keeps to the report that was opened. -/
theorem Meets.unattended {admitted : Effect → Prop} {holds : α → Prop}
    (meets : job.Meets admitted holds)
    (admits : ∀ effect, admitted effect → effect.IsSilent ∧
      (∀ runId, effect.touched? = some runId → opened = some runId) ∧
      effect.holds opened = opened) :
    job.Unattended (fun later value => later = opened ∧ holds value) opened := by
  induction job with
  | done value => exact ⟨rfl, meets⟩
  | perform effect next induction =>
      rcases admits effect meets.1 with ⟨silent, own, same⟩
      refine ⟨silent, own, fun reply _ => ?_⟩
      rw [same]
      exact induction reply (meets.2 reply)

theorem Meets.unattended_neutral {holds : α → Prop} (meets : job.Meets Effect.IsNeutral holds) :
    job.Unattended (fun later value => later = opened ∧ holds value) opened := by
  refine meets.unattended fun effect neutral => ⟨neutral.1, fun runId touches => ?_, ?_⟩
  · rw [Effect.touched?_of_apart neutral.2] at touches
    cases touches
  · exact Effect.holds_of_apart neutral.2 opened

/-- An error ends the work at once. -/
theorem Unattended.run_bind {action : Action α} {continue_ : α → Action β}
    {post : Option String → Except RunError α → Prop}
    {last : Option String → Except RunError β → Prop}
    (first : action.run.Unattended post opened)
    (fails : ∀ later error, post later (.error error) → last later (.error error))
    (rest : ∀ later value, post later (.ok value) → (continue_ value).run.Unattended last later) :
    (action >>= continue_).run.Unattended last opened := by
  apply Unattended.bind first
  intro later result holds
  cases result with
  | error error => exact fails later error holds
  | ok value => exact rest later value holds

theorem Unattended.run_lift_bind {job : Job α} {continue_ : α → Action β}
    {last : Option String → Except RunError β → Prop} (first : job.Unattended post opened)
    (rest : ∀ later value, post later value → (continue_ value).run.Unattended last later) :
    (liftM job >>= continue_ : Action β).run.Unattended last opened := by
  have lifted : (liftM job : Action α).run.Unattended
      (fun later result => ∃ value, result = .ok value ∧ post later value) opened :=
    first.bind fun _ value holds => ⟨value, rfl, holds⟩
  refine lifted.run_bind (fun later error holds => ?_) fun later value holds => ?_
  · rcases holds with ⟨value, impossible, -⟩
    cases impossible
  · rcases holds with ⟨value, same, holds⟩
    cases same
    exact rest later value holds

/-- A neutral effect before the rest. -/
theorem unattended_lift_bind {effect : Effect} {continue_ : effect.Reply → Action β}
    {last : Option String → Except RunError β → Prop} (neutral : effect.IsNeutral)
    (rest : ∀ reply, (continue_ reply).run.Unattended last opened) :
    (liftM (Job.effect effect) >>= continue_ : Action β).run.Unattended last opened := by
  have meets : (Job.effect effect).Meets Effect.IsNeutral fun _ => True :=
    Job.meets_effect neutral fun _ => trivial
  refine meets.unattended_neutral.run_lift_bind fun later reply holds => ?_
  rw [holds.1]
  exact rest reply

end Job

namespace Engine

variable {engine : Engine} {setting : Setting} {graph : Graph Step} {name : String}
  {blueprint : Blueprint} {notes : List Json.Node}

/-! ## Runs ask nothing -/

theorem neutral_of_filing {effect : Effect} (filing : effect.IsFiling) : effect.IsNeutral := by
  cases effect with
  | now | log | createDirectory | writeFile | printFallback => exact ⟨trivial, rfl⟩
  | _ => cases filing

theorem walk_unattended (auto : setting.mode.isAuto = true)
    (built : blueprint.build name = (notes, .ok (.ok graph))) (opened : Option String) :
    (engine.walk setting graph).Unattended (fun later _ => later = some setting.runId) opened := by
  have timing : Job.now.Meets Effect.IsNeutral fun _ => True :=
    Job.meets_effect ⟨trivial, rfl⟩ fun _ => trivial
  apply timing.unattended_neutral.bind
  rintro _ moment ⟨rfl, -⟩
  refine ⟨⟨auto, by simp [Report.opened, Report.stepResults]⟩, fun _ touches => ?_, fun _ _ => ?_⟩
  · cases touches
  refine ⟨trivial, fun _ touches => ?_, fun _ _ => ?_⟩
  · cases touches
  have keeps (effect : Effect) (admitted : effect.IsOwn setting ∧ effect.IsSilent) :
      effect.IsSilent ∧
        (∀ runId, effect.touched? = some runId → some setting.runId = some runId) ∧
        effect.holds (some setting.runId) = some setting.runId := by
    rcases admitted with ⟨own, silent⟩
    cases effect with
    | changeReport runId change =>
        have same : runId = setting.runId := own
        refine ⟨silent, fun _ touches => ?_, rfl⟩
        cases touches
        rw [same]
    | freshSuffix | now | notify | log | note | ask =>
        refine ⟨silent, fun _ touches => ?_, rfl⟩
        cases touches
    | _ => cases own
  have through := (through_silent auto built engine.settings.retests).unattended keeps
  exact through.imp fun _ _ holds => holds.1

/-- The report that is returned is silent, and it was taken out of the store. -/
theorem execute_unattended (auto : setting.mode.isAuto = true)
    (built : blueprint.build name = (notes, .ok (.ok graph))) (opened : Option String) :
    (engine.execute setting graph).run.Unattended
      (fun _ result => ∀ run, result = .ok run → run.report.IsSilent) opened := by
  apply (walk_unattended auto built opened).run_lift_bind
  rintro _ ⟨course, error | done⟩ rfl
  · refine Job.unattended_lift_bind ⟨trivial, rfl⟩ fun _ => ?_
    refine Job.unattended_lift_bind ⟨trivial, rfl⟩ fun moment => ?_
    exact ⟨trivial, fun _ touches => touches, fun _ _ => nofun⟩
  · refine Job.Unattended.run_bind (Job.Meets.unattended_neutral
      (printSummary_meets (fun _ => ⟨trivial, rfl⟩) (fun _ => ⟨trivial, rfl⟩) _))
      (fun _ _ _ => nofun) fun _ _ holds => ?_
    rw [holds.1]
    refine Job.unattended_lift_bind ⟨trivial, rfl⟩ fun moment => ?_
    have finishes : (Action.ofReport (Job.finishReport setting.runId moment)).run.Unattended
        (fun _ result => ∀ report, result = .ok report → report.IsSilent) (some setting.runId) := by
      refine ⟨trivial, fun _ touches => touches, fun reply returns => ?_⟩
      cases reply with
      | error error => exact nofun
      | ok report =>
          intro same isReport
          cases isReport
          exact returns
    refine finishes.run_bind (fun _ _ _ => nofun) fun _ report silent => ?_
    refine Job.unattended_lift_bind ⟨trivial, rfl⟩ fun _ => ?_
    have files := (file_meets engine.settings report).mono fun _ => neutral_of_filing
    refine files.unattended_neutral.run_lift_bind fun _ path _ => ?_
    intro run same
    cases same
    exact silent report rfl

end Engine

/-- The report is silent, and in its document every remedy counts as not carried out. -/
structure Completed.IsSilent (run : Completed) : Prop where
  report : run.report.IsSilent
  skipped : ∀ entry ∈ (Document.ofReport run.report).entries, entry.remediationSkipped = true

def RunResult.IsSilent (result : RunResult) : Prop :=
  ∀ run, result = .completed run → run.IsSilent

namespace Engine

variable {engine : Engine}

theorem runIn_unattended (engine : Engine) (request : Request) (opened : Option String) :
    (engine.runIn .auto request).Unattended (fun _ result => result.IsSilent) opened := by
  unfold runIn
  cases engine.registry.find request.runbook with
  | error error => exact nofun
  | ok found =>
      rcases found with ⟨id, registered⟩
      have builds : (build id registered.tree).Meets Effect.IsNeutral
          fun product => product = (registered.tree.blueprint.build id).2 :=
        build_meets (fun _ => ⟨trivial, rfl⟩) id registered.tree
      apply builds.unattended_neutral.bind
      intro later product holds
      rcases holds with ⟨-, built⟩
      rcases product with crash | error | graph
      · exact nofun
      · exact nofun
      have isBuilt : registered.tree.blueprint.build id =
          ((registered.tree.blueprint.build id).1, .ok (.ok graph)) := by rw [built]
      cases registered.tree.adapt request.parameters with
      | error crash => exact nofun
      | ok given =>
          have ran : (engine.runTree .auto request id registered.tree graph given).run.Unattended
              (fun _ result => ∀ run, result = .ok run → run.report.IsSilent) later := by
            refine Job.Unattended.run_bind (Job.Meets.unattended_neutral
              (resolve_meets (fun _ => ⟨trivial, rfl⟩) _ _))
              (fun _ _ _ => nofun) fun _ _ _ => ?_
            refine Job.unattended_lift_bind ⟨trivial, rfl⟩ fun suffix => ?_
            exact execute_unattended rfl isBuilt _
          apply ran.bind
          intro later result silent
          cases result with
          | error error => exact nofun
          | ok run =>
              intro found same
              cases same
              exact ⟨silent run rfl, (silent run rfl).entries_skipped⟩

/-- Nobody is asked in a batch. -/
theorem runShared_unattended (engine : Engine) (request : Request) (opened : Option String) :
    (engine.runShared request).Unattended (fun _ result => result.IsSilent) opened := by
  apply (engine.runIn_unattended request opened).bind
  intro later result silent
  cases result with
  | crashed crash => exact ⟨trivial, nofun, fun _ _ => nofun⟩
  | completed run | failed error => exact silent

theorem runAll_unattended (engine : Engine) (requests : List Request) (opened : Option String) :
    (engine.runAll requests).Unattended (fun _ results => ∀ result ∈ results, result.IsSilent)
      opened := by
  induction requests generalizing opened with
  | nil =>
      intro result member
      cases member
  | cons request rest induction =>
      apply (engine.runShared_unattended request opened).bind
      intro later first silent
      apply (induction later).bind
      intro last others silentOthers result member
      rcases List.mem_cons.mp member with rfl | member
      · exact silent
      · exact silentOthers result member

theorem runBatch_unattended (engine : Engine) (requests : List Request)
    (opened : Option String) :
    (engine.runBatch requests).Unattended (fun _ results => ∀ result ∈ results, result.IsSilent)
      opened := by
  have starts : (do
      Job.log .info "starting batch"
      engine.runAll requests : Job (List RunResult)).Unattended
        (fun _ results => ∀ result ∈ results, result.IsSilent) opened :=
    ⟨trivial, nofun, fun _ _ => engine.runAll_unattended requests opened⟩
  unfold runBatch
  split
  · exact ⟨trivial, nofun, fun _ _ => starts⟩
  · exact starts

end Engine

end Triage
