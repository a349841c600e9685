import Triage.Proofs.Run.Surroundings
import Triage.Run.Engine

namespace Triage

open Surroundings

/-- What filing a report may involve. -/
def Effect.IsFiling : Effect → Prop
  | .now => True
  | .log _ => True
  | .createDirectory _ => True
  | .writeFile _ _ => True
  | .printFallback _ => True
  | _ => False

namespace Engine

/-! ## Filing a report -/

theorem momentOf_meets (report : Report) :
    (momentOf report).Meets Effect.IsFiling fun _ => True := by
  unfold momentOf
  split
  · exact trivial
  · exact Job.meets_effect trivial fun _ => trivial

theorem writeReport_meets (report : Report) (directory : String) :
    (writeReport report directory).Meets Effect.IsFiling fun _ => True := by
  unfold writeReport
  apply Job.Meets.bind (Job.meets_effect trivial fun _ => trivial)
  intro made _
  cases made with
  | error error => exact trivial
  | ok done =>
      apply Job.Meets.bind (momentOf_meets report)
      intro moment _
      apply Job.Meets.bind (Job.meets_effect trivial fun _ => trivial)
      intro written _
      cases written with
      | error error => exact trivial
      | ok done =>
          exact Job.Meets.bind (Job.meets_effect trivial fun _ => trivial) fun _ _ => trivial

theorem printInstead_meets (report : Report) :
    (printInstead report).Meets Effect.IsFiling fun _ => True := by
  unfold printInstead
  apply Job.Meets.bind (Job.meets_effect trivial fun _ => trivial)
  intro _ _
  apply Job.Meets.bind (Job.meets_effect trivial fun _ => trivial)
  intro printed _
  cases printed with
  | ok done => exact trivial
  | error error =>
      exact Job.Meets.bind (Job.meets_effect trivial fun _ => trivial) fun _ _ => trivial

theorem persist_meets (report : Report) (directory : String) :
    (persist report directory).Meets Effect.IsFiling fun _ => True := by
  unfold persist
  apply Job.Meets.bind (writeReport_meets report directory)
  intro written _
  cases written with
  | ok path => exact trivial
  | error error => exact printInstead_meets report

theorem file_meets (settings : Settings) (report : Report) :
    (file settings report).Meets Effect.IsFiling fun _ => True := by
  unfold file
  split
  · split
    · exact persist_meets report _
    · exact trivial
  · exact trivial

/-! ## Before the first step and after the last -/

theorem build_meets {admitted : Effect → Prop} (note : ∀ entry, admitted (.note entry))
    (id : String) (tree : Tree) :
    (build id tree).Meets admitted fun product => product = (tree.blueprint.build id).2 := by
  rcases built : tree.blueprint.build id with ⟨notes, product⟩
  have remarks : (Job.all (notes.map fun entry => Job.note entry)).Meets admitted
      fun _ => True := by
    apply Job.meets_all
    intro job member
    rcases List.mem_map.mp member with ⟨entry, -, rfl⟩
    exact Job.meets_effect (note entry) fun _ => trivial
  unfold build
  rw [built]
  exact remarks.bind fun _ _ => rfl

theorem resolve_meets {admitted : Effect → Prop} (log : ∀ line, admitted (.log line))
    (specs : Specs) (given : Parameters) :
    Action.Meets admitted (fun _ => True) (resolve specs given) := by
  have remarks : (Job.all (List.replicate (specs.remarks given)
      (Job.log .warn "parameter is deprecated or not declared"))).Meets admitted
      fun _ => True := by
    apply Job.meets_all
    intro job member
    rw [List.eq_of_mem_replicate member]
    exact Job.meets_effect (log _) fun _ => trivial
  exact (Action.meets_lift remarks).bind fun _ _ => Action.meets_except fun _ _ => trivial

theorem printSummary_meets {admitted : Effect → Prop} (totals : ∀ runId, admitted (.totals runId))
    (notify : ∀ notice, admitted (.notify notice)) (operator : Operator Profile) :
    Action.Meets admitted (fun _ => True) operator.printSummary := by
  have totalled : Action.Meets admitted (fun _ => True)
      (Action.ofReport (Job.totals operator.runId)) := by
    refine Job.Meets.bind (Job.meets_effect (totals _) fun _ => trivial) fun totals _ => ?_
    cases totals with
    | error error => exact Action.meets_throw _
    | ok totals => exact Action.meets_pure trivial
  exact totalled.bind fun _ _ =>
    Action.meets_lift (Job.meets_effect (notify _) fun _ => trivial)

variable {ρ : Type} [Renderer ρ] {surroundings : Surroundings ρ}

theorem quiet_filing {α : Type} {job : Job α} {post : α → Prop}
    (meets : job.Meets Effect.IsFiling post) (surroundings : Surroundings ρ) :
    Quiet surroundings [] (surroundings.exec job).2 := by
  have keeps (effect : Effect) (state : Surroundings ρ) (filing : effect.IsFiling)
      (quiet : Quiet surroundings [] state) :
      Quiet surroundings [] (handle effect state).2 := by
    have later : Quiet state [] (handle effect state).2 := by
      cases effect with
      | now => exact ⟨rfl, .refl _⟩
      | log line => exact ⟨rfl, .logged _ _⟩
      | createDirectory path =>
          simp only [handle, Surroundings.settle]
          split <;> exact ⟨rfl, .refl _⟩
      | writeFile path text =>
          simp only [handle, Surroundings.settle]
          split <;> exact ⟨rfl, .refl _⟩
      | printFallback text =>
          simp only [handle, Surroundings.settle]
          split <;> exact ⟨rfl, .refl _⟩
      | _ => cases filing
    simpa using quiet.trans later
  exact (meets.exec keeps .refl).2

/-! ## From the first step to the report -/

variable {engine : Engine} {setting : Setting} {graph : Graph Step}

theorem exec_ofReport {α : Type} {job : Job (Except ReportError α)} {value : α}
    {after : Surroundings ρ} (ends : surroundings.exec job = (.ok value, after)) :
    surroundings.exec (Action.ofReport job).run = (.ok value, after) := by
  apply (exec_bind job _ surroundings).trans
  rw [ends]
  rfl

theorem exec_totals {runId : String} {report : Report}
    (known : surroundings.own runId = some report) :
    surroundings.exec (Job.totals runId) = (.ok report.totals, surroundings) := by
  have stored : surroundings.reports.get? runId = some report := known
  have handled : surroundings.exec (Job.totals runId) =
      (surroundings.reports.totals runId, surroundings) := rfl
  rw [handled, ReportStore.totals, ReportStore.report, stored]
  rfl

theorem exec_finishReport {runId : String} {report : Report}
    (known : surroundings.own runId = some report) (moment : Instant) :
    surroundings.exec (Job.finishReport runId moment) =
      (.ok { report with finishedAt := some moment },
        { surroundings with reports := surroundings.reports.erase runId }) := by
  have stored : surroundings.reports.get? runId = some report := known
  have handled : surroundings.exec (Job.finishReport runId moment) =
      handle (.finishReport runId moment) surroundings := rfl
  rw [handled]
  simp only [handle, ReportStore.finish, ReportStore.report, stored]
  rfl

/-- The summary shows the totals of the report as it is. -/
theorem exec_printSummary {operator : Operator Profile} {report : Report}
    (known : surroundings.own operator.setting.runId = some report) :
    ∃ after, surroundings.exec operator.printSummary.run = (.ok (), after) ∧
      Quiet surroundings [.shown (.summary operator.setting.runbook report.totals)] after := by
  let summary := Notice.summary operator.setting.runbook report.totals
  rcases showing : surroundings.exec (Job.notify summary) with ⟨_, shown⟩
  refine ⟨shown, ?_, .notify showing⟩
  simp only [Operator.printSummary, exec_run_bind, Operator.runId]
  rw [exec_ofReport (exec_totals known)]
  simp only [exec_run_lift]
  rw [showing]

/-- A run opens its report before it starts to walk. -/
theorem exec_walk (engine : Engine) (setting : Setting) (graph : Graph Step)
    (surroundings : Surroundings ρ) :
    ∃ (moment : Instant) (opened : Surroundings ρ),
      surroundings.exec (engine.walk setting graph) =
        opened.exec (Walk.through setting engine.settings.retests graph) ∧
      opened.reports = surroundings.reports.insert setting.runId (.opened setting.runId
        setting.runbook setting.context.parameters setting.mode moment) ∧
      Renderer.Shows surroundings.renderer [] opened.renderer := by
  rcases timing : surroundings.exec Job.now with ⟨moment, timed⟩
  have quiet := Quiet.now timing
  let report : Report :=
    .opened setting.runId setting.runbook setting.context.parameters setting.mode moment
  rcases creating : timed.exec (Job.createReport report) with ⟨_, created⟩
  rcases logging : created.exec (Job.log .info "starting runbook") with ⟨_, opened⟩
  have logged := Quiet.log logging
  refine ⟨moment, opened, ?_, ?_, ?_⟩
  · simp only [walk, exec_bind, timing]
    rw [creating, logging]
  · cases creating
    rw [logged.reports, ← quiet.reports]
    rfl
  · cases creating
    simpa using quiet.shows.trans logged.shows

/-- The report is taken out of the store, whether or not the run came to its end. -/
theorem exec_execute {course : Course} {result : Except RunError Unit} {final : Surroundings ρ}
    {report : Report}
    (walked : surroundings.exec (engine.walk setting graph) = ((course, result), final))
    (own : final.own setting.runId = some report) :
    ∃ (moment : Instant) (after : Surroundings ρ),
      after.reports = final.reports.erase setting.runId ∧
      match result with
      | .error error =>
          surroundings.exec (engine.execute setting graph).run = (.error error, after) ∧
            Renderer.Shows final.renderer [] after.renderer ∧
            after.disk = final.disk ∧ after.fallback = final.fallback
      | .ok () =>
          ∃ path, surroundings.exec (engine.execute setting graph).run =
              (.ok ⟨{ report with finishedAt := some moment }, path⟩, after) ∧
            Renderer.Shows final.renderer
              [.shown (.summary setting.runbook report.totals)] after.renderer := by
  have lifted : (ExceptT.lift (engine.walk setting graph) : Action (Progress Unit)) =
      liftM (engine.walk setting graph) := rfl
  unfold execute
  simp only [lifted, exec_run_bind, exec_run_lift, walked]
  cases result with
  | error error =>
      rcases logging : final.exec (Job.log .error "runbook aborted") with ⟨_, logged⟩
      have quiet := Quiet.log logging
      rcases timing : logged.exec Job.now with ⟨moment, timed⟩
      have quietly := quiet.trans (.now timing)
      refine ⟨moment, { timed with reports := timed.reports.erase setting.runId }, ?_, ?_,
        quietly.shows, ?_⟩
      · rw [quietly.reports]
      · simp only [exec_run_bind, exec_run_lift, logging, timing,
          exec_finishReport (quietly.own.trans own), exec_run_throw]
      · cases logging
        cases timing
        exact ⟨rfl, rfl⟩
  | ok done =>
      have summarizes : final.own (Operator.opened setting : Operator Profile).setting.runId =
          some report := own
      rcases exec_printSummary summarizes with ⟨shown, summarized, told⟩
      rcases timing : shown.exec Job.now with ⟨moment, timed⟩
      have quietly := told.trans (.now timing)
      let past : Surroundings ρ := { timed with reports := timed.reports.erase setting.runId }
      rcases logging : past.exec (Job.log .info "runbook finished") with ⟨_, logged⟩
      have quiet := Quiet.log logging
      let finished : Report := { report with finishedAt := some moment }
      have filed := quiet_filing (file_meets engine.settings finished) logged
      rcases filing : logged.exec (file engine.settings finished) with ⟨path, after⟩
      rw [filing] at filed
      refine ⟨moment, after, ?_, path, ?_, ?_⟩
      · rw [filed.reports, quiet.reports]
        show timed.reports.erase setting.runId = _
        rw [quietly.reports]
      · have finishes := exec_ofReport (exec_finishReport (quietly.own.trans own) moment)
        simp only [exec_run_bind, summarized, exec_run_lift, timing, finishes]
        rw [logging]
        simp only [filing, exec_run_pure, finished]
      · simpa [Operator.opened] using quietly.shows.trans (quiet.shows.trans filed.shows)

/-! ## Getting to the first step -/

theorem exec_build (id : String) (tree : Tree) (surroundings : Surroundings ρ) :
    ∃ later, surroundings.exec (build id tree) = ((tree.blueprint.build id).2, later) ∧
      surroundings.Untouched later := by
  rcases built : tree.blueprint.build id with ⟨notes, product⟩
  refine ⟨(surroundings.exec (Job.all (notes.map fun entry => Job.note entry))).2, ?_, ?_⟩
  · simp only [build, built, exec_bind, exec_pure]
  · refine Untouched.all (fun job member state => ?_) surroundings
    rcases List.mem_map.mp member with ⟨entry, -, rfl⟩
    exact .note rfl

theorem exec_resolve (specs : Specs) (given : Parameters) (surroundings : Surroundings ρ) :
    ∃ later, surroundings.exec (resolve specs given).run = (specs.resolve given, later) ∧
      surroundings.Untouched later := by
  let remarks := Job.all (List.replicate (specs.remarks given)
    (Job.log .warn "parameter is deprecated or not declared"))
  refine ⟨(surroundings.exec remarks).2, ?_, ?_⟩
  · simp only [resolve, exec_run_bind, exec_run_lift, exec_run_except, remarks]
  · refine Untouched.all (fun job member state => ?_) surroundings
    rw [List.eq_of_mem_replicate member]
    exact .log rfl

/-- What the steps of a run see whose parameters were settled. -/
def settingFor (engine : Engine) (mode : Mode) (context : Context) (id : String) (tree : Tree)
    (parameters : Parameters) (suffix : String) : Setting where
  runId := runId id suffix
  runbook := id
  mode := mode
  context := contextFor context parameters
  specs := tree.specs
  catalog := engine.catalog

theorem exec_runIn (mode : Mode) {request : Request} {id : String} {registered : Registered}
    {notes : List Json.Node} {graph : Graph Step} {given parameters : Parameters}
    (found : engine.registry.find request.runbook = .ok (id, registered))
    (built : registered.tree.blueprint.build id = (notes, .ok (.ok graph)))
    (adapted : registered.tree.adapt request.parameters = .ok given)
    (resolved : registered.tree.specs.resolve (withProject request.context given) = .ok parameters)
    (surroundings : Surroundings ρ) :
    ∃ prepared, surroundings.Untouched prepared ∧
      surroundings.exec (engine.runIn mode request) =
        match Surroundings.exec (engine.execute (engine.settingFor mode request.context id
            registered.tree parameters (surroundings.suffixes surroundings.drawn)) graph).run
          { prepared with drawn := prepared.drawn + 1 } with
        | (.ok run, after) => (.completed run, after)
        | (.error error, after) => (.failed error, after) := by
  rcases exec_build id registered.tree surroundings with ⟨planted, builds, noted⟩
  rcases exec_resolve registered.tree.specs (withProject request.context given) planted with
    ⟨prepared, resolves, warned⟩
  have untouched := noted.trans warned
  have sameSuffix : prepared.suffixes prepared.drawn =
      surroundings.suffixes surroundings.drawn := by
    rcases untouched with ⟨renderer, journal, -, rfl⟩
    rfl
  rcases drawing : prepared.exec Job.freshSuffix with ⟨suffix, drawn⟩
  have runs : surroundings.exec (engine.runIn mode request) =
      match drawn.exec (engine.execute (engine.settingFor mode request.context id registered.tree
        parameters suffix) graph).run with
      | (.ok run, after) => (.completed run, after)
      | (.error error, after) => (.failed error, after) := by
    simp only [runIn, found, exec_bind, builds, built, adapted, runTree, exec_run_bind, resolves,
      resolved, exec_run_lift, drawing, settingFor]
    rcases drawn.exec (engine.execute _ graph).run with ⟨error | run, after⟩ <;> rfl
  cases drawing
  rw [sameSuffix] at runs
  exact ⟨prepared, untouched, runs⟩

/-- Why a run is refused: nothing is registered under the name, or the tree cannot be built,
or its parameters cannot be settled. -/
inductive Refuses (engine : Engine) (request : Request) : RunError → Prop
  | unknown {error : RunError} (unknown : engine.registry.find request.runbook = .error error) :
      Refuses engine request error
  | unbuilt {error : RunError} {id : String} {registered : Registered} {notes : List Json.Node}
      (found : engine.registry.find request.runbook = .ok (id, registered))
      (built : registered.tree.blueprint.build id = (notes, .ok (.error error))) :
      Refuses engine request error
  | unresolved {error : RunError} {id : String} {registered : Registered}
      {notes : List Json.Node} {graph : Graph Step} {given : Parameters}
      (found : engine.registry.find request.runbook = .ok (id, registered))
      (built : registered.tree.blueprint.build id = (notes, .ok (.ok graph)))
      (adapted : registered.tree.adapt request.parameters = .ok given)
      (resolved : registered.tree.specs.resolve (withProject request.context given) =
        .error error) :
      Refuses engine request error

/-- A run of this tree begins, with what its steps see. -/
structure Admits (engine : Engine) (mode : Mode) (request : Request) (suffix : String)
    (registered : Registered) (graph : Graph Step) (setting : Setting) : Prop where
  found : engine.registry.find request.runbook = .ok (setting.runbook, registered)
  built : ∃ notes, registered.tree.blueprint.build setting.runbook = (notes, .ok (.ok graph))
  resolved : ∃ given parameters, registered.tree.adapt request.parameters = .ok given ∧
    registered.tree.specs.resolve (withProject request.context given) = .ok parameters ∧
    setting.context = contextFor request.context parameters
  mode : setting.mode = mode
  runId : setting.runId = Engine.runId setting.runbook suffix

/-- How a run begins, or why it does not. -/
inductive Admission (engine : Engine) (mode : Mode) (request : Request)
    (surroundings : Surroundings ρ) : Prop
  | refused {error : RunError} {later : Surroundings ρ} (refuses : engine.Refuses request error)
      (runs : surroundings.exec (engine.runIn mode request) = (.failed error, later))
      (untouched : surroundings.Untouched later)
  | crashed {message : Crash} {later : Surroundings ρ}
      (runs : surroundings.exec (engine.runIn mode request) = (.crashed message, later))
      (untouched : surroundings.Untouched later)
  | admitted {registered : Registered} {graph : Graph Step} {setting : Setting}
      {prepared : Surroundings ρ}
      (admits : engine.Admits mode request (surroundings.suffixes surroundings.drawn) registered
        graph setting)
      (untouched : surroundings.Untouched prepared)
      (runs : surroundings.exec (engine.runIn mode request) =
        match Surroundings.exec (engine.execute setting graph).run
          { prepared with drawn := prepared.drawn + 1 } with
        | (.ok run, after) => (.completed run, after)
        | (.error error, after) => (.failed error, after))

theorem admission (engine : Engine) (mode : Mode) (request : Request)
    (surroundings : Surroundings ρ) : Admission engine mode request surroundings := by
  rcases found : engine.registry.find request.runbook with error | ⟨id, registered⟩
  · have runs : surroundings.exec (engine.runIn mode request) = (.failed error, surroundings) := by
      simp only [runIn, found, exec_pure]
    exact .refused (.unknown found) runs .refl
  rcases exec_build id registered.tree surroundings with ⟨planted, builds, noted⟩
  rcases built : registered.tree.blueprint.build id with ⟨notes, crash | error | graph⟩
  · have runs : surroundings.exec (engine.runIn mode request) = (.crashed crash, planted) := by
      simp only [runIn, found, exec_bind, builds, built, exec_pure]
    exact .crashed runs noted
  · have runs : surroundings.exec (engine.runIn mode request) = (.failed error, planted) := by
      simp only [runIn, found, exec_bind, builds, built, exec_pure]
    exact .refused (.unbuilt found built) runs noted
  cases adapted : registered.tree.adapt request.parameters with
  | error message =>
      have runs : surroundings.exec (engine.runIn mode request) = (.crashed message, planted) := by
        simp only [runIn, found, exec_bind, builds, built, adapted, exec_pure]
      exact .crashed runs noted
  | ok given =>
      rcases exec_resolve registered.tree.specs (withProject request.context given) planted with
        ⟨prepared, resolves, warned⟩
      have untouched := noted.trans warned
      cases resolved : registered.tree.specs.resolve (withProject request.context given) with
      | error error =>
          have runs : surroundings.exec (engine.runIn mode request) = (.failed error, prepared) := by
            simp only [runIn, found, exec_bind, builds, built, adapted, runTree, exec_run_bind,
              resolves, resolved, exec_pure]
          exact .refused (.unresolved found built adapted resolved) runs untouched
      | ok parameters =>
          rcases exec_runIn mode found built adapted resolved surroundings with
            ⟨ready, untouched, runs⟩
          exact .admitted ⟨found, ⟨notes, built⟩, ⟨given, parameters, adapted, resolved, rfl⟩, rfl,
            rfl⟩ untouched runs

/-- A run that is refused shows nothing; any other one comes to its first step. -/
inductive Beginning (engine : Engine) (mode : Mode) (request : Request)
    (surroundings : Surroundings ρ) : Prop
  | refused {result : RunResult} {later : Surroundings ρ}
      (runs : surroundings.exec (engine.runIn mode request) = (result, later))
      (incomplete : ∀ run, result ≠ .completed run) (quiet : Quiet surroundings [] later)
  | begun {id : String} {registered : Registered} {notes : List Json.Node} {graph : Graph Step}
      {setting : Setting} {later : Surroundings ρ}
      (found : engine.registry.find request.runbook = .ok (id, registered))
      (built : registered.tree.blueprint.build id = (notes, .ok (.ok graph)))
      (runbook : setting.runbook = id) (mode_eq : setting.mode = mode)
      (quiet : Quiet surroundings [] later)
      (runs : surroundings.exec (engine.runIn mode request) =
        match later.exec (engine.execute setting graph).run with
        | (.ok run, after) => (.completed run, after)
        | (.error error, after) => (.failed error, after))

theorem beginning (engine : Engine) (mode : Mode) (request : Request)
    (surroundings : Surroundings ρ) : Beginning engine mode request surroundings := by
  cases engine.admission mode request surroundings with
  | refused _ runs untouched => exact .refused runs (by simp) untouched.quiet
  | crashed runs untouched => exact .refused runs (by simp) untouched.quiet
  | admitted admits untouched runs =>
      rcases admits.built with ⟨notes, built⟩
      have quiet := untouched.quiet.trans (.freshSuffix rfl)
      exact .begun admits.found built rfl admits.mode quiet runs

end Engine

end Triage
