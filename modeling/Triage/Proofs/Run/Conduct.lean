import Triage.Proofs.Run.Asks
import Triage.Proofs.Run.Order

namespace Triage

open Surroundings Walk

/-! ## What a step comes to -/

/-- What an evaluation says, and of which resource. -/
abbrev Mark := Status × Option Resource

def Evaluation.mark (evaluation : Evaluation) : Mark :=
  (evaluation.status, evaluation.resource)

def StepResult.marks (result : StepResult) : List Mark :=
  result.evaluations.map Evaluation.mark

/-- What the parameters make of a step. -/
structure Conduct where
  /-- The parameters after it. -/
  writes : Parameters → Parameters
  /-- What it may record. -/
  marks : Parameters → List Mark → Prop
  queues : Parameters → List Step

/-- Closed after an execution of the step that recorded such marks. -/
structure StepResult.Tells (profile : Profile) (marks : List Mark → Prop) (result : StepResult) :
    Prop where
  stepId : result.stepId = profile.id
  executionId : ∃ suffix, result.executionId = profile.id ++ "." ++ suffix
  marks : marks result.marks

/-- The executions of a step that was visited: one of them where nobody can ask for another. -/
structure Tried (mode : Mode) (profile : Profile) (marks : List Mark → Prop)
    (results : List StepResult) : Prop where
  tried : results ≠ []
  each : ∀ result ∈ results, result.Tells profile marks
  once : mode.isAuto = true → results.length = 1

theorem Tried.single {mode : Mode} {profile : Profile} {marks : List Mark → Prop}
    {results : List StepResult} (tried : Tried mode profile marks results)
    (auto : mode.isAuto = true) : ∃ result, results = [result] ∧ result.Tells profile marks := by
  rcases List.length_eq_one_iff.mp (tried.once auto) with ⟨result, rfl⟩
  exact ⟨result, rfl, tried.each result List.mem_cons_self⟩

/-- Results in two parts, or in several. -/
def Then (first second : List StepResult → Prop) (results : List StepResult) : Prop :=
  ∃ front back, results = front ++ back ∧ first front ∧ second back

def InTurn : List (List StepResult → Prop) → List StepResult → Prop
  | [] => (· = [])
  | first :: rest => Then first (InTurn rest)

def Report.withResults (report : Report) (results : List StepResult) : Report :=
  results.foldl (fun report result => report.withResult result.executionId result) report

theorem Report.withResults_append {report : Report} {front back : List StepResult} :
    report.withResults (front ++ back) = (report.withResults front).withResults back :=
  List.foldl_append

def StepResult.entry (result : StepResult) : String × StepResult :=
  (result.executionId, result)

theorem Report.withResults_eq {report : Report} {results : List StepResult} :
    report.withResults results =
      { report with results := report.results.extend (results.map StepResult.entry) } := by
  induction results generalizing report with
  | nil => rfl
  | cons result rest induction =>
      rw [withResults, List.foldl_cons, ← withResults, induction]
      rfl

section

variable {results : List StepResult} {result : StepResult} {report : Report}

/-- Only what was filed is kept, under each id the last of it. -/
theorem mem_of_mem_ofList
    (member : result ∈ (Entries.ofList (results.map StepResult.entry)).map (·.2)) :
    result ∈ results := by
  rcases List.mem_map.mp member with ⟨⟨id, held⟩, kept, rfl⟩
  have found := Entries.get?_of_mem (Entries.nodup_keys_ofList _) kept
  rw [Entries.get?_ofList] at found
  have filed := List.mem_reverse.mp (Entries.mem_of_get? found)
  rcases List.mem_map.mp filed with ⟨other, isFiled, same⟩
  cases same
  exact isFiled

theorem mem_of_stepResults (filed : report.results = .ofList (results.map StepResult.entry))
    (member : result ∈ report.stepResults) : result ∈ results := by
  rw [Report.stepResults, filed] at member
  exact mem_of_mem_ofList member

theorem kept_of_mem (member : result ∈ results) :
    ∃ kept ∈ (Entries.ofList (results.map StepResult.entry)).map (·.2),
      kept.executionId = result.executionId := by
  have named : result.executionId ∈ Entries.keys (results.map StepResult.entry).reverse := by
    refine List.mem_map.mpr ⟨result.entry, ?_, rfl⟩
    exact List.mem_reverse.mpr (List.mem_map_of_mem member)
  rcases Entries.mem_keys_iff.mp named with ⟨kept, found⟩
  have filed := List.mem_reverse.mp (Entries.mem_of_get? found)
  rcases List.mem_map.mp filed with ⟨other, -, same⟩
  rw [← Entries.get?_ofList] at found
  refine ⟨kept, List.mem_map.mpr ⟨_, Entries.mem_of_get? found, rfl⟩, ?_⟩
  obtain ⟨sameId, rfl⟩ := Prod.mk.inj same
  exact sameId

theorem ofList_of_distinct (distinct : (results.map (·.executionId)).Nodup) :
    (Entries.ofList (results.map StepResult.entry)).map (·.2) = results := by
  have keys : Entries.keys (results.map StepResult.entry) = results.map (·.executionId) := by
    rw [Entries.keys, List.map_map]
    rfl
  rw [Entries.ofList_of_nodup (by rwa [keys]), List.map_map]
  exact List.map_id _

/-- What a report says, in the order in which it was recorded. -/
theorem marks_of_distinct (filed : report.results = .ofList (results.map StepResult.entry))
    (distinct : (results.map (·.executionId)).Nodup) :
    report.evaluations.map (fun entry => (entry.2.status, entry.2.resource)) =
      results.flatMap StepResult.marks := by
  rw [Report.evaluations, Report.stepResults, filed, ofList_of_distinct distinct, List.map_flatMap]
  simp only [List.map_map]
  rfl

end

variable {ρ : Type} [Renderer ρ] {setting : Setting} {retests : Nat} {conduct : Conduct}

namespace Conduct

/-- What is done by a step that found these parameters. Only a person asks for another
execution, and the next one finds the same. -/
structure Met (conduct : Conduct) (setting : Setting) (retests : Nat) (start : Parameters)
    (draft : Draft) : Prop where
  parameters : draft.parameters = conduct.writes start
  marks : conduct.marks start (draft.evaluations.map Evaluation.mark)
  children : draft.frame.children = (conduct.queues start).map (plan setting retests)
  repeats : draft.frame.retestRequested = true →
    setting.mode.isAuto = false ∧ conduct.writes start = start

end Conduct

/-- The body does this whenever it is executed. -/
def Body.Conducts (ρ : Type) [Renderer ρ] (setting : Setting) (retests : Nat) (conduct : Conduct)
    (body : Body) : Prop :=
  ∀ draft : Draft, draft.evaluations = [] → draft.frame.IsFresh →
    body.Yields ρ setting retests draft (conduct.Met setting retests draft.parameters)

/-- The walk comes to its end, and these are the results it leaves. -/
def Walk.Files (ρ : Type) [Renderer ρ] (setting : Setting) (start : Parameters)
    (files : List StepResult → Prop) (last : Parameters) (walk : Walk) : Prop :=
  ∀ (course : Course) (surroundings : Surroundings ρ) (report : Report),
    course.parameters = start → surroundings.own setting.runId = some report →
      ∃ results later after, surroundings.exec (walk course) = ((later, .ok ()), after) ∧
        after.own setting.runId = some (report.withResults results) ∧ files results ∧
        later.parameters = last

namespace Walk

variable {start middle last : Parameters} {files more : List StepResult → Prop} {report : Report}
  {surroundings : Surroundings ρ} {executions : Nat → Body} {profile : Profile} {node : NodeId}

/-! ## The executions of a step -/

/-- One execution files what it recorded, and leaves its frame. -/
theorem attempt_conducts {body : Body} (conducts : body.Conducts ρ setting retests conduct)
    (node : NodeId) (profile : Profile) (left : Nat) {course : Course}
    (known : surroundings.own setting.runId = some report) :
    ∃ draft result later after,
      surroundings.exec (attempt setting node profile (play setting retests body) left course) =
        ((later, .ok (some draft.frame)), after) ∧
      after.own setting.runId = some (report.withResult result.executionId result) ∧
      result.Tells profile (conduct.marks course.parameters) ∧
      conduct.Met setting retests course.parameters draft ∧
      later.parameters = draft.parameters := by
  have asks (draft : Draft) (same : draft.parameters = course.parameters)
      (empty : draft.evaluations = []) (fresh : draft.frame.IsFresh)
      (_ : draft.frame.retestsLeft = left) : body.Asks ρ setting retests draft
        fun last _ => conduct.Met setting retests course.parameters last :=
    same ▸ (conducts draft empty fresh).asks
  rcases Occasion.completed ⟨node, profile, body, left, course, surroundings⟩ asks known with
    ⟨draft, result, later, after, completed, met⟩
  refine ⟨draft, result, later, after, completed.outcome, completed.own,
    ⟨completed.stepId, completed.executionId, ?_⟩, met, completed.parameters⟩
  rw [StepResult.marks, completed.evaluations]
  exact met.marks

/-- The executions of a step, up to one that is not to be repeated. -/
theorem attempts_conducts
    (conducts : ∀ index, (executions index).Conducts ρ setting retests conduct)
    (node : NodeId) (profile : Profile) (done left : Nat) (course : Course)
    (known : surroundings.own setting.runId = some report) :
    ∃ results later after,
      surroundings.exec (attempts setting node profile
        (fun index => play setting retests (executions index)) done left course) =
        ((later, .ok (some ((conduct.queues course.parameters).map (plan setting retests)))),
          after) ∧
      after.own setting.runId = some (report.withResults results) ∧
      Tried setting.mode profile (conduct.marks course.parameters) results ∧
      later.parameters = conduct.writes course.parameters := by
  let plays (index : Nat) : Execution := play setting retests (executions index)
  -- On the count of executions that may follow, as the loop counts it down.
  induction left generalizing done course surroundings report with
  | zero =>
      rcases attempt_conducts (conducts done) node profile 0 known with
        ⟨draft, result, later, after, attempted, own, tells, met, same⟩
      have ends := (attempts_last plays done attempted (.inl rfl)).1
      rw [met.children] at ends
      exact ⟨[result], later, after, ends, own, ⟨by simp, by simpa using tells, fun _ => rfl⟩,
        same.trans met.parameters⟩
  | succ left induction =>
      rcases attempt_conducts (conducts done) node profile (left + 1) known with
        ⟨draft, result, later, after, attempted, own, tells, met, same⟩
      have writes := same.trans met.parameters
      cases again : draft.frame.retestRequested with
      | false =>
          have ends := (attempts_last plays done attempted (.inr again)).1
          rw [met.children] at ends
          exact ⟨[result], later, after, ends, own, ⟨by simp, by simpa using tells, fun _ => rfl⟩,
            writes⟩
      | true =>
          rcases met.repeats again with ⟨interactive, spares⟩
          have unchanged : later.parameters = course.parameters := writes.trans spares
          rcases logging : after.exec (Job.log .info "retesting step") with ⟨_, logged⟩
          rcases induction (done + 1) later ((Quiet.log logging).own.trans own) with
            ⟨results, ended, past, others, filed, tried, written⟩
          rw [unchanged] at others tried written
          have goesOn := (attempts_again plays done attempted again logging).1
          refine ⟨result :: results, ended, past, goesOn.trans others, filed,
            ⟨by simp, ?_, ?_⟩, written⟩
          · exact List.forall_mem_cons.mpr ⟨tells, tried.each⟩
          · simp [interactive]

/-! ## Walks that file results -/

theorem files_stay : Files ρ setting start (InTurn []) start stay :=
  fun course surroundings _ same known =>
    ⟨[], course, surroundings, exec_pure _ _, known, rfl, same⟩

theorem files_followedBy {first second : Walk}
    (firstFiles : Files ρ setting start files middle first)
    (secondFiles : Files ρ setting middle more last second) :
    Files ρ setting start (Then files more) last (first.followedBy second) := by
  intro course surroundings report same known
  rcases firstFiles course surroundings report same known with
    ⟨front, between, past, walked, own, filed, left⟩
  rcases secondFiles between past _ left own with ⟨back, later, after, goesOn, ownToo, also, ends⟩
  refine ⟨front ++ back, later, after, ?_, ?_, ⟨front, back, rfl, filed, also⟩, ends⟩
  · rw [followedBy, exec_andThen, walked]
    exact goesOn
  · rw [Report.withResults_append]
    exact ownToo

theorem Files.imp {walk : Walk} (walks : Files ρ setting start files last walk)
    (implies : ∀ results, files results → more results) :
    Files ρ setting start more last walk := by
  intro course surroundings report same known
  rcases walks course surroundings report same known with
    ⟨results, later, after, walked, own, filed, ends⟩
  exact ⟨results, later, after, walked, own, implies results filed, ends⟩

theorem files_queued {steps : List Step} {each : List (List StepResult → Prop)}
    (filing : List.Forall₂ (fun (step : Step) files => ∀ id,
      Files ρ setting start files start ((plan setting retests step).walk id)) steps each)
    (graph : Graph Profile) (node : NodeId) :
    Files ρ setting start (InTurn each) start
      (all (attachAll graph node (steps.map (plan setting retests))).2) := by
  induction filing generalizing graph with
  | nil => exact files_stay
  | cons first _ induction => exact files_followedBy (first _) (induction _)

/-- A step, and what is walked below it. -/
theorem files_step (conducts : ∀ index, (executions index).Conducts ρ setting retests conduct)
    {before after : Walk} (beforeFiles : Files ρ setting (conduct.writes start) files middle before)
    (below : ∀ graph : Graph Profile, Files ρ setting middle more last
      ((all (attachAll graph node ((conduct.queues start).map (plan setting retests))).2).followedBy
        after)) :
    Files ρ setting start
      (Then (Tried setting.mode profile (conduct.marks start)) (Then files more)) last
      (step setting retests profile (fun index => play setting retests (executions index)) node
        before after) := by
  intro course surroundings report same known
  rcases attempts_conducts conducts node profile 0 retests course known with
    ⟨front, later, between, attempted, own, tried, writes⟩
  rw [same] at attempted tried writes
  let grown := attachAll later.graph node ((conduct.queues start).map (plan setting retests))
  rcases files_followedBy beforeFiles (below later.graph) { later with graph := grown.1 } between _
    writes own with ⟨back, ended, past, walked, ownToo, filed, ends⟩
  refine ⟨front ++ back, ended, past, ?_, ?_, ⟨front, back, rfl, tried, filed⟩, ends⟩
  · rw [step, exec_andThen, attempted]
    exact walked
  · rw [Report.withResults_append]
    exact ownToo

theorem then_nil {results : List StepResult} : Then files (InTurn []) results ↔ files results := by
  constructor
  · rintro ⟨front, back, rfl, filed, rfl⟩
    rwa [List.append_nil]
  · exact fun filed => ⟨results, [], (List.append_nil _).symm, filed, rfl⟩

/-- A step without anything below it. -/
theorem files_leaf (conducts : ∀ index, (executions index).Conducts ρ setting retests conduct)
    (childless : conduct.queues start = []) :
    Files ρ setting start (Tried setting.mode profile (conduct.marks start)) (conduct.writes start)
      (step setting retests profile (fun index => play setting retests (executions index)) node
        stay stay) := by
  have below (graph : Graph Profile) : Files ρ setting (conduct.writes start)
      (Then (InTurn []) (InTurn [])) (conduct.writes start)
      ((all (attachAll graph node ((conduct.queues start).map (plan setting retests))).2).followedBy
        stay) := by
    rw [childless]
    exact files_followedBy files_stay files_stay
  refine (files_step conducts files_stay below).imp ?_
  rintro results ⟨front, back, rfl, tried, _, _, rfl, rfl, _, _, rfl, rfl, rfl⟩
  simpa using tried

theorem files_planned {child : Step}
    (conducts : ∀ index, (child.executions index).Conducts ρ setting retests conduct)
    (childless : conduct.queues start = []) (id : NodeId) :
    Files ρ setting start (Tried setting.mode child.profile (conduct.marks start))
      (conduct.writes start) ((plan setting retests child).walk id) := by
  cases child with
  | mk profile executions =>
      simp only [plan]
      exact files_leaf conducts childless

end Walk

namespace Engine

variable (engine : Engine) {graph : Graph Step} {last : Parameters}
  {files : List StepResult → Prop} {root : NodeId}

/-- The report of a run whose walk files its results. -/
theorem execute_files (started : graph.start = some root)
    (walks : Walk.Files ρ setting setting.context.parameters files last
      (from_ setting engine.settings.retests graph graph.size root))
    (surroundings : Surroundings ρ) :
    ∃ run after results,
      surroundings.exec (engine.execute setting graph).run = (.ok run, after) ∧ files results ∧
      run.report.parameters = setting.context.parameters ∧
      run.report.results = .ofList (results.map StepResult.entry) := by
  rcases engine.exec_walk setting graph surroundings with ⟨moment, opened, through, reports, -⟩
  let report : Report :=
    .opened setting.runId setting.runbook setting.context.parameters setting.mode moment
  have known : opened.own setting.runId = some report := by
    rw [own, reports]
    exact Entries.get?_insert_self
  rcases walks ⟨setting.context.parameters, 0, graph.outline, []⟩ opened report rfl known with
    ⟨results, later, after, walked, own, filed, -⟩
  have through : surroundings.exec (engine.walk setting graph) = ((later, .ok ()), after) := by
    rw [through, Walk.through, started]
    exact walked
  rcases exec_execute through own with ⟨finished, past, -, path, executed, -⟩
  refine ⟨_, past, results, executed, filed, ?_, ?_⟩
  · rw [Report.withResults_eq]
    rfl
  · rw [Report.withResults_eq]
    rfl

end Engine

end Triage
