import Triage.Proofs.Run.Abort
import Triage.Proofs.Run.Engine
import Triage.Proofs.Run.Traversal
import Triage.Proofs.Tree.Uses
import Triage.Renderer.EventLog

namespace Triage

namespace Engine

open Surroundings Walk

variable {ρ : Type} [Renderer ρ] {engine : Engine} {setting : Setting} {name : String}
  {blueprint : Blueprint} {notes : List Json.Node} {graph : Graph Step}
  {surroundings final : Surroundings ρ} {course : Course} {result : Except RunError Unit}

/-- A run that comes to its end executed its steps in depth-first order. -/
theorem walk_traversal (built : blueprint.build name = (notes, .ok (.ok graph)))
    (walked : surroundings.exec (engine.walk setting graph) = ((course, .ok ()), final)) :
    ∃ start, course.graph.start = some start ∧
      Traversal graph.outline engine.settings.retests course ∧ course.graph.Forest ∧
      course.graph.EndLast := by
  have forest := Blueprint.build_forest built
  rcases Blueprint.build_start built with ⟨start, started⟩
  rcases engine.exec_walk setting graph surroundings with ⟨moment, opened, through, -, -⟩
  rw [through] at walked
  have meets := Surroundings.exec_meets
    (through_meets setting engine.settings.retests forest started) opened
  rw [walked] at meets
  rcases meets.visits rfl with ⟨visits, attempts, itinerary⟩
  have startedNow : course.graph.start = some start := meets.grown.start_eq.trans started
  have traversal := Traversal.ofItinerary meets.grown.forest startedNow attempts itinerary
  exact ⟨start, startedNow, traversal, meets.grown.forest,
    meets.grown.endLast ((Blueprint.build_endLast built).map _)⟩

/-- The executions of a run, from the report that was just opened to the end. -/
def Unfolds (engine : Engine) (setting : Setting) (graph : Graph Step) (calls : Call → Prop)
    (surroundings : Surroundings ρ) (occasions : List (Occasion ρ)) (result : Except RunError Unit)
    (course : Course) (final : Surroundings ρ) : Prop :=
  ∃ (moment : Instant) (opened : Surroundings ρ),
    opened.reports = surroundings.reports.insert setting.runId (.opened setting.runId
      setting.runbook setting.context.parameters setting.mode moment) ∧
    Renderer.Shows surroundings.renderer [] opened.renderer ∧
    Chain setting engine.settings.retests calls
      ⟨setting.context.parameters, 0, graph.outline, []⟩ opened occasions result course final

/-- A run is a chain of executions, those of one step after those of the other. -/
theorem walk_rounds {calls : Call → Prop}
    (built : blueprint.build name = (notes, .ok (.ok graph))) (uses : graph.Uses calls)
    (walked : surroundings.exec (engine.walk setting graph) = ((course, result), final)) :
    ∃ rounds : List (List (Occasion ρ)),
      (∀ round ∈ rounds, ∃ node profile,
        Round setting engine.settings.retests node profile engine.settings.retests round) ∧
      engine.Unfolds setting graph calls surroundings rounds.flatten result course final := by
  have forest := Blueprint.build_forest built
  rcases Blueprint.build_start built with ⟨start, started⟩
  rcases engine.exec_walk setting graph surroundings with ⟨moment, opened, through, reports, shows⟩
  rcases through_rounds setting engine.settings.retests forest started uses opened with
    ⟨rounds, isRound, chain⟩
  rw [← through, walked] at chain
  exact ⟨rounds, isRound, moment, opened, reports, shows, chain⟩

theorem walk_unfolds {calls : Call → Prop}
    (built : blueprint.build name = (notes, .ok (.ok graph))) (uses : graph.Uses calls)
    (walked : surroundings.exec (engine.walk setting graph) = ((course, result), final)) :
    ∃ occasions : List (Occasion ρ),
      engine.Unfolds setting graph calls surroundings occasions result course final := by
  rcases walk_rounds built uses walked with ⟨rounds, -, unfolds⟩
  exact ⟨rounds.flatten, unfolds⟩

omit [Renderer ρ] in
theorem filed_of_opened (graph : Graph Step) {moment : Instant} {opened : Surroundings ρ}
    (reports : opened.reports = surroundings.reports.insert setting.runId (.opened setting.runId
      setting.runbook setting.context.parameters setting.mode moment)) :
    Filed setting ⟨setting.context.parameters, 0, graph.outline, []⟩ opened (.opened setting.runId
      setting.runbook setting.context.parameters setting.mode moment) := by
  refine ⟨?_, rfl, by simp⟩
  rw [own, reports]
  exact Entries.get?_insert_self

/-- A run comes to its end, and has executed the tree in depth-first order, unless a
forbidden use of the operator ends it or an execution leaves a frame in place that
the report knows nothing of. Such a frame, which only `install` can put there, ends
the run as well. -/
theorem walk_depth_first (built : blueprint.build name = (notes, .ok (.ok graph)))
    (walked : surroundings.exec (engine.walk setting graph) = ((course, result), final)) :
    ∃ report, final.own setting.runId = some report ∧
      ((∀ attempt ∈ course.attempts, ¬attempt.Strays report) →
        (∀ error, result = .error error → error.isInvalidStep = false) →
        result = .ok () ∧ Traversal graph.outline engine.settings.retests course ∧
          course.graph.EndLast) ∧
      ((∃ attempt ∈ course.attempts, attempt.Strays report) →
        ∃ executionId, result = .error (.report (.unknownStep setting.runId executionId))) ∧
      ((graph.Uses fun call => call.installs = false) →
        ∀ attempt ∈ course.attempts, ¬attempt.Strays report) := by
  rcases walk_unfolds built (fun _ step _ => step.uses_any) walked with
    ⟨occasions, moment, opened, reports, -, chain⟩
  rcases chain.filed (filed_of_opened graph reports) with ⟨goesOn, aborts⟩
  cases result with
  | ok done =>
      rcases goesOn rfl with ⟨report, filed⟩
      rcases walk_traversal built walked with ⟨-, -, traversal, -, endLast⟩
      refine ⟨report, filed.own, fun _ _ => ⟨rfl, traversal, endLast⟩, ?_, fun _ => filed.results⟩
      rintro ⟨attempt, member, strays⟩
      exact absurd strays (filed.results attempt member)
  | error error =>
      rcases aborts error rfl with ⟨occasion, before, performs, filedBefore, ends⟩
      rcases outcome_filed engine.settings.retests performs filedBefore with
        ⟨report, -, ended⟩
      rw [ends] at ended
      cases ended with
      | forbidden invalid filed =>
          refine ⟨report, filed.own, fun _ allowed => ?_, ?_, fun _ => filed.results⟩
          · rw [allowed error rfl] at invalid
            cases invalid
          · rintro ⟨attempt, member, strays⟩
            exact absurd strays (filed.results attempt member)
      | strayed stored last isLast frame active absent unknown =>
          have isAttempt : last ∈ course.attempts := List.mem_of_getLast? isLast
          have strays : last.Strays report := ⟨frame, active, absent⟩
          refine ⟨report, stored, fun none _ => absurd strays (none last isAttempt),
            fun _ => ⟨frame.executionId, by rw [unknown]⟩, fun plain => ?_⟩
          -- Without `install` the run would have been ended by a forbidden use.
          rcases walk_unfolds built plain walked with ⟨_, _, _, reports, -, chain⟩
          rcases (chain.filed (filed_of_opened graph reports)).2 error rfl with
            ⟨occasion, before, performs, filedBefore, ends⟩
          have invalid := outcome_plain engine.settings.retests performs filedBefore
            (by rw [ends])
          rw [unknown] at invalid
          cases invalid

end Engine

/-! ## Two runs -/

namespace Sample

open Surroundings Walk

def step (label : String) (kind : StepKind) (body : Body) : Step :=
  .steady ⟨label, kind, some label, none⟩ body

/-- Two steps below the start. -/
def pair (first second : Body) : Blueprint :=
  .place (.start (step "start" .start .done)) fun start =>
    .place (.step start (step "first" .step first)) fun _ =>
      .place (.step start (step "second" .step second)) fun _ => .done

/-- What is built, if the construction is completed. -/
def tree (blueprint : Blueprint) : Graph Step :=
  match (blueprint.build "sample").2 with
  | .ok (.ok graph) => graph
  | _ => .empty

theorem build_tree {blueprint : Blueprint} (complete : (tree blueprint).start.isSome = true) :
    blueprint.build "sample" = ((blueprint.build "sample").1, .ok (.ok (tree blueprint))) := by
  rcases built : blueprint.build "sample" with ⟨notes, crash | error | graph⟩
  · simp [tree, built, Graph.empty] at complete
  · simp [tree, built, Graph.empty] at complete
  · simp [tree, built]

theorem pair_uses {calls : Call → Prop} {first second : Body} (firstUses : first.Uses calls)
    (secondUses : second.Uses calls) : (pair first second).Uses calls := by
  have startUses : Body.Uses calls .done := by trivial
  refine Blueprint.place_uses (fun _ => startUses) fun start => ?_
  refine Blueprint.place_uses (fun _ => firstUses) fun _ => ?_
  exact Blueprint.place_uses (fun _ => secondUses) fun _ => trivial

def setting : Setting :=
  ⟨"run", "sample", .auto, .ofProject "project", [], []⟩

def engine : Engine :=
  ⟨[], [], ⟨.auto, none, 3⟩⟩

def surroundings : Surroundings EventLog :=
  .opened (.withAnswers []) (fun drawn => String.ofList (List.replicate drawn 'x'))
    (fun _ => ⟨0, 0⟩) ⟨[], [], []⟩

def ended (blueprint : Blueprint) : Progress Unit × Surroundings EventLog :=
  surroundings.exec (engine.walk setting (tree blueprint))

end Sample

namespace Engine

open Sample in
/-- A step that queues another one, before a step that crashes. -/
theorem walk_depth_first_queueing :
    let queueing := pair (.enqueue (step "queued" .step .done) .done) (.crash "lost")
    (ended queueing).1.2 = .ok () ∧
      Traversal (tree queueing).outline 3 (ended queueing).1.1 ∧
      (ended queueing).1.1.attempts.map (fun attempt => attempt.node) = [0, 1, 3, 2] := by
  intro queueing
  have complete : (tree queueing).start.isSome = true := by decide +kernel
  have completed : (ended queueing).1.2.isOk = true := by decide +kernel
  have order : (ended queueing).1.1.attempts.map (fun attempt => attempt.node) = [0, 1, 3, 2] := by
    decide +kernel
  have uses : queueing.Uses fun call => call.installs = false :=
    pair_uses (Body.enqueue_uses (fun _ => trivial) trivial) trivial
  have built := build_tree complete
  rcases walked : ended queueing with ⟨⟨course, result⟩, final⟩
  rw [walked] at completed order
  have allowed : ∀ error, result = .error error → error.isInvalidStep = false := by
    rintro error rfl
    cases completed
  rcases walk_depth_first built walked with ⟨report, own, completes, -, plain⟩
  rcases completes (plain (Blueprint.build_uses uses built)) allowed with ⟨isOk, traversal, -⟩
  exact ⟨isOk, traversal, order⟩

open Sample in
/-- A step that puts a frame in the place of its own cuts the run short. -/
theorem walk_cut_short :
    let replacing :=
      pair (.call .own (.install ⟨"other", .step, some "other", none⟩) fun _ => .done) .done
    (∃ error, (ended replacing).1.2 = .error error ∧ error.isInvalidStep = false) ∧
      (ended replacing).1.1.attempts.map (fun attempt => attempt.node) = [0, 1] ∧
      (ended replacing).1.1.route = [0, 1, 2] ∧
      ¬Traversal (tree replacing).outline 3 (ended replacing).1.1 := by
  intro replacing
  have check : (match (ended replacing).1.2 with
      | .error error => error.isInvalidStep
      | .ok _ => true) = false := by decide +kernel
  have order : (ended replacing).1.1.attempts.map (fun attempt => attempt.node) = [0, 1] := by
    decide +kernel
  have route : (ended replacing).1.1.route = [0, 1, 2] := by decide +kernel
  refine ⟨?_, order, route, fun traversal => ?_⟩
  · cases result : (ended replacing).1.2 with
    | ok done =>
        rw [result] at check
        cases check
    | error error =>
        rw [result] at check
        exact ⟨error, rfl, check⟩
  · have visited := traversal.times 2 (by rw [route]; simp)
    have planned := traversal.order
    rw [order, route] at planned
    have member : 2 ∈ [0, 1] := by
      rw [planned]
      exact List.mem_flatMap.mpr ⟨2, by simp, List.mem_replicate.mpr ⟨Nat.ne_of_gt visited.1, rfl⟩⟩
    simp at member

end Engine

end Triage
