import Triage.Proofs.Run.Engine
import Triage.Proofs.Run.Traversal

namespace Triage

namespace Walk

variable {base graph : Graph Profile} {retests : Nat} {course : Course}
  {roots domain ids : List NodeId} {stays : List Stay}

/-- Where a walk stayed is part of what can be reached, in the same order. -/
theorem Partway.sublist_whole (partway : Partway graph roots stays)
    (whole : graph.Whole roots ids) : (stays.map Stay.node).Sublist ids := by
  induction partway generalizing ids with
  | stop roots => exact List.nil_sublist ids
  | here stay rest =>
      have root : [stay.node].Sublist (stay.node :: rest) := by simp
      exact root.trans whole.roots_sublist
  | @descend visit rest stays _ _ induction =>
      cases whole with
      | descend _ children siblings =>
          exact ((induction children).trans (List.sublist_append_left _ _)).cons_cons visit.node
      | stop off => exact absurd trivial off
  | @after root rest visits stays first _ induction =>
      have apart : graph.Whole ([root] ++ rest) ids := whole
      rcases apart.split with ⟨listed, others, rfl, wholeFirst, wholeRest⟩
      have front : ((visits.map Visit.stay).map Stay.node).Sublist listed := by
        rw [List.map_map]
        exact first.sublist_whole wholeFirst
      rw [List.map_append]
      exact front.append (induction wholeRest)

/-- Whether or not an error ended it, a walk went in order. -/
theorem Walked.exists_stays {later : Progress Unit}
    (walked : Walked base retests course roots domain later) :
    ∃ stays : List Stay, later.1.attempts = course.attempts ++ stays.flatMap Stay.attempts ∧
      Partway later.1.graph roots stays := by
  cases result : later.2 with
  | error error => exact walked.partway error result
  | ok done =>
      rcases walked.visits result with ⟨visits, added, itinerary⟩
      exact ⟨visits.map Visit.stay, by rw [added, flatMap_stay], .ofOrder itinerary.order⟩

/-- Behind an execution are those that follow it in its stay, and those of later stays. -/
theorem stays_after {earlier later : List Attempt} {attempt : Attempt}
    (split : stays.flatMap Stay.attempts = earlier ++ attempt :: later) :
    ∃ before stay after, stays = before ++ stay :: after ∧ attempt ∈ stay.attempts ∧
      ∀ other ∈ later, other ∈ stay.attempts ∨ other ∈ after.flatMap Stay.attempts := by
  induction stays generalizing earlier with
  | nil => simp at split
  | cons first rest induction =>
      rw [List.flatMap_cons] at split
      rcases List.append_eq_append_iff.mp split with ⟨front, -, others⟩ | ⟨back, same, others⟩
      · rcases induction others with ⟨before, stay, after, rfl, member, behind⟩
        exact ⟨first :: before, stay, after, rfl, member, behind⟩
      · cases back with
        | nil =>
            have others : rest.flatMap Stay.attempts = [] ++ attempt :: later := others.symm
            rcases induction others with ⟨before, stay, after, rfl, member, behind⟩
            exact ⟨first :: before, stay, after, rfl, member, behind⟩
        | cons head back =>
            simp only [List.cons_append, List.cons.injEq] at others
            rcases others with ⟨rfl, rfl⟩
            refine ⟨[], first, rest, rfl, by simp [same], fun other member => ?_⟩
            rcases List.mem_append.mp member with inBack | inRest
            · exact .inl (by simp [same, inBack])
            · exact .inr inRest

end Walk

/-- What holds of a run at any time: it went through its tree in order, each step in one
stay. -/
structure Course.InOrder (course : Course) : Prop where
  forest : course.graph.Forest
  endLast : course.graph.EndLast
  started : ∃ start, course.graph.start = some start
  stays : ∃ stays : List Walk.Stay, course.attempts = stays.flatMap Walk.Stay.attempts ∧
    (stays.map Walk.Stay.node).Sublist course.graph.reachable

namespace Engine

open Surroundings Walk

variable {setting : Setting} {retests : Nat} {name : String} {blueprint : Blueprint}
  {notes : List Json.Node} {graph : Graph Step}

theorem through_inOrder (built : blueprint.build name = (notes, .ok (.ok graph)))
    (setting : Setting) (retests : Nat) :
    (through setting retests graph).Meets (Effect.IsOwn setting) fun later =>
      later.1.InOrder ∧ later.1.graph.end_ = graph.end_ := by
  have forest := Blueprint.build_forest built
  rcases Blueprint.build_start built with ⟨start, started⟩
  apply (through_meets setting retests forest started).imp
  intro later walked
  have startedNow : later.1.graph.start = some start := walked.grown.start_eq.trans started
  rcases walked.exists_stays with ⟨stays, attempts, partway⟩
  exact ⟨⟨walked.grown.forest, walked.grown.endLast ((Blueprint.build_endLast built).map _),
    ⟨start, startedNow⟩, stays, attempts,
    partway.sublist_whole (walked.grown.forest.whole_reachable startedNow)⟩, walked.grown.end_eq⟩

/-- Whether or not an error ended the run. -/
theorem walk_inOrder {ρ : Type} [Renderer ρ] {engine : Engine} {surroundings final : Surroundings ρ}
    {course : Course} {result : Except RunError Unit}
    (built : blueprint.build name = (notes, .ok (.ok graph)))
    (walked : surroundings.exec (engine.walk setting graph) = ((course, result), final)) :
    course.InOrder ∧ course.graph.end_ = graph.end_ := by
  rcases engine.exec_walk setting graph surroundings with ⟨moment, opened, through, -, -⟩
  have meets := Surroundings.exec_meets
    (through_inOrder built setting engine.settings.retests) opened
  rwa [← through, walked] at meets

end Engine

end Triage
