import Triage.Proofs.Run.DepthFirst
import Triage.Proofs.Run.Stay

namespace Triage

namespace Graph.Forest

variable {σ : Type} {graph : Graph σ}

/-- The end step is listed last, but for what is below it. -/
theorem below_end (forest : graph.Forest) (placed : graph.EndLast) {last other : NodeId}
    (ended : graph.end_ = some last) (pair : [last, other].Sublist graph.reachable) :
    graph.AtOrAbove last other := by
  rcases placed last ended with ⟨start, before, started, children⟩
  have whole := forest.whole_reachable started
  have nodup := forest.reachable_nodup started
  generalize graph.reachable = ids at pair whole nodup
  cases whole with
  | descend _ below siblings =>
      cases siblings
      rw [children] at below
      rcases below.split with ⟨earlier, final, rfl, -, wholeFinal⟩
      have inFinal : last ∈ final := wholeFinal.roots_sublist.subset List.mem_cons_self
      have shape : start :: (earlier ++ final) ++ [] = (start :: earlier) ++ final := by simp
      rw [shape] at pair nodup
      have absent : last ∉ start :: earlier := fun member =>
        (List.nodup_append.mp nodup).2.2 last member last inFinal rfl
      rcases List.sublist_append_iff.mp pair with ⟨front, back, split, inFront, inBack⟩
      have none : front = [] := by
        cases front with
        | nil => rfl
        | cons first rest =>
            simp only [List.cons_append, List.cons.injEq] at split
            exact absurd (inFront.subset (split.1 ▸ List.mem_cons_self)) absent
      rw [none, List.nil_append] at split
      have isListed : other ∈ final := inBack.subset (by simp [← split])
      rcases Whole.above_of_mem forest wholeFinal isListed with ⟨root, isRoot, above⟩
      rwa [List.mem_singleton.mp isRoot] at above
  | stop off => exact absurd trivial off

end Graph.Forest

namespace Course

variable {course : Course} {last : NodeId} {other : Attempt}

/-- `other` is executed after an execution of the step `id`. -/
def After (course : Course) (id : NodeId) (other : Attempt) : Prop :=
  ∃ earlier attempt later, course.attempts = earlier ++ attempt :: later ∧ attempt.node = id ∧
    other ∈ later

theorem mem_of_lastOf? {id : NodeId} {attempt : Attempt}
    (isLast : course.lastOf? id = some attempt) : attempt ∈ course.attempts ∧ attempt.node = id := by
  have executed : attempt ∈ course.attempts.filter (·.node == id) := List.mem_of_getLast? isLast
  exact ⟨(List.mem_filter.mp executed).1, by simpa using (List.mem_filter.mp executed).2⟩

theorem After.mem (after : course.After last other) : other ∈ course.attempts := by
  rcases after with ⟨earlier, attempt, later, split, -, member⟩
  simp [split, member]

/-- What is executed after the end step is below it, or is the end step once more. -/
theorem InOrder.below_end (inOrder : course.InOrder) (ended : course.graph.end_ = some last)
    (after : course.After last other) : course.graph.AtOrAbove last other.node := by
  rcases after with ⟨earlier, attempt, later, split, rfl, member⟩
  rcases inOrder.stays with ⟨stays, attempts, listed⟩
  rw [attempts] at split
  rcases Walk.stays_after split with ⟨front, stay, back, rfl, inStay, behind⟩
  have same := stay.node_of_mem attempt inStay
  rcases behind other member with inSame | inLater
  · rw [same, stay.node_of_mem other inSame]
    exact .refl
  · rcases List.mem_flatMap.mp inLater with ⟨next, isLater, inNext⟩
    rw [next.node_of_mem other inNext]
    refine inOrder.forest.below_end inOrder.endLast ended (.trans ?_ listed)
    have pair : [stay.node, next.node].Sublist (stay.node :: back.map Walk.Stay.node) :=
      List.cons_sublist_cons.mpr (List.singleton_sublist.mpr (List.mem_map_of_mem isLater))
    rw [same, List.map_append, List.map_cons]
    exact pair.trans (List.sublist_append_right _ _)

end Course

namespace Traversal

variable {base : Graph Profile} {retests start : Nat} {course : Course} {id : NodeId}

/-- Below a step whose last execution was completed, all children are executed. -/
theorem child_after (traversal : Traversal base retests course) (forest : course.graph.Forest)
    (started : course.graph.start = some start) {attempt : Attempt}
    (isLast : course.lastOf? id = some attempt) (completed : attempt.ending.isCompleted = true)
    {child : NodeId} (isChild : child ∈ course.graph.children id) :
    ∃ other, course.After id other ∧ other.node = child := by
  rcases Course.mem_of_lastOf? isLast with ⟨member, node⟩
  have planned : id ∈ course.route := node ▸ traversal.mem_route member
  have goesOn : course.halted id = false := by
    simp [Course.halted, isLast, completed]
  have pair : [id, child].Sublist course.route :=
    (List.cons_sublist_cons.mpr (List.singleton_sublist.mpr isChild)).trans
      ((listing forest started).children_sublist planned goesOn)
  rcases traversal.apart pair with ⟨earlier, later, split, -, notLater, other, isOther, isNode⟩
  have before : attempt ∈ earlier := by
    rw [split] at member
    exact (List.mem_append.mp member).resolve_right fun isLater => notLater attempt isLater node
  rcases List.append_of_mem before with ⟨front, back, rfl⟩
  exact ⟨other, ⟨front, attempt, back ++ later, by simp [split], node, by simp [isOther]⟩, isNode⟩

/-- Where anything is executed below a step, its last execution was completed. -/
theorem completed_above (traversal : Traversal base retests course) (forest : course.graph.Forest)
    {attempt other : Attempt} (member : attempt ∈ course.attempts)
    (isOther : other ∈ course.attempts) (below : course.graph.AtOrAbove attempt.node other.node)
    (different : other.node ≠ attempt.node) :
    ∃ final, course.lastOf? attempt.node = some final ∧ final.ending.isCompleted = true := by
  rcases traversal.repeats attempt.node (traversal.mem_route member) with
    ⟨repeated, final, executions, -⟩
  have isLast : course.lastOf? attempt.node = some final := by
    simp [Course.lastOf?, executions]
  rcases Course.mem_of_lastOf? isLast with ⟨isFinal, node⟩
  refine ⟨final, isLast, ?_⟩
  cases completed : final.ending.isCompleted with
  | true => rfl
  | false =>
      have same := traversal.not_below_stopped forest isFinal completed isOther (node ▸ below)
      exact absurd (same.trans node) different

end Traversal

namespace Engine

open Surroundings Walk

variable {ρ : Type} [Renderer ρ] {engine : Engine} {setting : Setting} {name : String}
  {blueprint : Blueprint} {notes : List Json.Node} {graph : Graph Step}
  {surroundings final : Surroundings ρ} {course : Course} {result : Except RunError Unit}
  {last : NodeId}

/-- Only what is below the end step is executed after it. A run that comes to its end
does so exactly if there is anything below it, and the end step neither failed nor
crashed. -/
theorem walk_after_end (built : blueprint.build name = (notes, .ok (.ok graph)))
    (ended : graph.end_ = some last)
    (walked : surroundings.exec (engine.walk setting graph) = ((course, result), final)) :
    (∀ other, course.After last other → course.graph.AtOrAbove last other.node) ∧
      (result = .ok () →
        ((∃ other, course.After last other ∧ other.node ≠ last) ↔
          course.graph.children last ≠ [] ∧
            ∃ attempt, course.lastOf? last = some attempt ∧
              attempt.ending.isCompleted = true)) := by
  rcases walk_inOrder built walked with ⟨inOrder, same⟩
  have endedNow : course.graph.end_ = some last := same.trans ended
  refine ⟨fun other => inOrder.below_end endedNow, ?_⟩
  rintro rfl
  rcases walk_traversal built walked with ⟨start, started, traversal, forest, -⟩
  constructor
  · rintro ⟨other, after, different⟩
    have below := inOrder.below_end endedNow after
    have isOther := after.mem
    rcases after with ⟨earlier, attempt, later, split, node, -⟩
    constructor
    · rcases Relation.ReflTransGen.cases_head below with none | ⟨child, isChild, -⟩
      · exact absurd none.symm different
      · exact List.ne_nil_of_mem (forest.mem_children_iff.mpr isChild)
    · subst node
      exact traversal.completed_above forest (by simp [split]) isOther below different
  · rintro ⟨occupied, attempt, isLast, completed⟩
    rcases List.exists_mem_of_ne_nil _ occupied with ⟨child, isChild⟩
    rcases traversal.child_after forest started isLast completed isChild with ⟨other, after, rfl⟩
    exact ⟨other, after, fun same => Nat.lt_irrefl _ (same ▸ forest.lt_of_mem_children isChild)⟩

end Engine

namespace Sample

/-- A start and an end step, and a step below the end step. -/
def tailed (last : Body) : Blueprint :=
  .place (.start (step "start" .start .done)) fun _ =>
    .place (.end (step "end" .end last)) fun ending =>
      .place (.step ending (step "tail" .step .done)) fun _ => .done

end Sample

namespace Engine

open Sample in
/-- An end step below which a step was placed, and that queues another one. -/
theorem walk_after_end_queueing :
    let queueing := tailed (.enqueue (step "queued" .step .done) .done)
    (∃ other, (ended queueing).1.1.After 1 other ∧ other.node ≠ 1) ∧
      ((ended queueing).1.1.graph.children 1 = [2, 3] ∧
        (ended queueing).1.1.attempts.map (fun attempt => attempt.node) = [0, 1, 2, 3]) ∧
      ∀ other, (ended queueing).1.1.After 1 other →
        (ended queueing).1.1.graph.AtOrAbove 1 other.node := by
  intro queueing
  have complete : (tree queueing).start.isSome = true := by decide +kernel
  have ending : (tree queueing).end_ = some 1 := by decide +kernel
  have completed : (ended queueing).1.2.isOk = true := by decide +kernel
  have children : (ended queueing).1.1.graph.children 1 = [2, 3] := by decide +kernel
  have order : (ended queueing).1.1.attempts.map (fun attempt => attempt.node) = [0, 1, 2, 3] := by
    decide +kernel
  have last : ((ended queueing).1.1.lastOf? 1).any (fun attempt => attempt.ending.isCompleted) =
      true := by decide +kernel
  rcases walked : ended queueing with ⟨⟨course, error | done⟩, final⟩
  · rw [walked] at completed
    cases completed
  · rw [walked] at children order last
    rcases walk_after_end (build_tree complete) ending walked with ⟨below, exactly⟩
    refine ⟨(exactly rfl).mpr ⟨by simp [children], ?_⟩, ⟨children, order⟩, below⟩
    exact (Option.any_eq_true _ _).mp last

open Sample in
/-- What was placed below the end step is executed after it. -/
theorem end_not_terminal :
    (tailed .done).build "sample" =
        (((tailed .done).build "sample").1, .ok (.ok (tree (tailed .done)))) ∧
      (tree (tailed .done)).end_ = some 1 ∧ (ended (tailed .done)).1.2.isOk = true ∧
      ∃ other, (ended (tailed .done)).1.1.After 1 other ∧ other.node ≠ 1 := by
  have order : (ended (tailed .done)).1.1.attempts.map (fun attempt => attempt.node) =
      [0, 1, 2] := by decide +kernel
  refine ⟨build_tree (by decide +kernel), by decide +kernel, by decide +kernel, ?_⟩
  rcases List.map_eq_cons_iff.mp order with ⟨start, others, attempts, -, order⟩
  rcases List.map_eq_cons_iff.mp order with ⟨last, rest, rfl, isLast, order⟩
  rcases List.map_eq_cons_iff.mp order with ⟨tail, none, rfl, isTail, -⟩
  exact ⟨tail, ⟨[start], last, tail :: none, attempts, isLast, List.mem_cons_self⟩, by simp [isTail]⟩

end Engine

end Triage
