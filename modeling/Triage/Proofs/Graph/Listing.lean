import Mathlib.Data.List.Perm.Subperm
import Mathlib.Logic.Relation
import Triage.Proofs.Graph.Forest

namespace Triage

namespace Graph

variable {σ : Type} {graph : Graph σ}

/-! ## Ancestors -/

/-- `upper` is `lower` or is on the way from the start to it. -/
def AtOrAbove (graph : Graph σ) (upper lower : NodeId) : Prop :=
  Relation.ReflTransGen (fun parent child => graph.parent? child = some parent) upper lower

theorem atOrAbove_child_iff {upper parent child : NodeId}
    (known : graph.parent? child = some parent) :
    graph.AtOrAbove upper child ↔ upper = child ∨ graph.AtOrAbove upper parent := by
  constructor
  · intro above
    rcases Relation.ReflTransGen.cases_tail above with equal | ⟨last, above, step⟩
    · exact .inl equal.symm
    · rw [known] at step
      cases step
      exact .inr above
  · rintro (rfl | above)
    · exact .refl
    · exact .tail above known

/-- The steps on the way to a step from above, the closest first; `fuel` bounds
their number. -/
def ancestors (graph : Graph σ) : (fuel : Nat) → NodeId → List NodeId
  | 0, _ => []
  | fuel + 1, id =>
      match graph.parent? id with
      | none => []
      | some parent => parent :: ancestors graph fuel parent

/-- Whether a step with this property is strictly above. -/
def isBelow (graph : Graph σ) (property : NodeId → Bool) (id : NodeId) : Bool :=
  (graph.ancestors graph.size id).any property

namespace Forest

theorem le_of_atOrAbove (forest : graph.Forest) {upper lower : Nat}
    (above : graph.AtOrAbove upper lower) : upper ≤ lower := by
  induction above with
  | refl => exact Nat.le_refl _
  | tail _ step induction => exact Nat.le_trans induction (Nat.le_of_lt (forest.parent_lt step))

/-- Fuel for as many steps as there are numbers below is enough. -/
theorem ancestors_eq (forest : graph.Forest) :
    ∀ {fuel more id : Nat}, id ≤ fuel → id ≤ more →
      graph.ancestors fuel id = graph.ancestors more id
  | 0, 0, _, _, _ => rfl
  | 0, more + 1, id, enough, _ => by
      cases known : graph.parent? id with
      | none => simp [ancestors, known]
      | some parent => exact absurd (forest.parent_lt known) (by omega)
  | fuel + 1, 0, id, _, enough => by
      cases known : graph.parent? id with
      | none => simp [ancestors, known]
      | some parent => exact absurd (forest.parent_lt known) (by omega)
  | fuel + 1, more + 1, id, enough, enoughMore => by
      cases known : graph.parent? id with
      | none => simp [ancestors, known]
      | some parent =>
          have earlier := forest.parent_lt known
          have same : graph.ancestors fuel parent = graph.ancestors more parent :=
            forest.ancestors_eq (by omega) (by omega)
          simp only [ancestors, known, same]

theorem isBelow_child (forest : graph.Forest) (property : NodeId → Bool) {parent child : NodeId}
    (known : graph.parent? child = some parent) :
    graph.isBelow property child = (property parent || graph.isBelow property parent) := by
  have inside := lt_size_of_parent? known
  have earlier := forest.parent_lt known
  obtain ⟨size, equal⟩ : ∃ size, graph.size = size + 1 := ⟨graph.size - 1, by omega⟩
  have same : graph.ancestors size parent = graph.ancestors (size + 1) parent :=
    forest.ancestors_eq (by omega) (by omega)
  unfold isBelow
  rw [equal, ancestors, known]
  simp only [List.any_cons, same]

theorem isBelow_start (forest : graph.Forest) (property : NodeId → Bool) {start : NodeId}
    (started : graph.start = some start) : graph.isBelow property start = false := by
  have orphan := (forest.start_iff.mp started).2
  unfold isBelow
  cases graph.size <;> simp [ancestors, orphan]

/-- Whatever is below a step with the property counts. -/
theorem isBelow_of_atOrAbove (forest : graph.Forest) {property : NodeId → Bool}
    {upper child lower : NodeId} (known : graph.parent? child = some upper)
    (has : property upper = true) (above : graph.AtOrAbove child lower) :
    graph.isBelow property lower = true := by
  induction above with
  | refl => rw [forest.isBelow_child property known, has, Bool.true_or]
  | tail _ step induction => rw [forest.isBelow_child property step, induction, Bool.or_true]

/-- Of two steps above a third one, one is above the other. -/
theorem atOrAbove_total {first second lower : NodeId}
    (firstAbove : graph.AtOrAbove first lower) (secondAbove : graph.AtOrAbove second lower) :
    graph.AtOrAbove first second ∨ graph.AtOrAbove second first := by
  induction firstAbove with
  | refl => exact .inr secondAbove
  | tail above step induction =>
      rcases (atOrAbove_child_iff step).mp secondAbove with rfl | secondAbove
      · exact .inl (.tail above step)
      · exact induction secondAbove

theorem siblings_apart (forest : graph.Forest) {parent first second lower : NodeId}
    (firstKnown : graph.parent? first = some parent)
    (secondKnown : graph.parent? second = some parent)
    (firstAbove : graph.AtOrAbove first lower) (secondAbove : graph.AtOrAbove second lower) :
    first = second := by
  have single {left right : NodeId} (leftKnown : graph.parent? left = some parent)
      (rightKnown : graph.parent? right = some parent)
      (above : graph.AtOrAbove left right) : left = right := by
    rcases (atOrAbove_child_iff rightKnown).mp above with equal | above
    · exact equal
    · exact absurd (forest.le_of_atOrAbove above) (Nat.not_le.mpr (forest.parent_lt leftKnown))
  rcases atOrAbove_total firstAbove secondAbove with above | above
  · exact single firstKnown secondKnown above
  · exact (single secondKnown firstKnown above).symm

end Forest

/-! ## Listing a tree

A step is listed before what is below it, and what is below it before its next
sibling. Below a step that does not go on nothing is listed. -/

inductive Listing (graph : Graph σ) (goesOn : NodeId → Prop) :
    List NodeId → List NodeId → Prop
  | nil : Listing graph goesOn [] []
  | descend {id : NodeId} {rest below after : List NodeId} (on : goesOn id)
      (children : Listing graph goesOn (graph.children id) below)
      (siblings : Listing graph goesOn rest after) :
      Listing graph goesOn (id :: rest) (id :: below ++ after)
  | stop {id : NodeId} {rest after : List NodeId} (off : ¬goesOn id)
      (siblings : Listing graph goesOn rest after) :
      Listing graph goesOn (id :: rest) (id :: after)

/-- Everything that can be reached from some steps. -/
abbrev Whole (graph : Graph σ) : List NodeId → List NodeId → Prop :=
  graph.Listing fun _ => True

namespace Listing

variable {goesOn : NodeId → Prop} {roots others ids others' : List NodeId}

theorem append (first : graph.Listing goesOn roots ids)
    (second : graph.Listing goesOn others others') :
    graph.Listing goesOn (roots ++ others) (ids ++ others') := by
  induction first with
  | nil => exact second
  | descend on children _ _ induction =>
      simpa only [List.cons_append, List.append_assoc] using .descend on children induction
  | stop off _ induction => exact .stop off induction

theorem split (listing : graph.Listing goesOn (roots ++ others) ids) :
    ∃ first second, ids = first ++ second ∧ graph.Listing goesOn roots first ∧
      graph.Listing goesOn others second := by
  induction roots generalizing ids with
  | nil => exact ⟨[], ids, rfl, .nil, listing⟩
  | cons root rest induction =>
      cases listing with
      | descend on children siblings =>
          rcases induction siblings with ⟨first, second, rfl, left, right⟩
          exact ⟨_, second, by simp, .descend on children left, right⟩
      | stop off siblings =>
          rcases induction siblings with ⟨first, second, rfl, left, right⟩
          exact ⟨_, second, rfl, .stop off left, right⟩

theorem roots_sublist (listing : graph.Listing goesOn roots ids) : roots.Sublist ids := by
  induction listing with
  | nil => exact .slnil
  | descend _ _ _ _ induction => exact (induction.trans (List.sublist_append_right _ _)).cons_cons _
  | stop _ _ induction => exact induction.cons_cons _

/-- A step that goes on is listed before its children, and these in their order. -/
theorem children_sublist (listing : graph.Listing goesOn roots ids) {id : NodeId}
    (member : id ∈ ids) (on : goesOn id) : (id :: graph.children id).Sublist ids := by
  induction listing with
  | nil => cases member
  | descend _ children _ belowInduction afterInduction =>
      rcases List.mem_cons.mp member with rfl | member
      · exact (children.roots_sublist.trans (List.sublist_append_left _ _)).cons_cons _
      rcases List.mem_append.mp member with member | member
      · exact ((belowInduction member).trans (List.sublist_append_left _ _)).cons _
      · exact ((afterInduction member).trans (List.sublist_append_right _ _)).cons _
  | stop off _ induction =>
      rcases List.mem_cons.mp member with rfl | member
      · exact absurd on off
      · exact (induction member).cons _

theorem unique (first : graph.Listing goesOn roots ids)
    (second : graph.Listing goesOn roots others) : ids = others := by
  induction first generalizing others with
  | nil => cases second; rfl
  | descend on _ _ belowInduction afterInduction =>
      cases second with
      | descend _ children siblings =>
          rw [belowInduction children, afterInduction siblings]
      | stop off _ => exact absurd on off
  | stop off _ induction =>
      cases second with
      | descend on _ _ => exact absurd on off
      | stop _ siblings => rw [induction siblings]

end Listing

namespace Whole

variable {roots ids : List NodeId}

theorem above_of_mem (forest : graph.Forest) (whole : graph.Whole roots ids) {lower : NodeId}
    (member : lower ∈ ids) : ∃ root ∈ roots, graph.AtOrAbove root lower := by
  induction whole with
  | nil => cases member
  | @descend id rest below after _ _ _ belowInduction afterInduction =>
      rcases List.mem_cons.mp member with rfl | member
      · exact ⟨_, List.mem_cons_self, .refl⟩
      rcases List.mem_append.mp member with member | member
      · rcases belowInduction member with ⟨child, isChild, above⟩
        exact ⟨id, List.mem_cons_self,
          .head (forest.mem_children_iff.mp isChild) above⟩
      · rcases afterInduction member with ⟨root, isRoot, above⟩
        exact ⟨root, List.mem_cons_of_mem _ isRoot, above⟩
  | stop off => exact absurd trivial off

theorem mem_children (whole : graph.Whole roots ids) {id child : NodeId} (member : id ∈ ids)
    (isChild : child ∈ graph.children id) : child ∈ ids := by
  induction whole with
  | nil => cases member
  | descend _ children _ belowInduction afterInduction =>
      rcases List.mem_cons.mp member with rfl | member
      · exact List.mem_cons_of_mem _
          (List.mem_append_left _ (children.roots_sublist.subset isChild))
      rcases List.mem_append.mp member with member | member
      · exact List.mem_cons_of_mem _ (List.mem_append_left _ (belowInduction member))
      · exact List.mem_cons_of_mem _ (List.mem_append_right _ (afterInduction member))
  | stop off => exact absurd trivial off

/-- Steps that nothing is below together are listed without repetition. -/
theorem nodup (forest : graph.Forest) (whole : graph.Whole roots ids)
    (apart : roots.Pairwise fun first second =>
      ∀ lower, graph.AtOrAbove first lower → ¬graph.AtOrAbove second lower) : ids.Nodup := by
  induction whole with
  | nil => exact .nil
  | @descend id rest below after _ children siblings belowInduction afterInduction =>
      rcases List.pairwise_cons.mp apart with ⟨apartFromRest, apartRest⟩
      have belowApart : (graph.children id).Pairwise fun first second =>
          ∀ lower, graph.AtOrAbove first lower → ¬graph.AtOrAbove second lower := by
        refine (forest.children_nodup id).imp_of_mem ?_
        intro first second firstMember secondMember different lower firstAbove secondAbove
        exact different (forest.siblings_apart (forest.mem_children_iff.mp firstMember)
          (forest.mem_children_iff.mp secondMember) firstAbove secondAbove)
      have belowId {lower : NodeId} (member : lower ∈ below) :
          id < lower ∧ graph.AtOrAbove id lower := by
        rcases above_of_mem forest children member with ⟨child, isChild, above⟩
        exact ⟨Nat.lt_of_lt_of_le (forest.lt_of_mem_children isChild)
            (forest.le_of_atOrAbove above),
          .head (forest.mem_children_iff.mp isChild) above⟩
      have notAfter {lower : NodeId} (above : graph.AtOrAbove id lower) : lower ∉ after := by
        intro member
        rcases above_of_mem forest siblings member with ⟨root, isRoot, rootAbove⟩
        exact apartFromRest root isRoot lower above rootAbove
      refine List.nodup_cons.mpr ⟨?_, ?_⟩
      · intro member
        rcases List.mem_append.mp member with member | member
        · exact Nat.lt_irrefl _ (belowId member).1
        · exact notAfter .refl member
      · refine List.nodup_append.mpr ⟨belowInduction belowApart, afterInduction apartRest, ?_⟩
        rintro lower inBelow _ inAfter rfl
        exact notAfter (belowId inBelow).2 inAfter
  | stop off => exact absurd trivial off

/-- A stack of steps that are still to be visited yields their listing. -/
theorem visitFrom_eq (whole : graph.Whole roots ids) {fuel : Nat} (enough : ids.length ≤ fuel) :
    graph.visitFrom fuel roots = ids := by
  induction fuel generalizing roots ids with
  | zero =>
      rw [List.length_eq_zero_iff.mp (Nat.le_zero.mp enough)]
      rfl
  | succ fuel induction =>
      cases whole with
      | nil => rfl
      | descend _ children siblings =>
          simp only [visitFrom]
          rw [induction (children.append siblings) (by simpa using enough)]
          rfl
      | stop off => exact absurd trivial off

end Whole

namespace Forest

theorem exists_whole (forest : graph.Forest) :
    ∀ (height : Nat) (roots : List Nat),
      (∀ root ∈ roots, root < graph.size ∧ graph.size ≤ root + height) →
      ∃ ids, graph.Whole roots ids
  | _, [], _ => ⟨[], .nil⟩
  | 0, root :: _, inside => absurd (inside root List.mem_cons_self) (by omega)
  | height + 1, root :: rest, inside => by
      have rootInside := inside root List.mem_cons_self
      rcases forest.exists_whole height (graph.children root) fun child isChild => by
        have later := forest.lt_of_mem_children isChild
        have childInside := forest.child_lt_size isChild
        omega
        with ⟨below, children⟩
      rcases forest.exists_whole (height + 1) rest fun other isOther =>
        inside other (List.mem_cons_of_mem _ isOther) with ⟨after, siblings⟩
      exact ⟨_, .descend trivial children siblings⟩

variable {start : NodeId}

theorem lt_size_of_mem_whole (forest : graph.Forest) {root : Nat} (inside : root < graph.size)
    {ids : List NodeId} (whole : graph.Whole [root] ids) {id : Nat} (member : id ∈ ids) :
    id < graph.size := by
  rcases whole.above_of_mem forest member with ⟨other, isRoot, above⟩
  rw [List.mem_singleton.mp isRoot] at above
  rcases Relation.ReflTransGen.cases_tail above with rfl | ⟨parent, -, known⟩
  · exact inside
  · exact lt_size_of_parent? known

/-- What is reachable is the whole tree below the start. -/
theorem whole_reachable (forest : graph.Forest) (started : graph.start = some start) :
    graph.Whole [start] graph.reachable := by
  have startInside := (forest.start_iff.mp started).1
  rcases forest.exists_whole graph.size [start] (by
    intro root isRoot
    rw [List.mem_singleton.mp isRoot]
    exact ⟨startInside, Nat.le_add_left _ _⟩) with ⟨ids, whole⟩
  have nodup : ids.Nodup := whole.nodup forest (List.pairwise_singleton _ _)
  have inside : ids ⊆ List.range graph.size := fun id member =>
    List.mem_range.mpr (forest.lt_size_of_mem_whole startInside whole member)
  have short : ids.length ≤ graph.size := by
    simpa using (List.subperm_of_subset nodup inside).length_le
  have equal : graph.reachable = ids := by
    simp only [reachable, started, Option.toList_some]
    exact whole.visitFrom_eq short
  exact equal ▸ whole

theorem lt_size_of_mem_reachable (forest : graph.Forest) (started : graph.start = some start)
    {id : Nat} (member : id ∈ graph.reachable) : id < graph.size :=
  forest.lt_size_of_mem_whole (forest.start_iff.mp started).1 (forest.whole_reachable started)
    member

theorem reachable_nodup (forest : graph.Forest) (started : graph.start = some start) :
    graph.reachable.Nodup :=
  (forest.whole_reachable started).nodup forest (List.pairwise_singleton _ _)

theorem mem_reachable (forest : graph.Forest) (started : graph.start = some start) {id : Nat}
    (inside : id < graph.size) : id ∈ graph.reachable := by
  induction id using Nat.strongRecOn with
  | ind id induction =>
      cases known : graph.parent? id with
      | none =>
          have isStart := forest.start_iff.mpr ⟨inside, known⟩
          rw [started] at isStart
          cases isStart
          exact (forest.whole_reachable started).roots_sublist.subset List.mem_cons_self
      | some parent =>
          have earlier := forest.parent_lt known
          exact (forest.whole_reachable started).mem_children
            (induction parent earlier (Nat.lt_trans earlier inside))
            (forest.mem_children_iff.mpr known)

/-- Listing a tree only below what goes on leaves out what is below the rest. -/
theorem listing_filter (forest : graph.Forest) {halts : NodeId → Bool} {roots ids : List NodeId}
    (whole : graph.Whole roots ids) (free : ∀ root ∈ roots, graph.isBelow halts root = false) :
    graph.Listing (fun id => halts id = false) roots
      (ids.filter fun id => !graph.isBelow halts id) := by
  induction whole with
  | nil => exact .nil
  | @descend id rest below after _ children siblings belowInduction afterInduction =>
      have idFree := free id List.mem_cons_self
      have restFree := fun root isRoot => free root (List.mem_cons_of_mem _ isRoot)
      have ofChild {child : NodeId} (isChild : child ∈ graph.children id) :
          graph.isBelow halts child = halts id := by
        rw [forest.isBelow_child halts (forest.mem_children_iff.mp isChild), idFree,
          Bool.or_false]
      rw [List.cons_append, List.filter_cons_of_pos (by simp [idFree]), List.filter_append]
      cases halted : halts id with
      | false =>
          exact .descend halted
            (belowInduction fun child isChild => (ofChild isChild).trans halted)
            (afterInduction restFree)
      | true =>
          have none : (below.filter fun id => !graph.isBelow halts id) = [] := by
            rw [List.filter_eq_nil_iff]
            intro lower member
            rcases Whole.above_of_mem forest children member with ⟨child, isChild, above⟩
            simp [forest.isBelow_of_atOrAbove (forest.mem_children_iff.mp isChild) halted above]
          rw [none]
          exact .stop (by simp [halted]) (afterInduction restFree)
  | stop off => exact absurd trivial off

end Forest

end Graph

end Triage
