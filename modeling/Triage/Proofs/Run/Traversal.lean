import Triage.Proofs.Run.Order

namespace Triage

namespace Course

/-! ## What a course tells about a step -/

/-- How often a step was executed. -/
def timesOf (course : Course) (id : NodeId) : Nat :=
  course.attempts.countP (·.node == id)

def lastOf? (course : Course) (id : NodeId) : Option Attempt :=
  (course.attempts.filter (·.node == id)).getLast?

/-- Whether the last execution of a step failed or crashed. -/
def halted (course : Course) (id : NodeId) : Bool :=
  (course.lastOf? id).any fun attempt => !attempt.ending.isCompleted

def queuedBy (course : Course) (id : NodeId) : List Profile :=
  ((course.lastOf? id).map Attempt.queued).getD []

/-- What can be reached in the end, without what is strictly below a step whose
last execution failed or crashed. -/
def route (course : Course) : List NodeId :=
  course.graph.reachable.filter fun id => !course.graph.isBelow course.halted id

end Course

namespace Walk

/-! ## The visits of a course -/

namespace Visit

theorem filter_attempts_self (visit : Visit) :
    visit.attempts.filter (·.node == visit.node) = visit.attempts :=
  List.filter_eq_self.mpr fun attempt member => by simp [visit.node_of_mem member]

theorem filter_attempts_of_ne (visit : Visit) {id : NodeId} (different : visit.node ≠ id) :
    visit.attempts.filter (·.node == id) = [] :=
  List.filter_eq_nil_iff.mpr fun attempt member => by simp [visit.node_of_mem member, different]

theorem map_node_attempts (visit : Visit) :
    visit.attempts.map (·.node) = List.replicate visit.attempts.length visit.node := by
  refine List.eq_replicate_iff.mpr ⟨List.length_map _, fun id member => ?_⟩
  rcases List.mem_map.mp member with ⟨attempt, isAttempt, rfl⟩
  exact visit.node_of_mem isAttempt

theorem length_attempts (visit : Visit) : visit.attempts.length = visit.repeated.length + 1 := by
  simp [attempts]

end Visit

variable {graph : Graph Profile} {roots ids : List NodeId} {visits : List Visit}

theorem filter_visits_of_not_mem {id : NodeId} (absent : id ∉ visits.map Visit.node) :
    (visits.flatMap Visit.attempts).filter (·.node == id) = [] := by
  induction visits with
  | nil => rfl
  | cons visit rest induction =>
      rw [List.map_cons, List.mem_cons, not_or] at absent
      rw [List.flatMap_cons, List.filter_append,
        visit.filter_attempts_of_ne (Ne.symm absent.1), induction absent.2, List.append_nil]

theorem filter_visits (nodup : (visits.map Visit.node).Nodup) {visit : Visit}
    (member : visit ∈ visits) :
    (visits.flatMap Visit.attempts).filter (·.node == visit.node) = visit.attempts := by
  induction visits with
  | nil => cases member
  | cons first rest induction =>
      rcases List.nodup_cons.mp nodup with ⟨absent, nodupRest⟩
      rw [List.flatMap_cons, List.filter_append]
      rcases List.mem_cons.mp member with rfl | member
      · rw [visit.filter_attempts_self, filter_visits_of_not_mem absent, List.append_nil]
      · have different : first.node ≠ visit.node := fun equal =>
          absent (equal ▸ List.mem_map_of_mem member)
        rw [first.filter_attempts_of_ne different, induction nodupRest member, List.nil_append]

/-- What is visited is part of what can be reached. -/
theorem Order.sublist_whole (order : Order graph roots visits) (whole : graph.Whole roots ids) :
    (visits.map Visit.node).Sublist ids := by
  induction order generalizing ids with
  | nil =>
      cases whole
      exact .slnil
  | descend on _ _ belowInduction afterInduction =>
      cases whole with
      | descend _ children siblings =>
          rw [List.cons_append, List.map_cons, List.map_append]
          exact ((belowInduction children).append (afterInduction siblings)).cons_cons _
      | stop off => exact absurd trivial off
  | stop off _ induction =>
      cases whole with
      | descend _ children siblings =>
          exact ((induction siblings).trans (List.sublist_append_right _ _)).cons_cons _
      | stop off => exact absurd trivial off

theorem Order.listing (order : Order graph roots visits) {halts : NodeId → Bool}
    (ends : ∀ visit ∈ visits, halts visit.node = !visit.goesOn) :
    graph.Listing (fun id => halts id = false) roots (visits.map Visit.node) := by
  induction order with
  | nil => exact .nil
  | @descend visit rest below after on _ _ belowInduction afterInduction =>
      have goes : halts visit.node = false := by
        rw [ends visit (by simp), on]
        rfl
      rw [List.cons_append, List.map_cons, List.map_append]
      exact .descend goes (belowInduction fun other member => ends other (by simp [member]))
        (afterInduction fun other member => ends other (by simp [member]))
  | @stop visit rest after off _ induction =>
      have stops : ¬halts visit.node = false := by
        rw [ends visit List.mem_cons_self, off]
        simp
      exact .stop stops (induction fun other member => ends other (List.mem_cons_of_mem _ member))

end Walk

/-! ## A run that comes to its end -/

open Walk in
/-- The steps are executed in depth-first order over the tree as it has grown in
the end, each as often in a row as it was executed; what is below a step that
failed or crashed is left out, and nothing else is. -/
structure Traversal (base : Graph Profile) (retests : Nat) (course : Course) : Prop where
  order : course.attempts.map (·.node) =
    course.route.flatMap fun id => List.replicate (course.timesOf id) id
  times : ∀ id ∈ course.route, 0 < course.timesOf id ∧ course.timesOf id ≤ retests + 1
  /-- All executions of a step but the last are repeated. -/
  repeats : ∀ id ∈ course.route, ∃ repeated last,
    course.attempts.filter (·.node == id) = repeated ++ [last] ∧ last.retested = false ∧
      ∀ attempt ∈ repeated, attempt.retested = true ∧ attempt.ending.isCompleted = true
  nodup : course.graph.reachable.Nodup
  complete : ∀ id : Nat, id ∈ course.graph.reachable ↔ id < course.graph.size
  /-- The children that a step was built with, and before the end step those that
  it queued, in this order. -/
  children : ∀ id ∈ course.route, ∃ queued : List NodeId,
    course.graph.children id =
      (base.aroundEnd (base.children id)).1 ++ queued ++ (base.aroundEnd (base.children id)).2 ∧
      queued.map course.graph.step? = (course.queuedBy id).map some ∧
      ∀ new ∈ queued, base.size ≤ new

theorem Traversal.ofItinerary {base first : Graph Profile} {retests : Nat} {course : Course}
    {start : Nat} {domain : List NodeId} {visits : List Walk.Visit}
    (forest : course.graph.Forest) (started : course.graph.start = some start)
    (attempts : course.attempts = visits.flatMap Walk.Visit.attempts)
    (itinerary : Walk.Itinerary base retests first course.graph [start] domain visits) :
    Traversal base retests course := by
  have whole := forest.whole_reachable started
  have nodup := forest.reachable_nodup started
  have nodes : (visits.map Walk.Visit.node).Nodup :=
    (itinerary.order.sublist_whole whole).nodup nodup
  have last (visit : Walk.Visit) (member : visit ∈ visits) :
      course.lastOf? visit.node = some visit.last := by
    simp [Course.lastOf?, attempts, Walk.filter_visits nodes member, Walk.Visit.attempts]
  have times (visit : Walk.Visit) (member : visit ∈ visits) :
      course.timesOf visit.node = visit.attempts.length := by
    rw [Course.timesOf, List.countP_eq_length_filter, attempts, Walk.filter_visits nodes member]
  have halted (visit : Walk.Visit) (member : visit ∈ visits) :
      course.halted visit.node = !visit.goesOn := by
    simp [Course.halted, last visit member, Walk.Visit.goesOn]
  have route : course.route = visits.map Walk.Visit.node := by
    have free : ∀ root ∈ [start], course.graph.isBelow course.halted root = false := by
      intro root isRoot
      rw [List.mem_singleton.mp isRoot]
      exact forest.isBelow_start _ started
    exact (forest.listing_filter whole free).unique (itinerary.order.listing halted)
  have ofRoute {property : NodeId → Prop} (holds : ∀ visit ∈ visits, property visit.node) :
      ∀ id ∈ course.route, property id := by
    intro id member
    rw [route] at member
    rcases List.mem_map.mp member with ⟨visit, isVisit, rfl⟩
    exact holds visit isVisit
  constructor
  · rw [route, attempts, List.map_flatMap, List.flatMap_map]
    apply List.flatMap_congr
    intro visit member
    rw [times visit member, visit.map_node_attempts]
  · apply ofRoute
    intro visit member
    rw [times visit member, visit.length_attempts]
    exact ⟨Nat.succ_pos _, Nat.succ_le_succ (itinerary.bounded visit member)⟩
  · refine ofRoute fun visit member => ⟨visit.repeated, visit.last, ?_, visit.last_retested, ?_⟩
    · rw [attempts, Walk.filter_visits nodes member]
      rfl
    · exact fun attempt isRepeated => (visit.repeated_node attempt isRepeated).2
  · exact nodup
  · exact fun id => ⟨forest.lt_size_of_mem_reachable started, forest.mem_reachable started⟩
  · apply ofRoute
    intro visit member
    have queued : course.queuedBy visit.node = visit.queued := by
      simp [Course.queuedBy, last visit member, Walk.Visit.queued]
    rw [queued]
    exact itinerary.grafted visit member

namespace Traversal

variable {base : Graph Profile} {retests start : Nat} {course : Course} {attempt : Attempt}

theorem mem_of_order {attempts : List Attempt} {ids : List NodeId} {times : NodeId → Nat}
    (order : attempts.map (·.node) = ids.flatMap fun id => List.replicate (times id) id)
    (member : attempt ∈ attempts) : attempt.node ∈ ids := by
  have visited : attempt.node ∈ attempts.map (·.node) := List.mem_map_of_mem member
  rw [order] at visited
  rcases List.mem_flatMap.mp visited with ⟨id, isPlanned, replicated⟩
  rw [(List.mem_replicate.mp replicated).2]
  exact isPlanned

theorem mem_route (traversal : Traversal base retests course)
    (member : attempt ∈ course.attempts) : attempt.node ∈ course.route :=
  mem_of_order traversal.order member

/-! What stops at a step that failed or crashed. -/

/-- A step is not executed again after it failed or crashed. -/
theorem last_of_stopped (traversal : Traversal base retests course)
    (member : attempt ∈ course.attempts) (stopped : attempt.ending.isCompleted = false) :
    attempt.retested = false ∧
      ∃ earlier, course.attempts.filter (·.node == attempt.node) = earlier ++ [attempt] := by
  rcases traversal.repeats attempt.node (traversal.mem_route member) with
    ⟨repeated, last, same, once, completed⟩
  have isOne : attempt ∈ repeated ++ [last] := by
    rw [← same]
    exact List.mem_filter.mpr ⟨member, by simp⟩
  rcases List.mem_append.mp isOne with isRepeated | isLast
  · have complete := (completed attempt isRepeated).2
    rw [stopped] at complete
    cases complete
  · rw [← List.mem_singleton.mp isLast] at same once
    exact ⟨once, repeated, same⟩

theorem lastOf_stopped (traversal : Traversal base retests course)
    (member : attempt ∈ course.attempts) (stopped : attempt.ending.isCompleted = false) :
    course.lastOf? attempt.node = some attempt := by
  rcases traversal.last_of_stopped member stopped with ⟨-, earlier, same⟩
  rw [Course.lastOf?, same]
  exact List.getLast?_concat

/-- Nothing that it queued is attached. -/
theorem children_of_stopped (traversal : Traversal base retests course)
    (member : attempt ∈ course.attempts) (stopped : attempt.ending.isCompleted = false) :
    course.graph.children attempt.node = base.children attempt.node := by
  have queued : course.queuedBy attempt.node = [] := by
    simp [Course.queuedBy, traversal.lastOf_stopped member stopped, Attempt.queued, stopped]
  rcases traversal.children attempt.node (traversal.mem_route member) with ⟨ids, children, steps, -⟩
  rw [queued, List.map_nil] at steps
  rw [children, List.map_eq_nil_iff.mp steps, List.append_nil, Graph.aroundEnd_append]

/-- Nothing below it is executed. -/
theorem not_below_stopped (traversal : Traversal base retests course)
    (forest : course.graph.Forest) (member : attempt ∈ course.attempts)
    (stopped : attempt.ending.isCompleted = false) {other : Attempt}
    (isOther : other ∈ course.attempts) (below : course.graph.AtOrAbove attempt.node other.node) :
    other.node = attempt.node := by
  have halted : course.halted attempt.node = true := by
    simp [Course.halted, traversal.lastOf_stopped member stopped, stopped]
  rcases Relation.ReflTransGen.cases_head below with same | ⟨child, isChild, below⟩
  · exact same.symm
  · have left := forest.isBelow_of_atOrAbove isChild halted below
    have planned := (List.mem_filter.mp (traversal.mem_route isOther)).2
    simp [left] at planned

/-- What is executed is listed as far as nothing stops it. -/
theorem listing (forest : course.graph.Forest) (started : course.graph.start = some start) :
    course.graph.Listing (fun id => course.halted id = false) [start] course.route := by
  refine forest.listing_filter (forest.whole_reachable started) fun root isRoot => ?_
  rw [List.mem_singleton.mp isRoot]
  exact forest.isBelow_start _ started

/-- The order of the route is the order of the executions. -/
theorem apart (traversal : Traversal base retests course) {first second : NodeId}
    (pair : [first, second].Sublist course.route) :
    ∃ earlier later, course.attempts = earlier ++ later ∧
      (∀ attempt ∈ earlier, attempt.node ≠ second) ∧ (∀ attempt ∈ later, attempt.node ≠ first) ∧
      ∃ attempt ∈ later, attempt.node = second := by
  rcases List.cons_sublist_iff.mp pair with ⟨front, back, split, inFront, rest⟩
  have inBack : second ∈ back := List.singleton_sublist.mp rest
  have nodup : (front ++ back).Nodup := by
    rw [← split]
    exact traversal.nodup.sublist List.filter_sublist
  have apart := (List.nodup_append.mp nodup).2.2
  have order := traversal.order
  rw [split, List.flatMap_append] at order
  rcases List.map_eq_append_iff.mp order with ⟨earlier, later, attempts, earlierNodes, laterNodes⟩
  refine ⟨earlier, later, attempts, ?_, ?_, ?_⟩
  · rintro attempt member rfl
    exact apart _ (mem_of_order earlierNodes member) _ inBack rfl
  · rintro attempt member rfl
    exact apart _ inFront _ (mem_of_order laterNodes member) rfl
  · have planned : second ∈ course.route := by
      rw [split]
      exact List.mem_append_right _ inBack
    have executed : second ∈ later.map (·.node) := by
      rw [laterNodes]
      have positive := (traversal.times second planned).1
      exact List.mem_flatMap.mpr
        ⟨second, inBack, List.mem_replicate.mpr ⟨Nat.ne_of_gt positive, rfl⟩⟩
    rcases List.mem_map.mp executed with ⟨attempt, member, same⟩
    exact ⟨attempt, member, same⟩

/-- Of two siblings in the tree as it has grown, the second is executed after the first. -/
theorem siblings (traversal : Traversal base retests course) (forest : course.graph.Forest)
    (started : course.graph.start = some start) {parent first second : NodeId}
    {before after : List NodeId}
    (children : course.graph.children parent = before ++ first :: after) (isLater : second ∈ after)
    (visited : first ∈ course.route) :
    ∃ earlier later, course.attempts = earlier ++ later ∧
      (∀ attempt ∈ earlier, attempt.node ≠ second) ∧ (∀ attempt ∈ later, attempt.node ≠ first) ∧
      ∃ attempt ∈ later, attempt.node = second := by
  have isChild : first ∈ course.graph.children parent := by simp [children]
  have known := forest.mem_children_iff.mp isChild
  have free : course.graph.isBelow course.halted first = false := by
    simpa using (List.mem_filter.mp visited).2
  rw [forest.isBelow_child _ known, Bool.or_eq_false_iff] at free
  have parentPlanned : parent ∈ course.route := by
    refine List.mem_filter.mpr ⟨(traversal.complete parent).mpr ?_, by simp [free.2]⟩
    exact Graph.lt_size_of_mem_children isChild
  have inOrder := (listing forest started).children_sublist parentPlanned free.1
  rw [children] at inOrder
  refine traversal.apart (List.Sublist.trans ?_ inOrder)
  have pair : [first, second].Sublist (first :: after) :=
    List.cons_sublist_cons.mpr (List.singleton_sublist.mpr isLater)
  exact (pair.trans (List.sublist_append_right before _)).cons parent

end Traversal

end Triage
