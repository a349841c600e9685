import Triage.Proofs.Graph.Growth
import Triage.Proofs.Run.Attempt
import Triage.Proofs.Run.Walk

namespace Triage

namespace Walk

/-! ## Attaching what an execution queued -/

/-- The numbers that queued steps are given. -/
def numbers (graph : Graph Profile) (queued : List Planned) : List NodeId :=
  List.range' graph.size queued.length

theorem size_attachAll (graph : Graph Profile) (node : NodeId) (queued : List Planned) :
    (attachAll graph node queued).1.size = graph.size + queued.length := by
  induction queued generalizing graph with
  | nil => rfl
  | cons child queued induction =>
      simp only [attachAll, List.length_cons]
      rw [induction, Graph.size_attach, Nat.add_assoc, Nat.add_comm 1]

theorem walks_attachAll (graph : Graph Profile) (node : NodeId) (queued : List Planned) :
    (attachAll graph node queued).2 = List.zipWith Planned.walk queued (numbers graph queued) := by
  induction queued generalizing graph with
  | nil => rfl
  | cons child queued induction =>
      simp only [attachAll, numbers, List.length_cons, List.range'_succ, List.zipWith_cons_cons]
      rw [induction, numbers, Graph.size_attach]
      rfl

structure Attached (graph : Graph Profile) (node : NodeId) (front after : List NodeId)
    (queued : List Planned) (later : Graph Profile) : Prop where
  grown : graph.Grown later [node]
  size_eq : later.size = graph.size + queued.length
  children_node : later.children node = front ++ numbers graph queued ++ after
  children_new : ∀ id ∈ numbers graph queued, later.children id = []
  steps_new : (numbers graph queued).map later.step? = queued.map fun child => some child.profile

theorem attachAll_attached {node : Nat} {after : List NodeId} :
    ∀ {queued : List Planned} {graph : Graph Profile} {front : List NodeId},
      graph.Forest → node < graph.size → graph.children node = front ++ after →
      graph.aroundEnd (front ++ after) = (front, after) →
      Attached graph node front after queued (attachAll graph node queued).1
  | [], graph, front, forest, _, children, _ =>
      ⟨.refl forest, rfl, by simp [attachAll, numbers, children], by simp [numbers],
        by simp [numbers]⟩
  | child :: queued, graph, front, forest, inside, children, around => by
      have notEnd : graph.end_ ≠ some graph.size := fun known =>
        Nat.lt_irrefl _ (forest.end_lt known)
      let next := (graph.attach node child.profile.kind child.profile).1
      have grownNext : graph.Grown next [node] := .attach forest inside _ _
      have sizeNext : next.size = graph.size + 1 := graph.size_attach _ _ _
      have childrenNext : next.children node = (front ++ [graph.size]) ++ after := by
        rw [Graph.children_attach inside, if_pos rfl, Graph.siblingsWith, children, around]
        simp
      have aroundNext : next.aroundEnd ((front ++ [graph.size]) ++ after) =
          (front ++ [graph.size], after) := by
        rw [List.append_assoc]
        exact graph.aroundEnd_insert around notEnd
      have rest : Attached next node (front ++ [graph.size]) after queued
          (attachAll next node queued).1 :=
        attachAll_attached grownNext.forest (by omega) childrenNext aroundNext
      have numbersNext : numbers graph (child :: queued) = graph.size :: numbers next queued := by
        simp [numbers, sizeNext, List.range'_succ]
      have inNext : graph.size < next.size := by omega
      have newOutside : graph.size ∉ [node] := by
        simpa using Nat.ne_of_gt inside
      constructor
      · exact grownNext.trans rest.grown fun _ _ member => member
      · exact size_attachAll graph node (child :: queued)
      · rw [numbersNext, List.append_cons]
        exact rest.children_node
      · intro id member
        rw [numbersNext] at member
        rcases List.mem_cons.mp member with rfl | member
        · have fresh : next.children graph.size = [] := by
            rw [Graph.children_attach inside, if_neg (Nat.ne_of_gt inside)]
            exact Graph.children_of_size_le (Nat.le_refl _)
          exact (rest.grown.children_eq inNext newOutside).trans fresh
        · exact rest.children_new id member
      · have stepNew : next.step? graph.size = some child.profile := by
          simp [next, Graph.step?_attach]
        rw [numbersNext, List.map_cons, List.map_cons]
        exact congrArg₂ List.cons ((rest.grown.step?_eq inNext).trans stepNew) rest.steps_new

/-! ## The order of executions

The visits of a walk are its steps in depth-first order, over the tree as it has
grown in the end. -/

inductive Order (graph : Graph Profile) : List NodeId → List Visit → Prop
  | nil : Order graph [] []
  | descend {visit : Visit} {rest : List NodeId} {below after : List Visit}
      (on : visit.goesOn = true) (children : Order graph (graph.children visit.node) below)
      (siblings : Order graph rest after) :
      Order graph (visit.node :: rest) (visit :: below ++ after)
  | stop {visit : Visit} {rest : List NodeId} {after : List Visit} (off : visit.goesOn = false)
      (siblings : Order graph rest after) : Order graph (visit.node :: rest) (visit :: after)

/-- A walk that an error may have ended: the steps where it stayed are in the same
order, as far as it came. -/
inductive Partway (graph : Graph Profile) : List NodeId → List Stay → Prop
  | stop (roots : List NodeId) : Partway graph roots []
  | here (stay : Stay) (rest : List NodeId) : Partway graph (stay.node :: rest) [stay]
  | descend {visit : Visit} {rest : List NodeId} {stays : List Stay} (on : visit.goesOn = true)
      (children : Partway graph (graph.children visit.node) stays) :
      Partway graph (visit.node :: rest) (visit.stay :: stays)
  | after {root : NodeId} {rest : List NodeId} {visits : List Visit} {stays : List Stay}
      (first : Order graph [root] visits) (siblings : Partway graph rest stays) :
      Partway graph (root :: rest) (visits.map Visit.stay ++ stays)

/-- The children of a step that was visited: those that it had when the tree was
built, with those that its last execution queued before the end step. -/
def Grafted (base graph : Graph Profile) (visit : Visit) : Prop :=
  ∃ ids : List NodeId,
    graph.children visit.node =
      (base.aroundEnd (base.children visit.node)).1 ++ ids ++
        (base.aroundEnd (base.children visit.node)).2 ∧
      ids.map graph.step? = visit.queued.map some ∧ ∀ id ∈ ids, base.size ≤ id

theorem Order.append {graph : Graph Profile} {roots others : List NodeId}
    {visits more : List Visit} (first : Order graph roots visits)
    (second : Order graph others more) :
    Order graph (roots ++ others) (visits ++ more) := by
  induction first with
  | nil => exact second
  | descend on children _ _ induction =>
      simpa only [List.cons_append, List.append_assoc] using .descend on children induction
  | stop off _ induction => exact .stop off induction

theorem Order.congr {graph later : Graph Profile} {roots : List NodeId} {visits : List Visit}
    (order : Order graph roots visits)
    (same : ∀ visit ∈ visits, later.children visit.node = graph.children visit.node) :
    Order later roots visits := by
  induction order with
  | nil => exact .nil
  | @descend visit rest below after on _ _ belowInduction afterInduction =>
      have sameBelow := belowInduction fun other member => same other (by simp [member])
      have sameAfter := afterInduction fun other member => same other (by simp [member])
      rw [← same visit (by simp)] at sameBelow
      exact .descend on sameBelow sameAfter
  | stop off _ induction =>
      exact .stop off (induction fun other member => same other (List.mem_cons_of_mem _ member))

namespace Partway

variable {graph : Graph Profile} {roots others : List NodeId} {visits : List Visit}
  {stays : List Stay}

theorem append_right (partway : Partway graph roots stays) (others : List NodeId) :
    Partway graph (roots ++ others) stays := by
  induction partway with
  | stop roots => exact .stop (roots ++ others)
  | here stay rest => exact .here stay (rest ++ others)
  | descend on children _ => exact .descend on children
  | after first _ induction => exact .after first induction

theorem append_left (order : Order graph roots visits) (partway : Partway graph others stays) :
    Partway graph (roots ++ others) (visits.map Visit.stay ++ stays) := by
  induction order with
  | nil => exact partway
  | @descend visit rest below after on children _ _ induction =>
      have first : Order graph [visit.node] (visit :: below ++ []) := .descend on children .nil
      simpa using Partway.after first induction
  | @stop visit rest after off _ induction =>
      have first : Order graph [visit.node] [visit] := .stop off .nil
      simpa using Partway.after first induction

/-- A walk that came to its end. -/
theorem ofOrder (order : Order graph roots visits) :
    Partway graph roots (visits.map Visit.stay) := by
  simpa using append_left order (.stop [])

end Partway

section Order

variable {base graph middle later : Graph Profile} {retests : Nat}
  {roots others domain rest : List NodeId} {visits more : List Visit}

/-- The steps that a walk visits: those of its domain, and those that were attached
on the way. -/
structure Itinerary (base : Graph Profile) (retests : Nat) (graph later : Graph Profile)
    (roots domain : List NodeId) (visits : List Visit) : Prop where
  order : Order later roots visits
  inside : ∀ visit ∈ visits, visit.node ∈ domain ∨ graph.size ≤ visit.node
  lt_size : ∀ visit ∈ visits, visit.node < later.size
  grafted : ∀ visit ∈ visits, Grafted base later visit
  bounded : ∀ visit ∈ visits, visit.repeated.length ≤ retests

/-- The steps of the domain are there, as they were when the tree was built. -/
structure Ready (base graph : Graph Profile) (domain : List NodeId) : Prop where
  forest : graph.Forest
  size_le : base.size ≤ graph.size
  end_eq : graph.end_ = base.end_
  untouched : ∀ id ∈ domain, id < graph.size ∧ graph.children id = base.children id

theorem Ready.grow (ready : Ready base graph rest) (grown : graph.Grown later domain)
    (apart : ∀ id ∈ rest, id ∉ domain) : Ready base later rest where
  forest := grown.forest
  size_le := Nat.le_trans ready.size_le grown.size_le
  end_eq := grown.end_eq.trans ready.end_eq
  untouched id member := by
    rcases ready.untouched id member with ⟨inside, same⟩
    exact ⟨Nat.lt_of_lt_of_le inside grown.size_le,
      (grown.children_eq inside (apart id member)).trans same⟩

theorem Ready.mono (ready : Ready base graph domain) (subset : rest ⊆ domain) :
    Ready base graph rest :=
  ⟨ready.forest, ready.size_le, ready.end_eq, fun id member => ready.untouched id (subset member)⟩

/-- What is attached later, elsewhere, leaves the itinerary as it is. -/
theorem Itinerary.grow (itinerary : Itinerary base retests graph middle roots domain visits)
    (grown : middle.Grown later rest)
    (apart : ∀ visit ∈ visits, visit.node ∉ rest) :
    Itinerary base retests graph later roots domain visits where
  order := itinerary.order.congr fun visit member =>
    grown.children_eq (itinerary.lt_size visit member) (apart visit member)
  inside := itinerary.inside
  lt_size visit member := Nat.lt_of_lt_of_le (itinerary.lt_size visit member) grown.size_le
  grafted visit member := by
    rcases itinerary.grafted visit member with ⟨ids, children, steps, new⟩
    refine ⟨ids, ?_, ?_, new⟩
    · rw [grown.children_eq (itinerary.lt_size visit member) (apart visit member), children]
    · rw [← steps]
      apply List.map_congr_left
      intro id isId
      have known : some (middle.step? id) ∈ (visit.queued.map some).map some := by
        rw [← steps]
        exact List.mem_map_of_mem (List.mem_map_of_mem isId)
      refine grown.step?_eq ?_
      by_contra outside
      have none : middle.step? id = none := by
        simp [Graph.step?, List.getElem?_eq_none (Nat.not_lt.mp outside)]
      rw [none] at known
      simp at known
  bounded := itinerary.bounded

theorem Itinerary.append (first : Itinerary base retests graph later roots domain visits)
    (second : Itinerary base retests middle later others rest more)
    (size_le : graph.size ≤ middle.size) :
    Itinerary base retests graph later (roots ++ others) (domain ++ rest) (visits ++ more) where
  order := first.order.append second.order
  inside visit member := by
    rcases List.mem_append.mp member with member | member
    · exact (first.inside visit member).imp (List.mem_append_left _) id
    · exact (second.inside visit member).imp (List.mem_append_right _) (Nat.le_trans size_le)
  lt_size visit member :=
    (List.mem_append.mp member).elim (first.lt_size visit) (second.lt_size visit)
  grafted visit member :=
    (List.mem_append.mp member).elim (first.grafted visit) (second.grafted visit)
  bounded visit member :=
    (List.mem_append.mp member).elim (first.bounded visit) (second.bounded visit)

end Order

/-! ## Walks keep the order -/

section Walked

variable {base : Graph Profile} {setting : Setting} {retests : Nat} {course : Course}
  {roots others domain rest : List NodeId}

structure Walked (base : Graph Profile) (retests : Nat) (course : Course)
    (roots domain : List NodeId) (later : Progress Unit) : Prop where
  grown : course.graph.Grown later.1.graph domain
  visits : later.2 = .ok () → ∃ visits : List Visit,
    later.1.attempts = course.attempts ++ visits.flatMap Visit.attempts ∧
      Itinerary base retests course.graph later.1.graph roots domain visits
  partway : ∀ error, later.2 = .error error → ∃ stays : List Stay,
    later.1.attempts = course.attempts ++ stays.flatMap Stay.attempts ∧
      Partway later.1.graph roots stays

def Ordered (base : Graph Profile) (setting : Setting) (retests : Nat)
    (roots domain : List NodeId) (walk : Walk) : Prop :=
  ∀ course : Course, Ready base course.graph domain →
    (walk course).Meets (Effect.IsOwn setting) (Walked base retests course roots domain)

theorem ordered_stay : Ordered base setting retests [] [] stay := fun _ ready =>
  Job.meets_pure ⟨.refl ready.forest, fun _ =>
    ⟨[], by simp, .nil, by simp, by simp, by simp, by simp⟩, by simp⟩

theorem flatMap_stay (visits : List Visit) :
    (visits.map Visit.stay).flatMap Stay.attempts = visits.flatMap Visit.attempts := by
  rw [List.flatMap_map]
  rfl

theorem ordered_followedBy {first second : Walk}
    (firstOrdered : Ordered base setting retests roots domain first)
    (secondOrdered : Ordered base setting retests others rest second)
    (nodup : (domain ++ rest).Nodup) :
    Ordered base setting retests (roots ++ others) (domain ++ rest) (first.followedBy second) := by
  intro course ready
  have apart : ∀ id ∈ rest, id ∉ domain := fun id inRest inDomain =>
    (List.nodup_append.mp nodup).2.2 id inDomain id inRest rfl
  have readyFirst := ready.mono (List.subset_append_left domain rest)
  have readyRest := ready.mono (List.subset_append_right domain rest)
  refine andThen_meets (firstOrdered course readyFirst) ?_ ?_
  · intro later error walked
    refine ⟨walked.grown.mono (List.subset_append_left _ _), by simp, fun _ failed => ?_⟩
    rcases walked.partway _ rfl with ⟨stays, added, partway⟩
    exact ⟨stays, added, partway.append_right others⟩
  · intro middle _ walked
    apply (secondOrdered middle (readyRest.grow walked.grown apart)).imp
    intro later walkedRest
    have grown := walked.grown.mono (List.subset_append_left domain rest)
    rcases walked.visits rfl with ⟨visits, added, itinerary⟩
    have attempts : middle.attempts = course.attempts ++ visits.flatMap Visit.attempts := added
    have elsewhere : ∀ visit ∈ visits, visit.node ∉ rest := by
      intro visit member inRest
      rcases itinerary.inside visit member with inDomain | new
      · exact apart _ inRest inDomain
      · exact Nat.lt_irrefl _ (Nat.lt_of_lt_of_le (readyRest.untouched _ inRest).1 new)
    have itineraryNow := itinerary.grow walkedRest.grown elsewhere
    refine ⟨grown.trans walkedRest.grown fun id _ member => List.mem_append_right _ member,
      fun came => ?_, fun error failed => ?_⟩
    · rcases walkedRest.visits came with ⟨more, addedRest, itineraryRest⟩
      exact ⟨visits ++ more, by simp [addedRest, attempts],
        itineraryNow.append itineraryRest walked.grown.size_le⟩
    · rcases walkedRest.partway error failed with ⟨stays, addedRest, partway⟩
      exact ⟨visits.map Visit.stay ++ stays, by simp [addedRest, attempts, flatMap_stay],
        .append_left itineraryNow.order partway⟩

/-- Steps that are attached are walked through one after the other. -/
theorem ordered_all {queued : List Planned} {ids : List NodeId}
    (each : ∀ child ∈ queued, ∀ id ∈ ids, Ordered base setting retests [id] [id] (child.walk id))
    (same : queued.length = ids.length) (nodup : ids.Nodup) :
    Ordered base setting retests ids ids (all (List.zipWith Planned.walk queued ids)) := by
  induction queued generalizing ids with
  | nil =>
      rw [List.length_eq_zero_iff.mp same.symm]
      exact ordered_stay
  | cons child queued induction =>
      cases ids with
      | nil => cases same
      | cons id ids =>
          have first := each child List.mem_cons_self id List.mem_cons_self
          have others := induction (fun other member number isNumber =>
            each other (List.mem_cons_of_mem _ member) number (List.mem_cons_of_mem _ isNumber))
            (Nat.succ.inj same) (List.nodup_cons.mp nodup).2
          exact ordered_followedBy first others nodup

theorem mem_numbers {graph : Graph Profile} {queued : List Planned} {id : Nat} :
    id ∈ numbers graph queued ↔ graph.size ≤ id ∧ id < graph.size + queued.length :=
  List.mem_range'_1

theorem Ready.nodup_numbers {graph : Graph Profile} {node : NodeId} {queued : List Planned}
    (ready : Ready base graph (node :: (domain ++ rest)))
    (nodup : (node :: (domain ++ rest)).Nodup) :
    (domain ++ (numbers graph queued ++ rest)).Nodup := by
  rcases List.nodup_append.mp (List.nodup_cons.mp nodup).2 with ⟨first, second, apart⟩
  have old : ∀ id ∈ domain ++ rest, id ∉ numbers graph queued := by
    intro id member isNumber
    exact absurd (ready.untouched id (List.mem_cons_of_mem _ member)).1
      (Nat.not_lt.mpr (mem_numbers.mp isNumber).1)
  refine List.nodup_append.mpr ⟨first, ?_, ?_⟩
  · refine List.nodup_append.mpr ⟨List.nodup_range', second, ?_⟩
    rintro id isNumber _ inRest rfl
    exact old id (List.mem_append_right _ inRest) isNumber
  · rintro id inDomain other member rfl
    rcases List.mem_append.mp member with isNumber | inRest
    · exact old id (List.mem_append_left _ inDomain) isNumber
    · exact apart id inDomain id inRest rfl

/-- The new steps have no children yet, and the other ones those that they had. -/
theorem Ready.attached {graph later : Graph Profile} {node : NodeId} {queued : List Planned}
    (ready : Ready base graph (node :: (domain ++ rest)))
    (attaches : Attached graph node roots others queued later)
    (nodup : (node :: (domain ++ rest)).Nodup) :
    Ready base later (domain ++ (numbers graph queued ++ rest)) := by
  have elsewhere : ∀ id ∈ domain ++ rest, id ∉ [node] := by
    intro id member isNode
    rw [List.mem_singleton.mp isNode] at member
    exact (List.nodup_cons.mp nodup).1 member
  have grown := (ready.mono (List.subset_cons_self node _)).grow attaches.grown elsewhere
  refine ⟨grown.forest, grown.size_le, grown.end_eq, fun id member => ?_⟩
  by_cases isNumber : id ∈ numbers graph queued
  · refine ⟨attaches.size_eq ▸ (mem_numbers.mp isNumber).2, ?_⟩
    rw [attaches.children_new id isNumber]
    exact (Graph.children_of_size_le
      (Nat.le_trans ready.size_le (mem_numbers.mp isNumber).1)).symm
  · refine grown.untouched id ?_
    simp only [List.mem_append, isNumber, false_or] at member ⊢
    exact member

/-- A step whose branch does not go on is all that is visited. -/
theorem walked_stop {visit : Visit} {later : Course}
    (ready : Ready base course.graph (visit.node :: domain)) (graph : later.graph = course.graph)
    (added : later.attempts = course.attempts ++ visit.attempts) (off : visit.goesOn = false)
    (bound : visit.repeated.length ≤ retests) :
    Walked base retests course [visit.node] (visit.node :: domain) (later, .ok ()) := by
  have nodeReady := ready.untouched visit.node List.mem_cons_self
  have grown : course.graph.Grown later.graph (visit.node :: domain) := by
    rw [graph]
    exact .refl ready.forest
  refine ⟨grown, fun _ => ⟨[visit], by simpa using added, ?_⟩, by simp⟩
  constructor
  · exact .stop off .nil
  · intro other member
    rw [List.mem_singleton.mp member]
    exact .inl List.mem_cons_self
  · intro other member
    rw [List.mem_singleton.mp member]
    exact graph ▸ nodeReady.1
  · intro other member
    rw [List.mem_singleton.mp member]
    refine ⟨[], ?_, by simp [Visit.queued_of_stop off], by simp⟩
    rw [List.append_nil, Graph.aroundEnd_append]
    exact graph ▸ nodeReady.2
  · intro other member
    rw [List.mem_singleton.mp member]
    exact bound

/-- Of what is visited below a step, the numbers that are old are of its domain. -/
theorem mem_of_old {graph : Graph Profile} {queued : List Planned} {id : Nat}
    (old : id < graph.size) (member : id ∈ domain ++ (numbers graph queued ++ rest)) :
    id ∈ domain ++ rest := by
  simp only [List.mem_append, mem_numbers] at member ⊢
  rcases member with inDomain | ⟨⟨new, -⟩ | inRest⟩
  · exact .inl inDomain
  · exact absurd old (Nat.not_lt.mpr new)
  · exact .inr inRest

/-- A step, and what is visited below it after the queued steps were attached. -/
theorem walked_descend {visit : Visit} {queued : List Planned} {attached : Graph Profile}
    {middle : Course} {later : Progress Unit}
    (ready : Ready base course.graph (visit.node :: (domain ++ rest)))
    (nodup : (visit.node :: (domain ++ rest)).Nodup)
    (around : base.aroundEnd (base.children visit.node) = (roots, others))
    (attaches : Attached course.graph visit.node roots others queued attached)
    (graph : middle.graph = attached)
    (added : middle.attempts = course.attempts ++ visit.attempts) (on : visit.goesOn = true)
    (queues : visit.queued = queued.map Planned.profile) (bound : visit.repeated.length ≤ retests)
    (walked : Walked base retests middle (roots ++ (numbers course.graph queued ++ others))
      (domain ++ (numbers course.graph queued ++ rest)) later) :
    Walked base retests course [visit.node] (visit.node :: (domain ++ rest)) later := by
  subst graph
  have nodeInside : visit.node < course.graph.size :=
    (ready.untouched visit.node List.mem_cons_self).1
  have nodeOutside : visit.node ∉ domain ++ (numbers course.graph queued ++ rest) := fun member =>
    (List.nodup_cons.mp nodup).1 (mem_of_old nodeInside member)
  have within : ∀ id : Nat, id < course.graph.size →
      id ∈ domain ++ (numbers course.graph queued ++ rest) →
      id ∈ visit.node :: (domain ++ rest) := fun id old member =>
    List.mem_cons_of_mem _ (mem_of_old old member)
  have grown : course.graph.Grown later.1.graph (visit.node :: (domain ++ rest)) :=
    (attaches.grown.mono (by simp)).trans walked.grown within
  have nodeInsideMiddle := Nat.lt_of_lt_of_le nodeInside attaches.grown.size_le
  have children : later.1.graph.children visit.node =
      roots ++ (numbers course.graph queued ++ others) := by
    rw [walked.grown.children_eq nodeInsideMiddle nodeOutside, attaches.children_node,
      List.append_assoc]
  refine ⟨grown, fun came => ?_, fun error failed => ?_⟩
  rotate_left
  · rcases walked.partway error failed with ⟨stays, addedMore, partway⟩
    rw [← children] at partway
    exact ⟨visit.stay :: stays, by simp [addedMore, added, Visit.stay], .descend on partway⟩
  rcases walked.visits came with ⟨more, addedMore, itinerary⟩
  refine ⟨visit :: more, by simp [addedMore, added], ?_⟩
  constructor
  · have below := itinerary.order
    rw [← children] at below
    simpa using Order.descend on below .nil
  · intro other member
    rcases List.mem_cons.mp member with rfl | member
    · exact .inl List.mem_cons_self
    · rcases itinerary.inside other member with inDomain | new
      · by_cases old : other.node < course.graph.size
        · exact .inl (within _ old inDomain)
        · exact .inr (Nat.not_lt.mp old)
      · exact .inr (Nat.le_trans attaches.grown.size_le new)
  · intro other member
    rcases List.mem_cons.mp member with rfl | member
    · exact Nat.lt_of_lt_of_le nodeInside grown.size_le
    · exact itinerary.lt_size other member
  · intro other member
    rcases List.mem_cons.mp member with rfl | member
    · refine ⟨numbers course.graph queued, ?_, ?_, ?_⟩
      · rw [children, around, List.append_assoc]
      · have steps := attaches.steps_new
        rw [queues, List.map_map]
        refine Eq.trans (List.map_congr_left fun id isNew => ?_) steps
        refine walked.grown.step?_eq ?_
        rw [attaches.size_eq]
        exact (mem_numbers.mp isNew).2
      · intro id isNew
        exact Nat.le_trans ready.size_le (mem_numbers.mp isNew).1
    · exact itinerary.grafted other member
  · intro other member
    rcases List.mem_cons.mp member with rfl | member
    · exact bound
    · exact itinerary.bounded other member

theorem ordered_step {node : NodeId} {profile : Profile} {executions : Nat → Execution}
    {before after : Walk}
    (queues : ∀ index, Queues setting
      (fun child => ∀ id, base.size ≤ id → Ordered base setting retests [id] [id] (child.walk id))
      (executions index))
    (beforeOrdered : Ordered base setting retests roots domain before)
    (afterOrdered : Ordered base setting retests others rest after)
    (around : base.aroundEnd (base.children node) = (roots, others))
    (nodup : (node :: (domain ++ rest)).Nodup) :
    Ordered base setting retests [node] (node :: (domain ++ rest))
      (step setting retests profile executions node before after) := by
  intro course ready
  refine andThen_meets (attempts_meets queues node profile 0 retests course) ?_ ?_
  · intro later error visited
    have graph : later.graph = course.graph := visited.graph
    have grown : course.graph.Grown later.graph (node :: (domain ++ rest)) := by
      rw [graph]
      exact .refl ready.forest
    rcases visited.stay error rfl with ⟨stay, rfl, added⟩
    exact ⟨grown, by simp, fun _ _ => ⟨[stay], by simpa using added, .here stay []⟩⟩
  · intro middle children? visited
    have graph : middle.graph = course.graph := visited.graph
    rcases visited.visit children? rfl with ⟨visit, rfl, bound, added, queued⟩
    cases children? with
    | none => exact Job.meets_pure (walked_stop ready graph added queued bound)
    | some children =>
        rcases queued with ⟨on, profiles, good⟩
        have nodeReady := ready.untouched visit.node List.mem_cons_self
        have siblings : base.children visit.node = roots ++ others := by
          have parts := base.aroundEnd_append (base.children visit.node)
          rw [around] at parts
          exact parts.symm
        have placed : course.graph.children visit.node = roots ++ others :=
          nodeReady.2.trans siblings
        have aroundNow : course.graph.aroundEnd (roots ++ others) = (roots, others) := by
          rw [← siblings, ← around]
          simp only [Graph.aroundEnd, ready.end_eq]
        have attaches : Attached course.graph visit.node roots others children
            (attachAll course.graph visit.node children).1 :=
          attachAll_attached ready.forest nodeReady.1 placed aroundNow
        have readyNow := ready.attached attaches nodup
        have numbersNodup : (domain ++ (numbers course.graph children ++ rest)).Nodup :=
          ready.nodup_numbers nodup
        have walks := ordered_all (fun child member id isNumber => good child member id
            (Nat.le_trans ready.size_le (mem_numbers.mp isNumber).1))
          (List.length_range').symm (List.nodup_range' : (numbers course.graph children).Nodup)
        rw [← walks_attachAll course.graph visit.node] at walks
        have composed := ordered_followedBy beforeOrdered
          (ordered_followedBy walks afterOrdered (List.nodup_append.mp numbersNodup).2.1)
          numbersNodup
        simp only [graph]
        apply (composed { middle with graph := _ } readyNow).imp
        intro later walked
        refine walked_descend ready nodup around attaches ?_ ?_ on profiles bound walked
        · rfl
        · exact added

/-- Every walk of a run keeps the order, whatever its steps do. -/
theorem order_rule (tree : Graph Step) (calls : Call → Prop) :
    Rule setting retests calls tree (Ordered tree.outline setting retests) where
  stay := ordered_stay
  followedBy := ordered_followedBy
  step {profile executions node _ _ roots others _ _} every before after around nodup := by
    have size : tree.outline.size = tree.size := tree.size_map _
    have queues : ∀ index, Queues setting
        (fun child => ∀ id, tree.outline.size ≤ id →
          Ordered tree.outline setting retests [id] [id] (child.walk id))
        (play setting retests (executions index)) := by
      rw [size]
      exact fun index => play_queues _ (every index)
    have aroundOutline :
        tree.outline.aroundEnd (tree.outline.children node) = (roots, others) := by
      rw [Graph.outline, Graph.children_map]
      exact around
    exact ordered_step queues before after aroundOutline nodup

/-- A run through a tree that was built, whatever the replies are. -/
theorem through_meets (setting : Setting) (retests : Nat) {tree : Graph Step} {start : Nat}
    (forest : tree.Forest)
    (started : tree.start = some start) :
    (through setting retests tree).Meets (Effect.IsOwn setting)
      (Walked tree.outline retests ⟨setting.context.parameters, 0, tree.outline, []⟩ [start]
        tree.reachable) := by
  have inside := (forest.start_iff.mp started).1
  have whole := forest.whole_reachable started
  have ordered : Ordered tree.outline setting retests [start] tree.reachable
      (from_ setting retests tree tree.size start) :=
    (order_rule tree fun _ => True).from_ forest (fun _ step _ => step.uses_any) tree.size start
      tree.reachable whole (forest.reachable_nodup started) inside (Nat.le_add_left _ _)
  have ready : Ready tree.outline tree.outline tree.reachable := by
    refine ⟨forest.map _, Nat.le_refl _, rfl, fun id member => ⟨?_, rfl⟩⟩
    rw [Graph.outline, Graph.size_map]
    exact forest.lt_size_of_mem_reachable started member
  unfold through
  rw [started]
  exact ordered _ ready

end Walked

end Walk

end Triage
