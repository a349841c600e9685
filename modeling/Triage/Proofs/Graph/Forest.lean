import Mathlib.Data.List.Nodup
import Triage.Tree.Blueprint

namespace Triage

namespace Graph

variable {σ : Type}

/-! What attaching a step changes: the children of one step, and the new step. -/

@[simp] theorem size_attach (graph : Graph σ) (parent : Nat) (kind : StepKind) (step : σ) :
    (graph.attach parent kind step).1.size = graph.size + 1 := by
  simp [attach, size]

@[simp] theorem start_attach (graph : Graph σ) (parent : Nat) (kind : StepKind) (step : σ) :
    (graph.attach parent kind step).1.start = graph.start := rfl

/-- The siblings with a new one in its place. -/
def siblingsWith (graph : Graph σ) (id : Nat) (siblings : List NodeId) : List NodeId :=
  (graph.aroundEnd siblings).1 ++ id :: (graph.aroundEnd siblings).2

@[simp] theorem aroundEnd_append (graph : Graph σ) (siblings : List NodeId) :
    (graph.aroundEnd siblings).1 ++ (graph.aroundEnd siblings).2 = siblings := by
  simp [aroundEnd]

theorem siblingsWith_perm (graph : Graph σ) (id : Nat) (siblings : List NodeId) :
    (graph.siblingsWith id siblings).Perm (id :: siblings) := by
  have around : (graph.siblingsWith id siblings).Perm
      (id :: ((graph.aroundEnd siblings).1 ++ (graph.aroundEnd siblings).2)) :=
    List.perm_middle
  rwa [aroundEnd_append] at around

theorem getElem?_nodes_attach (graph : Graph σ) (parent : Nat) (kind : StepKind) (step : σ)
    (id : Nat) :
    (graph.attach parent kind step).1.nodes[id]? =
      if id = graph.size then some ⟨step, kind, some parent, []⟩
      else if id = parent then graph.nodes[id]?.map (graph.withChild graph.size)
      else graph.nodes[id]? := by
  simp only [attach, size, List.getElem?_append, List.length_modify, List.getElem?_modify]
  by_cases inside : id < graph.nodes.length
  · by_cases atParent : id = parent
    · subst id
      simp [inside, Nat.ne_of_lt inside]
    · simp [inside, atParent, Nat.ne_of_lt inside, Ne.symm atParent]
  · by_cases atEnd : id = graph.nodes.length
    · simp [atEnd]
    · have positive : id - graph.nodes.length ≠ 0 := by omega
      simp [inside, atEnd, positive]

theorem children_of_size_le {graph : Graph σ} {id : Nat} (outside : graph.size ≤ id) :
    graph.children id = [] := by
  simp [children, List.getElem?_eq_none outside]

theorem lt_size_of_mem_children {graph : Graph σ} {id child : Nat}
    (member : child ∈ graph.children id) : id < graph.size := by
  by_contra outside
  simp [children_of_size_le (Nat.not_lt.mp outside)] at member

theorem children_attach {graph : Graph σ} {parent : Nat} (inside : parent < graph.size)
    (kind : StepKind) (step : σ) (id : Nat) :
    (graph.attach parent kind step).1.children id =
      if id = parent then graph.siblingsWith graph.size (graph.children parent)
      else graph.children id := by
  by_cases atParent : id = parent
  · subst id
    have found : graph.nodes[parent]? = some graph.nodes[parent] :=
      List.getElem?_eq_getElem inside
    simp [children, getElem?_nodes_attach, Nat.ne_of_lt inside, found, withChild, siblingsWith]
  · by_cases atEnd : id = graph.size
    · have none : graph.children id = [] := children_of_size_le (Nat.le_of_eq atEnd.symm)
      rw [if_neg atParent, none]
      simp [children, getElem?_nodes_attach, atEnd]
    · simp [children, getElem?_nodes_attach, atParent, atEnd]

theorem parent?_attach (graph : Graph σ) (parent : Nat) (kind : StepKind) (step : σ)
    (id : Nat) :
    (graph.attach parent kind step).1.parent? id =
      if id = graph.size then some parent else graph.parent? id := by
  by_cases atEnd : id = graph.size
  · simp [parent?, getElem?_nodes_attach, atEnd]
  · by_cases atParent : id = parent
    · subst id
      cases found : graph.nodes[parent]? <;>
        simp [parent?, getElem?_nodes_attach, atEnd, found, withChild]
    · simp [parent?, getElem?_nodes_attach, atParent, atEnd]

theorem step?_attach (graph : Graph σ) (parent : Nat) (kind : StepKind) (step : σ)
    (id : Nat) :
    (graph.attach parent kind step).1.step? id =
      if id = graph.size then some step else graph.step? id := by
  by_cases atEnd : id = graph.size
  · simp [step?, getElem?_nodes_attach, atEnd]
  · by_cases atParent : id = parent
    · subst id
      cases found : graph.nodes[parent]? <;>
        simp [step?, getElem?_nodes_attach, atEnd, found, withChild]
    · simp [step?, getElem?_nodes_attach, atParent, atEnd]

/-! ## Well-formed trees -/

/-- Parents and lists of children say the same, a step is added after its parent,
and only the start has no parent. -/
structure Forest (graph : Graph σ) : Prop where
  parent_lt : ∀ {id parent : Nat}, graph.parent? id = some parent → parent < id
  mem_children_iff : ∀ {id child : Nat}, child ∈ graph.children id ↔ graph.parent? child = some id
  children_nodup : ∀ id, (graph.children id).Nodup
  start_iff : ∀ {id : Nat}, graph.start = some id ↔ id < graph.size ∧ graph.parent? id = none
  end_lt : ∀ {id : Nat}, graph.end_ = some id → id < graph.size

theorem lt_size_of_parent? {graph : Graph σ} {id parent : Nat}
    (known : graph.parent? id = some parent) : id < graph.size := by
  by_contra outside
  simp [parent?, List.getElem?_eq_none (Nat.not_lt.mp outside)] at known

namespace Forest

theorem empty : Forest (empty : Graph σ) where
  parent_lt known := by simp [parent?, Graph.empty] at known
  mem_children_iff := by simp [parent?, children, Graph.empty]
  children_nodup := by simp [children, Graph.empty]
  start_iff := by simp [size, Graph.empty]
  end_lt := by simp [Graph.empty]

variable {graph : Graph σ}

theorem lt_of_mem_children (forest : graph.Forest) {id child : Nat}
    (member : child ∈ graph.children id) : id < child :=
  forest.parent_lt (forest.mem_children_iff.mp member)

theorem child_lt_size (forest : graph.Forest) {id child : Nat}
    (member : child ∈ graph.children id) : child < graph.size :=
  lt_size_of_parent? (forest.mem_children_iff.mp member)

theorem attach (forest : graph.Forest) {parent : Nat} (inside : parent < graph.size)
    (kind : StepKind) (step : σ) : (graph.attach parent kind step).1.Forest where
  parent_lt {id found} known := by
    rw [parent?_attach] at known
    split at known
    · next atEnd => cases known; exact atEnd ▸ inside
    · exact forest.parent_lt known
  mem_children_iff {id child} := by
    have fresh : graph.size ∉ graph.children id := fun member =>
      Nat.lt_irrefl _ (forest.child_lt_size member)
    rw [children_attach inside, parent?_attach]
    by_cases atParent : id = parent
    · subst id
      rw [if_pos rfl, (graph.siblingsWith_perm _ _).mem_iff, List.mem_cons,
        forest.mem_children_iff]
      by_cases atEnd : child = graph.size <;> simp [atEnd]
    · rw [if_neg atParent]
      by_cases atEnd : child = graph.size
      · simp [atEnd, fresh, Ne.symm atParent]
      · simp [atEnd, forest.mem_children_iff]
  children_nodup id := by
    rw [children_attach inside]
    split
    · rw [(graph.siblingsWith_perm _ _).nodup_iff, List.nodup_cons]
      exact ⟨fun member => Nat.lt_irrefl _ (forest.child_lt_size member),
        forest.children_nodup parent⟩
    · exact forest.children_nodup id
  start_iff {id} := by
    rw [start_attach, forest.start_iff, size_attach, parent?_attach]
    by_cases atEnd : id = graph.size
    · simp [atEnd]
    · have around : id < graph.size + 1 ↔ id < graph.size := by omega
      simp [atEnd, around]
  end_lt {id} known := by
    rw [size_attach]
    exact Nat.lt_succ_of_lt (forest.end_lt known)

/-- In a tree without a start there is nothing that could have been attached to. -/
theorem size_eq_zero (forest : graph.Forest) (unstarted : graph.start = none) :
    graph.size = 0 := by
  by_contra occupied
  have orphan : graph.parent? 0 = none := by
    cases known : graph.parent? 0 with
    | none => rfl
    | some parent => exact absurd (forest.parent_lt known) (Nat.not_lt_zero parent)
  have started := forest.start_iff.mpr ⟨Nat.pos_of_ne_zero occupied, orphan⟩
  rw [unstarted] at started
  cases started

end Forest

/-! ## Construction -/

section Construction

variable {graph grown : Graph Step} {id : NodeId}

/-! When an addition is accepted, and what comes of it. -/

theorem addStart_cases {step : Step} (added : graph.addStart step = .ok (grown, id)) :
    graph.start = none ∧ step.profile.kind = .start ∧ id = graph.size ∧
      grown =
        { graph with
          nodes := graph.nodes ++ [⟨step, .start, none, []⟩]
          start := some graph.size } := by
  simp only [addStart] at added
  split at added
  · cases added
  · next unstarted =>
    split at added
    · cases added
    · next kind =>
      cases added
      exact ⟨by simpa using unstarted, by simpa using kind, rfl, rfl⟩

theorem addStep_cases {parent : NodeId} {step : Step}
    (added : graph.addStep parent step = .ok (grown, id)) :
    parent < graph.size ∧ step.profile.kind.isFixed = false ∧
      (grown, id) = graph.attach parent step.profile.kind step := by
  simp only [addStep] at added
  split at added
  · cases added
  · next inside =>
    split at added
    · cases added
    · next kind =>
      cases added
      exact ⟨Nat.not_le.mp inside, by simpa using kind, rfl⟩

theorem addEnd_cases {step : Step} (added : graph.addEnd step = .ok (grown, id)) :
    ∃ start, graph.start = some start ∧ graph.end_ = none ∧ step.profile.kind = .end ∧
      id = graph.size ∧
      grown = { (graph.attach start step.profile.kind step).1 with end_ := some id } := by
  simp only [addEnd] at added
  split at added
  · cases added
  · next start started =>
    split at added
    · cases added
    · next unended =>
      split at added
      · cases added
      · next kind =>
        cases added
        exact ⟨start, started, by simpa using unended, by simpa using kind, rfl, rfl⟩

theorem Forest.addStart {step : Step} (forest : graph.Forest)
    (added : graph.addStart step = .ok (grown, id)) : grown.Forest := by
  rcases addStart_cases added with ⟨unstarted, -, -, rfl⟩
  have empty : graph.nodes = [] := by
    simpa [size] using forest.size_eq_zero unstarted
  constructor
  · intro id parent known
    cases id <;> simp [parent?, empty] at known
  · intro id child
    cases id <;> cases child <;> simp [parent?, children, empty]
  · intro id
    cases id <;> simp [children, empty]
  · intro id
    cases id <;> simp [parent?, size, empty]
  · intro id known
    exact absurd (forest.end_lt known) (by simp [size, empty])

theorem Forest.addStep {parent : NodeId} {step : Step} (forest : graph.Forest)
    (added : graph.addStep parent step = .ok (grown, id)) : grown.Forest := by
  rcases addStep_cases added with ⟨inside, -, result⟩
  cases result
  exact forest.attach inside _ _

/-- Where the end step is makes no difference to the shape of a tree. -/
theorem Forest.withEnd (forest : graph.Forest) {last : Nat} (inside : last < graph.size) :
    Forest { graph with end_ := some last } where
  parent_lt := forest.parent_lt
  mem_children_iff := forest.mem_children_iff
  children_nodup := forest.children_nodup
  start_iff := forest.start_iff
  end_lt known := by
    cases known
    exact inside

theorem Forest.addEnd {step : Step} (forest : graph.Forest)
    (added : graph.addEnd step = .ok (grown, id)) : grown.Forest := by
  rcases addEnd_cases added with ⟨start, started, -, -, rfl, rfl⟩
  exact (forest.attach (forest.start_iff.mp started).1 _ _).withEnd
    (by rw [size_attach]; exact Nat.lt_succ_self _)

theorem Forest.add {addition : Addition} (forest : graph.Forest)
    (added : graph.add addition = .ok (grown, id)) : grown.Forest := by
  cases addition with
  | start step => exact forest.addStart added
  | step parent step => exact forest.addStep added
  | «end» step => exact forest.addEnd added

/-! The end step stays the last child of the start. -/

def EndLast (graph : Graph σ) : Prop :=
  ∀ last, graph.end_ = some last →
    ∃ start before, graph.start = some start ∧ graph.children start = before ++ [last]

theorem aroundEnd_of_mem {graph : Graph σ} {last : NodeId} (known : graph.end_ = some last)
    {before after : List NodeId} (absent : last ∉ before) :
    graph.aroundEnd (before ++ last :: after) = (before, last :: after) := by
  have keeps : ∀ id ∈ before, (!(some id == graph.end_)) = true := by
    intro id member
    have different : id ≠ last := fun equal => absent (equal ▸ member)
    simp [known, different]
  simp only [aroundEnd]
  rw [List.takeWhile_append_of_pos keeps, List.dropWhile_append_of_pos keeps]
  simp [known]

theorem aroundEnd_of_not_mem {graph : Graph σ} {siblings : List NodeId}
    (absent : ∀ last, graph.end_ = some last → last ∉ siblings) :
    graph.aroundEnd siblings = (siblings, []) := by
  have keeps : ∀ id ∈ siblings, (!(some id == graph.end_)) = true := by
    intro id member
    cases known : graph.end_ with
    | none => rfl
    | some last =>
        have different : id ≠ last := fun equal => absent last known (equal ▸ member)
        simp [different]
  simp only [aroundEnd]
  rw [← List.append_nil siblings, List.takeWhile_append_of_pos keeps,
    List.dropWhile_append_of_pos keeps]
  simp

theorem EndLast.attach {graph : Graph σ} (forest : graph.Forest) (placed : graph.EndLast)
    {parent : NodeId} (inside : parent < graph.size) (kind : StepKind) (step : σ) :
    (graph.attach parent kind step).1.EndLast := by
  intro last known
  rcases placed last known with ⟨start, before, started, children⟩
  refine ⟨start, ?_⟩
  rw [children_attach inside]
  by_cases atStart : start = parent
  · subst parent
    have nodup := forest.children_nodup start
    rw [children] at nodup
    have absent : last ∉ before := fun member =>
      (List.nodup_append.mp nodup).2.2 last member last List.mem_cons_self rfl
    refine ⟨before ++ [graph.size], started, ?_⟩
    have around : graph.aroundEnd (before ++ [last]) = (before, [last]) :=
      aroundEnd_of_mem known absent
    rw [if_pos rfl, siblingsWith, children, around]
    simp
  · exact ⟨before, started, by rw [if_neg atStart, children]⟩

theorem EndLast.add {addition : Addition} (forest : graph.Forest) (placed : graph.EndLast)
    (added : graph.add addition = .ok (grown, id)) : grown.EndLast := by
  cases addition with
  | start step =>
      rcases addStart_cases added with ⟨unstarted, -, -, rfl⟩
      intro last known
      exact absurd (forest.end_lt known) (by simp [forest.size_eq_zero unstarted])
  | step parent step =>
      rcases addStep_cases added with ⟨inside, -, result⟩
      cases result
      exact placed.attach forest inside _ _
  | «end» step =>
      rcases addEnd_cases added with ⟨start, started, unended, -, rfl, rfl⟩
      intro last known
      cases known
      have inside := (forest.start_iff.mp started).1
      refine ⟨start, graph.children start, started, ?_⟩
      show (graph.attach start step.profile.kind step).1.children start = _
      rw [children_attach inside, if_pos rfl, siblingsWith,
        aroundEnd_of_not_mem (by simp [unended])]

end Construction

end Graph

namespace Blueprint

/-! What every addition keeps holds of a tree that was built. -/

theorem follow_induction {Kept : Graph Step → Prop}
    (add : ∀ {graph grown : Graph Step} {addition : Addition} {id : NodeId},
      Kept graph → graph.add addition = .ok (grown, id) → Kept grown)
    (blueprint : Blueprint) {graph built : Graph Step} {notes : List Json.Node}
    (kept : Kept graph) (followed : blueprint.follow graph = (notes, .graph built)) :
    Kept built := by
  induction blueprint generalizing graph notes with
  | done => cases followed; exact kept
  | fail failure => cases followed
  | crash message => cases followed
  | note entry rest induction =>
      cases step : rest.follow graph with
      | mk later product =>
          simp only [follow, step, Prod.mk.injEq] at followed
          exact induction kept (followed.2 ▸ step)
  | add addition next induction =>
      simp only [follow] at followed
      split at followed
      · next added => exact induction _ (add kept added) followed
      · exact induction _ kept followed

theorem follow_of_build {name : String} {blueprint : Blueprint} {graph : Graph Step}
    {notes : List Json.Node} (built : blueprint.build name = (notes, .ok (.ok graph))) :
    blueprint.follow .empty = (notes, .graph graph) ∧ graph.start.isSome := by
  cases followed : blueprint.follow .empty with
  | mk remarks product =>
      simp only [build, followed] at built
      cases product with
      | refused failure => simp at built
      | crashed message => simp at built
      | graph result =>
          by_cases started : result.start.isNone
          · simp [Graph.complete, started] at built
          · simp only [Graph.complete, started, Bool.false_eq_true, if_false, Prod.mk.injEq,
              Except.ok.injEq] at built
            rcases built with ⟨rfl, rfl⟩
            exact ⟨rfl, by simpa [Option.isSome_iff_ne_none] using started⟩

theorem build_induction (Kept : Graph Step → Prop) (empty : Kept .empty)
    (add : ∀ {graph grown : Graph Step} {addition : Addition} {id : NodeId},
      Kept graph → graph.add addition = .ok (grown, id) → Kept grown)
    {name : String} {blueprint : Blueprint} {graph : Graph Step} {notes : List Json.Node}
    (built : blueprint.build name = (notes, .ok (.ok graph))) : Kept graph :=
  follow_induction add blueprint empty (follow_of_build built).1

theorem build_start {name : String} {blueprint : Blueprint} {graph : Graph Step}
    {notes : List Json.Node} (built : blueprint.build name = (notes, .ok (.ok graph))) :
    ∃ start, graph.start = some start :=
  Option.isSome_iff_exists.mp (follow_of_build built).2

theorem build_forest {name : String} {blueprint : Blueprint} {graph : Graph Step}
    {notes : List Json.Node} (built : blueprint.build name = (notes, .ok (.ok graph))) :
    graph.Forest :=
  build_induction Graph.Forest .empty Graph.Forest.add built

theorem build_endLast {name : String} {blueprint : Blueprint} {graph : Graph Step}
    {notes : List Json.Node} (built : blueprint.build name = (notes, .ok (.ok graph))) :
    graph.EndLast := by
  have empty : (Graph.empty : Graph Step).EndLast := by
    intro last known
    cases known
  have both := build_induction (fun graph => graph.Forest ∧ graph.EndLast) ⟨.empty, empty⟩
    (fun kept added => ⟨kept.1.add added, kept.2.add kept.1 added⟩) built
  exact both.2

end Blueprint

namespace Graph

/-! Saying less about the steps leaves the shape of a tree as it is. -/

section Outline

variable {σ τ : Type} (transform : σ → τ) (graph : Graph σ)

@[simp] theorem size_map : (graph.map transform).size = graph.size := by
  simp [map, size]

@[simp] theorem children_map (id : NodeId) :
    (graph.map transform).children id = graph.children id := by
  cases found : graph.nodes[id]? <;> simp [map, children, found]

@[simp] theorem parent?_map (id : NodeId) :
    (graph.map transform).parent? id = graph.parent? id := by
  cases found : graph.nodes[id]? <;> simp [map, parent?, found]

theorem Forest.map {graph : Graph σ} (forest : graph.Forest) : (graph.map transform).Forest where
  parent_lt known := forest.parent_lt (by simpa using known)
  mem_children_iff {id child} := by
    rw [children_map, parent?_map]
    exact forest.mem_children_iff
  children_nodup id := by simpa using forest.children_nodup id
  start_iff {id} := by
    rw [size_map, parent?_map]
    exact forest.start_iff
  end_lt {id} known := by
    rw [size_map]
    exact forest.end_lt known

theorem EndLast.map {graph : Graph σ} (placed : graph.EndLast) :
    (graph.map transform).EndLast := by
  intro last known
  rcases placed last known with ⟨start, before, started, children⟩
  exact ⟨start, before, started, by rw [children_map, children]⟩

end Outline

end Graph

end Triage
