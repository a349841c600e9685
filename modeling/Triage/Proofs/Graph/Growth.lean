import Triage.Proofs.Graph.Forest

namespace Triage

namespace Graph

/-! ## How a run changes its tree -/

variable {σ : Type} {graph middle later : Graph σ} {domain rest : List NodeId}

/-- New steps were attached, below the steps of the domain and below each other. -/
structure Grown (graph later : Graph σ) (domain : List NodeId) : Prop where
  forest : later.Forest
  size_le : graph.size ≤ later.size
  start_eq : later.start = graph.start
  end_eq : later.end_ = graph.end_
  step?_eq : ∀ {id : Nat}, id < graph.size → later.step? id = graph.step? id
  children_eq : ∀ {id : Nat}, id < graph.size → id ∉ domain → later.children id = graph.children id
  endLast : graph.EndLast → later.EndLast

theorem Grown.refl (forest : graph.Forest) : graph.Grown graph domain :=
  ⟨forest, Nat.le_refl _, rfl, rfl, fun _ => rfl, fun _ _ => rfl, id⟩

theorem Grown.trans (first : graph.Grown middle domain) (second : middle.Grown later rest)
    (within : ∀ id : Nat, id < graph.size → id ∈ rest → id ∈ domain) :
    graph.Grown later domain where
  forest := second.forest
  size_le := Nat.le_trans first.size_le second.size_le
  start_eq := second.start_eq.trans first.start_eq
  end_eq := second.end_eq.trans first.end_eq
  step?_eq {id} inside := by
    rw [second.step?_eq (Nat.lt_of_lt_of_le inside first.size_le), first.step?_eq inside]
  children_eq {id} inside outside := by
    rw [second.children_eq (Nat.lt_of_lt_of_le inside first.size_le)
      fun member => outside (within id inside member), first.children_eq inside outside]
  endLast placed := second.endLast (first.endLast placed)

theorem Grown.mono (grown : graph.Grown later domain) (subset : domain ⊆ rest) :
    graph.Grown later rest where
  forest := grown.forest
  size_le := grown.size_le
  start_eq := grown.start_eq
  end_eq := grown.end_eq
  step?_eq := grown.step?_eq
  children_eq inside outside := grown.children_eq inside fun member => outside (subset member)
  endLast := grown.endLast

theorem Grown.attach (forest : graph.Forest) {node : Nat} (inside : node < graph.size)
    (kind : StepKind) (step : σ) : graph.Grown (graph.attach node kind step).1 [node] where
  forest := forest.attach inside kind step
  size_le := by simp
  start_eq := rfl
  end_eq := rfl
  step?_eq {id} known := by
    rw [step?_attach, if_neg (Nat.ne_of_lt known)]
  children_eq {id} _ outside := by
    rw [children_attach inside, if_neg (by simpa using outside)]
  endLast placed := placed.attach forest inside kind step

/-- Behind the first part of the siblings is the place for the next one. -/
theorem aroundEnd_insert {front after : List NodeId} {id : NodeId}
    (around : graph.aroundEnd (front ++ after) = (front, after)) (notEnd : graph.end_ ≠ some id) :
    graph.aroundEnd (front ++ id :: after) = (front ++ [id], after) := by
  have keeps : ∀ other ∈ front ++ [id], (!(some other == graph.end_)) = true := by
    intro other member
    rcases List.mem_append.mp member with member | member
    · simp only [aroundEnd, Prod.mk.injEq] at around
      rw [← around.1] at member
      exact List.all_eq_true.mp List.all_takeWhile other member
    · rw [List.mem_singleton.mp member]
      simpa using Ne.symm notEnd
  have ends : after.takeWhile (fun other => !(some other == graph.end_)) = [] ∧
      after.dropWhile (fun other => !(some other == graph.end_)) = after := by
    simp only [aroundEnd, Prod.mk.injEq] at around
    have front_keeps := fun other member => keeps other (List.mem_append_left [id] member)
    rw [List.takeWhile_append_of_pos front_keeps, List.dropWhile_append_of_pos front_keeps]
      at around
    exact ⟨List.append_right_eq_self.mp around.1, around.2⟩
  have shape : front ++ id :: after = (front ++ [id]) ++ after := by simp
  simp only [aroundEnd]
  rw [shape, List.takeWhile_append_of_pos keeps, List.dropWhile_append_of_pos keeps, ends.1,
    ends.2, List.append_nil]

end Graph

end Triage
