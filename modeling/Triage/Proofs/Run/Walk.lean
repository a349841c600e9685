import Triage.Proofs.Graph.Listing
import Triage.Proofs.Step.Uses
import Triage.Run.Walk

namespace Triage

namespace Walk

variable {setting : Setting} {retests : Nat} {calls : Call → Prop} {tree : Graph Step}
  {Holds : List NodeId → List NodeId → Walk → Prop}

/-! ## Properties of walks

A walk is put together from shorter ones. It is taken with the steps where it
starts and with all steps of the tree that it is in charge of; no two parts of a
walk are in charge of the same step. -/

/-- The walk of the step under a number that the tree does not use. -/
def Attachable (setting : Setting) (retests : Nat) (tree : Graph Step)
    (Holds : List NodeId → List NodeId → Walk → Prop) (child : Step) : Prop :=
  ∀ id, tree.size ≤ id → Holds [id] [id] ((plan setting retests child).walk id)

structure Rule (setting : Setting) (retests : Nat) (calls : Call → Prop) (tree : Graph Step)
    (Holds : List NodeId → List NodeId → Walk → Prop) : Prop where
  stay : Holds [] [] Walk.stay
  followedBy : ∀ {roots others domain rest : List NodeId} {first second : Walk},
    Holds roots domain first → Holds others rest second → (domain ++ rest).Nodup →
    Holds (roots ++ others) (domain ++ rest) (first.followedBy second)
  step : ∀ {profile : Profile} {executions : Nat → Body} {node : NodeId} {before after : Walk}
    {roots others domain rest : List NodeId},
    (∀ index, (executions index).Every calls (Attachable setting retests tree Holds)) →
    Holds roots domain before → Holds others rest after →
    tree.aroundEnd (tree.children node) = (roots, others) →
    (node :: (domain ++ rest)).Nodup →
    Holds [node] (node :: (domain ++ rest))
      (Walk.step setting retests profile (fun index => play setting retests (executions index))
        node before after)

namespace Rule

/-- A step that is attached during the run has no steps of the tree below it. -/
theorem every (rule : Rule setting retests calls tree Holds) (body : Body)
    (uses : body.Uses calls) : body.Every calls (Attachable setting retests tree Holds) := by
  refine Body.Uses.every (fun profile executions every => ?_) body uses
  intro id outside
  have childless : tree.aroundEnd (tree.children id) = ([], []) := by
    rw [Graph.children_of_size_le outside]
    rfl
  simp only [plan]
  exact rule.step every rule.stay rule.stay childless (by simp)

theorem all (rule : Rule setting retests calls tree Holds) {walkOf : NodeId → Walk}
    {roots ids : List NodeId}
    (each : ∀ root ∈ roots, ∀ ids, tree.Whole [root] ids → ids.Nodup →
      Holds [root] ids (walkOf root))
    (whole : tree.Whole roots ids) (nodup : ids.Nodup) :
    Holds roots ids (Walk.all (roots.map walkOf)) := by
  induction roots generalizing ids with
  | nil =>
      cases whole
      exact rule.stay
  | cons root rest induction =>
      cases whole with
      | @descend _ _ below after on children siblings =>
          have single : tree.Whole [root] (root :: below) := by
            simpa using Graph.Listing.descend on children .nil
          have apart : ((root :: below) ++ after).Nodup := nodup
          have first := each root List.mem_cons_self _ single (List.nodup_append.mp apart).1
          have others := induction (fun other member => each other (List.mem_cons_of_mem _ member))
            siblings (List.nodup_append.mp apart).2.1
          exact rule.followedBy first others apart
      | stop off => exact absurd trivial off

/-- A walk through the tree as it was built. -/
theorem from_ (rule : Rule setting retests calls tree Holds) (forest : tree.Forest)
    (uses : ∀ id step, tree.step? id = some step → step.Uses calls) :
    ∀ (fuel id : Nat) (ids : List NodeId), tree.Whole [id] ids → ids.Nodup → id < tree.size →
      tree.size ≤ id + fuel → Holds [id] ids (Walk.from_ setting retests tree fuel id)
  | 0, id, _, _, _, inside, enough => absurd inside (by omega)
  | fuel + 1, id, ids, whole, nodup, inside, enough => by
      obtain ⟨node, found⟩ : ∃ node, tree.nodes[id]? = some node :=
        ⟨_, List.getElem?_eq_getElem inside⟩
      have known : tree.step? id = some node.step := by simp [Graph.step?, found]
      rcases around : tree.aroundEnd (tree.children id) with ⟨before, after⟩
      have children : tree.children id = before ++ after := by
        have parts := tree.aroundEnd_append (tree.children id)
        rw [around] at parts
        exact parts.symm
      cases whole with
      | @descend _ _ below none on listed siblings =>
          cases siblings
          rw [children] at listed
          rcases listed.split with ⟨first, second, rfl, beforeListed, afterListed⟩
          rw [List.append_nil] at nodup ⊢
          have apart := (List.nodup_append.mp (List.nodup_cons.mp nodup).2)
          have each (roots : List NodeId) (isChild : ∀ root ∈ roots, root ∈ tree.children id) :
              ∀ root ∈ roots, ∀ ids, tree.Whole [root] ids → ids.Nodup →
                Holds [root] ids (Walk.from_ setting retests tree fuel root) := by
            intro root member ids whole nodup
            have later : id < root := forest.lt_of_mem_children (isChild root member)
            exact rule.from_ forest uses fuel root ids whole nodup
              (forest.child_lt_size (isChild root member)) (by omega)
          have walkBefore := rule.all (each before fun root member => by
            rw [children]
            exact List.mem_append_left _ member) beforeListed apart.1
          have walkAfter := rule.all (each after fun root member => by
            rw [children]
            exact List.mem_append_right _ member) afterListed apart.2.1
          cases made : node.step with
          | mk profile executions =>
              have bodies := uses id node.step known
              rw [made] at bodies known
              simp only [Walk.from_, known, around]
              exact rule.step (fun index => rule.every _ (bodies index)) walkBefore walkAfter
                around nodup
      | stop off => exact absurd trivial off

end Rule

end Walk

end Triage
