import Triage.Proofs.Graph.Forest
import Triage.Proofs.Step.Uses

namespace Triage

variable {calls : Call → Prop}

/-! ## What the steps of a tree may do -/

namespace Body

theorem invoke_uses {call : Call} {next : call.Reply → Body} (allowed : calls call)
    (rest : ∀ reply, (next reply).Uses calls) : (Body.invoke call next).Uses calls := by
  refine ⟨allowed, fun reply => ?_⟩
  cases reply with
  | ok reply => exact rest reply
  | error error => trivial

theorem enqueue_uses {child : Step} {next : Body} (allowed : child.Uses calls)
    (rest : next.Uses calls) : (Body.enqueue child next).Uses calls := by
  refine ⟨allowed, fun reply => ?_⟩
  cases reply with
  | ok done => exact rest
  | error error => trivial

end Body

def Addition.subject : Addition → Step
  | .start subject => subject
  | .step _ subject => subject
  | .end subject => subject

namespace Blueprint

/-- Every step that is added performs only such calls, and every step that it queues. -/
def Uses (calls : Call → Prop) : Blueprint → Prop
  | .done => True
  | .fail _ => True
  | .crash _ => True
  | .add addition next => addition.subject.Uses calls ∧ ∀ reply, (next reply).Uses calls
  | .note _ rest => rest.Uses calls

theorem place_uses {addition : Addition} {next : NodeId → Blueprint}
    (allowed : addition.subject.Uses calls) (rest : ∀ id, (next id).Uses calls) :
    (Blueprint.place addition next).Uses calls := by
  refine ⟨allowed, fun reply => ?_⟩
  cases reply with
  | ok id => exact rest id
  | error error => trivial

end Blueprint

/-- The steps of a tree perform only such calls. -/
def Graph.Uses (graph : Graph Step) (calls : Call → Prop) : Prop :=
  ∀ id step, graph.step? id = some step → step.Uses calls

namespace Graph

theorem Uses.attach {graph : Graph Step} (uses : graph.Uses calls) {step : Step}
    (allowed : step.Uses calls) (parent : Nat) (kind : StepKind) :
    (graph.attach parent kind step).1.Uses calls := by
  intro id found known
  rw [step?_attach] at known
  split at known
  · cases known
    exact allowed
  · exact uses id found known

theorem Uses.add {graph grown : Graph Step} {addition : Addition} {id : NodeId}
    (uses : graph.Uses calls) (allowed : addition.subject.Uses calls)
    (added : graph.add addition = .ok (grown, id)) : grown.Uses calls := by
  cases addition with
  | start step =>
      rcases addStart_cases added with ⟨-, -, -, rfl⟩
      intro id found known
      simp only [step?, List.getElem?_append] at known
      split at known
      · exact uses id found known
      · rcases Option.map_eq_some_iff.mp known with ⟨node, isNode, rfl⟩
        have single := List.mem_of_getElem? isNode
        rw [List.mem_singleton.mp single]
        exact allowed
  | step parent step =>
      rcases addStep_cases added with ⟨-, -, result⟩
      cases result
      exact uses.attach allowed _ _
  | «end» step =>
      rcases addEnd_cases added with ⟨start, -, -, -, -, rfl⟩
      exact uses.attach allowed _ _

end Graph

namespace Blueprint

theorem follow_uses (blueprint : Blueprint) {graph built : Graph Step} {notes : List Json.Node}
    (uses : blueprint.Uses calls) (before : graph.Uses calls)
    (followed : blueprint.follow graph = (notes, .graph built)) : built.Uses calls := by
  induction blueprint generalizing graph notes with
  | done => cases followed; exact before
  | fail failure => cases followed
  | crash message => cases followed
  | note entry rest induction =>
      cases step : rest.follow graph with
      | mk later product =>
          simp only [follow, step, Prod.mk.injEq] at followed
          exact induction uses before (followed.2 ▸ step)
  | add addition next induction =>
      simp only [follow] at followed
      split at followed
      · next added => exact induction _ (uses.2 _) (before.add uses.1 added) followed
      · exact induction _ (uses.2 _) before followed

theorem build_uses {name : String} {blueprint : Blueprint} {graph : Graph Step}
    {notes : List Json.Node} (uses : blueprint.Uses calls)
    (built : blueprint.build name = (notes, .ok (.ok graph))) : graph.Uses calls := by
  have empty : (Graph.empty : Graph Step).Uses calls := by
    intro id step known
    simp [Graph.step?, Graph.empty] at known
  exact follow_uses blueprint uses empty (follow_of_build built).1

end Blueprint

end Triage
