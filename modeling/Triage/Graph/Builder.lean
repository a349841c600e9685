import Triage.Graph.Basic
import Triage.Step.Basic

namespace Triage

/-! The construction of a tree: a start step, steps below steps that are there
already, and an end step. A refused addition leaves the tree as it was. -/

inductive Addition where
  | start (step : Step)
  | step (parent : NodeId) (step : Step)
  | end (step : Step)

/-- Names the tree later, when the construction as a whole fails. -/
def RunError.construction (message : String) : RunError :=
  .treeConstruction "" message

namespace Graph

def addStart (graph : Graph Step) (step : Step) : Except RunError (Graph Step × NodeId) :=
  let profile := step.profile
  if graph.start.isSome then .error (.construction "a start step was already added")
  else if profile.kind != .start then
    .error (.construction s!"'{profile.id}' is a {profile.kind.name} step and cannot start a tree")
  else
    let id := graph.size
    .ok ({ graph with nodes := graph.nodes ++ [⟨step, .start, none, []⟩], start := some id }, id)

def addStep (graph : Graph Step) (parent : NodeId) (step : Step) :
    Except RunError (Graph Step × NodeId) :=
  let profile := step.profile
  if graph.size ≤ parent then
    .error (.construction s!"parent step StepId({parent}) does not exist")
  else if profile.kind.isFixed then
    .error (.construction
      s!"'{profile.id}' is a {profile.kind.name} step; use add_start or add_end")
  else .ok (graph.attach parent profile.kind step)

def addEnd (graph : Graph Step) (step : Step) : Except RunError (Graph Step × NodeId) :=
  let profile := step.profile
  match graph.start with
  | none => .error (.construction "add_start must be called before add_end")
  | some start =>
      if graph.end_.isSome then .error (.construction "an end step was already added")
      else if profile.kind != .end then
        .error (.construction s!"'{profile.id}' is not an end step")
      else
        let (graph, id) := graph.attach start profile.kind step
        .ok ({ graph with end_ := some id }, id)

def add (graph : Graph Step) : Addition → Except RunError (Graph Step × NodeId)
  | .start step => graph.addStart step
  | .step parent step => graph.addStep parent step
  | .end step => graph.addEnd step

/-- A tree is complete when it has a start. -/
def complete (graph : Graph Step) : Except RunError (Graph Step) :=
  if graph.start.isNone then .error (.construction "the tree has no start step") else .ok graph

/-- The same tree with less said about its steps. -/
def map {σ τ : Type} (transform : σ → τ) (graph : Graph σ) : Graph τ where
  nodes := graph.nodes.map fun node => ⟨transform node.step, node.kind, node.parent, node.children⟩
  start := graph.start
  end_ := graph.end_

/-- The tree with its steps by profile. -/
def outline (graph : Graph Step) : Graph Profile :=
  graph.map Step.profile

end Graph

end Triage
