import Triage.Step.Profile

namespace Triage

/-! The steps of a tree, numbered in the order in which they were added. A run
adds to the same graph. -/

abbrev NodeId := Nat

structure GraphNode (σ : Type) where
  step : σ
  kind : StepKind
  parent : Option NodeId
  children : List NodeId
deriving Repr

structure Graph (σ : Type) where
  nodes : List (GraphNode σ)
  start : Option NodeId
  end_ : Option NodeId
deriving Repr

namespace Graph

variable {σ : Type}

def empty : Graph σ :=
  ⟨[], none, none⟩

def size (graph : Graph σ) : Nat :=
  graph.nodes.length

def ids (graph : Graph σ) : List NodeId :=
  List.range graph.size

def step? (graph : Graph σ) (id : NodeId) : Option σ :=
  graph.nodes[id]?.map (·.step)

def parent? (graph : Graph σ) (id : NodeId) : Option NodeId :=
  graph.nodes[id]?.bind (·.parent)

def children (graph : Graph σ) (id : NodeId) : List NodeId :=
  match graph.nodes[id]? with
  | some node => node.children
  | none => []

/-- The steps without a parent. -/
def roots (graph : Graph σ) : List NodeId :=
  graph.ids.filter fun id => (graph.parent? id).isNone

/-! Everything that can be reached from the start, a step before its children and
the children in order. A stack holds what is still to be visited. -/

/-- `fuel` bounds the number of steps that are visited. -/
def visitFrom (graph : Graph σ) : (fuel : Nat) → List NodeId → List NodeId
  | 0, _ => []
  | _, [] => []
  | fuel + 1, id :: rest => id :: visitFrom graph fuel (graph.children id ++ rest)

def reachable (graph : Graph σ) : List NodeId :=
  graph.visitFrom graph.size graph.start.toList

/-! Attaching steps. The end step stays behind everything that is attached beside
it. -/

/-- Children before the end step, and the end step with what follows it. -/
def aroundEnd (graph : Graph σ) (siblings : List NodeId) : List NodeId × List NodeId :=
  let isEnd (id : NodeId) : Bool := some id == graph.end_
  (siblings.takeWhile (!isEnd ·), siblings.dropWhile (!isEnd ·))

def withChild (graph : Graph σ) (id : NodeId) (node : GraphNode σ) : GraphNode σ :=
  let (before, after) := graph.aroundEnd node.children
  { node with children := before ++ id :: after }

/-- The grown graph and the number of the new step. -/
def attach (graph : Graph σ) (parent : NodeId) (kind : StepKind) (step : σ) : Graph σ × NodeId :=
  let id := graph.size
  let nodes := graph.nodes.modify parent (graph.withChild id)
  ({ graph with nodes := nodes ++ [⟨step, kind, some parent, []⟩] }, id)

end Graph

end Triage
