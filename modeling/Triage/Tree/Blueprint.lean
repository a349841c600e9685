import Triage.Graph.Builder

namespace Triage

/-! How a tree is built, as data: additions, each with a continuation that takes
the number of the new step. -/

inductive Blueprint where
  | done
  | fail (failure : Failure)
  | crash (message : Crash)
  | add (addition : Addition) (next : Except RunError NodeId → Blueprint)
  /-- Leaves a remark in the journal. -/
  | note (entry : Json.Node) (rest : Blueprint)

namespace Blueprint

/-- Adds a step; an error ends the construction with that error. -/
def place (addition : Addition) (next : NodeId → Blueprint) : Blueprint :=
  .add addition fun
    | .ok id => next id
    | .error error => .fail (.ofRun error)

/-- What a construction comes to. -/
inductive Product where
  | graph (graph : Graph Step)
  | refused (failure : Failure)
  | crashed (message : Crash)

/-- The remarks on the way, and the product. -/
def follow (graph : Graph Step) : Blueprint → List Json.Node × Product
  | .done => ([], .graph graph)
  | .fail failure => ([], .refused failure)
  | .crash message => ([], .crashed message)
  | .note entry rest =>
      let (notes, product) := follow graph rest
      (entry :: notes, product)
  | .add addition next =>
      match graph.add addition with
      | .ok (graph, id) => follow graph (next (.ok id))
      | .error error => follow graph (next (.error error))

/-- Construction errors name the tree; any other failure becomes one. -/
def explain (tree : String) (failure : Failure) : RunError :=
  match failure.runError? with
  | some (.treeConstruction _ message) => .treeConstruction tree message
  | some error => error
  | none => .treeConstruction tree failure.text

/-- The tree that the blueprint describes, under the name it will be known by. -/
def build (tree : String) (blueprint : Blueprint) :
    List Json.Node × Except Crash (Except RunError (Graph Step)) :=
  let (notes, product) := blueprint.follow .empty
  match product with
  | .crashed message => (notes, .error message)
  | .refused failure => (notes, .ok (.error (explain tree failure)))
  | .graph graph =>
      match graph.complete with
      | .ok graph => (notes, .ok (.ok graph))
      | .error error => (notes, .ok (.error (explain tree (.ofRun error))))

end Blueprint

end Triage
