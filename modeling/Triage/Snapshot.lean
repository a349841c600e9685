import Triage.Error
import Triage.Files.Load
import Triage.Resource
import Triage.Value.Json
import Triage.Entries

namespace Triage

/-! Resources from a file, in the place of a cloud service. A project that the
file does not mention is one that may not be read. -/

abbrev Snapshot := Entries (List Value)

namespace Snapshot

/-! Reading the file. Two levels stand around the instances of a project. -/

open Json

def instances? (depth : Nat) : Node → Option (List Value)
  | .array items => items.mapM (Value.ofNode? (depth - 1))
  | _ => none

def project? (depth : Nat) (node : Node) : Option (List Value) := do
  match ← node.slots? ["instances"] with
  | [instances] => instances.withDefault? [] (instances? (depth - 1))
  | _ => none

def projects? (depth : Nat) : Node → Option Snapshot
  | .object members => do
      let projects ← members.mapM fun (name, node) => do
        return (name, ← project? (depth - 1) node)
      return .ofList projects
  | _ => none

def ofNode? (node : Node) : Option Snapshot := do
  match ← node.slots? ["projects"] with
  | [projects] => projects.withDefault? [] (projects? (depthLimit - 1))
  | _ => none

def read? (text : String) : Option Snapshot :=
  (Node.read? text.toList).bind ofNode?

def malformed : String := "resource snapshot is not valid JSON"

def load (path : String) : Job (Except LoadError Snapshot) :=
  Triage.load "snapshot" (fun text => (read? text).elim (.error malformed) .ok) path

/-! Looking instances up. -/

def service : String := "compute"

/-- The zone may be given by its address, which ends in its name. -/
def zoneOf? (instance_ : Value) : Option String :=
  (instance_.textField? "zone").map (Text.afterLast '/')

def idOf? (instance_ : Value) : Option String :=
  match instance_.field? "id" with
  | some (.string id) => some id
  | some (.number id) => some id.text
  | _ => none

/-- An instance without a link to itself gets the one that it would have. -/
def withSelfLink (project : String) (instance_ : Value) : Value :=
  match instance_, instance_.field? "selfLink", zoneOf? instance_, instance_.textField? "name" with
  | .object fields, none, some zone, some name =>
      .object (Value.insertField "selfLink" (.string (Text.join ""
        ["https://compute.googleapis.com/compute/v1/projects/", project, "/zones/", zone,
          "/instances/", name])) fields)
  | _, _, _, _ => instance_

def projectOf (snapshot : Snapshot) (project : String) : Except ApiError (List Value) :=
  match snapshot.get? project with
  | some instances => .ok instances
  | none =>
      .error (.of 403 service
        s!"project '{project}' is not in the snapshot or the caller lacks access")

/-- The first instance with that name in that zone. -/
def instance? (snapshot : Snapshot) (project zone name : String) : Except ApiError Value := do
  let found := (← snapshot.projectOf project).find? fun instance_ =>
    instance_.textField? "name" == some name && zoneOf? instance_ == some zone
  match found with
  | some instance_ => return withSelfLink project instance_
  | none =>
      throw (.notFound service s!"instance '{name}' was not found in {project}/{zone}")

/-- The first instance with that id, in any zone. -/
def instanceById? (snapshot : Snapshot) (project id : String) : Except ApiError Value := do
  match (← snapshot.projectOf project).find? (idOf? · == some id) with
  | some instance_ => return withSelfLink project instance_
  | none => throw (.notFound service s!"no instance with id {id} in project {project}")

end Snapshot

end Triage
