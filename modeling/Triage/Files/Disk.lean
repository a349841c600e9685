import Triage.Files.Error
import Triage.Files.Path

namespace Triage

/-! Files and directories, held in memory. A place is the list of names on the way
from the root. -/

abbrev Place := List String

structure Disk where
  files : List (Place × String)
  /-- The root is one even if it is not listed. -/
  directories : List Place
  /-- Where relative paths start. -/
  here : Place

namespace Disk

inductive Entry where
  | file (text : String)
  | directory

def entry? (disk : Disk) (place : Place) : Option Entry :=
  match disk.files.lookup place with
  | some text => some (.file text)
  | none => if place.isEmpty || disk.directories.contains place then some .directory else none

def segments (path : String) : List String :=
  (Text.split '/' path).filter fun segment => segment != "" && segment != "."

def startOf (disk : Disk) (path : String) : Place :=
  if Text.hasPrefix "/" path then [] else disk.here

/-- Goes on from a place; everything on the way must be a directory. -/
def follow (disk : Disk) (place : Place) : List String → Except FileError Place
  | [] => .ok place
  | segment :: rest =>
      match disk.entry? place with
      | none => .error .notFound
      | some (.file _) => .error .notDirectory
      | some .directory =>
          if segment == ".." then disk.follow place.dropLast rest
          else disk.follow (place ++ [segment]) rest

def locate (disk : Disk) (path : String) : Except FileError Place :=
  if path == "" then .error .notFound else disk.follow (disk.startOf path) (segments path)

def read (disk : Disk) (path : String) : Except FileError String :=
  match disk.locate path with
  | .error error => .error error
  | .ok place =>
      match disk.entry? place with
      | some (.file text) => .ok text
      | some .directory => .error .isDirectory
      | none => .error .notFound

def putFile (disk : Disk) (place : Place) (text : String) : Disk :=
  { disk with files := disk.files.filter (·.1 != place) ++ [(place, text)] }

def write (disk : Disk) (path text : String) : Except FileError Disk :=
  match disk.locate path with
  | .error error => .error error
  | .ok place =>
      match disk.entry? place with
      | some .directory => .error .isDirectory
      | _ => .ok (disk.putFile place text)

/-- Makes every directory on the way that is missing. -/
def makeFrom (disk : Disk) (place : Place) : List String → Except FileError Disk
  | [] => .ok disk
  | segment :: rest =>
      let next := if segment == ".." then place.dropLast else place ++ [segment]
      match disk.entry? next with
      | some .directory => disk.makeFrom next rest
      | some (.file _) => .error (if rest.isEmpty then .exists else .notDirectory)
      | none => makeFrom { disk with directories := disk.directories ++ [next] } next rest

def makeDirectory (disk : Disk) (path : String) : Except FileError Disk :=
  disk.makeFrom (disk.startOf path) (segments path)

/-- The names of what is right inside a directory, in alphabetical order. -/
def names (disk : Disk) (path : String) : List String :=
  match disk.locate path with
  | .error _ => []
  | .ok place =>
      let inside := (disk.files.map (·.1) ++ disk.directories).filterMap fun other =>
        if other.dropLast == place then other.getLast? else none
      inside.mergeSort (fun left right => decide (left ≤ right))

/-- A disk that holds these files and the directories on the way to them. -/
def ofFiles (here : String) (files : List (String × String)) : Disk :=
  let start : Disk := ⟨[], [], []⟩
  let disk := (start.makeDirectory here).toOption.getD start
  let disk := { disk with here := segments here }
  files.foldl (fun disk (path, text) =>
    let disk := (disk.makeDirectory ((Path.parent? path).getD "")).toOption.getD disk
    (disk.write path text).toOption.getD disk) disk

end Disk

end Triage
