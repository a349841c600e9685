import Triage.Files.Path
import Triage.Run.Engine

namespace Triage

/-! Settings that are kept in a file. -/

structure Config where
  auto : Bool
  /-- Where the reports of runs with findings go. -/
  reportDirectory : Option String
  interface : Interface
  color : Bool
  /-- Texts are wrapped at this width. -/
  width : Nat
  /-- How often a step may be executed again. -/
  retests : Nat
deriving DecidableEq, Repr

namespace Config

/-- What holds where nothing else is said. -/
def standard : Config where
  auto := false
  reportDirectory := none
  interface := .terminal
  color := true
  width := 100
  retests := 3

/-! The file. -/

open Json

def toNode (config : Config) : Node :=
  .object [("auto", .bool config.auto),
    ("report_dir", .ofOption .string config.reportDirectory),
    ("interface", .string config.interface.name), ("color", .bool config.color),
    ("wrap_width", .ofNat config.width), ("max_retests", .ofNat config.retests)]

def text (config : Config) : String :=
  String.ofList (config.toNode.pretty 0)

def fields : List String :=
  ["auto", "report_dir", "interface", "color", "wrap_width", "max_retests"]

def directory? : Node → Option (Option String)
  | .null => some none
  | node => node.string?.map some

/-- Fields that are not there have their standard values. -/
def ofNode? (node : Node) : Option Config := do
  match ← node.slots? fields with
  | [auto, directory, interface, color, width, retests] =>
      return {
        auto := ← auto.withDefault? standard.auto Node.bool?
        reportDirectory := ← directory.withDefault? standard.reportDirectory directory?
        interface := ← interface.withDefault? standard.interface fun node =>
          node.choice?.bind Interface.ofName?
        color := ← color.withDefault? standard.color Node.bool?
        width := ← width.withDefault? standard.width (Node.nat? (twoPow 64))
        retests := ← retests.withDefault? standard.retests (Node.nat? (twoPow 32)) }
  | _ => none

def read? (text : String) : Option Config :=
  (Node.read? text.toList).bind ofNode?

def expand (home : String) (config : Config) : Config :=
  { config with reportDirectory := config.reportDirectory.map (Path.expandTilde home) }

/-- A text that makes no sense counts for nothing. -/
def ofText (home text : String) : Config :=
  ((read? text).getD standard).expand home

/-- A file that is not there counts for nothing, either. -/
def ofFile (home : String) : Except FileError String → Except FileError Config
  | .ok text => .ok (ofText home text)
  | .error .notFound => .ok standard
  | .error error => .error error

def load (home path : String) : Job (Except FileError Config) := do
  return ofFile home (← Job.effect (.readFile path))

/-- Makes the directory of the file if need be. -/
def save (config : Config) (path : String) : Job (Except FileError Unit) := do
  match Path.parent? path with
  | none => Job.writeFile path config.text
  | some directory =>
      match ← Job.createDirectory directory with
      | .error error => return .error error
      | .ok () => Job.writeFile path config.text

/-! What is said for one session takes precedence. -/

structure Overrides where
  auto : Option Bool
  reportDirectory : Option String
  interface : Option Interface
  color : Option Bool
deriving DecidableEq, Repr

def override (home : String) (overrides : Overrides) (config : Config) : Config :=
  { config with
    auto := overrides.auto.getD config.auto
    reportDirectory :=
      (overrides.reportDirectory.map (Path.expandTilde home)).or config.reportDirectory
    interface := overrides.interface.getD config.interface
    color := overrides.color.getD config.color }

/-- What the engine is to know. -/
def settings (config : Config) : Settings where
  mode := .ofAuto config.auto
  reportDirectory := config.reportDirectory
  retests := config.retests

end Config

end Triage
