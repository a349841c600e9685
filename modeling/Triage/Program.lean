import Triage.CommandLine
import Triage.Config
import Triage.Environment
import Triage.Log.Filter
import Triage.Renderer.EventLog
import Triage.Run.Batch
import Triage.Run.BatchSpec
import Triage.Runbook.Shipped

namespace Triage

/-! The program that runs runbooks from the command line. -/

/-- Why the program could not do what was asked for. -/
inductive ProgramError where
  | config (error : FileError)
  | load (error : LoadError)
  | run (error : RunError)
deriving DecidableEq, Repr

def ProgramError.text : ProgramError → String
  | .config error =>
      s!"failed to load runbook config: config I/O error: {error.text}: {error.text}"
  | .load error => error.text
  | .run error => Text.join ": " error.chain

namespace Program

abbrev Task := ExceptT ProgramError Job

/-- What the program says about its outcome to the system. -/
abbrev ExitCode := Nat

def successCode : ExitCode := 0
def errorCode : ExitCode := 1
/-- A run with findings. -/
def findingsCode : ExitCode := 2
def usageCode : ExitCode := 2
def crashCode : ExitCode := 101

def print (text : String) : Task Unit :=
  ExceptT.lift (Job.effect (.print text))

def printError (text : String) : Task Unit :=
  ExceptT.lift (Job.effect (.printError text))

/-! Listing runbooks. -/

def listingLine (width : Nat) (id summary : String) (keywords : List String) : String :=
  let line := s!"{Text.padRight width id}  {summary}"
  if keywords.isEmpty then line ++ "\n"
  else line ++ " [" ++ Text.join ", " keywords ++ "]\n"

def listing (registry : Registry) (product : Option String) : String :=
  let summaries :=
    match product with
    | some product => registry.summariesOf product
    | none => registry.summaries
  let width := (summaries.keys.map String.utf8ByteSize).foldl max 0
  String.join (summaries.map fun (id, summary) =>
    let keywords := ((registry.get? id).map (·.tree.keywords)).getD []
    listingLine width id summary keywords)

def registryFor (snapshot : Snapshot) : Task Registry :=
  ExceptT.mk (return (Shipped.registry snapshot).mapError .run)

def list (product : Option String) : Task ExitCode := do
  print (listing (← registryFor []) product)
  return successCode

/-! Running runbooks. -/

def overrides (options : RunOptions) : Config.Overrides where
  auto := if options.auto then some true else none
  reportDirectory := options.reportDirectory
  interface := options.interface
  color := if options.noColor then some false else none

/-- Lines come from the engine, which directives of a filter know by this name. -/
def logSource : String := "gcpdiag_engine"

def logLevel (environment : Environment) (verbosity : Nat) : Option LogLevel :=
  match (environment.get? "RUST_LOG").bind LogFilter.read? with
  | some filter => filter.levelFor logSource
  | none =>
      match verbosity with
      | 0 => some .warn
      | 1 => some .info
      | _ => some .debug

def presentation (environment : Environment) (verbosity : Nat) (config : Config) :
    Presentation where
  interface := config.interface
  ink :=
    if !config.color then .none
    else if environment.wantsNoColor then .bold
    else .color
  width := config.width
  level := logLevel environment verbosity

def contextOf (options : RunOptions) : Context :=
  { (Context.ofProject (options.project.getD "")).withLocations options.locations with
    labels := .ofList options.labels }

/-- Parameters are given as texts; of repeated ones the last counts. -/
def requestOf (id : String) (options : RunOptions) : Request where
  runbook := id
  context := contextOf options
  parameters := .ofList (options.parameters.map fun (name, text) => (name, .string text))

def results (engine : Engine) (target : Target) (options : RunOptions) :
    Task (List RunResult) := do
  match target with
  | .runbook id => return [← ExceptT.lift (engine.run (requestOf id options))]
  | .batch path =>
      let entries ← ExceptT.mk do
        return (← BatchSpec.load path).mapError ProgramError.load
      let context := contextOf options
      ExceptT.lift (engine.runBatch (entries.map (·.request context)))

/-! What is said in the end. -/

open Json

mutual
/-- Members in the order of their names. -/
def sorted : Node → Node
  | .array items => .array (sortedItems items)
  | .object members =>
      .object ((sortedMembers members).mergeSort fun left right => decide (left.1 ≤ right.1))
  | node => node

def sortedItems : List Node → List Node
  | [] => []
  | item :: rest => sorted item :: sortedItems rest

def sortedMembers : List (String × Node) → List (String × Node)
  | [] => []
  | (name, node) :: rest => (name, sorted node) :: sortedMembers rest
end

def resultNode : RunResult → Node
  | .completed run =>
      .object [("report", (Document.ofReport run.report).toNode),
        ("report_path", .ofOption .string run.path)]
  | .failed error => .object [("error", .string error.text)]
  | .crashed message => .object [("error", .string message)]

/-- A session for programs to read. -/
def sessionNode (results : List RunResult) (transcript : Transcript) : Node :=
  .object [("runs", .array (results.map resultNode)),
    ("events", .array (transcript.events.map Event.toNode)), ("logs", .string transcript.logs)]

def reportLine : RunResult → String
  | .completed ⟨_, some path⟩ => s!"Report written to {path}\n"
  | _ => ""

def tell (interface : Interface) (results : List RunResult) : Job Unit := do
  match interface with
  | .terminal => Job.effect (.print (String.join (results.map reportLine)))
  | .events =>
      let transcript ← Job.effect .transcript
      let document := sorted (sessionNode results transcript)
      Job.effect (.print (String.ofList (document.pretty 0) ++ "\n"))

/-- The first run that did not come to its end decides; findings count otherwise. -/
def conclude (interface : Interface) (code : ExitCode) : List RunResult → Job ExitCode
  | [] => do
      Job.log .info "all runs finished"
      return code
  | .completed run :: rest =>
      conclude interface (if run.report.anyFailed then findingsCode else code) rest
  | .failed error :: _ => do
      Job.log .error "runbook did not run"
      if interface = .terminal then Job.effect (.printError s!"error: {error.text}\n")
      return errorCode
  | .crashed message :: _ => do
      Job.effect (.printError s!"{message}\n")
      return crashCode

def isCrash : RunResult → Bool
  | .crashed _ => true
  | _ => false

/-- After a crash there is nothing to tell. -/
def settle (interface : Interface) (results : List RunResult) : Job ExitCode := do
  if !results.any isCrash then tell interface results
  conclude interface successCode results

def runTarget (environment : Environment) (verbosity : Nat) (target : Target)
    (options : RunOptions) : Task ExitCode := do
  let loaded ← ExceptT.mk do
    return (← Config.load environment.home environment.configPath).mapError ProgramError.config
  let config := loaded.override environment.home (overrides options)
  ExceptT.lift (Job.effect (.present (presentation environment verbosity config)))
  let snapshot ←
    match options.snapshot with
    | none => pure []
    | some path => ExceptT.mk do return (← Snapshot.load path).mapError ProgramError.load
  let registry ← registryFor snapshot
  let engine : Engine := ⟨registry, Shipped.messages, config.settings⟩
  ExceptT.lift (settle config.interface (← results engine target options))

/-! The command line. -/

def helpText : String :=
  "Run diagnostic runbooks against a cloud project.\n\n" ++
    "Usage: gcpdiag [-v] list [--product PRODUCT]\n" ++
    "       gcpdiag [-v] runbook ID [OPTION...]\n" ++
    "       gcpdiag [-v] runbook --batch-spec FILE [OPTION...]\n\n" ++
    "Options: -p KEY=VALUE, --project PROJECT, --location LOCATION, --label KEY=VALUE,\n" ++
    "  --auto, --report-dir DIR, --interface cli|api, --no-color, --snapshot FILE\n"

def versionText : String := "gcpdiag 0.1.0\n"

def halt : Halt → Job ExitCode
  | .help => do
      Job.effect (.print helpText)
      return successCode
  | .version => do
      Job.effect (.print versionText)
      return successCode
  | .usage => do
      Job.effect (.printError helpText)
      return usageCode

def perform (environment : Environment) (invocation : Invocation) : Task ExitCode :=
  match invocation.command with
  | .list product => list product
  | .run target options => runTarget environment invocation.verbosity target options

def run (environment : Environment) (arguments : List String) : Job ExitCode := do
  match CommandLine.read arguments with
  | .error reason => halt reason
  | .ok invocation =>
      match ← (perform environment invocation).run with
      | .ok code => return code
      | .error error =>
          Job.effect (.printError s!"error: {error.text}\n")
          return errorCode

end Program

end Triage
