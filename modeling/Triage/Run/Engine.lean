import Triage.Files.Path
import Triage.Registry.Basic
import Triage.Report.File
import Triage.Run.Walk

namespace Triage

/-! Running a runbook: look it up, build its tree, settle its parameters, walk the
tree, and file the report. -/

structure Settings where
  mode : Mode
  /-- Where the reports of runs with findings go. -/
  reportDirectory : Option String
  /-- How often a step may be executed again. -/
  retests : Nat
deriving DecidableEq, Repr

structure Request where
  runbook : String
  /-- Without a project the parameters name it. -/
  context : Context
  /-- As they were given. -/
  parameters : Parameters

/-- A run that came to its end. -/
structure Completed where
  report : Report
  /-- Where the report was filed, if it was. -/
  path : Option String

inductive RunResult where
  | completed (run : Completed)
  | failed (error : RunError)
  /-- A crash outside of all steps. -/
  | crashed (message : Crash)

structure Engine where
  registry : Registry
  catalog : Catalog
  settings : Settings

namespace Engine

/-! The parameters of a run. -/

def projectKey : String := "project_id"

/-- Names are compared without regard to the case of ASCII letters. -/
def sameName (left right : String) : Bool :=
  left.toList.map Char.toLower == right.toList.map Char.toLower

/-- The project of the request is a parameter too, unless one is given. -/
def withProject (context : Context) (given : Parameters) : Parameters :=
  if context.projectId == "" || given.any (fun (name, _) => sameName name projectKey) then given
  else given.insert projectKey (.string context.projectId)

/-- The context that the steps see. -/
def contextFor (context : Context) (resolved : Parameters) : Context :=
  let projectId :=
    match context.projectId, resolved.get? projectKey with
    | "", some (.string named) => named
    | projectId, _ => projectId
  { context with projectId := projectId, parameters := resolved }

/-- Resolves parameters; every remark on them is logged. -/
def resolve (specs : Specs) (given : Parameters) : Action Parameters := do
  Job.all (List.replicate (specs.remarks given)
    (Job.log .warn "parameter is deprecated or not declared"))
  specs.resolve given

/-! Filing reports. -/

/-- The name of the file tells when the run was over. -/
def momentOf (report : Report) : Job Instant :=
  match report.finishedAt with
  | some moment => return moment
  | none => Job.now

/-- Writes the report into the directory, which is made if need be. -/
def writeReport (report : Report) (directory : String) : Job (Except FileError String) := do
  match ← Job.createDirectory directory with
  | .error error => return .error error
  | .ok () =>
      let moment ← momentOf report
      let path := Path.join directory (Report.fileName report.runbook report.runId moment)
      match ← Job.writeFile path (Document.ofReport report).text with
      | .error error => return .error error
      | .ok () =>
          Job.log .info "wrote runbook report"
          return .ok path

def printInstead (report : Report) : Job (Option String) := do
  Job.log .warn "could not write report; printing it instead"
  match ← Job.printFallback ((Document.ofReport report).text ++ "\n") with
  | .ok () => return none
  | .error _ =>
      Job.log .warn "could not print report"
      return none

/-- A report that cannot be filed is printed. -/
def persist (report : Report) (directory : String) : Job (Option String) := do
  match ← writeReport report directory with
  | .ok path => return some path
  | .error _ => printInstead report

/-- Only findings are filed. -/
def file (settings : Settings) (report : Report) : Job (Option String) :=
  match settings.reportDirectory with
  | some directory => if report.anyFailed then persist report directory else return none
  | none => return none

/-! A run. -/

/-- The tree of a runbook, with the remarks of its construction in the journal. -/
def build (id : String) (tree : Tree) : Job (Except Crash (Except RunError (Graph Step))) := do
  let (notes, product) := tree.blueprint.build id
  Job.all (notes.map fun entry => Job.note entry)
  return product

/-- Opens a report for a run and walks through its tree. -/
def walk (engine : Engine) (setting : Setting) (graph : Graph Step) : Job (Progress Unit) := do
  let report :=
    Report.opened setting.runId setting.runbook setting.context.parameters setting.mode
      (← Job.now)
  Job.createReport report
  Job.log .info "starting runbook"
  Walk.through setting engine.settings.retests graph

/-- From the first step to the report, which is taken out of the store whether or
not the run comes to its end. -/
def execute (engine : Engine) (setting : Setting) (graph : Graph Step) : Action Completed := do
  match ← ExceptT.lift (engine.walk setting graph) with
  | (_, .error error) =>
      Job.log .error "runbook aborted"
      let _ ← Job.finishReport setting.runId (← Job.now)
      throw error
  | (_, .ok ()) =>
      Operator.printSummary (.opened setting : Operator Profile)
      let report ← Action.ofReport (Job.finishReport setting.runId (← Job.now))
      Job.log .info "runbook finished"
      return ⟨report, ← file engine.settings report⟩

def runId (runbook suffix : String) : String :=
  FileName.sanitize runbook ++ "-" ++ suffix

/-- Runs the tree that was found under `id`, with its parameters as they come from
`adapt`. -/
def runTree (engine : Engine) (mode : Mode) (request : Request) (id : String) (tree : Tree)
    (graph : Graph Step) (given : Parameters) : Action Completed := do
  let resolved ← resolve tree.specs (withProject request.context given)
  let context := contextFor request.context resolved
  let setting : Setting :=
    { runId := runId id (← Job.freshSuffix)
      runbook := id
      mode := mode
      context := context
      specs := tree.specs
      catalog := engine.catalog }
  engine.execute setting graph

def runIn (engine : Engine) (mode : Mode) (request : Request) : Job RunResult := do
  match engine.registry.find request.runbook with
  | .error error => return .failed error
  | .ok (id, registered) =>
      match ← build id registered.tree with
      | .error message => return .crashed message
      | .ok (.error error) => return .failed error
      | .ok (.ok graph) =>
          match registered.tree.adapt request.parameters with
          | .error message => return .crashed message
          | .ok given =>
              match ← (engine.runTree mode request id registered.tree graph given).run with
              | .ok run => return .completed run
              | .error error => return .failed error

def run (engine : Engine) (request : Request) : Job RunResult :=
  engine.runIn engine.settings.mode request

end Engine

end Triage
