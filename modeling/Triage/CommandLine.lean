import Triage.Renderer.Basic
import Triage.Text.Chars

namespace Triage

/-! What a person asks for on the command line. -/

/-- A key and a value around an equals sign. -/
abbrev Assignment := String × String

namespace Assignment

/-- The first equals sign counts. White space around the key is not part of it. -/
def read? (text : String) : Option Assignment :=
  match Text.cut? '=' text with
  | some (key, value) => if Text.isBlankText key then none else some (Text.trim key, value)
  | none => none

def refusal (text : String) : String :=
  s!"expected KEY=VALUE, got '{text}'"

end Assignment

structure RunOptions where
  parameters : List Assignment
  project : Option String
  locations : List String
  labels : List Assignment
  auto : Bool
  reportDirectory : Option String
  interface : Option Interface
  noColor : Bool
  snapshot : Option String
deriving DecidableEq, Repr

/-- What is to be run. -/
inductive Target where
  | runbook (id : String)
  | batch (path : String)
deriving DecidableEq, Repr

inductive Command where
  | list (product : Option String)
  | run (target : Target) (options : RunOptions)
deriving DecidableEq, Repr

structure Invocation where
  /-- How often more log lines were asked for. -/
  verbosity : Nat
  command : Command
deriving DecidableEq, Repr

/-- Why there is nothing to be done. -/
inductive Halt where
  | help
  | version
  /-- The command line cannot be understood. -/
  | usage
deriving DecidableEq, Repr

namespace CommandLine

/-! Options. Which there are depends on the command that is being read. -/

inductive Stage where
  | program
  | list
  | run
  /-- The names of commands to be explained. -/
  | explain
deriving DecidableEq, Repr

inductive Flag where
  | verbose
  | help
  | version
  | auto
  | noColor
deriving DecidableEq, Repr

/-- Options that take a value. -/
inductive Field where
  | product
  | parameter
  | project
  | location
  | label
  | reportDirectory
  | interface
  | snapshot
  | batchSpec
deriving DecidableEq, Repr

inductive Switch where
  | flag (flag : Flag)
  | field (field : Field)
deriving DecidableEq, Repr

def common : List (String × Switch) :=
  [("verbose", .flag .verbose), ("help", .flag .help)]

def switches : Stage → List (String × Switch)
  | .program => ("version", .flag .version) :: common
  | .list => ("product", .field .product) :: common
  | .run =>
      [("parameter", .field .parameter), ("project", .field .project),
        ("location", .field .location), ("label", .field .label), ("auto", .flag .auto),
        ("report-dir", .field .reportDirectory), ("interface", .field .interface),
        ("no-color", .flag .noColor), ("snapshot", .field .snapshot),
        ("batch-spec", .field .batchSpec)] ++ common
  | .explain => []

def letters : List (Char × Switch) :=
  [('v', .flag .verbose), ('h', .flag .help), ('V', .flag .version), ('p', .field .parameter)]

/-- A letter stands for an option that the stage has. -/
def switchOf? (stage : Stage) (letter : Char) : Option Switch :=
  (letters.lookup letter).filter fun switch => (switches stage).any (·.2 == switch)

/-! Reading word by word. -/

structure Draft where
  stage : Stage
  /-- How often more log lines were asked for before the command, and after it. -/
  before : Nat
  after : Nat
  product : Option String
  options : RunOptions
  runbook : Option String
  batch : Option String
  /-- The option whose value comes next. -/
  pending : Option Field
  /-- Behind two hyphens nothing is an option. -/
  literal : Bool
  /-- Whether a command to be explained was named. -/
  explained : Bool

abbrev Step := Except Halt Draft

namespace Draft

def blank : Draft where
  stage := .program
  before := 0
  after := 0
  product := none
  options := ⟨[], none, [], [], false, none, none, false, none⟩
  runbook := none
  batch := none
  pending := none
  literal := false
  explained := false

/-- The value of an option that may be given once. -/
def once {α : Type} (held : Option α) (value : α) : Except Halt (Option α) :=
  match held with
  | none => .ok (some value)
  | some _ => .error .usage

def present {α : Type} : Option α → Except Halt α
  | some value => .ok value
  | none => .error .usage

/-- A path is not empty. -/
def path (text : String) : Except Halt String :=
  if text == "" then .error .usage else .ok text

def raise (flag : Flag) (draft : Draft) : Step :=
  let options := draft.options
  match flag with
  | .help => .error .help
  | .version => .error .version
  | .verbose =>
      .ok (if draft.stage = .program then { draft with before := draft.before + 1 }
        else { draft with after := draft.after + 1 })
  | .auto =>
      if options.auto then .error .usage
      else .ok { draft with options := { options with auto := true } }
  | .noColor =>
      if options.noColor then .error .usage
      else .ok { draft with options := { options with noColor := true } }

def put (field : Field) (value : String) (draft : Draft) : Step := do
  let options := draft.options
  let draft := { draft with pending := none }
  let keep (options : RunOptions) : Draft := { draft with options := options }
  match field with
  | .product => return { draft with product := ← once draft.product value }
  | .parameter =>
      let assignment ← present (Assignment.read? value)
      return keep { options with parameters := options.parameters ++ [assignment] }
  | .label =>
      let assignment ← present (Assignment.read? value)
      return keep { options with labels := options.labels ++ [assignment] }
  | .location => return keep { options with locations := options.locations ++ [value] }
  | .project => return keep { options with project := ← once options.project value }
  | .interface =>
      let interface ← present (Interface.ofName? value)
      return keep { options with interface := ← once options.interface interface }
  | .reportDirectory =>
      return keep { options with
        reportDirectory := ← once options.reportDirectory (← path value) }
  | .snapshot => return keep { options with snapshot := ← once options.snapshot (← path value) }
  | .batchSpec => return { draft with batch := ← once draft.batch (← path value) }

/-- An option by its name, perhaps with a value behind an equals sign. -/
def long (text : String) (draft : Draft) : Step :=
  let (name, value) :=
    match Text.cut? '=' text with
    | some (name, value) => (name, some value)
    | none => (text, none)
  match (switches draft.stage).lookup name, value with
  | some (.flag flag), none => draft.raise flag
  | some (.field field), none => .ok { draft with pending := some field }
  | some (.field field), some value => draft.put field value
  | _, _ => .error .usage

/-- Options by their letters. What follows an option with a value is its value. -/
def short (draft : Draft) : Chars → Step
  | [] => .ok draft
  | letter :: rest =>
      match switchOf? draft.stage letter, rest with
      | none, _ => .error .usage
      | some (.flag flag), rest =>
          match draft.raise flag with
          | .ok draft => short draft rest
          | .error halt => .error halt
      | some (.field field), [] => .ok { draft with pending := some field }
      | some (.field field), '=' :: value => draft.put field (String.ofList value)
      | some (.field field), value => draft.put field (String.ofList value)

def command? : String → Option Stage
  | "list" => some .list
  | "runbook" => some .run
  | "help" => some .explain
  | _ => none

/-- A word that is no option. -/
def word (text : String) (draft : Draft) : Step :=
  match draft.stage with
  | .program =>
      match draft.literal, command? text with
      | false, some stage => .ok { draft with stage := stage }
      | _, _ => .error .usage
  | .list => .error .usage
  | .run => do return { draft with runbook := ← once draft.runbook text }
  | .explain =>
      if draft.explained || (command? text).isNone then .error .usage
      else .ok { draft with explained := true }

/-- A single hyphen is an ordinary word. -/
def isOption (text : Chars) : Bool :=
  text.head? == some '-' && 1 < text.length

def next (draft : Draft) (text : String) : Step :=
  let chars := text.toList
  match draft.pending with
  | some field => if isOption chars then .error .usage else draft.put field text
  | none =>
      if draft.literal || draft.stage == .explain || !isOption chars then draft.word text
      else
        match chars with
        | ['-', '-'] => .ok { draft with literal := true }
        | '-' :: '-' :: name => draft.long (String.ofList name)
        | _ => draft.short chars.tail

/-- Verbosity after the command counts, if there is any. There is an upper limit. -/
def verbosity (draft : Draft) : Nat :=
  min 255 (if draft.after = 0 then draft.before else draft.after)

/-- Either a runbook or a batch is to be run. -/
def target (draft : Draft) : Except Halt Target :=
  match draft.runbook, draft.batch with
  | some id, none => .ok (.runbook id)
  | none, some path => .ok (.batch path)
  | _, _ => .error .usage

def finish (draft : Draft) : Except Halt Invocation :=
  if draft.pending.isSome then .error .usage
  else
    match draft.stage with
    | .program => .error .usage
    | .explain => .error .help
    | .list => .ok ⟨draft.verbosity, .list draft.product⟩
    | .run => do return ⟨draft.verbosity, .run (← draft.target) draft.options⟩

end Draft

/-- The first thing that halts the reader counts. -/
def read (words : List String) : Except Halt Invocation := do
  (← words.foldlM Draft.next .blank).finish

end CommandLine

end Triage
