import Triage.Graph.Builder
import Triage.Run.Operator

namespace Triage

/-! The walk through a tree: a step before its children, the children in order. A
step may be executed again when a person asks for it. Steps that an execution
queued are attached below it when it is over, before the end step, and walked
like the others; an execution that failed or crashed ends its branch. -/

/-- One execution of a step. -/
structure Attempt where
  node : NodeId
  /-- Its results are filed under this. -/
  executionId : String
  ending : Ending
  /-- The frame as the step left it. -/
  frame : Option (Frame Profile)
  /-- Whether the step was executed again. -/
  retested : Bool

/-- What a run carries from step to step. -/
structure Course where
  parameters : Parameters
  started : Nat
  /-- The tree as far as it has grown. -/
  graph : Graph Profile
  attempts : List Attempt

/-- How far a run is after a part of it, and what came back unless an error ended
the run. -/
abbrev Progress (α : Type) := Course × Except RunError α

abbrev Walk := Course → Job (Progress Unit)

/-- A queued step, and how it will be walked under the number it is given. -/
structure Planned where
  profile : Profile
  walk : NodeId → Walk

/-- Executes a step once. -/
abbrev Execution := Operator Planned → Job (Operator Planned × Ending)

namespace Progress

variable {α β : Type}

/-- Goes on after a part of a run, unless the run is over. -/
def andThen (part : Job (Progress α)) (next : α → Course → Job (Progress β)) :
    Job (Progress β) := do
  match ← part with
  | (course, .ok value) => next value course
  | (course, .error error) => return (course, .error error)

end Progress

namespace Walk

def stay : Walk :=
  fun course => return (course, .ok ())

def followedBy (first second : Walk) : Walk :=
  fun course => Progress.andThen (first course) fun () => second

def all : List Walk → Walk
  | [] => stay
  | walk :: rest => followedBy walk (all rest)

/-! One execution. -/

/-- Goes on unless the reply is an error. -/
def attend {κ α : Type} (job : Job (Operator.Answer κ α)) : Action (Operator κ × α) :=
  ExceptT.mk do
    match ← job with
    | (operator, .ok reply) => return .ok (operator, reply)
    | (_, .error error) => return .error error

/-- Starts a step that may be executed `left` more times. Its execution id is
returned. -/
def enter (operator : Operator Planned) (profile : Profile) (left : Nat) :
    Action (Operator Planned × String) := do
  let (operator, executionId) ← attend (operator.begin profile)
  let operator ← operator.setRetestsLeft left
  return (operator, executionId)

def crashRemedy : String :=
  "This is a defect in the runbook. Report it together with the generated report."

/-- What is filed for an execution that failed. -/
def failureOutcome (setting : Setting) (failure : Failure) : Outcome :=
  .skipped setting.project failure.reason

/-- What is filed for an execution that crashed; nobody is asked about it. -/
def crashOutcome (setting : Setting) (message : Crash) : Outcome :=
  (Outcome.failed setting.project s!"The step crashed: {message}" crashRemedy).withoutPrompt

/-- Files what an execution comes to after which its branch does not go on. -/
def conclude (operator : Operator Planned) (level : LogLevel) (remark : String)
    (outcome : Outcome) : Action (Operator Planned × Bool) := do
  Job.log level remark
  let (operator, _) ← attend (operator.record outcome)
  return (operator, false)

/-- Files what an execution that failed or crashed comes to. Whether its branch
goes on is returned; a forbidden use of the operator ends the run. -/
def settle (operator : Operator Planned) : Ending → Action (Operator Planned × Bool)
  | .completed => return (operator, true)
  | .failed failure =>
      match failure.runError? with
      | some (.invalidStep step message) => do
          let _ ← attend operator.finish
          throw (.invalidStep step message)
      | _ =>
          conclude operator .warn "step failed; skipping its subtree"
            (failureOutcome operator.setting failure)
  | .crashed message =>
      conclude operator .error "step panicked" (crashOutcome operator.setting message)

/-- Ends a step. The frame is returned when its branch goes on. -/
def leave (operator : Operator Planned) (executionId : String) (ending : Ending) :
    Action (Option (Frame Planned)) := do
  let (operator, goesOn) ← settle operator ending
  let (_, frame?) ← attend operator.finish
  match frame? with
  | none => throw (.invalidStep executionId "the step frame was removed during execution")
  | some frame => return if goesOn then some frame else none

/-- Whether a step is executed again, with `left` executions to come at most. -/
def isRetested (left : Nat) : Except RunError (Option (Frame Planned)) → Bool
  | .ok (some frame) => frame.retestRequested && 0 < left
  | _ => false

/-- One execution of the step `node`, with `left` more to come at most. The frame
is returned when the branch goes on. -/
def attempt (setting : Setting) (node : NodeId) (profile : Profile) (execution : Execution)
    (left : Nat) (course : Course) : Job (Progress (Option (Frame Planned))) := do
  let operator : Operator Planned := ⟨setting, course.parameters, course.started, none⟩
  match ← (enter operator profile left).run with
  | .error error => return (course, .error error)
  | .ok (operator, executionId) =>
      let (operator, ending) ← execution operator
      let result ← (leave operator executionId ending).run
      let attempt : Attempt :=
        { node := node
          executionId := executionId
          ending := ending
          frame := operator.frame.map (·.map Planned.profile)
          retested := isRetested left result }
      let course : Course :=
        { parameters := operator.parameters
          started := operator.started
          graph := course.graph
          attempts := course.attempts ++ [attempt] }
      return (course, result)

/-! All executions of a step, and what follows it. -/

/-- The executions until one is not to be repeated; `done` counts those before.
What comes back are the steps that the last one queued, if its branch goes on. -/
def attempts (setting : Setting) (node : NodeId) (profile : Profile)
    (executions : Nat → Execution) (done : Nat) :
    (left : Nat) → Course → Job (Progress (Option (List Planned)))
  | 0, course =>
      Progress.andThen (attempt setting node profile (executions done) 0 course)
        fun frame? course => return (course, .ok (frame?.map (·.children)))
  | left + 1, course =>
      Progress.andThen (attempt setting node profile (executions done) (left + 1) course) fun
        | none, course => return (course, .ok none)
        | some frame, course =>
            if frame.retestRequested then do
              Job.log .info "retesting step"
              attempts setting node profile executions (done + 1) left course
            else return (course, .ok (some frame.children))

/-- Attaches queued steps below a node. Their walks come back in the same order. -/
def attachAll (graph : Graph Profile) (node : NodeId) :
    List Planned → Graph Profile × List Walk
  | [] => (graph, [])
  | child :: rest =>
      let (graph, id) := graph.attach node child.profile.kind child.profile
      let (graph, walks) := attachAll graph node rest
      (graph, child.walk id :: walks)

/-- A step, then the children that it had before the end step, those that it
queued, and the end step with what follows. -/
def step (setting : Setting) (retests : Nat) (profile : Profile) (executions : Nat → Execution)
    (node : NodeId) (before after : Walk) : Walk := fun course =>
  Progress.andThen (attempts setting node profile executions 0 retests course)
    fun children? course =>
      match children? with
      | none => return (course, .ok ())
      | some children =>
          let (graph, walks) := attachAll course.graph node children
          (before.followedBy ((all walks).followedBy after)) { course with graph := graph }

/-! From what steps do to how they are walked. In a run the innermost scope is
that of the run itself, so every call goes to its operator. -/

mutual
def plan (setting : Setting) (retests : Nat) : Step → Planned
  | .mk profile executions =>
      ⟨profile, fun node =>
        step setting retests profile
          (fun index => play setting retests (executions index)) node stay stay⟩

def play (setting : Setting) (retests : Nat) : Body → Execution
  | .done, operator => return (operator, .completed)
  | .fail failure, operator => return (operator, .failed failure)
  | .crash message, operator => return (operator, .crashed message)
  | .call _ call next, operator => do
      let (operator, reply) ← operator.call Planned.profile call
      play setting retests (next reply) operator
  | .queue _ child next, operator =>
      let (operator, reply) := operator.queue child.profile (plan setting retests child)
      play setting retests (next reply) operator
end

/-- The walk from a step of the tree as it was built; `fuel` bounds the depth. -/
def from_ (setting : Setting) (retests : Nat) (graph : Graph Step) : (fuel : Nat) → NodeId → Walk
  | 0, _ => stay
  | fuel + 1, id =>
      match graph.step? id with
      | none => stay
      | some (.mk profile executions) =>
          let (before, after) := graph.aroundEnd (graph.children id)
          let walkAll (ids : List NodeId) : Walk :=
            all (ids.map (from_ setting retests graph fuel))
          step setting retests profile (fun index => play setting retests (executions index)) id
            (walkAll before) (walkAll after)

/-- The walk through a whole tree. -/
def through (setting : Setting) (retests : Nat) (graph : Graph Step) : Job (Progress Unit) :=
  let course : Course := ⟨setting.context.parameters, 0, graph.outline, []⟩
  match graph.start with
  | none => return (course, .error (.invalidTree setting.runbook "the tree has no start step"))
  | some start => from_ setting retests graph graph.size start course

end Walk

end Triage
