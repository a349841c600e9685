import Triage.Proofs.Run.Operator
import Triage.Proofs.Step.Uses
import Triage.Run.Walk

namespace Triage

def Ending.isCompleted : Ending → Bool
  | .completed => true
  | _ => false

/-- The steps that an execution queued for its branch. -/
def Attempt.queued (attempt : Attempt) : List Profile :=
  if attempt.ending.isCompleted then (attempt.frame.map (·.children)).getD [] else []

namespace Walk

variable {setting : Setting} {retests : Nat} {calls : Call → Prop} {good : Planned → Prop}

/-! ## One execution -/

/-- Whatever the replies are, an execution queues only what is good. -/
def Queues (setting : Setting) (good : Planned → Prop) (execution : Execution) : Prop :=
  ∀ operator, operator.setting = setting → (∀ child ∈ operator.queued, good child) →
    (execution operator).Meets (Effect.IsOwn setting) fun result =>
      result.1.setting = setting ∧ ∀ child ∈ result.1.queued, good child

theorem play_queues : ∀ body : Body,
    body.Every calls (fun child => good (plan setting retests child)) →
    Queues setting good (play setting retests body)
  | .done, _, operator, same, queued => by
      simp only [play]
      exact Job.meets_pure ⟨same, queued⟩
  | .fail _, _, operator, same, queued => by
      simp only [play]
      exact Job.meets_pure ⟨same, queued⟩
  | .crash _, _, operator, same, queued => by
      simp only [play]
      exact Job.meets_pure ⟨same, queued⟩
  | .call _ call next, every, operator, same, queued => by
      simp only [play]
      apply Job.Meets.bind (same ▸ operator.call_meets Planned.profile call)
      intro answer follows
      exact play_queues (next answer.2) (every.2 _) answer.1 (follows.setting.trans same)
        fun child member => queued child (follows.queued child member)
  | .queue _ child next, every, operator, same, queued => by
      simp only [play]
      rcases queues : operator.queue child.profile (plan setting retests child) with ⟨later, reply⟩
      have setting := (Operator.queue_same queues).setting
      apply play_queues (next reply) (every.2 _) later (setting.trans same)
      intro other member
      rcases Operator.queue_queued queues other member with before | rfl
      · exact queued other before
      · exact every.1

theorem attend_meets {κ α : Type} {job : Job (Operator.Answer κ α)} {admitted : Effect → Prop}
    {post : Operator.Answer κ α → Prop} (meets : job.Meets admitted post) :
    (attend job).Meets admitted fun reply => post (reply.1, .ok reply.2) := by
  apply Job.Meets.bind meets
  intro answer holds
  rcases answer with ⟨operator, error | reply⟩
  · exact Action.meets_throw error
  · exact Action.meets_pure holds

theorem enter_meets {operator : Operator Planned} (same : operator.setting = setting)
    (profile : Profile) (left : Nat) :
    (enter operator profile left).Meets (Effect.IsOwn setting) fun entered =>
      entered.1.setting = setting ∧ entered.1.queued = [] := by
  have begins := operator.begin_meets profile
  rw [same] at begins
  apply Action.Meets.bind (attend_meets begins)
  intro begun holds
  rcases begun with ⟨operator, executionId⟩
  have counted : Action.Meets (Effect.IsOwn setting)
      (fun later => later.setting = operator.setting ∧ later.queued = operator.queued)
      (liftM (operator.setRetestsLeft left)) := by
    apply Action.meets_except
    intro later entered
    unfold Operator.setRetestsLeft at entered
    split at entered
    · next frame active =>
      cases entered
      exact ⟨rfl, by simp [Operator.queued, active]⟩
    · cases entered
  apply Action.Meets.bind counted
  intro later same
  exact Action.meets_pure ⟨same.1.trans holds.1, same.2.trans holds.2⟩

/-- A branch goes on below an execution that was completed, with the frame that it left. -/
def GoesOn (operator : Operator Planned) (ending : Ending) : Option (Frame Planned) → Prop
  | none => ending.isCompleted = false
  | some frame => ending.isCompleted = true ∧ operator.frame = some frame

theorem conclude_meets {operator : Operator Planned} (same : operator.setting = setting)
    (level : LogLevel) (remark : String) (outcome : Outcome) :
    (conclude operator level remark outcome).Meets (Effect.IsOwn setting) fun settled =>
      operator.Continues settled.1 ∧ settled.2 = false := by
  have records := operator.record_meets outcome
  rw [same] at records
  refine Action.Meets.bind (Action.meets_lift (Job.meets_effect trivial fun _ => trivial))
    fun _ _ => ?_
  apply Action.Meets.bind (attend_meets records)
  intro reply continues
  exact Action.meets_pure ⟨continues, rfl⟩

theorem settle_meets {operator : Operator Planned} (same : operator.setting = setting)
    (ending : Ending) :
    (settle operator ending).Meets (Effect.IsOwn setting) fun settled =>
      operator.Continues settled.1 ∧ settled.2 = ending.isCompleted ∧
        (ending.isCompleted = true → settled.1 = operator) := by
  cases ending with
  | completed => exact Action.meets_pure ⟨.refl, rfl, fun _ => rfl⟩
  | failed failure =>
      have finishes := operator.finish_meets
      rw [same] at finishes
      simp only [settle]
      split
      · exact Action.Meets.bind (attend_meets finishes) fun _ _ => Action.meets_throw _
      · exact (conclude_meets same _ _ _).imp fun settled holds =>
          ⟨holds.1, holds.2, by simp [Ending.isCompleted]⟩
  | crashed message =>
      exact (conclude_meets same _ _ _).imp fun settled holds =>
        ⟨holds.1, holds.2, by simp [Ending.isCompleted]⟩

theorem leave_meets {operator : Operator Planned} (same : operator.setting = setting)
    (executionId : String) (ending : Ending) :
    (leave operator executionId ending).Meets (Effect.IsOwn setting)
      (GoesOn operator ending) := by
  apply Action.Meets.bind (settle_meets same ending)
  intro settled holds
  rcases settled with ⟨later, goesOn⟩
  obtain ⟨continues, rfl, kept⟩ :
    operator.Continues later ∧ goesOn = ending.isCompleted ∧
      (ending.isCompleted = true → later = operator) := holds
  have finishes := later.finish_meets
  rw [continues.setting, same] at finishes
  apply Action.Meets.bind (attend_meets finishes)
  intro finished past
  rcases finished with ⟨last, frame?⟩
  have active : frame? = later.frame := past.2 _ rfl
  cases frame? with
  | none => exact Action.meets_throw _
  | some frame =>
      cases completed : ending.isCompleted with
      | false => exact Action.meets_pure completed
      | true =>
          rw [kept completed] at active
          exact Action.meets_pure ⟨completed, active.symm⟩

/-- What an execution of `node` leaves: a course with one more attempt, unless the
step could not be started. -/
structure Attempted (good : Planned → Prop) (node : NodeId) (left : Nat) (course : Course)
    (later : Progress (Option (Frame Planned))) : Prop where
  graph : later.1.graph = course.graph
  attempts : (∃ error, later.2 = .error error) ∧ later.1.attempts = course.attempts ∨
    ∃ attempt, later.1.attempts = course.attempts ++ [attempt] ∧ attempt.node = node ∧
      attempt.retested = isRetested left later.2 ∧
      ∀ frame?, later.2 = .ok frame? →
        match frame? with
        | none => attempt.ending.isCompleted = false
        | some frame =>
            attempt.ending.isCompleted = true ∧
              attempt.frame = some (frame.map Planned.profile) ∧
              ∀ child ∈ frame.children, good child

theorem attempt_meets {execution : Execution} (queues : Queues setting good execution)
    (node : NodeId) (profile : Profile) (left : Nat) (course : Course) :
    (attempt setting node profile execution left course).Meets (Effect.IsOwn setting)
      (Attempted good node left course) := by
  let idle : Operator Planned := ⟨setting, course.parameters, course.started, none⟩
  have same : idle.setting = setting := rfl
  apply Job.Meets.bind (enter_meets same profile left)
  intro entered holds
  cases entered with
  | error error => exact Job.meets_pure ⟨rfl, .inl ⟨⟨error, rfl⟩, rfl⟩⟩
  | ok entered =>
      rcases entered with ⟨operator, executionId⟩
      obtain ⟨same, empty⟩ : operator.setting = setting ∧ operator.queued = [] := holds _ rfl
      have noneQueued : ∀ child ∈ operator.queued, good child := by simp [empty]
      apply Job.Meets.bind (queues operator same noneQueued)
      intro worked kept
      rcases worked with ⟨operator, ending⟩
      apply Job.Meets.bind (leave_meets kept.1 executionId ending)
      intro result left
      refine Job.meets_pure ⟨rfl, .inr ⟨_, rfl, rfl, rfl, ?_⟩⟩
      intro frame? came
      have goesOn := left frame? came
      cases frame? with
      | none => exact goesOn
      | some frame =>
          have active : operator.frame = some frame := goesOn.2
          refine ⟨goesOn.1, by simp [active], fun child member => ?_⟩
          exact kept.2 child (by simpa [Operator.queued, active] using member)

/-! ## All executions of a step -/

/-- The executions of a step that follow one another. All but the last one are
repeated. -/
structure Visit where
  node : NodeId
  repeated : List Attempt
  last : Attempt
  repeated_node : ∀ attempt ∈ repeated,
    attempt.node = node ∧ attempt.retested = true ∧ attempt.ending.isCompleted = true
  last_node : last.node = node
  last_retested : last.retested = false

namespace Visit

def attempts (visit : Visit) : List Attempt :=
  visit.repeated ++ [visit.last]

/-- Whether what is below the step is visited. -/
def goesOn (visit : Visit) : Bool :=
  visit.last.ending.isCompleted

/-- The steps that are attached in the end. -/
def queued (visit : Visit) : List Profile :=
  visit.last.queued

theorem queued_of_stop {visit : Visit} (off : visit.goesOn = false) : visit.queued = [] :=
  if_neg (by simpa [goesOn] using off)

theorem node_of_mem (visit : Visit) {attempt : Attempt} (member : attempt ∈ visit.attempts) :
    attempt.node = visit.node := by
  rcases List.mem_append.mp member with member | member
  · exact (visit.repeated_node attempt member).1
  · rw [List.mem_singleton.mp member]
    exact visit.last_node

/-- The visit after one more execution at the beginning. -/
def afterOne (visit : Visit) (attempt : Attempt) (same : attempt.node = visit.node)
    (retested : attempt.retested = true) (completed : attempt.ending.isCompleted = true) :
    Visit where
  node := visit.node
  repeated := attempt :: visit.repeated
  last := visit.last
  repeated_node other member := by
    rcases List.mem_cons.mp member with rfl | member
    · exact ⟨same, retested, completed⟩
    · exact visit.repeated_node other member
  last_node := visit.last_node
  last_retested := visit.last_retested

end Visit

/-- Executions of a step that follow one another. An error may have ended them. -/
structure Stay where
  node : NodeId
  attempts : List Attempt
  node_of_mem : ∀ attempt ∈ attempts, attempt.node = node
  repeated : attempts.Pairwise fun earlier _ => earlier.retested = true

def Visit.stay (visit : Visit) : Stay where
  node := visit.node
  attempts := visit.attempts
  node_of_mem _ := visit.node_of_mem
  repeated := by
    have retested (attempt : Attempt) (member : attempt ∈ visit.repeated) :
        attempt.retested = true := (visit.repeated_node attempt member).2.1
    refine List.pairwise_append.mpr ⟨?_, List.pairwise_singleton _ _, ?_⟩
    · exact List.Pairwise.imp_of_mem (fun member _ _ => retested _ member)
        (List.pairwise_of_forall fun _ _ => trivial)
    · exact fun attempt member _ _ => retested attempt member

/-- The stay with one more execution at the beginning. -/
def Stay.afterOne (stay : Stay) (attempt : Attempt) (same : attempt.node = stay.node)
    (retested : attempt.retested = true) : Stay where
  node := stay.node
  attempts := attempt :: stay.attempts
  node_of_mem other member := by
    rcases List.mem_cons.mp member with rfl | member
    · exact same
    · exact stay.node_of_mem other member
  repeated := List.pairwise_cons.mpr ⟨fun _ _ => retested, stay.repeated⟩

/-- What all executions of `node` leave, with the steps that are to be attached. -/
structure Visited (good : Planned → Prop) (node : NodeId) (left : Nat) (course : Course)
    (later : Progress (Option (List Planned))) : Prop where
  graph : later.1.graph = course.graph
  visit : ∀ children?, later.2 = .ok children? →
    ∃ visit : Visit, visit.node = node ∧ visit.repeated.length ≤ left ∧
      later.1.attempts = course.attempts ++ visit.attempts ∧
      match children? with
      | none => visit.goesOn = false
      | some children =>
          visit.goesOn = true ∧ visit.queued = children.map Planned.profile ∧
            ∀ child ∈ children, good child
  stay : ∀ error, later.2 = .error error →
    ∃ stay : Stay, stay.node = node ∧ later.1.attempts = course.attempts ++ stay.attempts

theorem andThen_meets {α β : Type} {admitted : Effect → Prop} {part : Job (Progress α)}
    {next : α → Course → Job (Progress β)} {middle : Progress α → Prop}
    {post : Progress β → Prop} (first : part.Meets admitted middle)
    (failed : ∀ course error, middle (course, .error error) → post (course, .error error))
    (rest : ∀ course value, middle (course, .ok value) → (next value course).Meets admitted post) :
    (Progress.andThen part next).Meets admitted post := by
  apply Job.Meets.bind first
  intro progress holds
  rcases progress with ⟨course, error | value⟩
  · exact Job.meets_pure (failed course error holds)
  · exact rest course value holds

/-- An execution after which the step is not executed again is a visit. -/
theorem Attempted.visited {node : NodeId} {left : Nat} {course later : Course}
    {frame? : Option (Frame Planned)}
    (attempted : Attempted good node left course (later, .ok frame?))
    (past : isRetested left (.ok frame?) = false) (bound : Nat) :
    Visited good node bound course (later, .ok (frame?.map (·.children))) := by
  refine ⟨attempted.graph, ?_, by simp⟩
  intro children? came
  cases came
  rcases attempted.attempts with ⟨⟨error, impossible⟩, -⟩ | ⟨last, added, same, retested, ending⟩
  · cases impossible
  · let visit : Visit :=
      { node := node
        repeated := []
        last := last
        repeated_node := by simp
        last_node := same
        last_retested := retested.trans past }
    refine ⟨visit, rfl, Nat.zero_le _, added, ?_⟩
    have ended := ending frame? rfl
    cases frame? with
    | none => exact ended
    | some frame =>
        refine ⟨ended.1, ?_, ended.2.2⟩
        simp [visit, Visit.queued, Attempt.queued, ended.1, ended.2.1, Frame.map]

/-- An error ends the stay. -/
theorem Attempted.stopped {node : NodeId} {left : Nat} {course later : Course} {error : RunError}
    (attempted : Attempted good node left course (later, .error error)) (bound : Nat) :
    Visited good node bound course (later, .error error) := by
  refine ⟨attempted.graph, by simp, fun _ _ => ?_⟩
  rcases attempted.attempts with ⟨-, none⟩ | ⟨last, added, same, -⟩
  · exact ⟨⟨node, [], by simp, .nil⟩, rfl, by simpa using none⟩
  · exact ⟨⟨node, [last], by simpa using same, List.pairwise_singleton _ _⟩, rfl, added⟩

theorem attempts_meets {executions : Nat → Execution}
    (queues : ∀ index, Queues setting good (executions index)) (node : NodeId) (profile : Profile)
    (done left : Nat) (course : Course) :
    (attempts setting node profile executions done left course).Meets (Effect.IsOwn setting)
      (Visited good node left course) := by
  induction left generalizing done course with
  | zero =>
      unfold attempts
      refine andThen_meets (attempt_meets (queues done) node profile 0 course) ?_ ?_
      · exact fun later error attempted => attempted.stopped 0
      · intro later frame? attempted
        have past : isRetested 0 (.ok frame?) = false := by cases frame? <;> simp [isRetested]
        exact Job.meets_pure (attempted.visited past 0)
  | succ left induction =>
      unfold attempts
      refine andThen_meets (attempt_meets (queues done) node profile (left + 1) course) ?_ ?_
      · exact fun later error attempted => attempted.stopped (left + 1)
      · intro later frame? attempted
        cases frame? with
        | none => exact Job.meets_pure (attempted.visited rfl (left + 1))
        | some frame =>
            cases again : frame.retestRequested with
            | false =>
                have past : isRetested (left + 1) (.ok (some frame)) = false := by
                  simp [isRetested, again]
                simpa [again] using Job.meets_pure (attempted.visited past (left + 1))
            | true =>
                rcases attempted.attempts with
                  ⟨⟨error, impossible⟩, -⟩ | ⟨first, added, same, retested, ending⟩
                · cases impossible
                have repeated : first.retested = true := by
                  simpa [isRetested, again] using retested
                have completed := (ending (some frame) rfl).1
                simp only [again, if_true]
                apply Job.Meets.bind (Job.meets_effect trivial fun _ => trivial)
                intro _ _
                apply (induction (done + 1) later).imp
                intro last visited
                refine ⟨visited.graph.trans attempted.graph, fun children? came => ?_,
                  fun error failed => ?_⟩
                · rcases visited.visit children? came with ⟨visit, rfl, bound, rest, queued⟩
                  refine ⟨visit.afterOne first same repeated completed, rfl,
                    Nat.succ_le_succ bound, ?_, queued⟩
                  rw [rest, added]
                  simp [Visit.attempts, Visit.afterOne]
                · rcases visited.stay error failed with ⟨stay, rfl, rest⟩
                  refine ⟨stay.afterOne first same repeated, rfl, ?_⟩
                  rw [rest, added]
                  simp [Stay.afterOne]

end Walk

end Triage
