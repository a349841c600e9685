import Triage.Proofs.Run.Operator

namespace Triage

/-! ## Where a run stands -/

/-- What a run has to do with what it shares with others. -/
inductive Phase where
  | free
  /-- The report of the run is in the store. -/
  | opened (runId : String)
  /-- The directory of the reports is there. -/
  | filing

namespace Phase

def runId? : Phase → Option String
  | .opened runId => some runId
  | _ => none

def IsClosed (phase : Phase) : Prop :=
  phase.runId? = none

theorem isClosed_free : Phase.free.IsClosed := rfl

theorem isClosed_filing : Phase.filing.IsClosed := rfl

end Phase

namespace Effect

/-- What nobody replies to. -/
def IsRemark : Effect → Prop
  | .notify _ => True
  | .log _ => True
  | .note _ => True
  | _ => False

/-- Replies that a run cannot tell apart. It does not look into why a file could not
be written. -/
def Alike : (effect : Effect) → effect.Reply → effect.Reply → Prop
  | .writeFile _ _, .error _, .error _ => True
  | _, first, second => first = second

end Effect

namespace Phase

/-- What a run may do, what may come back, and where the run stands then. Reports are
filed in `directory`. -/
inductive Moves (directory : Option String) :
    Phase → (effect : Effect) → effect.Reply → Phase → Prop
  | remark {phase : Phase} {effect : Effect} (isRemark : effect.IsRemark) (reply : effect.Reply) :
      Moves directory phase effect reply phase
  | draw {phase : Phase} (suffix : String) : Moves directory phase .freshSuffix suffix phase
  | read {phase : Phase} (moment : Instant) : Moves directory phase .now moment phase
  | create (report : Report) :
      Moves directory .free (.createReport report) () (.opened report.runId)
  | change {runId : String} (change : Report.Change) (reply : Except ReportError Unit) :
      Moves directory (.opened runId) (.changeReport runId change) reply (.opened runId)
  | totals {runId : String} (totals : Totals) :
      Moves directory (.opened runId) (.totals runId) (.ok totals) (.opened runId)
  | finish {runId : String} (moment : Instant) (reply : Except ReportError Report) :
      Moves directory (.opened runId) (.finishReport runId moment) reply .free
  | make {path : String} (chosen : directory = some path) :
      Moves directory .free (.createDirectory path) (.ok ()) .filing
  | refuse {path : String} (chosen : directory = some path) (error : FileError) :
      Moves directory .free (.createDirectory path) (.error error) .free
  | write (path text : String) (reply : Except FileError Unit) :
      Moves directory .filing (.writeFile path text) reply .filing
  | print {phase : Phase} (isClosed : phase.IsClosed) (text : String)
      (reply : Except FileError Unit) :
      Moves directory phase (.printFallback text) reply phase

/-- An effect that may be performed and leaves the run where it stands. -/
structure Stays (directory : Option String) (phase : Phase) (effect : Effect) : Prop where
  allowed : ∃ reply, Moves directory phase effect reply phase
  stays : ∀ reply later, Moves directory phase effect reply later → later = phase
  plain : ∀ first second, effect.Alike first second → first = second

variable {directory : Option String} {phase : Phase}

end Phase

/-! ## Runs that keep to themselves -/

namespace Job

variable {α β : Type} {directory : Option String} {phase : Phase}

/-- Whatever the replies are, a job does only what it may do where it stands. -/
def Confined (directory : Option String) (post : Phase → α → Prop) : Job α → Phase → Prop
  | .done value, phase => post phase value
  | .perform effect next, phase =>
      (∃ reply later, phase.Moves directory effect reply later) ∧
        (∀ first second, effect.Alike first second → next first = next second) ∧
        ∀ reply later, phase.Moves directory effect reply later →
          (next reply).Confined directory post later

variable {post weaker : Phase → α → Prop} {last : Phase → β → Prop} {job : Job α}
  {continue_ : α → Job β}

theorem Confined.bind (first : job.Confined directory post phase)
    (rest : ∀ later value, post later value → (continue_ value).Confined directory last later) :
    (job >>= continue_).Confined directory last phase := by
  induction job generalizing phase with
  | done value => exact rest phase value first
  | perform effect next induction =>
      rcases first with ⟨allowed, plain, onward⟩
      refine ⟨allowed, fun one other alike => ?_, fun reply later moves => ?_⟩
      · exact congrArg (Job.bind · continue_) (plain one other alike)
      · exact induction reply (onward reply later moves)

theorem Confined.imp (confined : job.Confined directory post phase)
    (implies : ∀ later value, post later value → weaker later value) :
    job.Confined directory weaker phase := by
  induction job generalizing phase with
  | done value => exact implies phase value confined
  | perform effect next induction =>
      exact ⟨confined.1, confined.2.1, fun reply later moves =>
        induction reply (confined.2.2 reply later moves)⟩

/-- A job that never gets anywhere else. -/
theorem Meets.confined {admitted : Effect → Prop} {holds : α → Prop}
    (meets : job.Meets admitted holds)
    (stays : ∀ effect, admitted effect → phase.Stays directory effect) :
    job.Confined directory (fun later value => later = phase ∧ holds value) phase := by
  induction job with
  | done value => exact ⟨rfl, meets⟩
  | perform effect next induction =>
      rcases stays effect meets.1 with ⟨⟨reply, moves⟩, stands, plain⟩
      refine ⟨⟨reply, phase, moves⟩, fun first second alike => ?_, fun reply later moves => ?_⟩
      · exact congrArg next (plain first second alike)
      · rw [stands reply later moves]
        exact induction reply (meets.2 reply)

/-- An error ends the work at once. -/
theorem Confined.run_bind {action : Action α} {continue_ : α → Action β}
    {post : Phase → Except RunError α → Prop} {last : Phase → Except RunError β → Prop}
    (first : action.run.Confined directory post phase)
    (fails : ∀ later error, post later (.error error) → last later (.error error))
    (rest : ∀ later value, post later (.ok value) →
      (continue_ value).run.Confined directory last later) :
    (action >>= continue_).run.Confined directory last phase := by
  apply Confined.bind first
  intro later result holds
  cases result with
  | error error => exact fails later error holds
  | ok value => exact rest later value holds

theorem Confined.run_lift {job : Job α} {last : Phase → Except RunError α → Prop}
    (confined : job.Confined directory post phase)
    (holds : ∀ later value, post later value → last later (.ok value)) :
    (liftM job : Action α).run.Confined directory last phase :=
  Confined.bind confined holds

/-- Work that cannot fail is followed by the rest. -/
theorem Confined.run_lift_bind {job : Job α} {continue_ : α → Action β}
    {last : Phase → Except RunError β → Prop} (confined : job.Confined directory post phase)
    (rest : ∀ later value, post later value →
      (continue_ value).run.Confined directory last later) :
    (liftM job >>= continue_ : Action β).run.Confined directory last phase := by
  have lifted : (liftM job : Action α).run.Confined directory
      (fun later result => ∃ value, result = .ok value ∧ post later value) phase :=
    confined.run_lift fun _ value holds => ⟨value, rfl, holds⟩
  refine lifted.run_bind (fun later error holds => ?_) fun later value holds => ?_
  · rcases holds with ⟨value, impossible, -⟩
    cases impossible
  · rcases holds with ⟨value, same, holds⟩
    cases same
    exact rest later value holds

end Job

end Triage
