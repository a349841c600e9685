import Triage.Proofs.Report
import Triage.Proofs.Run.Stay
import Triage.Report.Document

namespace Triage

/-! ## Reports of runs that ask nothing -/

/-- Nobody answered, and the remedy of a finding counts as not carried out. -/
structure Evaluation.IsSilent (evaluation : Evaluation) : Prop where
  response : evaluation.response = none
  skipped : evaluation.remediationSkipped = evaluation.status.isFailure

structure StepResult.IsSilent (result : StepResult) : Prop where
  response : result.response = none
  evaluations : ∀ evaluation ∈ result.evaluations, evaluation.IsSilent

structure Report.IsSilent (report : Report) : Prop where
  mode : report.mode.isAuto = true
  results : ∀ result ∈ report.stepResults, result.IsSilent

def Report.Change.IsSilent : Report.Change → Prop
  | .openStep result => result.IsSilent
  | .record _ evaluation => evaluation.IsSilent
  | .respond _ _ => False
  | .closeStep _ _ => True

namespace Report.IsSilent

variable {report changed : Report} {executionId : String} {result : StepResult}

theorem withResult (silent : report.IsSilent) (isSilent : result.IsSilent) :
    (report.withResult executionId result).IsSilent := by
  refine ⟨silent.mode, fun other member => ?_⟩
  rcases List.mem_map.mp member with ⟨entry, isEntry, rfl⟩
  rcases Entries.mem_insert isEntry with new | old
  · exact new ▸ isSilent
  · exact silent.results entry.2 (List.mem_map_of_mem old)

theorem updateStep {update : StepResult → StepResult} (silent : report.IsSilent)
    (updates : ∀ result : StepResult, result.IsSilent → (update result).IsSilent)
    (updated : report.updateStep executionId update = .ok changed) : changed.IsSilent := by
  cases known : report.step? executionId with
  | none =>
      rw [updateStep_unknown known] at updated
      cases updated
  | some result =>
      rw [updateStep_known known] at updated
      cases updated
      have member : result ∈ report.stepResults :=
        List.mem_map_of_mem (f := Prod.snd) (Entries.mem_of_get? known)
      exact silent.withResult (updates result (silent.results result member))

theorem apply {change : Change} (silent : report.IsSilent) (isSilent : change.IsSilent)
    (applied : report.apply change = .ok changed) : changed.IsSilent := by
  cases change with
  | openStep result =>
      cases applied
      exact silent.withResult isSilent
  | record executionId evaluation =>
      have updates (result : StepResult) (holds : result.IsSilent) :
          StepResult.IsSilent
            { result with evaluations := result.evaluations ++ [evaluation] } := by
        refine ⟨holds.response, fun other member => ?_⟩
        rcases List.mem_append.mp member with old | new
        · exact holds.evaluations other old
        · exact List.mem_singleton.mp new ▸ isSilent
      exact silent.updateStep updates applied
  | respond executionId response => cases isSilent
  | closeStep executionId moment =>
      have updates (result : StepResult) (holds : result.IsSilent) :
          StepResult.IsSilent { result with endedAt := some moment } :=
        ⟨holds.response, holds.evaluations⟩
      exact silent.updateStep updates applied

/-- In the document every remedy counts as not carried out. -/
theorem entries_skipped (silent : report.IsSilent) :
    ∀ entry ∈ (Document.ofReport report).entries, entry.remediationSkipped = true := by
  intro entry member
  rcases List.mem_map.mp member with ⟨found, -, rfl⟩
  simp [silent.mode]

end Report.IsSilent

/-- Nothing is asked, and nothing but what is silent gets into a report. -/
def Effect.IsSilent : Effect → Prop
  | .ask _ => False
  | .present _ => False
  | .createReport report => report.IsSilent
  | .changeReport _ change => change.IsSilent
  | _ => True

/-! ## Steps that ask nothing -/

/-- No step asked to be executed again. -/
structure Operator.IsCalm {κ : Type} (setting : Setting) (operator : Operator κ) : Prop where
  setting_eq : operator.setting = setting
  calm : ∀ frame, operator.frame = some frame → frame.retestRequested = false

namespace Operator

variable {κ : Type} {setting : Setting} {operator : Operator κ}

namespace IsCalm

theorem noFrame (calm : operator.IsCalm setting) :
    IsCalm setting ({ operator with frame := none } : Operator κ) :=
  ⟨calm.setting_eq, nofun⟩

theorem withFrame (calm : operator.IsCalm setting) {frame : Frame κ}
    (unasked : frame.retestRequested = false) :
    IsCalm setting ({ operator with frame := some frame } : Operator κ) :=
  ⟨calm.setting_eq, fun _ same => by cases same; exact unasked⟩

theorem noteResponse (calm : operator.IsCalm setting) {response : PromptResponse}
    (other : response ≠ .retest) : (operator.noteResponse response).IsCalm setting := by
  refine ⟨calm.setting_eq, fun frame active => ?_⟩
  rcases Option.map_eq_some_iff.mp active with ⟨earlier, was, rfl⟩
  simp [Frame.note, calm.calm earlier was, other]

theorem queue (calm : operator.IsCalm setting) {later : Operator κ} {profile : Profile} {child : κ}
    {reply : Except RunError Unit} (queues : operator.queue profile child = (later, reply)) :
    later.IsCalm setting := by
  rcases queue_cases queues with rfl | ⟨frame, active, rfl⟩
  · exact calm
  · exact calm.withFrame (calm.calm frame active)

end IsCalm

theorem followUp_auto {mode : Mode} (auto : mode.isAuto = true) (outcome : Outcome) :
    followUp mode outcome = pure (none, outcome.status.isFailure) := by
  unfold followUp
  cases outcome.status.isFailure <;> simp [auto]

theorem begin_silent (calm : operator.IsCalm setting) (profile : Profile) :
    (operator.begin profile).Meets Effect.IsSilent fun answer => answer.1.IsCalm setting := by
  apply Job.Meets.bind (Job.meets_effect trivial fun _ => trivial)
  intro suffix _
  have fresh := operator.frameFor_fresh profile suffix
  have begun := calm.withFrame fresh.retestRequested
  have replaces : operator.giveUp.Meets Effect.IsSilent fun _ => True := by
    unfold giveUp
    split
    · exact Job.meets_effect trivial fun _ => trivial
    · exact trivial
  apply Job.Meets.bind replaces
  intro _ _
  apply Job.Meets.bind (Job.meets_effect trivial fun _ => trivial)
  intro moment _
  refine Job.Meets.bind (Job.meets_effect ⟨rfl, by simp [StepResult.opened]⟩ fun _ => trivial)
    fun reply _ => ?_
  cases reply with
  | error error => exact Job.meets_pure begun
  | ok done =>
      exact Job.Meets.bind (Job.meets_effect trivial fun _ => trivial) fun _ _ =>
        Job.meets_pure ⟨begun.setting_eq, begun.calm⟩

theorem finish_silent (calm : operator.IsCalm setting) :
    operator.finish.Meets Effect.IsSilent fun answer =>
      answer.1.IsCalm setting ∧ ∀ frame?, answer.2 = .ok frame? → frame? = operator.frame := by
  unfold finish
  split
  · next idle => exact Job.meets_pure ⟨calm, by simp [idle]⟩
  · next frame active =>
    apply Job.Meets.bind (Job.meets_effect trivial fun _ => trivial)
    intro moment _
    refine Job.Meets.bind (Job.meets_effect trivial fun _ => trivial) fun reply _ => ?_
    cases reply with
    | error error => exact Job.meets_pure ⟨calm.noFrame, by simp⟩
    | ok done => exact Job.meets_pure ⟨calm.noFrame, by simp [active]⟩

variable (auto : setting.mode.isAuto = true)
include auto

theorem record_silent (calm : operator.IsCalm setting) (outcome : Outcome) :
    (operator.record outcome).Meets Effect.IsSilent fun answer => answer.1.IsCalm setting := by
  have quiet : operator.setting.mode.isAuto = true := calm.setting_eq ▸ auto
  unfold record
  split
  · exact Job.meets_pure calm
  · next frame active =>
    let counting : Frame κ := { frame with recorded := frame.recorded + 1 }
    have counted := calm.withFrame (show counting.retestRequested = false from
      calm.calm frame active)
    simp only [followUp_auto quiet, pure_bind]
    apply Job.Meets.bind (Job.meets_effect trivial fun _ => trivial)
    intro _ _
    refine Job.Meets.bind (Job.meets_effect ⟨rfl, rfl⟩ fun _ => trivial) fun reply _ => ?_
    cases reply <;> exact Job.meets_pure counted

theorem ask_silent (calm : operator.IsCalm setting) (request : PromptRequest) :
    (operator.ask request).Meets Effect.IsSilent fun answer => answer.1.IsCalm setting := by
  have quiet : operator.setting.mode.isAuto = true := calm.setting_eq ▸ auto
  unfold ask
  rw [if_pos quiet]
  exact Job.meets_pure (calm.noteResponse (by decide))

theorem call_silent (profileOf : κ → Profile) (calm : operator.IsCalm setting) (call : Call) :
    (operator.call profileOf call).Meets Effect.IsSilent
      fun answer => answer.1.IsCalm setting := by
  cases call with
  | record outcome => exact record_silent auto calm outcome
  | ask request => exact ask_silent auto calm request
  | begin profile => exact begin_silent calm profile
  | finish => exact Job.Meets.bind (finish_silent calm) fun _ holds => Job.meets_pure holds.1
  | install profile =>
      exact Job.Meets.bind (Job.meets_effect trivial fun _ => trivial) fun _ _ =>
        Job.meets_pure (calm.withFrame rfl)
  | inform message | progress message | note entry =>
      exact Job.Meets.bind (Job.meets_effect trivial fun _ => trivial) fun _ _ =>
        Job.meets_pure calm
  | take => exact Job.meets_pure calm.noFrame
  | put key value => exact Job.meets_pure ⟨calm.setting_eq, calm.calm⟩
  | _ => exact Job.meets_pure calm

end Operator

namespace Walk

variable {setting : Setting} {retests : Nat}

/-! One execution. -/

theorem play_silent (auto : setting.mode.isAuto = true) :
    ∀ (body : Body) (operator : Operator Planned), operator.IsCalm setting →
      (play setting retests body operator).Meets Effect.IsSilent
        fun result => result.1.IsCalm setting
  | .done, operator, calm => by
      simp only [play]
      exact Job.meets_pure calm
  | .fail _, operator, calm => by
      simp only [play]
      exact Job.meets_pure calm
  | .crash _, operator, calm => by
      simp only [play]
      exact Job.meets_pure calm
  | .call _ call next, operator, calm => by
      simp only [play]
      exact (Operator.call_silent auto Planned.profile calm call).bind fun answer calmNow =>
        play_silent auto (next answer.2) answer.1 calmNow
  | .queue _ child next, operator, calm => by
      simp only [play]
      rcases queues : operator.queue child.profile (plan setting retests child) with ⟨later, reply⟩
      exact play_silent auto (next reply) later (calm.queue queues)

theorem enter_silent {operator : Operator Planned} (calm : operator.IsCalm setting)
    (profile : Profile) (left : Nat) :
    (enter operator profile left).Meets Effect.IsSilent
      fun entered => entered.1.IsCalm setting := by
  apply Action.Meets.bind (attend_meets (Operator.begin_silent calm profile))
  intro begun calmNow
  have counted : Action.Meets Effect.IsSilent (fun later => later.IsCalm setting)
      (liftM (begun.1.setRetestsLeft left)) := by
    apply Action.meets_except
    intro later entered
    unfold Operator.setRetestsLeft at entered
    split at entered
    · next frame active =>
      cases entered
      exact calmNow.withFrame (calmNow.calm frame active)
    · cases entered
  exact Action.Meets.bind counted fun later holds => Action.meets_pure holds

theorem conclude_silent (auto : setting.mode.isAuto = true) {operator : Operator Planned}
    (calm : operator.IsCalm setting) (level : LogLevel) (remark : String) (outcome : Outcome) :
    (conclude operator level remark outcome).Meets Effect.IsSilent
      fun settled => settled.1.IsCalm setting := by
  refine Action.Meets.bind (Action.meets_lift (Job.meets_effect trivial fun _ => trivial))
    fun _ _ => ?_
  apply Action.Meets.bind (attend_meets (Operator.record_silent auto calm outcome))
  exact fun _ calmNow => Action.meets_pure calmNow

theorem settle_silent (auto : setting.mode.isAuto = true) {operator : Operator Planned}
    (calm : operator.IsCalm setting) (ending : Ending) :
    (settle operator ending).Meets Effect.IsSilent
      fun settled => settled.1.IsCalm setting := by
  cases ending with
  | completed => exact Action.meets_pure calm
  | failed failure =>
      simp only [settle]
      split
      · exact Action.Meets.bind (attend_meets (Operator.finish_silent calm))
          fun _ _ => Action.meets_throw _
      · exact conclude_silent auto calm _ _ _
  | crashed message => exact conclude_silent auto calm _ _ _

theorem leave_silent (auto : setting.mode.isAuto = true) {operator : Operator Planned}
    (calm : operator.IsCalm setting) (executionId : String) (ending : Ending) :
    (leave operator executionId ending).Meets Effect.IsSilent
      fun frame? => ∀ frame, frame? = some frame → frame.retestRequested = false := by
  apply Action.Meets.bind (settle_silent auto calm ending)
  intro settled calmNow
  rcases settled with ⟨later, goesOn⟩
  apply Action.Meets.bind (attend_meets (Operator.finish_silent calmNow))
  intro finished holds
  rcases finished with ⟨last, frame?⟩
  have active : frame? = later.frame := holds.2 _ rfl
  cases frame? with
  | none => exact Action.meets_throw _
  | some frame =>
      refine Action.meets_pure fun other same => ?_
      split at same
      · cases same
        exact calmNow.calm frame active.symm
      · cases same

end Walk

/-- No execution was repeated since. -/
def Course.Unrepeated (course later : Course) : Prop :=
  ∃ added, later.attempts = course.attempts ++ added ∧ ∀ attempt ∈ added, attempt.retested = false

namespace Course.Unrepeated

variable {course middle later : Course}

theorem refl : course.Unrepeated course :=
  ⟨[], by simp, by simp⟩

theorem trans (first : course.Unrepeated middle) (second : middle.Unrepeated later) :
    course.Unrepeated later := by
  rcases first with ⟨added, attempts, once⟩
  rcases second with ⟨more, attemptsLater, onceLater⟩
  refine ⟨added ++ more, by simp [attemptsLater, attempts], fun attempt member => ?_⟩
  exact (List.mem_append.mp member).elim (once attempt) (onceLater attempt)

end Course.Unrepeated

namespace Walk

variable {setting : Setting} {retests : Nat}

/-! All executions of a step. -/

theorem attempt_silent (auto : setting.mode.isAuto = true) (body : Body) (node : NodeId)
    (profile : Profile) (left : Nat) (course : Course) :
    (attempt setting node profile (play setting retests body) left course).Meets Effect.IsSilent
      fun later => course.Unrepeated later.1 ∧
        ∀ frame, later.2 = .ok (some frame) → frame.retestRequested = false := by
  let idle : Operator Planned := ⟨setting, course.parameters, course.started, none⟩
  have calm : idle.IsCalm setting := ⟨rfl, nofun⟩
  apply Job.Meets.bind (enter_silent calm profile left)
  intro entered holds
  cases entered with
  | error error => exact Job.meets_pure ⟨.refl, nofun⟩
  | ok entered =>
      rcases entered with ⟨operator, executionId⟩
      apply Job.Meets.bind (play_silent auto body operator (holds _ rfl))
      intro worked calmNow
      rcases worked with ⟨operator, ending⟩
      apply Job.Meets.bind (leave_silent auto calmNow executionId ending)
      intro result unasked
      have past : isRetested left result = false := by
        rcases result with error | frame?
        · rfl
        · cases frame? with
          | none => rfl
          | some frame => simp [isRetested, unasked _ rfl frame rfl]
      refine Job.meets_pure ⟨⟨_, rfl, ?_⟩, fun frame came => unasked _ came frame rfl⟩
      intro attempt member
      rw [List.mem_singleton.mp member]
      exact past

/-- A step is executed once. -/
theorem attempts_silent (auto : setting.mode.isAuto = true) (executions : Nat → Body)
    (node : NodeId) (profile : Profile) (done left : Nat) (course : Course) :
    (attempts setting node profile (fun index => play setting retests (executions index)) done left
      course).Meets Effect.IsSilent fun later => course.Unrepeated later.1 := by
  cases left with
  | zero =>
      unfold attempts
      refine andThen_meets (attempt_silent auto (executions done) node profile 0 course) ?_ ?_
      · exact fun _ _ holds => holds.1
      · exact fun _ _ holds => Job.meets_pure holds.1
  | succ left =>
      unfold attempts
      refine andThen_meets (attempt_silent auto (executions done) node profile (left + 1) course)
        ?_ ?_
      · exact fun _ _ holds => holds.1
      · intro later frame? holds
        cases frame? with
        | none => exact Job.meets_pure holds.1
        | some frame =>
            simp only [holds.2 frame rfl]
            exact Job.meets_pure holds.1

/-! Whole walks. -/

def Silent (walk : Walk) : Prop :=
  ∀ course : Course, (walk course).Meets Effect.IsSilent fun later => course.Unrepeated later.1

theorem silent_stay : Silent stay := fun _ => Job.meets_pure .refl

theorem silent_followedBy {first second : Walk} (firstSilent : Silent first)
    (secondSilent : Silent second) : Silent (first.followedBy second) := by
  intro course
  refine andThen_meets (firstSilent course) (fun _ _ holds => holds) fun middle _ holds => ?_
  exact (secondSilent middle).imp fun _ more => holds.trans more

theorem silent_all {walks : List Walk} (each : ∀ walk ∈ walks, Silent walk) :
    Silent (all walks) := by
  induction walks with
  | nil => exact silent_stay
  | cons walk rest induction =>
      exact silent_followedBy (each walk List.mem_cons_self)
        (induction fun other member => each other (List.mem_cons_of_mem _ member))

theorem mem_attachAll {graph : Graph Profile} {node : NodeId} {queued : List Planned} {walk : Walk}
    (member : walk ∈ (attachAll graph node queued).2) :
    ∃ child ∈ queued, ∃ id, walk = child.walk id := by
  induction queued generalizing graph with
  | nil => cases member
  | cons child rest induction =>
      rcases List.mem_cons.mp member with rfl | member
      · exact ⟨child, List.mem_cons_self, _, rfl⟩
      · rcases induction member with ⟨other, isOther, id, same⟩
        exact ⟨other, List.mem_cons_of_mem _ isOther, id, same⟩

theorem silent_step (auto : setting.mode.isAuto = true) {profile : Profile}
    {executions : Nat → Body} {node : NodeId} {before after : Walk}
    (queues : ∀ index, Queues setting (fun child => ∀ id, Silent (child.walk id))
      (play setting retests (executions index)))
    (beforeSilent : Silent before) (afterSilent : Silent after) :
    Silent
      (step setting retests profile (fun index => play setting retests (executions index)) node
        before after) := by
  intro course
  have visits := (attempts_meets queues node profile 0 retests course).and
    (attempts_silent auto executions node profile 0 retests course)
  refine andThen_meets (visits.mono fun _ admitted => admitted.2) ?_ ?_
  · exact fun _ _ holds => holds.2
  · intro middle children? holds
    cases children? with
    | none => exact Job.meets_pure holds.2
    | some children =>
        rcases holds.1.visit _ rfl with ⟨visit, -, -, -, -, -, good⟩
        have walks : Silent (all (attachAll middle.graph node children).2) := by
          refine silent_all fun walk member => ?_
          rcases mem_attachAll member with ⟨child, isChild, id, rfl⟩
          exact good child isChild id
        have below := silent_followedBy beforeSilent (silent_followedBy walks afterSilent)
        exact (below _).imp fun _ more => holds.2.trans more

/-- Whatever its steps queue, and these in their turn. -/
theorem body_silent (auto : setting.mode.isAuto = true) (retests : Nat) (body : Body) :
    Queues setting (fun child => ∀ id, Silent (child.walk id)) (play setting retests body) := by
  have planned : body.Every (fun _ => True)
      fun child => ∀ id, Silent ((plan setting retests child).walk id) := by
    refine Body.Uses.every (fun profile executions every id => ?_) body body.uses_any
    simp only [plan]
    exact silent_step auto (fun index => play_queues _ (every index)) silent_stay silent_stay
  exact play_queues body planned

theorem from_silent (auto : setting.mode.isAuto = true) (retests : Nat) (tree : Graph Step) :
    ∀ (fuel : Nat) (id : NodeId), Silent (from_ setting retests tree fuel id)
  | 0, _ => silent_stay
  | fuel + 1, id => by
      unfold from_
      split
      · exact silent_stay
      · next profile executions _ =>
        have siblings (ids : List NodeId) :
            Silent (all (ids.map (from_ setting retests tree fuel))) := by
          refine silent_all fun walk member => ?_
          rcases List.mem_map.mp member with ⟨root, -, rfl⟩
          exact from_silent auto retests tree fuel root
        exact silent_step auto (fun index => body_silent auto retests (executions index))
          (siblings _) (siblings _)

/-- Stays in different steps, none of which is repeated. -/
theorem nodup_stays {stays : List Stay} (nodup : (stays.map Stay.node).Nodup)
    (once : ∀ attempt ∈ stays.flatMap Stay.attempts, attempt.retested = false) :
    ((stays.flatMap Stay.attempts).map fun attempt => attempt.node).Nodup := by
  rw [List.Nodup, List.pairwise_map, List.pairwise_flatMap]
  constructor
  · intro stay member
    refine stay.repeated.imp_of_mem fun {first _} isFirst _ retested => ?_
    rw [once first (List.mem_flatMap.mpr ⟨stay, member, isFirst⟩)] at retested
    cases retested
  · rw [List.Nodup, List.pairwise_map] at nodup
    refine nodup.imp fun {stay other} different first isFirst second isSecond => ?_
    rwa [stay.node_of_mem first isFirst, other.node_of_mem second isSecond]

end Walk

theorem Course.InOrder.nodup {course : Course} (inOrder : course.InOrder)
    (once : ∀ attempt ∈ course.attempts, attempt.retested = false) :
    (course.attempts.map fun attempt => attempt.node).Nodup := by
  rcases inOrder.started with ⟨start, started⟩
  rcases inOrder.stays with ⟨stays, attempts, listed⟩
  rw [attempts] at once ⊢
  exact Walk.nodup_stays ((inOrder.forest.reachable_nodup started).sublist listed) once

namespace Engine

open Walk

variable {engine : Engine} {setting : Setting} {name : String} {blueprint : Blueprint}
  {notes : List Json.Node} {graph : Graph Step}

/-- In auto mode nothing is asked on the way through a tree, and no step is executed
twice, whatever the replies are. -/
theorem through_silent (auto : setting.mode.isAuto = true)
    (built : blueprint.build name = (notes, .ok (.ok graph))) (retests : Nat) :
    (through setting retests graph).Meets
      (fun effect => effect.IsOwn setting ∧ effect.IsSilent)
      fun later => (later.1.attempts.map fun attempt => attempt.node).Nodup := by
  have silent : (through setting retests graph).Meets Effect.IsSilent fun later =>
      ∀ attempt ∈ later.1.attempts, attempt.retested = false := by
    rcases Blueprint.build_start built with ⟨start, started⟩
    unfold through
    rw [started]
    apply (from_silent auto retests graph graph.size start _).imp
    rintro later ⟨added, attempts, once⟩
    rwa [attempts, List.nil_append]
  exact ((through_inOrder built setting retests).and silent).imp fun _ holds =>
    holds.1.1.nodup holds.2

end Engine

end Triage
