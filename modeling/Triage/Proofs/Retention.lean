import Triage.Proofs.Report

namespace Triage

/-! ## What is recorded stays where it is -/

namespace Report

variable {report changed last : Report} {executionId : String} {held result : StepResult}

/-- The evaluation at a place, with the execution that it was recorded for. -/
def recordedAt? (report : Report) (index position : Nat) : Option (String × Evaluation) :=
  report.results[index]?.bind fun (executionId, result) =>
    result.evaluations[position]?.map fun evaluation => (executionId, evaluation)

/-- Every evaluation is there still, at its place and for its execution. -/
def Retains (report changed : Report) : Prop :=
  ∀ index position recorded, report.recordedAt? index position = some recorded →
    changed.recordedAt? index position = some recorded

theorem Retains.refl : report.Retains report :=
  fun _ _ _ found => found

theorem Retains.trans (first : report.Retains changed) (second : changed.Retains last) :
    report.Retains last :=
  fun _ _ _ found => second _ _ _ (first _ _ _ found)

theorem recordedAt?_eq_some {index position : Nat} {evaluation : Evaluation} :
    report.recordedAt? index position = some (executionId, evaluation) ↔
      ∃ result, report.results[index]? = some (executionId, result) ∧
        result.evaluations[position]? = some evaluation := by
  unfold recordedAt?
  rcases report.results[index]? with _ | ⟨found, result⟩
  · simp
  · simp only [Option.bind_some, Option.map_eq_some_iff, Prod.mk.injEq, Option.some.injEq]
    constructor
    · rintro ⟨evaluation, recorded, rfl, rfl⟩
      exact ⟨result, ⟨rfl, rfl⟩, recorded⟩
    · rintro ⟨result, ⟨rfl, rfl⟩, recorded⟩
      exact ⟨evaluation, recorded, rfl, rfl⟩

/-- Of a result that is in use, exactly what the new one begins with is retained. -/
theorem retains_withResult_iff (known : report.step? executionId = some held) :
    report.Retains (report.withResult executionId result) ↔
      held.evaluations <+: result.evaluations := by
  rcases Entries.insert_eq_set known with ⟨place, found, written⟩
  have inside : place < report.results.length := (List.getElem?_eq_some_iff.mp found).1
  have replaced : (report.withResult executionId result).results =
      report.results.set place (executionId, result) := written result
  constructor
  · intro retains
    rw [List.prefix_iff_getElem?]
    intro position isHeld
    have recorded := retains place position (executionId, held.evaluations[position])
      (recordedAt?_eq_some.mpr ⟨held, found, List.getElem?_eq_getElem isHeld⟩)
    rcases recordedAt?_eq_some.mp recorded with ⟨later, stands, kept⟩
    rw [replaced, List.getElem?_set_self inside] at stands
    cases stands
    exact kept
  · rintro ⟨more, extended⟩ index position ⟨owner, evaluation⟩ recorded
    rcases recordedAt?_eq_some.mp recorded with ⟨earlier, stands, kept⟩
    rw [recordedAt?_eq_some, replaced]
    by_cases same : place = index
    · subst same
      rw [found] at stands
      cases stands
      refine ⟨result, List.getElem?_set_self inside, ?_⟩
      rw [← extended, List.getElem?_append_left (List.getElem?_eq_some_iff.mp kept).1, kept]
    · exact ⟨earlier, (List.getElem?_set_ne same).trans stands, kept⟩

theorem retains_withResult_new (unknown : report.step? executionId = none) :
    report.Retains (report.withResult executionId result) := by
  rintro index position ⟨owner, evaluation⟩ recorded
  rcases recordedAt?_eq_some.mp recorded with ⟨earlier, stands, kept⟩
  have appended : (report.withResult executionId result).results =
      report.results ++ [(executionId, result)] :=
    Entries.insert_of_not_mem (step?_eq_none_iff.mp unknown)
  rw [recordedAt?_eq_some, appended]
  exact ⟨earlier, by rw [List.getElem?_append_left (List.getElem?_eq_some_iff.mp stands).1, stands],
    kept⟩

/-- A result takes the place of another one that holds more than it begins with. -/
def Change.Displaces (report : Report) : Change → Prop
  | .openStep result =>
      ∃ held, report.step? result.executionId = some held ∧
        ¬held.evaluations <+: result.evaluations
  | _ => False

theorem retains_amend_update {change : Change} {update : StepResult → StepResult}
    (applies : report.apply change = report.updateStep executionId update)
    (gains : ∀ result, result.evaluations <+: (update result).evaluations) :
    report.Retains (report.amend change) := by
  cases known : report.step? executionId with
  | none =>
      rw [amend_of_refused (applies.trans (updateStep_unknown known))]
      exact .refl
  | some result =>
      rw [amend_of_apply (applies.trans (updateStep_known known))]
      exact (retains_withResult_iff known).mpr (gains result)

theorem retains_amend_iff {change : Change} :
    report.Retains (report.amend change) ↔ ¬change.Displaces report := by
  cases change with
  | openStep result =>
      have opened : report.amend (.openStep result) =
          report.withResult result.executionId result := amend_of_apply rfl
      rw [opened]
      cases known : report.step? result.executionId with
      | none => simp [Change.Displaces, known, retains_withResult_new known]
      | some held => simp [Change.Displaces, known, retains_withResult_iff known]
  | record executionId evaluation =>
      have retains : report.Retains (report.amend (.record executionId evaluation)) :=
        retains_amend_update rfl fun result => List.prefix_append _ _
      simpa [Change.Displaces] using retains
  | respond executionId response =>
      have retains : report.Retains (report.amend (.respond executionId response)) :=
        retains_amend_update rfl fun result => List.prefix_refl _
      simpa [Change.Displaces] using retains
  | closeStep executionId moment =>
      have retains : report.Retains (report.amend (.closeStep executionId moment)) :=
        retains_amend_update rfl fun result => List.prefix_refl _
      simpa [Change.Displaces] using retains

end Report

namespace ReportStore

variable {store : ReportStore} {runId : String} {report : Report}

inductive Operation where
  | create (report : Report)
  | change (runId : String) (change : Report.Change)
  | finish (runId : String) (moment : Instant)

/-- What an operation leaves; one that is refused leaves the store as it is. -/
def perform (store : ReportStore) : Operation → ReportStore
  | .create report => store.create report
  | .change runId change =>
      match store.change runId change with
      | .ok changed => changed
      | .error _ => store
  | .finish runId moment =>
      match store.finish runId moment with
      | .ok (_, rest) => rest
      | .error _ => store

def performAll (store : ReportStore) (operations : List Operation) : ReportStore :=
  operations.foldl perform store

namespace Operation

/-- Something takes the place of what was recorded in a run. -/
def Displaces (store : ReportStore) (runId : String) : Operation → Prop
  | .create report =>
      report.runId = runId ∧ ∃ held, store.get? runId = some held ∧ ¬held.Retains report
  | .change changed edit =>
      changed = runId ∧ ∃ held, store.get? runId = some held ∧ edit.Displaces held
  | .finish _ _ => False

/-- The run is over. -/
def Finishes (runId : String) : Operation → Prop
  | .finish finished _ => finished = runId
  | _ => False

end Operation

theorem perform_change {change : Report.Change} (stored : store.get? runId = some report) :
    (store.perform (.change runId change)).get? runId = some (report.amend change) := by
  simp only [perform, ReportStore.change, ReportStore.report, stored]
  cases applied : report.apply change with
  | error error =>
      rw [Report.amend_of_refused applied]
      exact stored
  | ok changed =>
      rw [Report.amend_of_apply applied]
      exact Entries.get?_insert_self

theorem perform_change_other {other : String} {change : Report.Change} (different : other ≠ runId) :
    (store.perform (.change runId change)).get? other = store.get? other := by
  simp only [perform, ReportStore.change]
  cases store.report runId with
  | error error => rfl
  | ok report =>
      cases applied : report.apply change with
      | error error => simp only [applied]
      | ok changed =>
          simp only [applied]
          exact Entries.get?_insert_of_ne different

theorem perform_finish_other {other : String} {moment : Instant} (different : other ≠ runId) :
    (store.perform (.finish runId moment)).get? other = store.get? other := by
  simp only [perform, ReportStore.finish]
  cases store.report runId with
  | error error => rfl
  | ok report => exact Entries.get?_erase_of_ne different

/-- What one operation keeps of a run that it does not finish. -/
theorem perform_retains {operation : Operation} (stored : store.get? runId = some report)
    (unfinished : ¬operation.Finishes runId) :
    ∃ later, (store.perform operation).get? runId = some later ∧
      (report.Retains later ↔ ¬operation.Displaces store runId) := by
  cases operation with
  | create created =>
      by_cases same : created.runId = runId
      · subst same
        refine ⟨created, Entries.get?_insert_self, ?_⟩
        simp [Operation.Displaces, stored]
      · refine ⟨report, (Entries.get?_insert_of_ne (Ne.symm same)).trans stored, ?_⟩
        simp [Operation.Displaces, same, Report.Retains.refl]
  | change changed edit =>
      by_cases same : changed = runId
      · subst same
        refine ⟨_, perform_change stored, Report.retains_amend_iff.trans ?_⟩
        simp [Operation.Displaces, stored]
      · refine ⟨report, (perform_change_other (Ne.symm same)).trans stored, ?_⟩
        simp [Operation.Displaces, same, Report.Retains.refl]
  | finish finished moment =>
      have other : runId ≠ finished := Ne.symm unfinished
      refine ⟨report, (perform_finish_other other).trans stored, ?_⟩
      simp [Operation.Displaces, Report.Retains.refl]

theorem performAll_append (store : ReportStore) (first second : List Operation) :
    store.performAll (first ++ second) = (store.performAll first).performAll second :=
  List.foldl_append

/-- Nothing takes the place of what was recorded in a run. -/
def Undisplaced (store : ReportStore) (runId : String) (operations : List Operation) : Prop :=
  ∀ first operation rest, operations = first ++ operation :: rest →
    ¬operation.Displaces (store.performAll first) runId

theorem Undisplaced.left {first second : List Operation}
    (undisplaced : store.Undisplaced runId (first ++ second)) : store.Undisplaced runId first :=
  fun earlier operation later split =>
    undisplaced earlier operation (later ++ second) (by simp [split])

theorem Undisplaced.right {first second : List Operation}
    (undisplaced : store.Undisplaced runId (first ++ second)) :
    (store.performAll first).Undisplaced runId second := by
  intro earlier operation later split
  rw [← performAll_append]
  exact undisplaced (first ++ earlier) operation later (by simp [split])

theorem Undisplaced.keeps {operations : List Operation}
    (undisplaced : store.Undisplaced runId operations) (stored : store.get? runId = some report)
    (unfinished : ∀ operation ∈ operations, ¬operation.Finishes runId) :
    ∃ later, (store.performAll operations).get? runId = some later ∧ report.Retains later := by
  induction operations generalizing store report with
  | nil => exact ⟨report, stored, .refl⟩
  | cons operation rest induction =>
      rcases perform_retains stored (unfinished operation List.mem_cons_self) with
        ⟨next, storedNext, retains⟩
      have others : store.Undisplaced runId ([operation] ++ rest) := undisplaced
      rcases induction others.right storedNext fun other member =>
        unfinished other (List.mem_cons_of_mem _ member) with ⟨last, storedLast, keeps⟩
      exact ⟨last, storedLast, (retains.mpr (undisplaced [] operation rest rfl)).trans keeps⟩

/-- While a run goes on, whatever is done to the reports, each evaluation of the run stays
in its place as it is from any moment to any later one, exactly if nothing takes the place of
what was recorded: no report is opened under the id of the run, and no result under the id
of an execution that has one, unless the new one begins with the same. -/
theorem performAll_retains {operations : List Operation} (stored : store.get? runId = some report)
    (unfinished : ∀ operation ∈ operations, ¬operation.Finishes runId) :
    (∀ first middle rest, operations = first ++ middle ++ rest →
      ∃ earlier later, (store.performAll first).get? runId = some earlier ∧
        (store.performAll (first ++ middle)).get? runId = some later ∧ earlier.Retains later) ↔
      store.Undisplaced runId operations := by
  constructor
  · rintro retained first operation rest rfl
    rcases retained first [operation] rest (by simp) with
      ⟨earlier, later, storedEarlier, storedLater, retains⟩
    rw [performAll_append] at storedLater
    rcases perform_retains storedEarlier (unfinished operation (by simp)) with
      ⟨same, storedSame, exactly⟩
    cases storedLater.symm.trans storedSame
    exact exactly.mp retains
  · rintro undisplaced first middle rest rfl
    have unfinishedAll : (∀ operation ∈ first, ¬operation.Finishes runId) ∧
        ∀ operation ∈ middle, ¬operation.Finishes runId :=
      List.forall_mem_append.mp (List.forall_mem_append.mp unfinished).1
    rcases undisplaced.left.left.keeps stored unfinishedAll.1 with ⟨earlier, storedEarlier, -⟩
    rcases undisplaced.left.right.keeps storedEarlier unfinishedAll.2 with
      ⟨later, storedLater, retains⟩
    exact ⟨earlier, later, storedEarlier, by rw [performAll_append, storedLater], retains⟩

end ReportStore

namespace Sample

def check (executionId : String) : StepResult :=
  .opened executionId "check" "Check" .step ⟨0, 0⟩

def finding : Evaluation :=
  ⟨none, .failed, "full", none, true, none⟩

/-- A run with one evaluation. -/
def recording : ReportStore :=
  ReportStore.performAll [] [.create (.opened "run" "sample" [] .auto ⟨0, 0⟩),
    .change "run" (.openStep (check "check.1")), .change "run" (.record "check.1" finding)]

end Sample

namespace ReportStore

open Sample in
/-- The result of another execution is opened and written, while another run is finished. -/
theorem performAll_retains_opening :
    let next : List Operation := [.change "run" (.openStep (check "check.2")),
      .change "run" (.record "check.2" finding), .finish "other" ⟨0, 0⟩]
    (∀ operation ∈ next, ¬operation.Finishes "run") ∧ recording.Undisplaced "run" next ∧
      ∃ later, (recording.performAll next).get? "run" = some later ∧
        later.recordedAt? 0 0 = some ("check.1", finding) ∧
        later.recordedAt? 1 0 = some ("check.2", finding) := by
  intro next
  have unfinished : ∀ operation ∈ next, ¬operation.Finishes "run" := by
    simp [next, Operation.Finishes]
  have undisplaced : recording.Undisplaced "run" next := by
    intro first operation rest split
    rcases first with _ | ⟨one, _ | ⟨two, _ | ⟨three, others⟩⟩⟩ <;>
      simp only [next, List.nil_append, List.cons_append, List.cons.injEq, reduceCtorEq,
        List.nil_eq, List.append_eq_nil_iff, and_false] at split
    · rcases split with ⟨rfl, -⟩
      rintro ⟨-, held, stored, other, known, -⟩
      cases stored
      cases known
    · rcases split with ⟨-, rfl, -⟩
      exact fun displaces => displaces.2.choose_spec.2
    · rcases split with ⟨-, -, rfl, -⟩
      exact id
  have stored : recording.get? "run" = some _ := rfl
  have retained := (performAll_retains stored unfinished).mpr undisplaced
  rcases retained [] next [] (by simp) with ⟨earlier, later, same, storedLater, retains⟩
  cases same
  cases storedLater
  exact ⟨unfinished, undisplaced, _, rfl, retains 0 0 _ rfl, rfl⟩

open Sample in
/-- An evaluation is lost when the id of its execution is used again, and so is a whole report
with the id of its run. -/
theorem recorded_displaced :
    (∃ earlier later, recording.get? "run" = some earlier ∧
      (recording.perform (.change "run" (.openStep (check "check.1")))).get? "run" = some later ∧
      earlier.recordedAt? 0 0 = some ("check.1", finding) ∧ later.recordedAt? 0 0 = none) ∧
      ∃ later, (recording.perform
          (.create (.opened "run" "other" [] .auto ⟨0, 0⟩))).get? "run" = some later ∧
        later.evaluations = [] :=
  ⟨⟨_, _, rfl, rfl, rfl, rfl⟩, _, rfl, rfl⟩

end ReportStore

end Triage
