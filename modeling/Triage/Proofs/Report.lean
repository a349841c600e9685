import Triage.Proofs.Entries
import Triage.Report.Basic

namespace Triage

namespace Report

variable {report changed : Report} {executionId : String} {result : StepResult}

/-! ## One result of a report -/

def withResult (report : Report) (executionId : String) (result : StepResult) : Report :=
  { report with results := report.results.insert executionId result }

@[simp] theorem step?_withResult :
    (report.withResult executionId result).step? executionId = some result :=
  Entries.get?_insert_self

@[simp] theorem withResult_withResult {first : StepResult} :
    (report.withResult executionId first).withResult executionId result =
      report.withResult executionId result := by
  simp [withResult]

theorem withResult_of_step? (known : report.step? executionId = some result) :
    report.withResult executionId result = report := by
  cases report with
  | mk => simpa [withResult] using Entries.insert_of_get? known

theorem updateStep_known {update : StepResult → StepResult}
    (known : report.step? executionId = some result) :
    report.updateStep executionId update = .ok (report.withResult executionId (update result)) := by
  simp [updateStep, known, withResult]

theorem updateStep_unknown {update : StepResult → StepResult}
    (unknown : report.step? executionId = none) :
    report.updateStep executionId update = .error (.unknownStep report.runId executionId) := by
  simp [updateStep, unknown]

theorem isOk_updateStep (report : Report) (executionId : String)
    (update : StepResult → StepResult) :
    (report.updateStep executionId update).isOk = (report.step? executionId).isSome := by
  cases known : report.step? executionId with
  | none =>
      rw [updateStep_unknown known]
      rfl
  | some result =>
      rw [updateStep_known known]
      rfl

theorem step?_eq_none_iff : report.step? executionId = none ↔ executionId ∉ report.results.keys :=
  Entries.get?_eq_none_iff

/-- A change keeps the run and every result, or at least something under its id. -/
structure Extends (report changed : Report) : Prop where
  runId : changed.runId = report.runId
  keys : ∀ id ∈ report.results.keys, id ∈ changed.results.keys

theorem Extends.refl : report.Extends report :=
  ⟨rfl, fun _ member => member⟩

theorem Extends.trans {last : Report} (first : report.Extends changed)
    (second : changed.Extends last) : report.Extends last :=
  ⟨second.runId.trans first.runId, fun id member => second.keys id (first.keys id member)⟩

theorem extends_withResult : report.Extends (report.withResult executionId result) :=
  ⟨rfl, fun _ member => Entries.mem_keys_insert.mpr (.inr member)⟩

theorem extends_apply {change : Change} (applied : report.apply change = .ok changed) :
    report.Extends changed := by
  have updated {executionId : String} {update : StepResult → StepResult}
      (applied : report.updateStep executionId update = .ok changed) : report.Extends changed := by
    unfold updateStep at applied
    split at applied
    · cases applied
      exact extends_withResult
    · cases applied
  cases change with
  | openStep result =>
      cases applied
      exact extends_withResult
  | record id evaluation => exact updated applied
  | respond id response => exact updated applied
  | closeStep id moment => exact updated applied

/-! ## Changes one after the other -/

/-- A change that is refused makes no difference. -/
def amend (report : Report) (change : Change) : Report :=
  match report.apply change with
  | .ok changed => changed
  | .error _ => report

def write (report : Report) (changes : List Change) : Report :=
  changes.foldl amend report

@[simp] theorem write_nil : report.write [] = report := rfl

@[simp] theorem write_cons {change : Change} {changes : List Change} :
    report.write (change :: changes) = (report.amend change).write changes := rfl

theorem write_append {first second : List Change} :
    report.write (first ++ second) = (report.write first).write second :=
  List.foldl_append

theorem amend_of_apply {change : Change} (applied : report.apply change = .ok changed) :
    report.amend change = changed := by
  simp [amend, applied]

theorem amend_of_refused {change : Change} {error : ReportError}
    (refused : report.apply change = .error error) : report.amend change = report := by
  simp [amend, refused]

/-- What becomes of the result under an id. -/
def Change.revise (executionId : String) : Change → Option StepResult → Option StepResult
  | .openStep result, found => if result.executionId = executionId then some result else found
  | .record changed evaluation, found =>
      if changed = executionId then
        found.map fun result => { result with evaluations := result.evaluations ++ [evaluation] }
      else found
  | .respond changed response, found =>
      if changed = executionId then
        found.map fun result => { result with response := some response }
      else found
  | .closeStep changed moment, found =>
      if changed = executionId then
        found.map fun result => { result with endedAt := some moment }
      else found

theorem step?_amend_update {change : Change} {changed : String} {update : StepResult → StepResult}
    (applies : report.apply change = report.updateStep changed update) (executionId : String) :
    (report.amend change).step? executionId =
      if changed = executionId then (report.step? executionId).map update
      else report.step? executionId := by
  cases known : report.step? changed with
  | none =>
      rw [amend_of_refused (applies.trans (updateStep_unknown known))]
      split
      · next same => rw [← same, known, Option.map_none]
      · rfl
  | some result =>
      rw [amend_of_apply (applies.trans (updateStep_known known))]
      split
      · next same => rw [← same, known, step?_withResult, Option.map_some]
      · next different => exact Entries.get?_insert_of_ne (Ne.symm different)

theorem step?_amend (executionId : String) (change : Change) :
    (report.amend change).step? executionId =
      change.revise executionId (report.step? executionId) := by
  cases change with
  | openStep result =>
      have opened : report.amend (.openStep result) =
          report.withResult result.executionId result := amend_of_apply rfl
      rw [opened]
      simp only [Change.revise]
      split
      · next same => rw [← same, step?_withResult]
      · next different => exact Entries.get?_insert_of_ne (Ne.symm different)
  | record changed evaluation => exact step?_amend_update rfl executionId
  | respond changed response => exact step?_amend_update rfl executionId
  | closeStep changed moment => exact step?_amend_update rfl executionId

theorem step?_write (executionId : String) (changes : List Change) :
    (report.write changes).step? executionId =
      changes.foldl (fun found change => change.revise executionId found)
        (report.step? executionId) := by
  induction changes generalizing report with
  | nil => rfl
  | cons change rest induction => rw [write_cons, induction, step?_amend, List.foldl_cons]

/-! ## What is filed -/

/-- All that was filed, under whatever id. -/
def filed (report : Report) : List Evaluation :=
  report.results.flatMap fun entry => entry.2.evaluations

theorem evaluations_filed (report : Report) : report.evaluations.map (·.2) = report.filed := by
  simp [evaluations, stepResults, filed, List.map_flatMap, List.flatMap_map, Function.comp_def]

/-- A result that is opened under a new id comes last. -/
theorem amend_open {opened : StepResult} (fresh : opened.executionId ∉ report.results.keys)
    (empty : opened.evaluations = []) :
    (report.amend (.openStep opened)).results.keys = report.results.keys ++ [opened.executionId] ∧
      (report.amend (.openStep opened)).filed = report.filed := by
  have amended : report.amend (.openStep opened) =
      { report with results := report.results ++ [(opened.executionId, opened)] } := by
    rw [← Entries.insert_of_not_mem fresh]
    exact amend_of_apply rfl
  rw [amended]
  exact ⟨Entries.keys_append _ _, by simp [filed, empty]⟩

theorem keys_amend_update {change : Change} {changed : String} {update : StepResult → StepResult}
    (applies : report.apply change = report.updateStep changed update) :
    (report.amend change).results.keys = report.results.keys := by
  cases known : report.step? changed with
  | none => rw [amend_of_refused (applies.trans (updateStep_unknown known))]
  | some result =>
      rw [amend_of_apply (applies.trans (updateStep_known known))]
      exact Entries.keys_insert_of_mem (Entries.mem_keys_iff.mpr ⟨result, known⟩)

theorem filed_amend_update {change : Change} {changed : String}
    {update : StepResult → StepResult} {more : List Evaluation}
    (applies : report.apply change = report.updateStep changed update)
    (gains : ∀ result, (update result).evaluations = result.evaluations ++ more)
    (known : (report.step? changed).isSome = true ∨ more = []) :
    (report.amend change).filed.Perm (report.filed ++ more) := by
  cases found : report.step? changed with
  | none =>
      rw [found] at known
      obtain rfl : more = [] := known.resolve_left (by simp)
      rw [amend_of_refused (applies.trans (updateStep_unknown found)), List.append_nil]
  | some result =>
      rw [amend_of_apply (applies.trans (updateStep_known found))]
      exact Entries.perm_flatMap_insert found (gains result)

end Report

end Triage
