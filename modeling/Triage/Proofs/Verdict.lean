import Triage.Proofs.Job
import Triage.Proofs.Run.DepthFirst
import Triage.Program

namespace Triage

/-! ## Statuses and their counts -/

namespace Status

@[simp] theorem mem_all (status : Status) : status ∈ all := by
  cases status <;> decide

theorem isFailure_iff {status : Status} :
    status.isFailure = true ↔ status = .failed ∨ status = .uncertain := by
  cases status <;> decide

theorem mem_of_worst? {statuses : List Status} {status : Status}
    (worst : worst? statuses = some status) : status ∈ statuses := by
  have contained : statuses.contains status = true := List.find?_some worst
  simpa using contained

/-- A failure is never outweighed. -/
theorem worst?_isFailure {statuses : List Status} :
    (∃ status, worst? statuses = some status ∧ status.isFailure = true) ↔
      ∃ status ∈ statuses, status.isFailure = true := by
  constructor
  · rintro ⟨status, worst, failure⟩
    exact ⟨status, mem_of_worst? worst, failure⟩
  · rintro ⟨status, member, failure⟩
    by_cases failed : .failed ∈ statuses
    · exact ⟨.failed, by simp [worst?, bySeverity, failed], rfl⟩
    · rcases isFailure_iff.mp failure with rfl | rfl
      · exact absurd member failed
      · exact ⟨.uncertain, by simp [worst?, bySeverity, failed, member], rfl⟩

end Status

namespace Totals

variable {statuses : List Status} {status : Status}

theorem ofStatuses_eq : ofStatuses statuses =
    (Status.all.map fun status => (status, statuses.count status)).filter (·.2 ≠ 0) := by
  rw [ofStatuses, ← List.filterMap_eq_filter, List.filterMap_map]
  congr 1
  funext status
  split
  · next zero => simp [Option.guard, zero]
  · next nonzero => simp [Option.guard, show statuses.count status ≠ 0 from nonzero]

theorem ofStatuses_perm {others : List Status} (reordered : statuses.Perm others) :
    ofStatuses statuses = ofStatuses others := by
  simp only [ofStatuses_eq, reordered.count_eq]

theorem mem_ofStatuses {count : Nat} :
    (status, count) ∈ ofStatuses statuses ↔ count = statuses.count status ∧ count ≠ 0 := by
  simp only [ofStatuses_eq, List.mem_filter, List.mem_map, Status.mem_all, true_and,
    Prod.mk.injEq, ↓existsAndEq, decide_eq_true_eq]
  exact and_congr_left fun _ => eq_comm

/-- A status has a count if and only if it occurs. -/
theorem mem_ofStatuses_iff : (∃ count, (status, count) ∈ ofStatuses statuses) ↔
    status ∈ statuses := by
  rw [← List.count_pos_iff]
  constructor
  · rintro ⟨count, member⟩
    rcases mem_ofStatuses.mp member with ⟨rfl, nonzero⟩
    exact Nat.pos_of_ne_zero nonzero
  · intro positive
    exact ⟨_, mem_ofStatuses.mpr ⟨rfl, Nat.ne_of_gt positive⟩⟩

/-- Leaving out what does not occur does not change the sum. -/
theorem sum_filter (totals : Totals) : sum (totals.filter (·.2 ≠ 0)) = sum totals := by
  induction totals with
  | nil => rfl
  | cons entry rest induction =>
      by_cases zero : entry.2 = 0
      · rw [List.filter_cons_of_neg (by simpa using zero), induction]
        simp [sum, zero]
      · rw [List.filter_cons_of_pos (by simpa using zero)]
        exact congrArg (entry.2 + ·) induction

theorem sum_ofStatuses : sum (ofStatuses statuses) = statuses.length := by
  rw [ofStatuses_eq, sum_filter]
  induction statuses with
  | nil => rfl
  | cons status rest induction =>
      have counted := induction
      simp only [Status.all, List.map_cons, List.map_nil, sum, List.foldr_cons, List.foldr_nil,
        List.length_cons] at counted ⊢
      cases status <;> simp only [List.count_cons] <;> simp <;> omega

end Totals

/-! ## The verdicts of a report -/

/-- Whatever is read off a report tells the same. -/
structure Report.Agreed (report : Report) : Prop where
  sum : report.totals.sum = report.evaluations.length
  positive : ∀ status count, (status, count) ∈ report.totals → 0 < count
  counts : ∀ status count, (status, count) ∈ report.totals →
    count = (report.evaluations.filter (·.2.status = status)).length
  totals : report.anyFailed = true ↔
    (∃ count, (.failed, count) ∈ report.totals) ∨ ∃ count, (.uncertain, count) ∈ report.totals
  steps : report.anyFailed = true ↔
    ∃ result ∈ report.stepResults,
      result.overall? = some .failed ∨ result.overall? = some .uncertain
  entries : report.anyFailed = true ↔
    ∃ entry ∈ (Document.ofReport report).entries,
      entry.status = .failed ∨ entry.status = .uncertain
  document : (Document.ofReport report).totals = report.totals
  recount : (Document.ofReport report).counted = report.totals

namespace Report

variable {report : Report}

theorem anyFailed_iff : report.anyFailed = true ↔
    ∃ result ∈ report.stepResults, ∃ evaluation ∈ result.evaluations,
      evaluation.status.isFailure = true := by
  simp [anyFailed, statuses, evaluations, List.any_eq_true]

theorem anyFailed_iff_statuses : report.anyFailed = true ↔
    .failed ∈ report.statuses ∨ .uncertain ∈ report.statuses := by
  rw [anyFailed, List.any_eq_true]
  constructor
  · rintro ⟨status, member, failure⟩
    rcases Status.isFailure_iff.mp failure with rfl | rfl
    · exact .inl member
    · exact .inr member
  · rintro (member | member)
    · exact ⟨_, member, rfl⟩
    · exact ⟨_, member, rfl⟩

theorem anyFailed_iff_evaluations : report.anyFailed = true ↔
    ∃ evaluation ∈ report.evaluations,
      evaluation.2.status = .failed ∨ evaluation.2.status = .uncertain := by
  simp [anyFailed, statuses, Status.isFailure_iff]

theorem overall?_isFailure {result : StepResult} :
    (result.overall? = some .failed ∨ result.overall? = some .uncertain) ↔
      ∃ evaluation ∈ result.evaluations, evaluation.status.isFailure = true := by
  have found : (∃ status ∈ result.statuses, status.isFailure = true) ↔
      ∃ evaluation ∈ result.evaluations, evaluation.status.isFailure = true := by
    simp [StepResult.statuses]
  rw [← found, ← Status.worst?_isFailure]
  simp only [StepResult.overall?, Status.isFailure_iff]
  constructor
  · rintro (worst | worst)
    · exact ⟨_, worst, .inl rfl⟩
    · exact ⟨_, worst, .inr rfl⟩
  · rintro ⟨status, worst, rfl | rfl⟩
    · exact .inl worst
    · exact .inr worst

/-- The entries of the document are the evaluations. -/
theorem entries_statuses :
    (Document.ofReport report).entries.map (·.status) = report.statuses := by
  simp [Document.ofReport, statuses, Function.comp_def]

theorem agreed (report : Report) : report.Agreed where
  sum := by rw [totals, Totals.sum_ofStatuses, statuses, List.length_map]
  positive status count member := Nat.pos_of_ne_zero (Totals.mem_ofStatuses.mp member).2
  counts status count member := by
    rw [(Totals.mem_ofStatuses.mp member).1, statuses, List.count_eq_length_filter,
      List.filter_map, List.length_map]
    rfl
  totals := by
    rw [anyFailed_iff_statuses, totals, Totals.mem_ofStatuses_iff, Totals.mem_ofStatuses_iff]
  steps := by
    rw [anyFailed_iff]
    simp only [overall?_isFailure]
  entries := by
    rw [anyFailed_iff_statuses, ← entries_statuses]
    simp only [List.mem_map]
    constructor
    · rintro (⟨entry, member, failed⟩ | ⟨entry, member, uncertain⟩)
      · exact ⟨entry, member, .inl failed⟩
      · exact ⟨entry, member, .inr uncertain⟩
    · rintro ⟨entry, member, failed | uncertain⟩
      · exact .inl ⟨entry, member, failed⟩
      · exact .inr ⟨entry, member, uncertain⟩
  document := rfl
  recount := by rw [Document.counted, entries_statuses, totals]

end Report

/-! ## The exit code -/

/-- What a run that does not crash hands over. -/
def RunResult.of : Except RunError Completed → RunResult
  | .ok run => .completed run
  | .error error => .failed error

def RunResult.hasFindings : Except RunError Completed → Bool
  | .ok run => run.report.anyFailed
  | .error _ => false

namespace Program

variable {interface : Interface} {runs others : List (Except RunError Completed)}

def verdict (code : ExitCode) (runs : List (Except RunError Completed)) : ExitCode :=
  if runs.any fun run => !run.isOk then errorCode
  else if runs.any RunResult.hasFindings then findingsCode
  else code

/-- The first error decides, so it does not matter that what follows is not looked at;
findings of any run decide otherwise. -/
theorem conclude_meets {code : ExitCode} :
    (conclude interface code (runs.map .of)).Meets (fun _ => True) fun result =>
      result = verdict code runs := by
  induction runs generalizing code with
  | nil => exact ⟨trivial, fun _ => rfl⟩
  | cons run rest induction =>
      rcases run with error | run
      · cases interface with
        | terminal => exact ⟨trivial, fun _ => ⟨trivial, fun _ => rfl⟩⟩
        | events => exact ⟨trivial, fun _ => rfl⟩
      · refine induction.imp fun result equal => ?_
        rw [equal]
        cases found : run.report.anyFailed <;>
          simp [verdict, RunResult.hasFindings, Except.isOk, Except.toBool, found]

theorem tell_meets {results : List RunResult} :
    (tell interface results).Meets (fun _ => True) fun _ => True := by
  cases interface with
  | terminal => exact ⟨trivial, fun _ => trivial⟩
  | events =>
      refine Job.Meets.bind (Job.meets_effect trivial fun _ => trivial) fun _ _ => ?_
      exact ⟨trivial, fun _ => trivial⟩

theorem settle_meets :
    (settle interface (runs.map .of)).Meets (fun _ => True) fun code =>
      code = verdict successCode runs := by
  unfold settle
  split
  · exact tell_meets.bind fun _ _ => conclude_meets
  · exact conclude_meets

theorem any_error : (runs.any fun run => !run.isOk) = true ↔ ∃ error, .error error ∈ runs := by
  rw [List.any_eq_true]
  constructor
  · rintro ⟨error | run, member, failed⟩
    · exact ⟨error, member⟩
    · cases failed
  · rintro ⟨error, member⟩
    exact ⟨_, member, rfl⟩

theorem any_findings : runs.any RunResult.hasFindings = true ↔
    ∃ run, .ok run ∈ runs ∧ run.report.anyFailed = true := by
  rw [List.any_eq_true]
  constructor
  · rintro ⟨error | run, member, findings⟩
    · cases findings
    · exact ⟨run, member, findings⟩
  · rintro ⟨run, member, findings⟩
    exact ⟨_, member, findings⟩

theorem verdict_perm {code : ExitCode} (reordered : runs.Perm others) :
    verdict code runs = verdict code others := by
  simp only [verdict, reordered.any_eq]

theorem verdict_eq_errorCode :
    verdict successCode runs = errorCode ↔ ∃ error, .error error ∈ runs := by
  rw [← any_error, verdict]
  cases (runs.any fun run => !run.isOk) <;> cases runs.any RunResult.hasFindings <;> decide

theorem verdict_eq_findingsCode :
    verdict successCode runs = findingsCode ↔ (∀ error, .error error ∉ runs) ∧
      ∃ run, .ok run ∈ runs ∧ run.report.anyFailed = true := by
  rw [← not_exists, ← any_error, ← any_findings, verdict]
  cases (runs.any fun run => !run.isOk) <;> cases runs.any RunResult.hasFindings <;> decide

theorem verdict_eq_successCode :
    verdict successCode runs = successCode ↔ (∀ error, .error error ∉ runs) ∧
      ¬∃ run, .ok run ∈ runs ∧ run.report.anyFailed = true := by
  rw [← not_exists, ← any_error, ← any_findings, verdict]
  cases (runs.any fun run => !run.isOk) <;> cases runs.any RunResult.hasFindings <;> decide

theorem exec_settle {ρ : Type} [Renderer ρ] (surroundings : Surroundings ρ) :
    (surroundings.exec (settle interface (runs.map .of))).1 = verdict successCode runs :=
  Surroundings.exec_meets settle_meets surroundings

/-- Whatever is read off a report tells the same, and so does the exit code about a
session, in whatever order its runs come. -/
theorem verdicts_agree {ρ : Type} [Renderer ρ] (surroundings : Surroundings ρ)
    (interface : Interface) (reordered : runs.Perm others) :
    (∀ report : Report, report.Agreed) ∧
      let code := (surroundings.exec (settle interface (runs.map .of))).1
      (code = errorCode ↔ ∃ error, .error error ∈ runs) ∧
      (code = findingsCode ↔ (∀ error, .error error ∉ runs) ∧
        ∃ run, .ok run ∈ runs ∧ ∃ evaluation ∈ run.report.evaluations,
          evaluation.2.status = .failed ∨ evaluation.2.status = .uncertain) ∧
      (code = successCode ↔ (∀ error, .error error ∉ runs) ∧
        ∀ run, .ok run ∈ runs → ∀ evaluation ∈ run.report.evaluations,
          evaluation.2.status ≠ .failed ∧ evaluation.2.status ≠ .uncertain) ∧
      (surroundings.exec (settle interface (others.map .of))).1 = code := by
  rw [exec_settle, exec_settle, verdict_perm reordered.symm]
  refine ⟨Report.agreed, verdict_eq_errorCode, ?_, ?_, rfl⟩
  · simpa only [Report.anyFailed_iff_evaluations] using verdict_eq_findingsCode
  · refine verdict_eq_successCode.trans (and_congr_right fun _ => ?_)
    simp only [Report.anyFailed_iff_evaluations]
    push Not
    rfl

open Sample in
/-- A run with a finding and one that failed, in either order. -/
theorem verdicts_agree_failing :
    let finding : Completed :=
      ⟨{ Report.opened "run" "sample" [] .auto ⟨0, 0⟩ with
          results := [("start", { StepResult.opened "start" "start" "Start" .start ⟨0, 0⟩ with
            evaluations := [⟨none, .uncertain, "unclear", none, true, none⟩] })] }, none⟩
    let failed : Except RunError Completed := .error .noOperator
    List.Perm [.ok finding, failed] [failed, .ok finding] ∧
      (surroundings.exec (settle .events ([.ok finding, failed].map .of))).1 = errorCode ∧
      (surroundings.exec (settle .events ([failed, .ok finding].map .of))).1 = errorCode ∧
      (surroundings.exec (settle .events ([.ok finding].map .of))).1 = findingsCode := by
  intro finding failed
  have reordered : List.Perm [.ok finding, failed] [failed, .ok finding] := .swap ..
  rcases verdicts_agree surroundings .events reordered with ⟨-, isError, -, -, same⟩
  rcases verdicts_agree surroundings .events (.refl [.ok finding]) with ⟨-, -, isFinding, -⟩
  have error := isError.mpr ⟨.noOperator, List.mem_cons_of_mem _ List.mem_cons_self⟩
  have found : ∃ evaluation ∈ finding.report.evaluations,
      evaluation.2.status = .failed ∨ evaluation.2.status = .uncertain :=
    Report.anyFailed_iff_evaluations.mp (by decide)
  exact ⟨reordered, error, same.trans error, isFinding.mpr ⟨by simp, finding, by simp, found⟩⟩

end Program

end Triage
