import Triage.Proofs.Run.Filing
import Triage.Proofs.Run.Story

namespace Triage

/-! ## Jobs that take turns where calls may fail -/

/-- The jobs that are not done take turns in any order, for as long as they like. -/
inductive Turns {σ α : Type} (handle : (effect : Effect) → σ → effect.Reply × σ) :
    List (Job α) → σ → List (Job α) → σ → Prop
  | rest (jobs : List (Job α)) (state : σ) : Turns handle jobs state jobs state
  | turn {jobs later : List (Job α)} {state final : σ} {index : Nat} {effect : Effect}
      {next : effect.Reply → Job α} (active : jobs[index]? = some (.perform effect next))
      (goesOn : Turns handle (jobs.set index (next (handle effect state).1))
        (handle effect state).2 later final) :
      Turns handle jobs state later final

/-- Jobs that are under way, and the calls of all of them in the order in which they were
made. -/
inductive Under {α : Type} (post : List Deed → α → Prop) : List (Job α) → List Deed → Prop
  | nil : Under post [] []
  | cons {job : Job α} {jobs : List (Job α)} {made others all : List Deed}
      (calls : job.Calls post made) (rest : Under post jobs others)
      (merged : all.Perm (made ++ others)) : Under post (job :: jobs) all

namespace Under

variable {α : Type} {post : List Deed → α → Prop} {jobs : List (Job α)} {all : List Deed}

theorem start (each : ∀ job ∈ jobs, job.Calls post []) : Under post jobs [] := by
  induction jobs with
  | nil => exact .nil
  | cons job rest induction =>
      exact .cons (each job List.mem_cons_self)
        (induction fun other member => each other (List.mem_cons_of_mem _ member)) .rfl

/-- A turn of one job. -/
theorem turn (under : Under post jobs all) {index : Nat} {effect : Effect}
    {next : effect.Reply → Job α} (active : jobs[index]? = some (.perform effect next))
    (reply : effect.Reply) :
    Under post (jobs.set index (next reply)) (all ++ Deed.calls ⟨effect, reply⟩) := by
  induction under generalizing index with
  | nil => simp at active
  | @cons job jobs made others all calls rest merged induction =>
      cases index with
      | zero =>
          cases Option.some.inj active
          refine .cons (calls reply) rest ?_
          have moved : (others ++ Deed.calls ⟨effect, reply⟩).Perm
              (Deed.calls ⟨effect, reply⟩ ++ others) := List.perm_append_comm
          have perm := (merged.append_right (Deed.calls ⟨effect, reply⟩)).trans
            ((List.append_assoc ..).symm ▸ moved.append_left made)
          rwa [← List.append_assoc] at perm
      | succ index =>
          refine .cons calls (induction active) ?_
          rw [← List.append_assoc]
          exact merged.append_right _

variable {ρ : Type} [Renderer ρ] {before hampered final : Hampered ρ} {later : List (Job α)}

theorem turns {faults : Faults} (turns : Turns (Hampered.handle faults) jobs hampered later final)
    (under : Under post jobs all) (recorded : hampered.calls = before.calls ++ all)
    (residue : Residue before.surroundings all hampered.surroundings) :
    ∃ made, Under post later made ∧ final.calls = before.calls ++ made ∧
      Residue before.surroundings made final.surroundings := by
  induction turns generalizing all with
  | rest jobs state => exact ⟨all, under, recorded, residue⟩
  | turn active _ induction =>
      refine induction (under.turn active _) ?_ (residue.append (Hampered.marks faults _ _))
      rw [← List.append_assoc, ← recorded]
      rfl

/-- Where all are done, every one of them has made its calls. -/
theorem done {results : List α} (under : Under post (results.map .done) all) :
    ∃ mades : List (List Deed), List.Forall₂ (fun result made => post made result) results mades ∧
      all.Perm mades.flatten := by
  induction results generalizing all with
  | nil =>
      cases under
      exact ⟨[], .nil, .rfl⟩
  | cons result results induction =>
      rcases under with _ | ⟨calls, rest, merged⟩
      rcases induction rest with ⟨mades, filings, perm⟩
      exact ⟨_ :: mades, .cons calls filings, merged.trans (perm.append_left _)⟩

end Under

/-! ## The reports of several runs -/

/-- What is printed because it could not be filed: a document, and the end of its last line. -/
def RunResult.printouts (settings : Settings) : RunResult → List String
  | .completed ⟨report, none⟩ =>
      if settings.reportDirectory.isSome && report.anyFailed then [report.text ++ "\n"] else []
  | _ => []

theorem Filing.printouts {settings : Settings} {result : RunResult} {made : List Deed}
    (filing : Filing settings result made) (unrefused : ∀ deed ∈ made, deed.isRefused = false) :
    made.filterMap Deed.printed? = result.printouts settings := by
  cases filing with
  | incomplete incomplete =>
      cases result with
      | completed run => exact absurd rfl (incomplete run)
      | _ => rfl
  | unneeded clean =>
      rcases clean with unset | clean
      · simp [RunResult.printouts, unset]
      · simp [RunResult.printouts, Report.not_anyFailed_iff.mpr clean]
  | filed chosen found => rfl
  | @noDirectory report directory error printed chosen found =>
      rw [RunResult.printouts, chosen, found]
      cases printed with
      | ok done => rfl
      | error error =>
          have refused := unrefused ⟨.printFallback (report.text ++ "\n"), .error error⟩ (by simp)
          cases refused
  | @noFile report directory path error printed chosen found =>
      rw [RunResult.printouts, chosen, found]
      cases printed with
      | ok done => rfl
      | error error =>
          have refused := unrefused ⟨.printFallback (report.text ++ "\n"), .error error⟩ (by simp)
          cases refused

/-- Where a file is named, it was written, and nothing was printed. -/
theorem Filing.held {ρ : Type} {settings : Settings} {report : Report} {path : String}
    {made : List Deed} {before after : Surroundings ρ}
    (filing : Filing settings (.completed ⟨report, some path⟩) made)
    (residue : Residue before made after) :
    after.disk.read path = .ok report.text ∧ after.fallback = before.fallback := by
  cases filing with
  | incomplete incomplete => exact absurd rfl (incomplete _)
  | filed chosen found =>
      rcases residue with _ | ⟨directoryMade, _ | ⟨written, disk, fallback⟩⟩
      have written : _ ∧ _ := written
      exact ⟨disk ▸ written.2 rfl, fallback.trans (written.1.trans directoryMade)⟩

/-- The calls that several runs make for their reports, in any order. -/
def Filings (settings : Settings) (results : List RunResult) (made : List Deed) : Prop :=
  ∃ mades : List (List Deed), List.Forall₂ (Filing settings) results mades ∧
    made.Perm mades.flatten

theorem Filings.printouts {settings : Settings} {results : List RunResult} {made : List Deed}
    (filings : Filings settings results made)
    (unrefused : ∀ deed ∈ made, deed.isRefused = false) :
    (made.filterMap Deed.printed?).Perm
      (results.flatMap fun result => result.printouts settings) := by
  rcases filings with ⟨mades, each, perm⟩
  have inOrder : (∀ deed ∈ mades.flatten, deed.isRefused = false) →
      mades.flatten.filterMap Deed.printed? =
        results.flatMap fun result => result.printouts settings := by
    clear perm
    induction each with
    | nil => exact fun _ => rfl
    | cons filing _ induction =>
        intro unrefused
        rw [List.flatten_cons, List.forall_mem_append] at unrefused
        rw [List.flatten_cons, List.filterMap_append, List.flatMap_cons,
          filing.printouts unrefused.1, induction unrefused.2]
  rw [← inOrder fun deed member => unrefused deed (perm.mem_iff.mpr member)]
  exact perm.filterMap _

namespace Engine

theorem runAll_calls (engine : Engine) (requests : List Request) :
    (engine.runAll requests).Calls (fun made results => Filings engine.settings results made)
      [] := by
  induction requests with
  | nil => exact ⟨[], .nil, .rfl⟩
  | cons request rest induction =>
      apply (engine.runShared_filesLast request).calls.bind
      intro made result filing
      have others := induction.after made
      rw [List.append_nil] at others
      refine others.bind fun all results later => ?_
      rcases later with ⟨later, rfl, mades, filings, perm⟩
      exact ⟨made :: mades, .cons filing filings, perm.append_left made⟩

theorem runBatch_calls (engine : Engine) (requests : List Request) :
    (engine.runBatch requests).Calls (fun made results => Filings engine.settings results made)
      [] := by
  have started (continue_ : Unit → Job (List RunResult))
      (rest : (continue_ ()).Calls (fun made results => Filings engine.settings results made) [])
      (level : LogLevel) (message : String) : (Job.log level message >>= continue_).Calls
        (fun made results => Filings engine.settings results made) [] := by
    refine ((log_other level message).calls []).bind fun made _ same => ?_
    rw [same.1]
    exact rest
  unfold runBatch
  split
  · exact started _ (started _ (engine.runAll_calls requests) _ _) _ _
  · exact started _ (engine.runAll_calls requests) _ _

/-- Findings are not lost, whichever calls fail. A run comes to the same, with the same report,
as if none had failed. A report with findings is filed where a directory was chosen for it; it
is printed if the directory cannot be made or the file cannot be written; other reports leave
no trace. What several runs print, one after the other or in turns, is one whole document
after the other. -/
theorem runs_keep_findings (engine : Engine) (ρ : Type) [Renderer ρ] (faults : Faults) :
    (∀ {mode : Mode} {request : Request} {result : RunResult} {before after : Hampered ρ},
      (engine.runIn mode request).exec (Hampered.handle faults) before = (result, after) →
      result.unfiled = (before.surroundings.exec (engine.runIn mode request)).1.unfiled ∧
      (∃ made, after.calls = before.calls ++ made ∧ Filing engine.settings result made) ∧
      (after.calls = before.calls →
        after.disk = before.disk ∧ after.fallback = before.fallback) ∧
      (∀ report path, result = .completed ⟨report, some path⟩ →
        after.disk.read path = .ok report.text ∧ after.fallback = before.fallback) ∧
      ((∀ deed ∈ after.calls, deed.isRefused = false) → after.fallback.text =
        before.fallback.text ++ String.join (result.printouts engine.settings))) ∧
    ∀ {requests : List Request} {results : List RunResult} {before after : Hampered ρ},
      (engine.runBatch requests).exec (Hampered.handle faults) before = (results, after) ∨
        Turns (Hampered.handle faults) (requests.map engine.runShared) before
          (results.map .done) after →
      (∃ made, after.calls = before.calls ++ made ∧ Filings engine.settings results made) ∧
      ((∀ deed ∈ after.calls, deed.isRefused = false) →
        ∃ documents : List String,
          documents.Perm (results.flatMap fun result => result.printouts engine.settings) ∧
          after.fallback.text = before.fallback.text ++ String.join documents) := by
  refine ⟨fun {mode request result before after} ran => ?_,
    fun {requests results before after} ran => ?_⟩
  · have files := engine.runIn_filesLast mode request
    have same := files.unfiled faults before
    have nothing : before.calls = before.calls ++ [] := (List.append_nil _).symm
    rcases files.calls.exec nothing (.nil rfl rfl) faults with
      ⟨made, calls, residue, filing⟩
    rw [ran] at same calls residue filing
    refine ⟨same, ⟨made, calls, filing⟩, fun untouched => ?_, fun report path filed => ?_,
      fun unrefused => ?_⟩
    · rw [calls] at untouched
      have nothing : made = [] := by simpa using untouched
      rw [nothing] at residue
      cases residue with
      | nil disk fallback => exact ⟨disk, fallback⟩
    · rw [filed] at filing
      exact filing.held residue
    · have unrefused : ∀ deed ∈ made, deed.isRefused = false := fun deed member =>
        unrefused deed (calls ▸ List.mem_append_right _ member)
      rw [← filing.printouts unrefused]
      exact residue.text unrefused
  · have ended : ∃ made, after.calls = before.calls ++ made ∧
        Residue before.surroundings made after.surroundings ∧
          Filings engine.settings results made := by
      have nothing : before.calls = before.calls ++ [] := (List.append_nil _).symm
      rcases ran with ran | turns
      · have calls := (engine.runBatch_calls requests).exec nothing (.nil rfl rfl) faults
        rwa [ran] at calls
      · have under : Under (fun made result => Filing engine.settings result made)
            (requests.map engine.runShared) [] := by
          apply Under.start
          intro job member
          rcases List.mem_map.mp member with ⟨request, -, rfl⟩
          exact (engine.runShared_filesLast request).calls
        rcases under.turns turns nothing (.nil rfl rfl) with ⟨made, last, calls, residue⟩
        exact ⟨made, calls, residue, last.done⟩
    rcases ended with ⟨made, calls, residue, filings⟩
    refine ⟨⟨made, calls, filings⟩, fun unrefused => ?_⟩
    have unrefused : ∀ deed ∈ made, deed.isRefused = false := fun deed member =>
      unrefused deed (calls ▸ List.mem_append_right _ member)
    exact ⟨_, filings.printouts unrefused, residue.text unrefused⟩

end Engine

namespace Sample

/-- Of two runs with a finding, the first one cannot make the directory of the reports. -/
def filing : Engine :=
  { library (pair (.conclude full) .done) with settings := ⟨.auto, some "reports", 3⟩ }

def denied : Faults
  | 0 => some ⟨.other "denied", ⟨[], [], []⟩, ⟨"", false⟩⟩
  | _ => none

def unhampered : Hampered EventLog :=
  ⟨surroundings, []⟩

/-- The report that could not be filed, and the other one with its file. -/
def filed (ended : List RunResult × Hampered EventLog) : Option (Report × Report × String) :=
  match ended with
  | ([.completed ⟨first, none⟩, .completed ⟨second, some path⟩], after) =>
      if first.anyFailed && after.calls.all (!·.isRefused) then some (first, second, path) else none
  | _ => none

theorem filed_eq_some {results : List RunResult} {after : Hampered EventLog}
    {first second : Report} {path : String} (isFiled : filed (results, after) =
      some (first, second, path)) :
    results = [.completed ⟨first, none⟩, .completed ⟨second, some path⟩] ∧
      first.anyFailed = true ∧ ∀ deed ∈ after.calls, deed.isRefused = false := by
  unfold filed at isFiled
  split at isFiled
  · next ended first second path after same =>
    cases same
    simp only [Option.ite_none_right_eq_some, Bool.and_eq_true, List.all_eq_true,
      Bool.not_eq_true', Option.some.injEq, Prod.mk.injEq] at isFiled
    rcases isFiled with ⟨⟨found, unrefused⟩, rfl, rfl, rfl⟩
    exact ⟨rfl, found, unrefused⟩
  · cases isFiled

end Sample

namespace Engine

open Sample in
/-- Two runs, and another one after them. -/
theorem runs_keep_findings_denied :
    ∃ first second path after,
      (filing.runBatch [request, request]).exec (Hampered.handle denied) unhampered =
        ([.completed ⟨first, none⟩, .completed ⟨second, some path⟩], after) ∧
      after.fallback.text = unhampered.fallback.text ++ (first.text ++ "\n") ∧
      ∃ result last made,
        (filing.runIn .auto request).exec (Hampered.handle denied) after = (result, last) ∧
        last.calls = after.calls ++ made ∧ Filing filing.settings result made := by
  have check : (filed ((filing.runBatch [request, request]).exec (Hampered.handle denied)
      unhampered)).isSome = true := by
    decide +kernel
  rcases ran : (filing.runBatch [request, request]).exec (Hampered.handle denied) unhampered with
    ⟨results, after⟩
  rw [ran] at check
  rcases Option.isSome_iff_exists.mp check with ⟨⟨first, second, path⟩, isFiled⟩
  rcases filed_eq_some isFiled with ⟨rfl, found, unrefused⟩
  rcases filing.runs_keep_findings EventLog denied with ⟨alone, several⟩
  rcases (several (.inl ran)).2 unrefused with ⟨documents, perm, text⟩
  have one : [RunResult.completed ⟨first, none⟩, .completed ⟨second, some path⟩].flatMap
      (fun result => result.printouts filing.settings) = [first.text ++ "\n"] := by
    simp [RunResult.printouts, found, filing]
  rw [one, List.perm_singleton] at perm
  rw [perm] at text
  rcases again : (filing.runIn .auto request).exec (Hampered.handle denied) after with
    ⟨result, last⟩
  rcases alone again with ⟨-, ⟨made, calls, filings⟩, -⟩
  refine ⟨first, second, path, after, rfl, ?_, result, last, made, again, calls, filings⟩
  simpa [String.join] using text

end Engine

end Triage
