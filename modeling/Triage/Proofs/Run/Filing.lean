import Triage.Proofs.Files.Disk
import Triage.Proofs.Run.Order
import Triage.Proofs.Trace
import Triage.Proofs.Verdict
import Triage.Run.Batch

namespace Triage

/-! ## Calls that may fail -/

/-- A call on the file system or on the fallback. -/
def Effect.isCall : Effect → Bool
  | .createDirectory _ => true
  | .writeFile _ _ => true
  | .readFile _ => true
  | .printFallback _ => true
  | _ => false

/-- How a call fails, and what it leaves behind. -/
structure Fault where
  error : FileError
  disk : Disk
  fallback : Sink

/-- Which calls fail, by the number of those that were made before. -/
abbrev Faults := Nat → Option Fault

def Fault.strike {ρ : Type} [Renderer ρ] (fault : Fault) :
    (effect : Effect) → Surroundings ρ → effect.Reply × Surroundings ρ
  | .createDirectory _, it => (.error fault.error, { it with disk := fault.disk })
  | .writeFile _ _, it => (.error fault.error, { it with disk := fault.disk })
  | .readFile _, it => (.error fault.error, it)
  | .printFallback _, it => (.error fault.error, { it with fallback := fault.fallback })
  | other, it => Surroundings.handle other it

namespace Deed

def calls (deed : Deed) : List Deed :=
  if deed.effect.isCall then [deed] else []

/-- What was printed where a report goes that cannot be filed. -/
def printed? : Deed → Option String
  | ⟨.printFallback text, .ok ()⟩ => some text
  | _ => none

/-- Something was to be printed there, and was not. -/
def isRefused : Deed → Bool
  | ⟨.printFallback _, .error _⟩ => true
  | _ => false

end Deed

/-- Surroundings in which calls may fail, and the calls that were made in them. -/
structure Hampered (ρ : Type) where
  surroundings : Surroundings ρ
  calls : List Deed

namespace Hampered

variable {ρ : Type}

def disk (hampered : Hampered ρ) : Disk :=
  hampered.surroundings.disk

def fallback (hampered : Hampered ρ) : Sink :=
  hampered.surroundings.fallback

def handle [Renderer ρ] (faults : Faults) (effect : Effect) (hampered : Hampered ρ) :
    effect.Reply × Hampered ρ :=
  let (reply, surroundings) :=
    match faults hampered.calls.length with
    | some fault => fault.strike effect hampered.surroundings
    | none => Surroundings.handle effect hampered.surroundings
  (reply, ⟨surroundings, hampered.calls ++ Deed.calls ⟨effect, reply⟩⟩)

end Hampered

/-! ## What calls leave behind -/

/-- What an effect, with the reply to it, leaves on the disk and in the fallback. -/
def Effect.Marks {ρ : Type} :
    (effect : Effect) → effect.Reply → Surroundings ρ → Surroundings ρ → Prop
  | .createDirectory _, _, before, after => after.fallback = before.fallback
  | .writeFile path text, reply, before, after =>
      after.fallback = before.fallback ∧ (reply = .ok () → after.disk.read path = .ok text)
  | .printFallback text, reply, before, after =>
      after.disk = before.disk ∧
        (reply = .ok () → after.fallback.text = before.fallback.text ++ text)
  | _, _, before, after => after.disk = before.disk ∧ after.fallback = before.fallback

namespace Surroundings

variable {ρ : Type} [Renderer ρ]

theorem marks_handle (effect : Effect) (surroundings : Surroundings ρ) :
    effect.Marks (handle effect surroundings).1 surroundings (handle effect surroundings).2 := by
  cases effect with
  | createDirectory path =>
      show (surroundings.settle (surroundings.disk.makeDirectory path) _).2.fallback = _
      cases surroundings.disk.makeDirectory path <;> rfl
  | writeFile path text =>
      simp only [handle, Effect.Marks]
      cases written : surroundings.disk.write path text with
      | error error => exact ⟨rfl, fun succeeds => by cases succeeds⟩
      | ok disk => exact ⟨rfl, fun _ => Disk.read_write written⟩
  | printFallback text =>
      simp only [handle, Effect.Marks, Sink.write]
      cases surroundings.fallback.broken with
      | true => exact ⟨rfl, fun succeeds => by cases succeeds⟩
      | false => exact ⟨rfl, fun _ => rfl⟩
  | changeReport runId change =>
      simp only [handle, Effect.Marks]
      cases surroundings.reports.change runId change <;> exact ⟨rfl, rfl⟩
  | finishReport runId moment =>
      simp only [handle, Effect.Marks]
      cases surroundings.reports.finish runId moment <;> exact ⟨rfl, rfl⟩
  | _ => exact ⟨rfl, rfl⟩

theorem marks_strike (fault : Fault) (effect : Effect) (surroundings : Surroundings ρ) :
    effect.Marks (fault.strike effect surroundings).1 surroundings
      (fault.strike effect surroundings).2 := by
  cases effect with
  | createDirectory path => rfl
  | writeFile path text => exact ⟨rfl, fun succeeds => by cases succeeds⟩
  | readFile path => exact ⟨rfl, rfl⟩
  | printFallback text => exact ⟨rfl, fun succeeds => by cases succeeds⟩
  | _ => exact marks_handle _ surroundings

end Surroundings

namespace Hampered

variable {ρ : Type} [Renderer ρ] {faults : Faults} {effect : Effect} {made : List Deed}
  {before hampered : Hampered ρ}

theorem marks (faults : Faults) (effect : Effect) (hampered : Hampered ρ) :
    effect.Marks (handle faults effect hampered).1 hampered.surroundings
      (handle faults effect hampered).2.surroundings := by
  unfold handle
  cases faults hampered.calls.length with
  | none => exact Surroundings.marks_handle effect hampered.surroundings
  | some fault => exact Surroundings.marks_strike fault effect hampered.surroundings

/-- Nothing but calls can fail. -/
theorem handle_other (other : effect.isCall = false) (hampered : Hampered ρ) :
    handle faults effect hampered =
      ((Surroundings.handle effect hampered.surroundings).1,
        ⟨(Surroundings.handle effect hampered.surroundings).2, hampered.calls⟩) := by
  have noCall (reply : effect.Reply) : Deed.calls ⟨effect, reply⟩ = [] := by
    simp [Deed.calls, other]
  have spared (fault : Fault) : fault.strike effect hampered.surroundings =
      Surroundings.handle effect hampered.surroundings := by
    cases effect with
    | createDirectory _ | writeFile _ _ | readFile _ | printFallback _ => cases other
    | _ => rfl
  unfold handle
  cases faults hampered.calls.length with
  | none => simp [noCall]
  | some fault => simp [noCall, spared]

end Hampered

/-- What several calls leave behind, one after the other. -/
inductive Residue {ρ : Type} : Surroundings ρ → List Deed → Surroundings ρ → Prop
  | nil {before after : Surroundings ρ} (disk : after.disk = before.disk)
      (fallback : after.fallback = before.fallback) : Residue before [] after
  | cons {before middle after : Surroundings ρ} {deed : Deed} {made : List Deed}
      (marks : deed.effect.Marks deed.reply before middle) (rest : Residue middle made after) :
      Residue before (deed :: made) after

namespace Residue

variable {ρ : Type} {before middle after : Surroundings ρ} {effect : Effect} {made : List Deed}

theorem marks_of_same {reply : effect.Reply} (marks : effect.Marks reply middle after)
    (disk : middle.disk = before.disk) (fallback : middle.fallback = before.fallback) :
    effect.Marks reply before after := by
  cases effect with
  | createDirectory path => exact Eq.trans marks fallback
  | writeFile path text => exact ⟨marks.1.trans fallback, marks.2⟩
  | printFallback text => exact ⟨marks.1.trans disk, fallback ▸ marks.2⟩
  | _ => exact ⟨marks.1.trans disk, marks.2.trans fallback⟩

/-- Only calls leave something behind. -/
theorem append (residue : Residue before made middle) {reply : effect.Reply}
    (marks : effect.Marks reply middle after) :
    Residue before (made ++ Deed.calls ⟨effect, reply⟩) after := by
  induction residue with
  | nil disk fallback =>
      have marks := marks_of_same marks disk fallback
      cases effect with
      | createDirectory _ | writeFile _ _ | readFile _ | printFallback _ =>
          exact .cons marks (.nil rfl rfl)
      | _ => exact .nil marks.1 marks.2
  | cons first _ induction => exact .cons first (induction marks)

/-- The fallback tells what was printed. -/
theorem text (residue : Residue before made after)
    (unrefused : ∀ deed ∈ made, deed.isRefused = false) :
    after.fallback.text = before.fallback.text ++ String.join (made.filterMap Deed.printed?) := by
  induction residue with
  | nil _ fallback => simp [fallback, String.join]
  | @cons before middle after deed made marks _ induction =>
      have printed : middle.fallback.text =
          before.fallback.text ++ String.join (deed.printed?.toList) := by
        rcases deed with ⟨effect, reply⟩
        cases effect with
        | printFallback text =>
            cases reply with
            | ok done => simpa [Deed.printed?, String.join] using marks.2 rfl
            | error error => cases unrefused _ List.mem_cons_self
        | createDirectory path => simpa [Deed.printed?, String.join] using congrArg Sink.text marks
        | writeFile path text =>
            simpa [Deed.printed?, String.join] using congrArg Sink.text marks.1
        | _ => simpa [Deed.printed?, String.join] using congrArg Sink.text marks.2
      rw [induction fun deed member => unrefused deed (List.mem_cons_of_mem _ member), printed]
      cases found : deed.printed? with
      | none => simp [found, String.join]
      | some text => simp [found, String.append_assoc]

end Residue

/-! ## The calls of a job -/

namespace Job

variable {α β : Type} {post : List Deed → α → Prop} {last : List Deed → β → Prop} {job : Job α}
  {continue_ : α → Job β} {made : List Deed}

/-- Whatever the replies are, the calls of a job and what it comes to are as they should be;
`made` were made before. -/
def Calls (post : List Deed → α → Prop) : Job α → List Deed → Prop
  | .done value, made => post made value
  | .perform effect next, made =>
      ∀ reply, (next reply).Calls post (made ++ Deed.calls ⟨effect, reply⟩)

theorem Calls.bind (first : job.Calls post made)
    (rest : ∀ later value, post later value → (continue_ value).Calls last later) :
    (job >>= continue_).Calls last made := by
  induction job generalizing made with
  | done value => exact rest made value first
  | perform effect next induction => exact fun reply => induction reply (first reply)

theorem Calls.imp {weaker : List Deed → α → Prop} (calls : job.Calls post made)
    (implies : ∀ later value, post later value → weaker later value) : job.Calls weaker made := by
  induction job generalizing made with
  | done value => exact implies made value calls
  | perform effect next induction => exact fun reply => induction reply (calls reply)

/-- Calls that were made before are left as they are. -/
theorem Calls.after (front : List Deed) (calls : job.Calls post made) :
    job.Calls (fun all value => ∃ later, all = front ++ later ∧ post later value)
      (front ++ made) := by
  induction job generalizing made with
  | done value => exact ⟨made, rfl, calls⟩
  | perform effect next induction =>
      intro reply
      rw [List.append_assoc]
      exact induction reply (calls reply)

theorem Meets.calls {held : α → Prop}
    (meets : job.Meets (fun effect => effect.isCall = false) held) (made : List Deed) :
    job.Calls (fun later value => later = made ∧ held value) made := by
  induction job with
  | done value => exact ⟨rfl, meets⟩
  | perform effect next induction =>
      intro reply
      have noCall : Deed.calls ⟨effect, reply⟩ = [] := by simp [Deed.calls, meets.1]
      rw [noCall, List.append_nil]
      exact induction reply (meets.2 reply)

theorem Calls.exec {ρ : Type} [Renderer ρ] {before hampered : Hampered ρ}
    (calls : job.Calls post made) (recorded : hampered.calls = before.calls ++ made)
    (residue : Residue before.surroundings made hampered.surroundings) (faults : Faults) :
    ∃ all, (job.exec (Hampered.handle faults) hampered).2.calls = before.calls ++ all ∧
      Residue before.surroundings all (job.exec (Hampered.handle faults) hampered).2.surroundings ∧
      post all (job.exec (Hampered.handle faults) hampered).1 := by
  induction job generalizing made hampered with
  | done value => exact ⟨made, recorded, residue, calls⟩
  | perform effect next induction =>
      refine induction _ (calls _) ?_ (residue.append (Hampered.marks faults effect hampered))
      rw [← List.append_assoc, ← recorded]

end Job

/-! ## Filing -/

/-- What is written for a report. -/
def Report.text (report : Report) : String :=
  (Document.ofReport report).text

/-- What becomes of the report of a run, and which calls are made for it. -/
inductive Filing (settings : Settings) : RunResult → List Deed → Prop
  | incomplete {result : RunResult} (incomplete : ∀ run, result ≠ .completed run) :
      Filing settings result []
  | unneeded {report : Report} (clean : settings.reportDirectory = none ∨
        ∀ evaluation ∈ report.evaluations,
          evaluation.2.status ≠ .failed ∧ evaluation.2.status ≠ .uncertain) :
      Filing settings (.completed ⟨report, none⟩) []
  | filed {report : Report} {directory path : String}
      (chosen : settings.reportDirectory = some directory) (found : report.anyFailed = true) :
      Filing settings (.completed ⟨report, some path⟩)
        [⟨.createDirectory directory, .ok ()⟩, ⟨.writeFile path report.text, .ok ()⟩]
  | noDirectory {report : Report} {directory : String} {error : FileError}
      {printed : Except FileError Unit}
      (chosen : settings.reportDirectory = some directory) (found : report.anyFailed = true) :
      Filing settings (.completed ⟨report, none⟩)
        [⟨.createDirectory directory, .error error⟩,
          ⟨.printFallback (report.text ++ "\n"), printed⟩]
  | noFile {report : Report} {directory path : String} {error : FileError}
      {printed : Except FileError Unit}
      (chosen : settings.reportDirectory = some directory) (found : report.anyFailed = true) :
      Filing settings (.completed ⟨report, none⟩)
        [⟨.createDirectory directory, .ok ()⟩, ⟨.writeFile path report.text, .error error⟩,
          ⟨.printFallback (report.text ++ "\n"), printed⟩]

theorem Report.not_anyFailed_iff {report : Report} : report.anyFailed = false ↔
    ∀ evaluation ∈ report.evaluations,
      evaluation.2.status ≠ .failed ∧ evaluation.2.status ≠ .uncertain := by
  rw [← Bool.not_eq_true, anyFailed_iff_evaluations]
  simp only [not_exists, not_and, not_or]

namespace Engine

variable {settings : Settings} {report : Report} {made : List Deed}

theorem momentOf_other (report : Report) :
    (momentOf report).Meets (fun effect => effect.isCall = false) fun _ => True := by
  unfold momentOf
  split
  · trivial
  · exact ⟨rfl, fun _ => trivial⟩

theorem log_other (level : LogLevel) (message : String) :
    (Job.log level message).Meets (fun effect => effect.isCall = false) fun _ => True :=
  ⟨rfl, fun _ => trivial⟩

theorem printInstead_calls (report : Report) (made : List Deed) :
    (printInstead report).Calls (fun all path => path = none ∧ ∃ printed,
      all = made ++ [⟨.printFallback (report.text ++ "\n"), printed⟩]) made := by
  unfold printInstead
  apply ((log_other _ _).calls made).bind
  rintro _ _ ⟨rfl, -⟩
  intro printed
  cases printed with
  | ok done => exact ⟨rfl, .ok done, rfl⟩
  | error error =>
      refine ((log_other _ _).calls _).bind fun all _ same => ?_
      exact ⟨rfl, .error error, same.1⟩

theorem writeReport_calls (report : Report) (directory : String) :
    (writeReport report directory).Calls (fun made written => match written with
      | .ok path =>
          made = [⟨.createDirectory directory, .ok ()⟩, ⟨.writeFile path report.text, .ok ()⟩]
      | .error error =>
          made = [⟨.createDirectory directory, .error error⟩] ∨ ∃ path,
            made = [⟨.createDirectory directory, .ok ()⟩,
              ⟨.writeFile path report.text, .error error⟩]) [] := by
  intro directoryMade
  cases directoryMade with
  | error error => exact .inl rfl
  | ok done =>
      refine ((momentOf_other report).calls _).bind fun all moment same => ?_
      rw [same.1]
      intro written
      cases written with
      | error error => exact .inr ⟨_, rfl⟩
      | ok done => exact fun _ => rfl

theorem file_calls (settings : Settings) (report : Report) :
    (file settings report).Calls (fun made path => Filing settings (.completed ⟨report, path⟩) made)
      [] := by
  unfold file
  split
  · next directory chosen =>
    split
    · next found =>
      apply (writeReport_calls report directory).bind
      intro made written holds
      cases written with
      | ok path =>
          rw [show made = _ from holds]
          exact .filed chosen found
      | error error =>
          refine (printInstead_calls report made).imp fun all path printed => ?_
          rcases printed with ⟨rfl, printed, rfl⟩
          rcases holds with rfl | ⟨path, rfl⟩
          · exact .noDirectory chosen found
          · exact .noFile chosen found
    · next clean => exact .unneeded (.inr (Report.not_anyFailed_iff.mp (by simpa using clean)))
  · next unset => exact .unneeded (.inl unset)

/-! ## Before filing

A run makes no call until its report is finished. -/

/-- What comes first makes no calls; the report of a run that comes to its end is filed last. -/
inductive FilesLast {α : Type} (settings : Settings) (completed : Completed → α) : Job α → Prop
  | other {value : α} (incomplete : ∀ run, value ≠ completed run) :
      FilesLast settings completed (.done value)
  | file (report : Report) :
      FilesLast settings completed ((file settings report).bind fun path =>
        .done (completed ⟨report, path⟩))
  | perform {effect : Effect} {next : effect.Reply → Job α} (other : effect.isCall = false)
      (onward : ∀ reply, FilesLast settings completed (next reply)) :
      FilesLast settings completed (.perform effect next)

namespace FilesLast

variable {α β : Type} {completed : Completed → α} {also : Completed → β} {job : Job α}
  {continue_ : α → Job β}

theorem of_meets {post : α → Prop} (meets : job.Meets (fun effect => effect.isCall = false) post)
    (rest : ∀ value, post value → FilesLast settings also (continue_ value)) :
    FilesLast settings also (job >>= continue_) := by
  induction job with
  | done value => exact rest value meets
  | perform effect next induction =>
      exact .perform meets.1 fun reply => induction reply (meets.2 reply)

theorem bind (files : FilesLast settings completed job)
    (ends : ∀ run, continue_ (completed run) = .done (also run))
    (rest : ∀ value, (∀ run, value ≠ completed run) → FilesLast settings also (continue_ value)) :
    FilesLast settings also (job >>= continue_) := by
  induction files with
  | other incomplete => exact rest _ incomplete
  | file report =>
      have same : ((Engine.file settings report).bind fun path =>
          .done (completed ⟨report, path⟩)) >>= continue_ =
            (Engine.file settings report).bind fun path => .done (also ⟨report, path⟩) := by
        apply (Job.bind_assoc _ _ _).trans
        exact congrArg _ (funext fun path => ends ⟨report, path⟩)
      rw [same]
      exact .file report
  | perform other _ induction => exact .perform other induction

theorem of_action {γ : Type} {action : Action γ} {continue_ : γ → Action Completed}
    (meets : Action.Meets (fun effect => effect.isCall = false) (fun _ => True) action)
    (rest : ∀ value, FilesLast settings .ok (continue_ value).run) :
    FilesLast settings .ok (action >>= continue_).run := by
  apply of_meets meets
  intro result _
  cases result with
  | ok value => exact rest value
  | error error => exact .other (by simp)

end FilesLast

variable {engine : Engine} {setting : Setting} {graph : Graph Step}

theorem walk_other (forest : graph.Forest) {start : Nat} (started : graph.start = some start) :
    (engine.walk setting graph).Meets (fun effect => effect.isCall = false) fun _ => True := by
  have through := Walk.through_meets setting engine.settings.retests forest started
  refine ⟨rfl, fun moment => ⟨rfl, fun _ => ⟨rfl, fun _ => ?_⟩⟩⟩
  refine (through.mono fun effect own => ?_).imp fun _ _ => trivial
  cases effect with
  | createDirectory _ | writeFile _ _ | readFile _ | printFallback _ => cases own
  | _ => rfl

theorem ofReport_other {α : Type} {job : Job (Except ReportError α)}
    (meets : job.Meets (fun effect => effect.isCall = false) fun _ => True) :
    Action.Meets (fun effect => effect.isCall = false) (fun _ => True) (Action.ofReport job) := by
  apply meets.bind
  intro result _
  cases result with
  | ok value => exact Action.meets_pure trivial
  | error error => exact Action.meets_throw _

theorem execute_filesLast (forest : graph.Forest) {start : Nat}
    (started : graph.start = some start) :
    FilesLast engine.settings .ok (engine.execute setting graph).run := by
  unfold execute
  refine FilesLast.of_action (Action.meets_lift (walk_other forest started)) fun walked => ?_
  rcases walked with ⟨course, error | done⟩
  · refine FilesLast.of_action (Action.meets_lift (log_other _ _)) fun _ => ?_
    refine FilesLast.of_action (Action.meets_lift ⟨rfl, fun _ => trivial⟩) fun moment => ?_
    refine FilesLast.of_action (Action.meets_lift ⟨rfl, fun _ => trivial⟩) fun _ => ?_
    exact .other fun run equal => by cases equal
  · refine FilesLast.of_action (printSummary_meets (fun _ => rfl) (fun _ => rfl) _) fun _ => ?_
    refine FilesLast.of_action (Action.meets_lift ⟨rfl, fun _ => trivial⟩) fun moment => ?_
    refine FilesLast.of_action (ofReport_other ⟨rfl, fun _ => trivial⟩) fun report => ?_
    refine FilesLast.of_action (Action.meets_lift (log_other _ _)) fun _ => ?_
    have filing : (do return ⟨report, ← liftM (file engine.settings report)⟩ :
        Action Completed).run =
        (file engine.settings report).bind fun path => .done (.ok ⟨report, path⟩) :=
      Job.bind_assoc _ _ _
    exact filing ▸ .file report

theorem runTree_filesLast {mode : Mode} {request : Request} {id : String} {tree : Tree}
    {given : Parameters} (forest : graph.Forest) {start : Nat}
    (started : graph.start = some start) :
    FilesLast engine.settings .ok (engine.runTree mode request id tree graph given).run := by
  unfold runTree
  refine FilesLast.of_action (resolve_meets (fun _ => rfl) _ _) fun resolved => ?_
  refine FilesLast.of_action (Action.meets_lift ⟨rfl, fun _ => trivial⟩) fun suffix => ?_
  exact execute_filesLast forest started

theorem runIn_filesLast (engine : Engine) (mode : Mode) (request : Request) :
    FilesLast engine.settings .completed (engine.runIn mode request) := by
  unfold runIn
  cases engine.registry.find request.runbook with
  | error error => exact .other (by simp)
  | ok found =>
      rcases found with ⟨id, registered⟩
      refine FilesLast.of_meets (build_meets (fun _ => rfl) id registered.tree)
        fun product holds => ?_
      rcases product with crash | error | graph
      · exact .other (by simp)
      · exact .other (by simp)
      have built : registered.tree.blueprint.build id =
          ((registered.tree.blueprint.build id).1, .ok (.ok graph)) := by rw [holds]
      rcases Blueprint.build_start built with ⟨start, started⟩
      cases registered.tree.adapt request.parameters with
      | error crash => exact .other (by simp)
      | ok given =>
          refine (runTree_filesLast (Blueprint.build_forest built) started).bind (fun _ => rfl)
            fun result incomplete => ?_
          cases result with
          | ok run => exact absurd rfl (incomplete run)
          | error error => exact .other (by simp)

theorem runShared_filesLast (engine : Engine) (request : Request) :
    FilesLast engine.settings .completed (engine.runShared request) := by
  refine (runIn_filesLast engine .auto request).bind (fun _ => rfl) fun result incomplete => ?_
  cases result with
  | completed run => exact absurd rfl (incomplete run)
  | failed error => exact .other (by simp)
  | crashed crash => exact .of_meets (log_other _ _) fun _ _ => .other (by simp)

/-! ## What a run comes to -/

theorem FilesLast.calls {job : Job RunResult} (files : FilesLast settings .completed job) :
    job.Calls (fun made result => Filing settings result made) [] := by
  induction files with
  | other incomplete => exact .incomplete incomplete
  | file report => exact (file_calls settings report).bind fun made path filing => filing
  | perform other _ induction =>
      intro reply
      have noCall : Deed.calls ⟨_, reply⟩ = [] := by simp [Deed.calls, other]
      rw [noCall]
      exact induction reply

end Engine

/-- What a run comes to, but for where its report was filed. -/
def RunResult.unfiled : RunResult → RunResult
  | .completed run => .completed { run with path := none }
  | other => other

/-- Calls that fail change nothing else. -/
theorem Engine.FilesLast.unfiled {ρ : Type} [Renderer ρ] {settings : Settings} {job : Job RunResult}
    (files : FilesLast settings RunResult.completed job) (faults : Faults) (hampered : Hampered ρ) :
    (job.exec (Hampered.handle faults) hampered).1.unfiled =
      (hampered.surroundings.exec job).1.unfiled := by
  induction files generalizing hampered with
  | other incomplete => rfl
  | file report =>
      have ends {σ : Type} (handle : (effect : Effect) → σ → effect.Reply × σ) (state : σ) :
          (((Engine.file settings report).bind fun path =>
            .done (RunResult.completed ⟨report, path⟩)).exec handle state).1.unfiled =
              .completed ⟨report, none⟩ :=
        congrArg (fun ended : RunResult × σ => ended.1.unfiled)
          (Job.exec_bind handle (Engine.file settings report) _ state)
      exact (ends _ _).trans (ends _ _).symm
  | @perform effect next other _ induction =>
      have handled : Hampered.handle faults effect hampered = _ :=
        Hampered.handle_other other hampered
      rcases outcome : Surroundings.handle effect hampered.surroundings with ⟨reply, later⟩
      have goesOn : (Job.perform effect next).exec (Hampered.handle faults) hampered =
          (next reply).exec (Hampered.handle faults) ⟨later, hampered.calls⟩ := by
        simp only [Job.exec, handled, outcome]
      have plain : hampered.surroundings.exec (.perform effect next) = later.exec (next reply) := by
        simp only [Surroundings.exec, Job.exec, outcome]
      rw [goesOn, plain]
      exact induction reply ⟨later, hampered.calls⟩

end Triage
