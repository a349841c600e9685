import Triage.Proofs.Run.Account
import Triage.Proofs.Run.DepthFirst

namespace Triage

open Surroundings Walk

variable {ρ : Type} [Renderer ρ] {setting : Setting} {retests : Nat}

/-- How a step is announced, by its result and the number of results before it. -/
def StepResult.announcement (before : Nat) (result : StepResult) : Announcement :=
  ⟨before + 1, result.executionId, result.name, result.kind⟩

namespace Account

variable (account : Account ρ setting retests) (accounts : List (Account ρ setting retests))

/-! ## The events of one execution -/

theorem announcements_events : announcements account.events = [account.announcement] := by
  have none := account.told.announcements
  rw [events, ← List.singleton_append, announcements_append, none]
  rfl

theorem outcomes_events :
    outcomes account.events = account.closed.evaluations.map Evaluation.notice := by
  have same := account.told.outcomes
  rw [events, ← List.singleton_append, outcomes_append, same]
  rfl

theorem isSummary_events : ∀ event ∈ account.events, event.isSummary = false := by
  intro event member
  rcases List.mem_cons.mp member with rfl | member
  · rfl
  · exact account.told.summaries event member

theorem closed_announcement :
    account.closed.announcement account.occasion.course.started = account.announcement := by
  have recorded := account.records.last_eq
  rw [closed, recorded]
  rfl

/-! ## The events of a run -/

theorem announcements_flatMap :
    announcements (accounts.flatMap events) = accounts.map announcement := by
  induction accounts with
  | nil => rfl
  | cons account rest induction =>
      rw [List.flatMap_cons, announcements_append, announcements_events, induction]
      rfl

theorem outcomes_flatMap : outcomes (accounts.flatMap events) =
    accounts.flatMap fun account => account.closed.evaluations.map Evaluation.notice := by
  induction accounts with
  | nil => rfl
  | cons account rest induction =>
      rw [List.flatMap_cons, outcomes_append, outcomes_events, induction, List.flatMap_cons]

theorem mapIdx_closed {accounts : List (Account ρ setting retests)}
    (starts : accounts.map (·.occasion.course.started) = List.range' 0 accounts.length) :
    (accounts.map closed).mapIdx StepResult.announcement = accounts.map announcement := by
  apply List.ext_getElem (by simp)
  intro index inside _
  have bound : index < accounts.length := by simpa using inside
  have started : accounts[index].occasion.course.started = index := by
    have same := congrArg (·[index]?) starts
    simpa [bound] using same
  have told := accounts[index].closed_announcement
  rw [started] at told
  simpa using told

/-! ## The report of a run -/

theorem foldl_file (report : Report) :
    accounts.foldl (fun report account => account.file report) report =
      { report with
        results := accounts.foldl
          (fun held account => held.insert account.frame.executionId account.closed)
          report.results } := by
  induction accounts generalizing report with
  | nil => rfl
  | cons account rest induction =>
      rw [List.foldl_cons, List.foldl_cons, induction]
      rfl

end Account

namespace Engine

variable {engine : Engine} {mode : Mode} {request : Request} {name : String}
  {blueprint : Blueprint} {notes : List Json.Node} {graph : Graph Step}

/-- What a run came to, told twice: by its report and by what was shown. -/
structure Story (run : Completed) (shown : List Event) : Prop where
  announcements : announcements shown =
    run.report.stepResults.mapIdx StepResult.announcement
  ended : ∀ result ∈ run.report.stepResults, result.endedAt.isSome = true
  outcomes : outcomes shown = run.report.evaluations.map fun entry => entry.2.notice

theorem execute_story {surroundings after : Surroundings ρ} {run : Completed}
    (built : blueprint.build name = (notes, .ok (.ok graph)))
    (ordinary : graph.Uses fun call => call.isOrdinary = true)
    (executes : surroundings.exec (engine.execute setting graph).run = (.ok run, after)) :
    ∃ shown, Renderer.Shows surroundings.renderer
        (shown ++ [.shown (.summary run.report.runbook run.report.totals)]) after.renderer ∧
      (∀ event ∈ shown, event.isSummary = false) ∧
      (((announcements shown).map (·.executionId)).Nodup → Story run shown) := by
  rcases walked : surroundings.exec (engine.walk setting graph) with ⟨⟨course, result⟩, final⟩
  rcases walk_unfolds built ordinary walked with ⟨occasions, moment, opened, reports, shows, chain⟩
  rcases chain.accounted (filed_of_opened graph reports).own with ⟨accounts, -, ledger⟩
  let opening := Report.opened setting.runId setting.runbook setting.context.parameters setting.mode
    moment
  obtain ⟨report, folded⟩ : ∃ report,
      accounts.foldl (fun report account => account.file report) opening = report := ⟨_, rfl⟩
  have whole := folded.symm.trans (Account.foldl_file accounts opening)
  rcases exec_execute walked (folded ▸ ledger.own) with ⟨finished, past, -, ends⟩
  cases result with
  | error error =>
      rw [ends.1] at executes
      cases executes
  | ok done =>
      rcases ends with ⟨path, executed, summary⟩
      rw [executed] at executes
      cases executes
      refine ⟨accounts.flatMap Account.events, ?_, ?_, fun distinct => ?_⟩
      · have runbook : report.runbook = setting.runbook := congrArg Report.runbook whole
        have told := shows.trans (ledger.shows.trans summary)
        rw [← runbook] at told
        exact told
      · intro event member
        rcases List.mem_flatMap.mp member with ⟨account, -, shown⟩
        exact account.isSummary_events event shown
      · rw [Account.announcements_flatMap, List.map_map] at distinct
        have results : report.results =
            accounts.map fun account => (account.frame.executionId, account.closed) :=
          (congrArg Report.results whole).trans (Entries.foldl_insert distinct)
        have stepResults : report.stepResults = accounts.map Account.closed := by
          simp [Report.stepResults, results]
        constructor
        · rw [Account.announcements_flatMap]
          show _ = report.stepResults.mapIdx StepResult.announcement
          rw [stepResults]
          exact (Account.mapIdx_closed ledger.starts).symm
        · intro result member
          have isClosed : result ∈ report.stepResults := member
          rw [stepResults] at isClosed
          rcases List.mem_map.mp isClosed with ⟨account, -, rfl⟩
          rfl
        · rw [Account.outcomes_flatMap]
          show _ = report.evaluations.map fun entry => entry.2.notice
          rw [Report.evaluations, stepResults]
          simp [List.map_flatMap, List.flatMap_map, Function.comp_def]

/-- The report of a run that came to its end and what was shown of it tell the same
story, and the summary that comes last counts the outcomes of that report. The
executions are told apart by their ids. -/
theorem runIn_story {engine : Engine} {mode : Mode} {request : Request}
    {surroundings after : Surroundings EventLog} {run : Completed}
    (ordinary : ∀ id registered, engine.registry.find request.runbook = .ok (id, registered) →
      registered.tree.blueprint.Uses fun call => call.isOrdinary = true)
    (ran : surroundings.exec (engine.runIn mode request) = (.completed run, after)) :
    ∃ shown, after.renderer.events = surroundings.renderer.events ++ shown ++
        [.shown (.summary run.report.runbook run.report.totals)] ∧
      (∀ event ∈ shown, event.isSummary = false) ∧
      (((announcements shown).map (·.executionId)).Nodup → Story run shown) := by
  cases engine.beginning mode request surroundings with
  | refused runs incomplete _ =>
      rw [ran] at runs
      cases runs
      exact absurd rfl (incomplete run)
  | @begun id registered notes graph setting later found built _ _ quiet runs =>
      rw [ran] at runs
      rcases executes : later.exec (engine.execute setting graph).run with ⟨error | finished, past⟩
      · rw [executes] at runs
        cases runs
      · rw [executes] at runs
        cases runs
        have uses := Blueprint.build_uses (ordinary id registered found) built
        rcases execute_story built uses executes with ⟨shown, shows, summaries, story⟩
        refine ⟨shown, ?_, summaries, story⟩
        have events := EventLog.events_of_shows (quiet.shows.trans shows)
        simpa using events

end Engine

namespace Sample

/-- An engine that knows one runbook. -/
def library (blueprint : Blueprint) : Engine :=
  { engine with registry := [("sample/pair", ⟨"sample", ⟨"", [], [], .ok, blueprint⟩⟩)] }

def request : Request :=
  ⟨"sample/pair", .ofProject "project", []⟩

def answering (answers : List String) : Surroundings EventLog :=
  { surroundings with renderer := .withAnswers answers }

def full : Outcome :=
  .failed ⟨"disk", "disk"⟩ "full" "clean up"

theorem library_uses {calls : Call → Prop} {blueprint : Blueprint} {id : String}
    {registered : Registered} (uses : blueprint.Uses calls)
    (found : (library blueprint).registry.find request.runbook = .ok (id, registered)) :
    registered.tree.blueprint.Uses calls := by
  simp only [Registry.find, library, Entries.get?_cons, Entries.get?_nil] at found
  split at found
  · next same =>
    split at same
    · cases same
      cases found
      exact uses
    · cases same
  · cases found

end Sample

namespace Engine

open Sample in
/-- A step that records an outcome and queues another step. -/
theorem runIn_story_recording :
    let recording := pair (.enqueue (step "queued" .step
      (.conclude (.failed ⟨"disk", "disk"⟩ "full" "clean up"))) .done) (.crash "broken")
    ∃ run after shown, Sample.surroundings.exec ((library recording).runIn .auto request) =
        (.completed run, after) ∧
      after.renderer.events = shown ++ [.shown (.summary run.report.runbook run.report.totals)] ∧
      Story run shown := by
  intro recording
  have distinct : ((announcements (Sample.surroundings.exec ((library recording).runIn .auto
      request)).2.renderer.events).map (fun announcement => announcement.executionId)).Nodup := by
    decide +kernel
  have check : (match (Sample.surroundings.exec ((library recording).runIn .auto request)).1 with
      | .completed _ => true
      | _ => false) = true := by decide +kernel
  rcases ran : Sample.surroundings.exec ((library recording).runIn .auto request) with
    ⟨result, after⟩
  rw [ran] at check distinct
  cases result with
  | completed run =>
      have ordinary : ∀ id registered,
          (library recording).registry.find request.runbook = .ok (id, registered) →
          registered.tree.blueprint.Uses fun call => call.isOrdinary = true := by
        intro id registered found
        have queued : (step "queued" .step (.conclude (.failed ⟨"disk", "disk"⟩ "full"
            "clean up"))).Uses fun call => call.isOrdinary = true :=
          fun _ => Body.invoke_uses rfl fun _ => trivial
        have uses : recording.Uses fun call => call.isOrdinary = true :=
          pair_uses (Body.enqueue_uses queued trivial) trivial
        exact library_uses uses found
      rcases runIn_story ordinary ran with ⟨shown, events, -, story⟩
      have all : after.renderer.events =
          shown ++ [.shown (.summary run.report.runbook run.report.totals)] := by
        simpa [Sample.surroundings, Surroundings.opened, EventLog.withAnswers] using events
      rw [all, announcements_append, List.map_append] at distinct
      exact ⟨run, after, shown, rfl, all, story (List.nodup_append.mp distinct).1⟩
  | _ => cases check

end Engine

end Triage
