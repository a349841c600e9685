import Triage.Proofs.Batch.Interleaving
import Triage.Proofs.Batch.Shared
import Triage.Proofs.Batch.Unattended
import Triage.Proofs.Run.Story

namespace Triage

open Surroundings

/-! ## What is in the store -/

namespace Effect

variable {effect : Effect} {opened : Option String} {runId : String}

theorem created?_of_apart (apart : effect.stores = false) : effect.created? = none := by
  cases effect with
  | createReport => cases apart
  | _ => rfl

/-- What a run has in the store was put there just now, or was there before. -/
theorem created?_of_holds (holds : effect.holds opened = some runId) :
    effect.created? = some runId ∨ opened = some runId := by
  cases effect with
  | createReport => exact .inl holds
  | finishReport => cases holds
  | _ => exact .inr holds

end Effect

namespace Surroundings

variable {ρ : Type} [Renderer ρ] {state : Surroundings ρ} {effect : Effect} {runId : String}

/-- What is silent in the store stays silent. -/
theorem own_silent (silent : effect.IsSilent)
    (before : effect.created? = some runId ∨
      ∀ report, state.own runId = some report → report.IsSilent)
    (unique : ∀ moment, effect = .finishReport runId moment → state.reports.keys.Nodup) :
    ∀ report, (handle effect state).2.own runId = some report → report.IsSilent := by
  cases stores : effect.stores with
  | false =>
      have creates : effect.created? ≠ some runId := by
        simp [Effect.created?_of_apart stores]
      have same : (handle effect state).2.own runId = state.own runId := by
        rw [own, own, handle_reports stores]
      rw [same]
      exact before.resolve_left creates
  | true =>
  cases effect with
  | createReport created =>
      intro report stored
      by_cases same : runId = created.runId
      · subst same
        rw [show (handle (.createReport created) state).2.own created.runId = some created from
          Entries.get?_insert_self] at stored
        cases stored
        exact silent
      · rw [show (handle (.createReport created) state).2.own runId = state.own runId from
          Entries.get?_insert_of_ne same] at stored
        refine before.elim (fun creates => ?_) (fun holds => holds report stored)
        cases creates
        exact absurd rfl same
  | changeReport changed change =>
      have holds := before.resolve_left (fun creates => by cases creates)
      cases own : state.own changed with
      | none =>
          rw [handle_changeReport_unknown own]
          exact holds
      | some earlier =>
          rw [handle_changeReport own]
          cases applied : earlier.apply change with
          | error error => exact holds
          | ok later =>
              intro report stored
              by_cases same : runId = changed
              · subst same
                rw [own_withOwn] at stored
                cases stored
                exact (holds earlier own).apply silent applied
              · rw [show (state.withOwn changed later).own runId = state.own runId from
                  Entries.get?_insert_of_ne same] at stored
                exact holds report stored
  | finishReport finished moment =>
      have holds := before.resolve_left (fun creates => by cases creates)
      cases own : state.own finished with
      | none =>
          rw [handle_finishReport_unknown own]
          exact holds
      | some earlier =>
          rw [handle_finishReport own]
          intro report stored
          by_cases same : runId = finished
          · subst same
            have gone : (state.reports.erase runId).get? runId = none :=
              Entries.get?_erase_self (unique moment rfl)
            rw [show Surroundings.own _ runId = (state.reports.erase runId).get? runId from rfl,
              gone] at stored
            cases stored
          · exact holds report ((Entries.get?_erase_of_ne same).symm.trans stored)
  | _ => cases stores

/-- Something may have been shown in between, but nobody was asked. -/
def Unasked (before after : Surroundings ρ) : Prop :=
  ∃ shown, Renderer.Shows before.renderer shown after.renderer ∧
    ∀ event ∈ shown, event.isQuestion = false

theorem Unasked.answers {before after : Surroundings EventLog} (unasked : before.Unasked after) :
    after.renderer.answers = before.renderer.answers := by
  rcases unasked with ⟨shown, shows, silent⟩
  exact EventLog.answers_of_shows shows silent

theorem questions_silent (silent : effect.IsSilent) (reply : effect.Reply) :
    effect.presents = false ∧ ∀ event ∈ effect.events reply, event.isQuestion = false := by
  cases effect with
  | ask request => cases silent
  | present presentation => cases silent
  | notify notice => exact ⟨rfl, by simp [Effect.events, Event.isQuestion]⟩
  | _ => exact ⟨rfl, fun _ member => absurd member List.not_mem_nil⟩

/-- A report comes back from where only what is silent is stored. -/
theorem returns_silent (guarded : ∀ runId, effect.touched? = some runId →
      ∀ report, state.own runId = some report → report.IsSilent) :
    effect.Returns (handle effect state).1 := by
  cases effect with
  | finishReport runId moment =>
      cases own : state.own runId with
      | none =>
          rw [handle_finishReport_unknown own]
          trivial
      | some report =>
          rw [handle_finishReport own]
          have silent := guarded runId rfl report own
          exact ⟨silent.mode, silent.results⟩
  | _ => trivial

theorem nodup_keys_handle (effect : Effect) (unique : state.reports.keys.Nodup) :
    (handle effect state).2.reports.keys.Nodup := by
  cases stores : effect.stores with
  | false => rwa [handle_reports stores]
  | true =>
  cases effect with
  | createReport report => exact Entries.nodup_keys_insert unique
  | changeReport runId change =>
      cases own : state.own runId with
      | none => rwa [handle_changeReport_unknown own]
      | some report =>
          rw [handle_changeReport own]
          cases report.apply change with
          | error error => exact unique
          | ok changed => exact Entries.nodup_keys_insert unique
  | finishReport runId moment =>
      cases own : state.own runId with
      | none => rwa [handle_finishReport_unknown own]
      | some report =>
          rw [handle_finishReport own]
          show (state.reports.erase runId).keys.Nodup
          rw [Entries.keys_erase]
          exact unique.erase _
  | _ => cases stores

end Surroundings

/-! ## Runs by themselves and in turns -/

section Turns

variable {ρ α : Type} [Renderer ρ] {post : Option String → α → Prop} {opened : Option String}

/-- A job by itself asks nothing. -/
theorem Job.Unattended.exec {job : Job α} (unattended : job.Unattended post opened)
    (state : Surroundings ρ) (stored : ∀ runId, opened = some runId →
      ∀ report, state.own runId = some report → report.IsSilent) :
    (∃ later, post later (state.exec job).1) ∧ state.Unasked (state.exec job).2 := by
  induction job generalizing opened state with
  | done value => exact ⟨⟨opened, unattended⟩, [], .refl _, by simp⟩
  | perform effect next induction =>
      rcases unattended with ⟨silent, own, onward⟩
      have returns := returns_silent fun runId touches => stored runId (own runId touches)
      have storedNow (runId : String) (holds : effect.holds opened = some runId) :
          ∀ report, (handle effect state).2.own runId = some report → report.IsSilent := by
        refine own_silent silent ?_ ?_
        · exact (Effect.created?_of_holds holds).imp_right (stored runId)
        · rintro moment rfl
          cases holds
      rcases induction _ (onward _ returns) _ storedNow with ⟨posts, more, shows, silentMore⟩
      rcases questions_silent silent (handle effect state).1 with ⟨events, silentFirst⟩
      refine ⟨posts, _, (handle_shows events state).trans shows, fun event member => ?_⟩
      exact (List.mem_append.mp member).elim (silentFirst event) (silentMore event)

/-- Jobs that ask nothing, and what they have in the store, under ids that need not be
different. -/
structure Hushed (post : Option String → α → Prop) (ids : List String) (pool : Pool ρ α) :
    Prop where
  jobs : ∀ (index : Nat) (job : Job α), pool.jobs[index]? = some job →
    ∃ opened, job.Unattended post opened ∧ ∀ runId, opened = some runId → runId ∈ ids
  reports : ∀ runId ∈ ids, ∀ report, pool.surroundings.own runId = some report → report.IsSilent
  unique : pool.surroundings.reports.keys.Nodup

namespace Hushed

variable {ids : List String} {pool next final : Pool ρ α} {index : Nat} {effect : Effect}
  {schedule : List Nat} {effects : List Effect}

theorem turn (hushed : Hushed post ids pool)
    (advances : pool.advance index = some (effect, next)) :
    effect.IsSilent ∧ Hushed post (effect.created?.toList ++ ids) next := by
  rcases Pool.advance_eq_some.mp advances with ⟨continue_, active, rfl⟩
  rcases hushed.jobs index _ active with ⟨opened, ⟨silent, own, onward⟩, known⟩
  have returns := returns_silent fun runId touches =>
    hushed.reports runId (known runId (own runId touches))
  refine ⟨silent, fun other job found => ?_, fun runId member => ?_, ?_⟩
  · by_cases same : index = other
    · subst same
      rw [List.getElem?_set_self (List.getElem?_eq_some_iff.mp active).1] at found
      cases found
      refine ⟨_, onward _ returns, fun runId holds => ?_⟩
      rcases Effect.created?_of_holds holds with new | was
      · exact List.mem_append_left _ (by simp [new])
      · exact List.mem_append_right _ (known runId was)
    · rw [List.getElem?_set_ne same] at found
      rcases hushed.jobs other job found with ⟨opened, unattended, among⟩
      exact ⟨opened, unattended, fun runId holds => List.mem_append_right _ (among runId holds)⟩
  · refine own_silent silent ?_ fun _ _ => hushed.unique
    rcases List.mem_append.mp member with new | old
    · exact .inl (by simpa using new)
    · exact .inr (hushed.reports runId old)
  · exact nodup_keys_handle effect hushed.unique

theorem interleave (hushed : Hushed post ids pool)
    (interleaves : pool.interleave schedule = some (effects, final)) :
    (∀ effect ∈ effects, effect.IsSilent) ∧ ∃ more, Hushed post more final := by
  induction schedule generalizing pool ids effects with
  | nil =>
      cases interleaves
      exact ⟨by simp, ids, hushed⟩
  | cons index rest induction =>
      rcases Pool.interleave_cons.mp interleaves with
        ⟨effect, performed, next, advances, goesOn, rfl⟩
      rcases hushed.turn advances with ⟨silent, hushedNext⟩
      rcases induction hushedNext goesOn with ⟨others, last⟩
      refine ⟨fun other member => ?_, last⟩
      rcases List.mem_cons.mp member with rfl | member
      · exact silent
      · exact others other member

end Hushed

end Turns

namespace Engine

theorem walk_silent (engine : Engine) {setting : Setting} {graph : Graph Step} {name : String}
    {blueprint : Blueprint} {notes : List Json.Node} (auto : setting.mode.isAuto = true)
    (built : blueprint.build name = (notes, .ok (.ok graph))) :
    (engine.walk setting graph).Meets Effect.IsSilent fun later =>
      (later.1.attempts.map fun attempt => attempt.node).Nodup := by
  refine ⟨trivial, fun moment => ?_⟩
  refine ⟨⟨auto, by simp [Report.opened, Report.stepResults]⟩, fun _ => ⟨trivial, fun _ => ?_⟩⟩
  exact (through_silent auto built engine.settings.retests).mono fun _ admitted => admitted.2

/-- In auto mode a run asks nothing, and executes no step twice, whatever its steps do and
whatever the replies are. What it records bears no answer. The runs of a batch are in auto
mode, one after the other or in turns, whatever the mode of the engine is. -/
theorem runs_silent (engine : Engine) (ρ : Type) [Renderer ρ] :
    (∀ {setting : Setting} {graph : Graph Step} {name : String} {blueprint : Blueprint}
      {notes : List Json.Node}, setting.mode.isAuto = true →
      blueprint.build name = (notes, .ok (.ok graph)) →
      (engine.walk setting graph).Meets Effect.IsSilent fun later =>
        (later.1.attempts.map fun attempt => attempt.node).Nodup) ∧
    (∀ {request : Request} {result : RunResult} {surroundings after : Surroundings ρ},
      surroundings.exec (engine.runIn .auto request) = (result, after) →
      result.IsSilent ∧ surroundings.Unasked after) ∧
    (∀ {requests : List Request} {results : List RunResult} {surroundings after : Surroundings ρ},
      surroundings.exec (engine.runBatch requests) = (results, after) →
      (∀ result ∈ results, result.IsSilent) ∧ surroundings.Unasked after) ∧
    ∀ {requests : List Request} {surroundings : Surroundings ρ} {schedule : List Nat}
      {effects : List Effect} {pool : Pool ρ RunResult},
      surroundings.reports.keys.Nodup →
      (engine.batch requests surroundings).interleave schedule = some (effects, pool) →
      (∀ effect ∈ effects, effect.IsSilent) ∧
        ∀ (index : Nat) (result : RunResult), pool.jobs[index]? = some (.done result) →
          result.IsSilent := by
  refine ⟨fun auto built => engine.walk_silent auto built, ?_, ?_, ?_⟩
  · intro request result surroundings after runs
    rcases (engine.runIn_unattended request none).exec surroundings (by simp) with
      ⟨⟨later, silent⟩, unasked⟩
    rw [runs] at silent unasked
    exact ⟨silent, unasked⟩
  · intro requests results surroundings after runs
    rcases (engine.runBatch_unattended requests none).exec surroundings (by simp) with
      ⟨⟨later, silent⟩, unasked⟩
    rw [runs] at silent unasked
    exact ⟨silent, unasked⟩
  · intro requests surroundings schedule effects pool unique interleaves
    have hushed : Hushed (fun _ result => result.IsSilent) []
        (engine.batch requests surroundings) := by
      refine ⟨fun index job found => ?_, by simp, unique⟩
      simp only [batch, List.getElem?_map, Option.map_eq_some_iff] at found
      rcases found with ⟨request, -, rfl⟩
      exact ⟨none, engine.runShared_unattended request none, by simp⟩
    rcases hushed.interleave interleaves with ⟨silent, ids, last⟩
    refine ⟨silent, fun index result isDone => ?_⟩
    rcases last.jobs index _ isDone with ⟨opened, unattended, -⟩
    exact unattended

def isCompleted : Job RunResult → Bool
  | .done (.completed _) => true
  | _ => false

theorem completed_of_isCompleted {job : Job RunResult} (completed : isCompleted job = true) :
    ∃ run, job = .done (.completed run) := by
  cases job with
  | done result =>
      cases result with
      | completed run => exact ⟨run, rfl⟩
      | _ => cases completed
  | perform effect next => cases completed

open Sample in
/-- A step that asks, and then records a failure. -/
theorem runs_silent_asking :
    let asking := pair (.invoke (.ask (.humanTask "Look at it.")) fun _ =>
      .conclude (.failed ⟨"disk", "disk"⟩ "full" "clean up")) .done
    let engine : Engine := { library asking with settings := ⟨.interactive, none, 3⟩ }
    let answering : Surroundings EventLog := { surroundings with renderer := .withAnswers ["y"] }
    ((ended asking).1.1.attempts.map fun attempt => attempt.node).Nodup ∧
      (∃ run after, answering.exec (engine.runIn .auto request) = (.completed run, after) ∧
        run.IsSilent ∧ after.renderer.answers = ["y"]) ∧
      (answering.exec (engine.runBatch [request])).2.renderer.answers = ["y"] ∧
      ∃ effects pool first second,
        (engine.batch [request, request] answering).interleave (List.replicate 30 [0, 1]).flatten =
            some (effects, pool) ∧
          (∀ effect ∈ effects, effect.IsSilent) ∧
          pool.jobs = [.done (.completed first), .done (.completed second)] ∧
          first.IsSilent ∧ second.IsSilent := by
  intro asking engine answering
  rcases engine.runs_silent EventLog with ⟨-, alone, oneByOne, inTurns⟩
  refine ⟨?_, ?_, ?_, ?_⟩
  · have complete : (tree asking).start.isSome = true := by decide +kernel
    have walks : (Sample.engine.walk setting (tree asking)).Meets Effect.IsSilent fun later =>
        (later.1.attempts.map fun attempt => attempt.node).Nodup :=
      (Sample.engine.runs_silent EventLog).1 (by decide) (build_tree complete)
    have distinct := exec_meets walks surroundings
    rcases walked : ended asking with ⟨⟨course, result⟩, final⟩
    have walked : surroundings.exec (Sample.engine.walk setting (tree asking)) =
        ((course, result), final) := walked
    rw [walked] at distinct
    exact distinct
  · have completes : isCompleted (.done (answering.exec (engine.runIn .auto request)).1) = true := by
      decide +kernel
    rcases runs : answering.exec (engine.runIn .auto request) with ⟨result, after⟩
    rw [runs] at completes
    rcases alone runs with ⟨silent, unasked⟩
    rcases completed_of_isCompleted completes with ⟨run, ends⟩
    cases ends
    exact ⟨run, after, rfl, silent run rfl, unasked.answers⟩
  · rcases runs : answering.exec (engine.runBatch [request]) with ⟨results, after⟩
    exact (oneByOne runs).2.answers
  · have check : ((engine.batch [request, request] answering).interleave
        (List.replicate 30 [0, 1]).flatten).all
          (fun turned => turned.2.jobs.all isCompleted && turned.2.jobs.length == 2) = true := by
      decide +kernel
    have goesOn : ((engine.batch [request, request] answering).interleave
        (List.replicate 30 [0, 1]).flatten).isSome = true := by decide +kernel
    have unique : answering.reports.keys.Nodup := List.nodup_nil
    rcases Option.isSome_iff_exists.mp goesOn with ⟨⟨effects, pool⟩, interleaves⟩
    rcases inTurns unique interleaves with ⟨silent, results⟩
    rw [interleaves] at check
    simp only [Option.all_some, Bool.and_eq_true, beq_iff_eq, List.all_eq_true] at check
    rcases check with ⟨allCompleted, two⟩
    rcases List.length_eq_two.mp two with ⟨one, other, jobs⟩
    simp only [jobs, List.mem_cons, List.not_mem_nil, or_false, forall_eq_or_imp,
      forall_eq] at allCompleted
    rcases completed_of_isCompleted allCompleted.1 with ⟨first, rfl⟩
    rcases completed_of_isCompleted allCompleted.2 with ⟨second, rfl⟩
    refine ⟨effects, pool, first, second, interleaves, silent, jobs, ?_, ?_⟩
    · exact results 0 (.completed first) (by simp [jobs]) first rfl
    · exact results 1 (.completed second) (by simp [jobs]) second rfl

end Engine

end Triage
