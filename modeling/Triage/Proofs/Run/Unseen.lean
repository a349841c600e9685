import Triage.Proofs.Renderer.Answers
import Triage.Proofs.Run.Story
import Triage.Proofs.Trace

namespace Triage

/-! ## What a renderer is shown -/

/-- The reply does not tell what was shown. -/
def Effect.IsBlind : Effect → Prop
  | .transcript => False
  | _ => True

namespace Renderer

variable {τ : Type} [Renderer τ]

/-- The state of a renderer after an effect. -/
def after : Effect → τ → τ
  | .notify notice, renderer => notify notice renderer
  | .ask request, renderer => (ask request renderer).2
  | .log line, renderer => log line renderer
  | .present presentation, renderer => present presentation renderer
  | _, renderer => renderer

/-- A question is answered as it was answered before. -/
def Gives : (effect : Effect) → effect.Reply → τ → Prop
  | .ask request, response, renderer => (ask request renderer).1 = response
  | _, _, _ => True

/-- All questions among the deeds are answered as they were answered before. -/
def Repeats : List Deed → τ → Prop
  | [], _ => True
  | deed :: rest, renderer =>
      Gives deed.effect deed.reply renderer ∧ Repeats rest (after deed.effect renderer)

end Renderer

open Surroundings

namespace Surroundings

variable {ρ τ α : Type} {surroundings : Surroundings ρ} {renderer : τ} {job : Job α}

/-- The same surroundings with another renderer. -/
def shownBy (surroundings : Surroundings ρ) (renderer : τ) : Surroundings τ where
  reports := surroundings.reports
  renderer := renderer
  suffixes := surroundings.suffixes
  drawn := surroundings.drawn
  clock := surroundings.clock
  ticks := surroundings.ticks
  disk := surroundings.disk
  fallback := surroundings.fallback
  output := surroundings.output
  errors := surroundings.errors
  journal := surroundings.journal

variable [Renderer ρ] [Renderer τ]

theorem handle_renderer (effect : Effect) (surroundings : Surroundings ρ) :
    (handle effect surroundings).2.renderer = Renderer.after effect surroundings.renderer := by
  cases effect with
  | changeReport | createDirectory | writeFile | printFallback =>
      simp only [handle, settle]
      split <;> rfl
  | finishReport =>
      simp only [handle]
      split <;> rfl
  | _ => rfl

/-- Nothing but an answer comes back from a renderer. -/
theorem handle_shownBy {effect : Effect} (blind : effect.IsBlind)
    (gives : Renderer.Gives effect (handle effect surroundings).1 renderer) :
    handle effect (surroundings.shownBy renderer) =
      ((handle effect surroundings).1,
        (handle effect surroundings).2.shownBy (Renderer.after effect renderer)) := by
  cases effect with
  | ask request => exact Prod.ext gives rfl
  | transcript => cases blind
  | changeReport | createDirectory | writeFile | printFallback =>
      simp only [handle, shownBy, settle]
      split <;> rfl
  | finishReport =>
      simp only [handle, shownBy]
      split <;> rfl
  | _ => rfl

/-- A renderer that gives the same answers makes no difference to a job. -/
theorem exec_shownBy (blind : job.Meets Effect.IsBlind fun _ => True)
    (repeats : Renderer.Repeats (surroundings.deeds job) renderer) :
    (surroundings.shownBy renderer).deeds job = surroundings.deeds job ∧
      ∃ later, (surroundings.shownBy renderer).exec job =
        ((surroundings.exec job).1, (surroundings.exec job).2.shownBy later) := by
  induction job generalizing surroundings renderer with
  | done value => exact ⟨rfl, renderer, rfl⟩
  | perform effect next induction =>
      have handled := handle_shownBy blind.1 repeats.1
      rcases induction _ (blind.2 _) repeats.2 with ⟨deeds, later, rest⟩
      refine ⟨?_, later, ?_⟩
      · simp only [Surroundings.deeds, handled, deeds]
      · simp only [exec, Job.exec, handled]
        exact rest

/-- The answers of a job tell whether a renderer repeats them. -/
theorem repeats_of_answers (blind : job.Meets Effect.IsBlind fun _ => True)
    (same : (surroundings.shownBy renderer).answers job = surroundings.answers job) :
    Renderer.Repeats (surroundings.deeds job) renderer := by
  induction job generalizing surroundings renderer with
  | done value => trivial
  | perform effect next induction =>
      have gives : Renderer.Gives effect (handle effect surroundings).1 renderer := by
        cases effect with
        | ask request => exact (List.cons.inj same).1
        | _ => trivial
      refine ⟨gives, induction _ (blind.2 _) ?_⟩
      have handled := handle_shownBy blind.1 gives
      have rest : (⟨effect, (handle effect surroundings).1⟩ : Deed).answer?.toList ++
          answers (next (handle effect surroundings).1)
            ((handle effect surroundings).2.shownBy (Renderer.after effect renderer)) =
          (⟨effect, (handle effect surroundings).1⟩ : Deed).answer?.toList ++
            answers (next (handle effect surroundings).1) (handle effect surroundings).2 := by
        simp only [answers, deeds, handled, List.filterMap_cons] at same
        cases told : (⟨effect, (handle effect surroundings).1⟩ : Deed).answer? with
        | none => simpa [told, answers] using same
        | some response => simpa [told, answers] using same
      exact List.append_cancel_left rest

/-- A renderer repeats its own answers. -/
theorem repeats_self (job : Job α) (surroundings : Surroundings ρ) :
    Renderer.Repeats (surroundings.deeds job) surroundings.renderer := by
  induction job generalizing surroundings with
  | done value => trivial
  | perform effect next induction =>
      have rest := induction (handle effect surroundings).1 (handle effect surroundings).2
      refine ⟨?_, handle_renderer effect surroundings ▸ rest⟩
      cases effect with
      | ask request => rfl
      | _ => trivial

end Surroundings

/-! ## Renderers that give the same answers -/

namespace Terminal

variable {first second : Terminal}

theorem after_typed (effect : Effect) (typed : first.Typed second) :
    (Renderer.after effect first).Typed (Renderer.after effect second) := by
  cases effect with
  | notify notice =>
      exact ((typed_notify notice first).symm.trans typed).trans (typed_notify notice second)
  | ask request => exact (ask_typed request typed).2
  | log line =>
      exact ((typed_writeLog line first).symm.trans typed).trans (typed_writeLog line second)
  | present presentation => exact ⟨typed.input, typed.broken⟩
  | _ => exact typed

/-- Colour, width and what is on the screen make no difference to the answers. -/
theorem repeats_typed {deeds : List Deed} (typed : first.Typed second)
    (repeats : Renderer.Repeats deeds first) : Renderer.Repeats deeds second := by
  induction deeds generalizing first second with
  | nil => trivial
  | cons deed rest induction =>
      refine ⟨?_, induction (after_typed deed.effect typed) repeats.2⟩
      have gives := repeats.1
      rcases deed with ⟨effect, reply⟩
      cases effect with
      | ask request => exact (ask_typed request typed).1.trans gives
      | _ => trivial

end Terminal

namespace EventLog

/-- The answers that are prepared come to the answers that were given. -/
def Prepares : List Deed → List String → Prop
  | [], _ => True
  | ⟨.ask request, response⟩ :: rest, answers =>
      (answers.head?.bind request.resolve?).getD .noAnswer = response ∧ Prepares rest answers.tail
  | _ :: rest, answers => Prepares rest answers

theorem repeats_of_prepares {deeds : List Deed} {log : EventLog}
    (prepares : Prepares deeds log.answers) : Renderer.Repeats deeds log := by
  induction deeds generalizing log with
  | nil => trivial
  | cons deed rest induction =>
      rcases deed with ⟨effect, reply⟩
      cases effect with
      | ask request => exact ⟨prepares.1, induction prepares.2⟩
      | log line =>
          refine ⟨trivial, induction ?_⟩
          have same : (Renderer.after (.log line) log).answers = log.answers := by
            show (EventLog.write line log).answers = log.answers
            unfold EventLog.write
            split <;> rfl
          rw [same]
          exact prepares
      | _ => exact ⟨trivial, induction prepares⟩

end EventLog

/-! ## Runs -/

theorem Effect.IsOwn.blind {setting : Setting} {effect : Effect} (isOwn : effect.IsOwn setting) :
    effect.IsBlind := by
  cases effect with
  | transcript => cases isOwn
  | _ => trivial

theorem Effect.IsFiling.blind {effect : Effect} (filing : effect.IsFiling) : effect.IsBlind := by
  cases effect with
  | transcript => cases filing
  | _ => trivial

namespace Engine

variable {engine : Engine} {name : String} {blueprint : Blueprint} {notes : List Json.Node}
  {graph : Graph Step}

theorem walk_blind (engine : Engine) (setting : Setting)
    (built : blueprint.build name = (notes, .ok (.ok graph))) :
    (engine.walk setting graph).Meets Effect.IsBlind fun _ => True := by
  rcases Blueprint.build_start built with ⟨start, started⟩
  have through := (Walk.through_meets setting engine.settings.retests
    (Blueprint.build_forest built) started).mono fun _ => Effect.IsOwn.blind
  refine ⟨trivial, fun moment => ⟨trivial, fun _ => ⟨trivial, fun _ => ?_⟩⟩⟩
  exact through.imp fun _ _ => trivial

theorem execute_blind (engine : Engine) (setting : Setting)
    (built : blueprint.build name = (notes, .ok (.ok graph))) :
    Action.Meets Effect.IsBlind (fun _ => True) (engine.execute setting graph) := by
  refine (Action.meets_lift (walk_blind engine setting built)).bind fun walked _ => ?_
  rcases walked with ⟨course, error | done⟩
  · exact ⟨trivial, fun _ => ⟨trivial, fun _ => ⟨trivial, fun _ => nofun⟩⟩⟩
  · refine (printSummary_meets (fun _ => trivial) (fun _ => trivial) _).bind fun _ _ => ?_
    refine (Action.meets_lift (Job.meets_effect trivial fun _ => trivial)).bind fun moment _ => ?_
    have finishes : Action.Meets Effect.IsBlind (fun _ => True)
        (Action.ofReport (Job.finishReport setting.runId moment)) := by
      refine Job.Meets.bind (Job.meets_effect trivial fun _ => trivial) fun finished _ => ?_
      cases finished with
      | error error => exact Action.meets_throw _
      | ok report => exact Action.meets_pure trivial
    refine finishes.bind fun report _ => ?_
    refine (Action.meets_lift (Job.meets_effect trivial fun _ => trivial)).bind fun _ _ => ?_
    have files := (file_meets engine.settings report).mono fun _ => Effect.IsFiling.blind
    exact (Action.meets_lift files).bind fun _ _ => Action.meets_pure trivial

theorem runIn_blind (engine : Engine) (mode : Mode) (request : Request) :
    (engine.runIn mode request).Meets Effect.IsBlind fun _ => True := by
  unfold runIn
  cases engine.registry.find request.runbook with
  | error error => trivial
  | ok found =>
      rcases found with ⟨id, registered⟩
      apply (build_meets (fun _ => trivial) id registered.tree).bind
      intro product built
      rcases product with crash | error | graph
      · trivial
      · trivial
      have isBuilt : registered.tree.blueprint.build id =
          ((registered.tree.blueprint.build id).1, .ok (.ok graph)) := by rw [built]
      cases registered.tree.adapt request.parameters with
      | error crash => trivial
      | ok given =>
          have ran : Action.Meets Effect.IsBlind (fun _ => True)
              (engine.runTree mode request id registered.tree graph given) := by
            refine (resolve_meets (fun _ => trivial) _ _).bind fun _ _ => ?_
            refine (Action.meets_lift (Job.meets_effect trivial fun _ => trivial)).bind
              fun suffix _ => ?_
            exact execute_blind engine _ isBuilt
          refine Job.Meets.bind ran fun result _ => ?_
          cases result <;> exact trivial

/-- Of what is shown nothing but the answers comes back to a run: with the same answers it
does the same with the same replies, so the same steps are started in the same order, and it
comes to the same result and leaves the same behind. Terminals answer alike where the same is
typed in, and a list of answers can be prepared for programs. -/
theorem runIn_unseen {ρ τ : Type} [Renderer ρ] [Renderer τ] (engine : Engine) (mode : Mode)
    (request : Request) (surroundings : Surroundings ρ) (renderer : τ) :
    let job := engine.runIn mode request
    let other := surroundings.shownBy renderer
    (other.answers job = surroundings.answers job →
      other.deeds job = surroundings.deeds job ∧
        ∃ later, other.exec job =
          ((surroundings.exec job).1, (surroundings.exec job).2.shownBy later)) ∧
      (∀ first second : Terminal, second.input = first.input → second.broken = first.broken →
        (surroundings.shownBy second).answers job = (surroundings.shownBy first).answers job) ∧
      ∀ log : EventLog, EventLog.Prepares (surroundings.deeds job) log.answers →
        (surroundings.shownBy log).answers job = surroundings.answers job := by
  intro job other
  have blind : job.Meets Effect.IsBlind fun _ => True := runIn_blind engine mode request
  refine ⟨fun same => exec_shownBy blind (repeats_of_answers blind same), ?_, ?_⟩
  · intro first second input broken
    have repeats := Terminal.repeats_typed ⟨input, broken⟩
      (repeats_self job (surroundings.shownBy first))
    have same : (surroundings.shownBy second).deeds job = (surroundings.shownBy first).deeds job :=
      (exec_shownBy blind repeats).1
    exact congrArg (List.filterMap Deed.answer?) same
  · intro log prepares
    have same := (exec_shownBy blind (EventLog.repeats_of_prepares prepares)).1
    exact congrArg (List.filterMap Deed.answer?) same

open Sample in
/-- A person mistypes, has a step executed again and then goes on. -/
theorem runIn_unseen_retesting :
    let engine := library (pair (.conclude (.failed ⟨"disk", "disk"⟩ "full" "clean up")) .done)
    let job := engine.runIn .interactive request
    let typing := Sample.surroundings.shownBy
      (Terminal.opened .color 40 [some "again\n", some " R\n", some "c\n"])
    let log := EventLog.withAnswers ["r", "c"]
    typing.answers job = [.retest, .continue] ∧
      (typing.shownBy log).deeds job = typing.deeds job ∧
      ((typing.shownBy log).exec job).1 = (typing.exec job).1 := by
  intro engine job typing log
  have answers : typing.answers job = [.retest, .continue] := by decide +kernel
  have prepared : (typing.shownBy log).answers job = [.retest, .continue] := by decide +kernel
  have same : (typing.shownBy log).answers job = typing.answers job := prepared.trans answers.symm
  rcases (runIn_unseen engine .interactive request typing log).1 same with ⟨deeds, later, ended⟩
  refine ⟨answers, deeds, ?_⟩
  rw [ended]

end Engine

end Triage
