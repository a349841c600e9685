import Triage.Proofs.Run.Occasion

namespace Triage

open Surroundings

variable {ρ : Type} [Renderer ρ] {setting : Setting} {retests : Nat} {report : Report}
  {runId executionId : String} {first middle last : StepResult}
  {before between after surroundings : Surroundings ρ} {shown more : List Event}
  {added others : List Evaluation}

/-! ## While a step executes

Its result in the report grows at the end, by what is shown. -/

structure Recorded (runId : String) (report : Report) (executionId : String) (first : StepResult)
    (before : Surroundings ρ) (shown : List Event) (added : List Evaluation) (last : StepResult)
    (after : Surroundings ρ) : Prop where
  own : after.own runId = some (report.withResult executionId last)
  last_eq : last = { first with
    evaluations := first.evaluations ++ added
    response := last.response }
  shows : Renderer.Shows before.renderer shown after.renderer
  told : Told shown added

namespace Recorded

theorem ofQuiet (known : before.own runId = some (report.withResult executionId first))
    (quiet : Quiet before shown after) (told : Told shown []) :
    Recorded runId report executionId first before shown [] first after :=
  ⟨quiet.own.trans known, by rw [List.append_nil], quiet.shows, told⟩

theorem trans
    (earlier : Recorded runId report executionId first before shown added middle between)
    (later : Recorded runId report executionId middle between more others last after) :
    Recorded runId report executionId first before (shown ++ more) (added ++ others) last
      after where
  own := later.own
  last_eq := by
    have grown := later.last_eq
    rw [earlier.last_eq] at grown
    rw [grown, List.append_assoc]
  shows := earlier.shows.trans later.shows
  told := earlier.told.append later.told

end Recorded

namespace Operator

variable {operator : Operator Planned} {frame : Frame Planned} {result : StepResult} {call : Call}

theorem exec_call_ordinary (ordinary : call.isOrdinary = true)
    (active : operator.frame = some frame)
    (known : surroundings.own operator.setting.runId =
      some (report.withResult frame.executionId result)) :
    ∃ shown added later,
      Recorded operator.setting.runId report frame.executionId result surroundings shown added later
        (surroundings.exec (operator.call Planned.profile call)).2 := by
  have same : Recorded operator.setting.runId report frame.executionId result surroundings [] []
      result surroundings := .ofQuiet known .refl .nil
  cases call with
  | record outcome =>
      rcases operator.exec_record_known active known Report.step?_withResult outcome with
        ⟨later, response, skipped, shown, after, records, own, shows, told, -⟩
      rw [Report.withResult_withResult] at own
      have called : surroundings.exec (operator.call Planned.profile (.record outcome)) = _ :=
        records
      rw [called]
      exact ⟨shown, _, _, own, rfl, shows, told⟩
  | ask request =>
      rcases operator.exec_ask_known active known request with
        ⟨later, response, filed, shown, after, asks, own, shows, told⟩
      have called : surroundings.exec (operator.call Planned.profile (.ask request)) = _ := asks
      rw [called]
      exact ⟨shown, [], _, own, by rw [List.append_nil], shows, told⟩
  | inform message =>
      exact ⟨_, [], result, .ofQuiet known (.notify rfl) (.info message)⟩
  | progress message =>
      exact ⟨_, [], result, .ofQuiet known (.notify rfl) (.progress message)⟩
  | note entry => exact ⟨[], [], result, .ofQuiet known (.note rfl) .nil⟩
  | setting => exact ⟨[], [], result, same⟩
  | get key => exact ⟨[], [], result, same⟩
  | put key value => exact ⟨[], [], result, same⟩
  | parameters => exact ⟨[], [], result, same⟩
  | active => exact ⟨[], [], result, same⟩
  | isFinalAttempt => exact ⟨[], [], result, same⟩
  | phrase block arguments => exact ⟨[], [], result, same⟩
  | render template block arguments => exact ⟨[], [], result, same⟩
  | take => cases ordinary
  | install profile => cases ordinary
  | begin profile => cases ordinary
  | finish => cases ordinary

end Operator

namespace Walk

variable {steps : Step → Prop}

theorem exec_play_ordinary (setting : Setting) (retests : Nat) :
    ∀ (body : Body) (operator : Operator Planned) (surroundings : Surroundings ρ)
      {frame : Frame Planned} {result : StepResult},
      body.Every (fun call => call.isOrdinary = true) steps → operator.frame = some frame →
      surroundings.own operator.setting.runId =
        some (report.withResult frame.executionId result) →
      operator.Stays (surroundings.exec (play setting retests body operator)).1.1 ∧
        ∃ shown added last,
          Recorded operator.setting.runId report frame.executionId result surroundings shown added
            last (surroundings.exec (play setting retests body operator)).2
  | .done, operator, surroundings, frame, result, _, _, known => by
      simp only [play]
      exact ⟨.refl, [], [], result, .ofQuiet known .refl .nil⟩
  | .fail _, operator, surroundings, frame, result, _, _, known => by
      simp only [play]
      exact ⟨.refl, [], [], result, .ofQuiet known .refl .nil⟩
  | .crash _, operator, surroundings, frame, result, _, _, known => by
      simp only [play]
      exact ⟨.refl, [], [], result, .ofQuiet known .refl .nil⟩
  | .call _ call next, operator, surroundings, frame, result, every, active, known => by
      simp only [play, exec_bind]
      have continues := exec_meets (operator.ordinary_meets Planned.profile every.1) surroundings
      rcases operator.exec_call_ordinary every.1 active known with ⟨shown, added, middle, grows⟩
      rcases called : surroundings.exec (operator.call Planned.profile call) with
        ⟨⟨later, reply⟩, between⟩
      rw [called] at continues grows
      have stays : operator.Stays later := continues.toStays
      rcases stays.active active with ⟨other, activeLater, sameId⟩
      have knownLater := grows.own
      rw [← stays.setting, ← sameId] at knownLater
      rcases exec_play_ordinary setting retests (next reply) later between (every.2 reply)
        activeLater knownLater with ⟨staysOn, more, others, last, growsOn⟩
      rw [stays.setting, sameId] at growsOn
      exact ⟨stays.trans staysOn, shown ++ more, added ++ others, last, grows.trans growsOn⟩
  | .queue _ child next, operator, surroundings, frame, result, every, active, known => by
      rcases queues : operator.queue child.profile (plan setting retests child) with ⟨later, reply⟩
      simp only [play, queues]
      have stays := Operator.queue_same queues
      rcases stays.active active with ⟨other, activeLater, sameId⟩
      rw [← stays.setting, ← sameId] at known ⊢
      rcases exec_play_ordinary setting retests (next reply) later surroundings (every.2 reply)
        activeLater known with ⟨staysOn, grows⟩
      exact ⟨stays.trans staysOn, grows⟩

end Walk

end Triage
