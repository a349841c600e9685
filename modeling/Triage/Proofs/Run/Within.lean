import Triage.Run.Session
import Triage.Run.Walk

namespace Triage

/-! ## Steps of a run

A run has its operator in a scope of its own, so that its steps may address either. -/

namespace Operator

variable {κ : Type} (view : κ → Profile)

/-- The operator with what is known of the steps that are queued. -/
def map (operator : Operator κ) : Operator Profile :=
  { operator with frame := operator.frame.map (·.map view) }

/-- An answer with what is known of the steps that are queued. -/
def Answer.map {α : Type} (answer : Answer κ α) : Answer Profile α :=
  (answer.1.map view, answer.2)

theorem map_frame_map (frame? : Option (Frame κ)) :
    (frame?.map (·.map view)).map (·.map id) = frame?.map (·.map view) := by
  rw [Option.map_map]
  congr 1
  funext frame
  simp [Frame.map]

variable {view} (operator : Operator κ)

theorem frameFor_map (profile : Profile) (suffix : String) :
    (operator.map view).frameFor profile suffix =
      (operator.frameFor profile suffix).map view := by
  unfold frameFor
  split
  · next template labelled phrased =>
    have same : (operator.map view).render template Block.stepName [] =
        operator.render template Block.stepName [] := rfl
    rw [same]
    cases operator.render template Block.stepName [] <;> rfl
  · rfl

theorem begin_map (profile : Profile) :
    (operator.map view).begin profile = Answer.map view <$> operator.begin profile := by
  have givesUp : (operator.map view).giveUp = operator.giveUp := by
    unfold giveUp map
    cases operator.frame <;> rfl
  simp only [begin, map_bind, givesUp, frameFor_map]
  congr 1; funext suffix
  congr 1; funext _
  congr 1; funext moment
  congr 1; funext changed
  cases changed <;> rfl

theorem finish_map :
    (operator.map view).finish =
      (fun answer => (answer.1.map view, answer.2.map (·.map (·.map view)))) <$> operator.finish := by
  rcases operator with ⟨setting, parameters, started, frame?⟩
  cases frame? with
  | none => rfl
  | some frame =>
      simp only [finish, map, Option.map_some, map_bind]
      congr 1; funext moment
      congr 1; funext changed
      cases changed <;> rfl

theorem record_map (outcome : Outcome) :
    (operator.map view).record outcome = Answer.map view <$> operator.record outcome := by
  rcases operator with ⟨setting, parameters, started, frame?⟩
  cases frame? with
  | none => rfl
  | some frame =>
      simp only [record, map, Option.map_some, map_bind]
      congr 1; funext _
      congr 1; funext answer
      rcases answer with ⟨response, skipped⟩
      dsimp only
      congr 1; funext changed
      cases changed with
      | error error => rfl
      | ok done => cases response <;> rfl

theorem ask_map (request : PromptRequest) :
    (operator.map view).ask request = Answer.map view <$> operator.ask request := by
  rcases operator with ⟨setting, parameters, started, frame?⟩
  by_cases isAuto : setting.mode.isAuto
  · simp only [ask, map, isAuto, if_true]
    cases frame? <;> rfl
  · simp only [ask, map, isAuto, Bool.false_eq_true, if_false, map_bind]
    congr 1; funext response
    cases frame? with
    | none => rfl
    | some frame =>
        simp only [Option.map_some, map_bind]
        congr 1; funext changed
        cases changed <;> rfl

theorem call_map (call : Call) :
    (operator.map view).call id call = Answer.map view <$> operator.call view call := by
  cases call with
  | record outcome => exact operator.record_map outcome
  | ask request => exact operator.ask_map request
  | begin profile => exact operator.begin_map profile
  | active =>
      show pure (operator.map view, _) = pure (operator.map view, _)
      rw [map, map_frame_map]
  | take =>
      show pure (_, _) = pure (_, _)
      simp only [map, map_frame_map]
      rfl
  | install profile =>
      simp only [Operator.call, map_bind]
      congr 1; funext suffix
      simp only [map, map_frame_map, map_pure]
      rfl
  | finish =>
      simp only [Operator.call, finish_map, map_bind, bind_map_left, map_pure]
      congr 1; funext answer
      rcases answer with ⟨later, error | frame?⟩
      · rfl
      · show pure (later.map view, Except.ok ((frame?.map _).map _)) = pure (later.map view, _)
        rw [map_frame_map]
        rfl
  | phrase block arguments =>
      rcases operator with ⟨setting, parameters, started, frame?⟩
      cases frame? <;> rfl
  | isFinalAttempt =>
      rcases operator with ⟨setting, parameters, started, frame?⟩
      cases frame? <;> rfl
  | _ => rfl

theorem queue_map (profile : Profile) (child : κ) (same : view child = profile) :
    (operator.map view).queue profile profile = Answer.map view (operator.queue profile child) := by
  rcases operator with ⟨setting, parameters, started, frame?⟩
  cases frame? with
  | none => rfl
  | some frame =>
      simp only [queue, map, Option.map_some]
      show (if 0 < frame.recorded then _ else _) = _
      split
      · rfl
      · split
        · rfl
        · simp [Answer.map, map, Frame.map, same]

end Operator

namespace Session

variable {session : Session} {own : Nat}

theorem addressed_within (current : session.scopes.current = .ok own) (via : Via) :
    session.addressed own via = .ok own := by
  cases via with
  | own => rfl
  | current => exact current

theorem withOperator_self {operator : Operator Profile}
    (held : session.operators[own]? = some operator) : session.withOperator own operator = session := by
  rcases List.getElem?_eq_some_iff.mp held with ⟨isPlace, rfl⟩
  rw [withOperator, List.set_getElem_self]

theorem withOperator_twice (first second : Operator Profile) :
    (session.withOperator own first).withOperator own second = session.withOperator own second := by
  simp [withOperator]

theorem getElem?_withOperator {first : Operator Profile} (held : session.operators[own]? = some first)
    (operator : Operator Profile) :
    (session.withOperator own operator).operators[own]? = some operator := by
  have isPlace : own < session.operators.length := (List.getElem?_eq_some_iff.mp held).1
  simp [withOperator, isPlace]

theorem call_within (current : session.scopes.current = .ok own) {operator : Operator Planned}
    (held : session.operators[own]? = some (operator.map Planned.profile)) (via : Via)
    (call : Call) :
    session.call own via call =
      (fun answer => (session.withOperator own (answer.1.map Planned.profile), answer.2)) <$>
        operator.call Planned.profile call := by
  simp only [Session.call, addressed_within current, held, Operator.call_map, bind_map_left]
  rfl

theorem queue_within (current : session.scopes.current = .ok own) {operator : Operator Planned}
    (held : session.operators[own]? = some (operator.map Planned.profile)) (via : Via)
    (child : Planned) :
    session.queue own via child.profile =
      (session.withOperator own ((operator.queue child.profile child).1.map Planned.profile),
        (operator.queue child.profile child).2) := by
  have same : Planned.profile child = child.profile := rfl
  simp only [Session.queue, addressed_within current, held, operator.queue_map _ child same]
  rfl

/-- In the scope of a run a step does the same whichever operator it addresses. -/
theorem play_within (setting : Setting) (retests : Nat) : ∀ (body : Body)
    (operator : Operator Planned) (session : Session), session.scopes.current = .ok own →
    session.operators[own]? = some (operator.map Planned.profile) →
    Session.play own body session =
      (fun ended => (session.withOperator own (ended.1.map Planned.profile), ended.2)) <$>
        Walk.play setting retests body operator
  | .done, operator, session, _, held => by
      rw [Session.play, Walk.play, map_pure, withOperator_self held]
  | .fail _, operator, session, _, held => by
      rw [Session.play, Walk.play, map_pure, withOperator_self held]
  | .crash _, operator, session, _, held => by
      rw [Session.play, Walk.play, map_pure, withOperator_self held]
  | .call via call next, operator, session, current, held => by
      rw [Session.play, Walk.play, call_within current held, bind_map_left, map_bind]
      refine bind_congr fun answer => ?_
      have goesOn := play_within setting retests (next answer.2) answer.1
        (session.withOperator own (answer.1.map Planned.profile)) current
        (getElem?_withOperator held _)
      simp only [withOperator_twice] at goesOn
      exact goesOn
  | .queue via child next, operator, session, current, held => by
      have queues := queue_within current held via (Walk.plan setting retests child)
      have same : (Walk.plan setting retests child).profile = child.profile := by
        cases child
        rw [Walk.plan]
        rfl
      rw [same] at queues
      rw [Session.play, Walk.play, queues]
      have goesOn := play_within setting retests
        (next (operator.queue child.profile (Walk.plan setting retests child)).2)
        (operator.queue child.profile (Walk.plan setting retests child)).1
        (session.withOperator own _) current (getElem?_withOperator held _)
      simp only [withOperator_twice] at goesOn
      exact goesOn

end Session

end Triage
