import Triage.Proofs.Run.Operator

namespace Triage

/-! ## What a frame keeps -/

/-- The frame of the same execution, with answers that were noted meanwhile. -/
structure Frame.Keeps {κ τ : Type} (frame : Frame κ) (later : Frame τ)
    (noted : List PromptResponse) : Prop where
  executionId : later.executionId = frame.executionId
  retestsLeft : later.retestsLeft = frame.retestsLeft
  responses : later.responses = frame.responses ++ noted
  retestRequested : later.retestRequested = (frame.retestRequested || noted.contains .retest)

namespace Frame.Keeps

variable {κ τ υ : Type} {frame : Frame κ} {middle : Frame τ} {later : Frame υ}
  {noted more : List PromptResponse}

theorem refl : frame.Keeps frame [] :=
  ⟨rfl, rfl, by simp, by simp⟩

theorem trans (first : frame.Keeps middle noted) (second : middle.Keeps later more) :
    frame.Keeps later (noted ++ more) where
  executionId := second.executionId.trans first.executionId
  retestsLeft := second.retestsLeft.trans first.retestsLeft
  responses := by rw [second.responses, first.responses, List.append_assoc]
  retestRequested := by
    rw [second.retestRequested, first.retestRequested, List.contains_append, Bool.or_assoc]

theorem note (response : PromptResponse) : frame.Keeps (frame.note response) [response] :=
  ⟨rfl, rfl, rfl, by cases response <;> rfl⟩

theorem map (transform : κ → τ) : frame.Keeps (frame.map transform) [] :=
  ⟨rfl, rfl, by simp [Frame.map], by simp [Frame.map]⟩

theorem queued (children : List κ) : frame.Keeps { frame with children := children } [] :=
  ⟨rfl, rfl, by simp, by simp⟩

theorem counted (recorded : Nat) : frame.Keeps { frame with recorded := recorded } [] :=
  ⟨rfl, rfl, by simp, by simp⟩

end Frame.Keeps

/-- The answers that a frame keeps of a call. -/
def Call.noted : (call : Call) → Except RunError call.Reply → List PromptResponse
  | .record _, .ok answer? => answer?.toList
  | .ask _, .ok answer => [answer]
  | _, _ => []

namespace Operator

variable {κ : Type} {operator middle later : Operator κ} {noted more : List PromptResponse}

/-- The frame stays in place. -/
def Notes (operator later : Operator κ) (noted : List PromptResponse) : Prop :=
  ∀ frame, operator.frame = some frame →
    ∃ kept, later.frame = some kept ∧ frame.Keeps kept noted

namespace Notes

theorem refl : operator.Notes operator [] :=
  fun frame active => ⟨frame, active, .refl⟩

theorem trans (first : operator.Notes middle noted) (second : middle.Notes later more) :
    operator.Notes later (noted ++ more) := by
  intro frame active
  rcases first frame active with ⟨between, activeBetween, kept⟩
  rcases second between activeBetween with ⟨last, activeLast, keptToo⟩
  exact ⟨last, activeLast, kept.trans keptToo⟩

theorem noteResponse (response : PromptResponse) :
    operator.Notes (operator.noteResponse response) [response] := by
  intro frame active
  exact ⟨frame.note response, by simp [Operator.noteResponse, active], .note response⟩

theorem counted {frame : Frame κ} (active : operator.frame = some frame) :
    operator.Notes { operator with frame := some { frame with recorded := frame.recorded + 1 } }
      [] := by
  intro other same
  rw [active] at same
  cases same
  exact ⟨_, rfl, .counted _⟩

end Notes

theorem record_notes (operator : Operator κ) (outcome : Outcome) :
    (operator.record outcome).Meets (fun _ => True)
      fun answer => operator.Notes answer.1 ((Call.record outcome).noted answer.2) := by
  unfold record
  split
  · exact Job.meets_pure .refl
  · next frame active =>
    have counted := Notes.counted active
    refine Job.Meets.bind (Job.meets_reply fun _ => trivial) fun _ _ => ?_
    refine Job.Meets.bind (Job.meets_any _) fun answer _ => ?_
    rcases answer with ⟨response, skipped⟩
    refine Job.Meets.bind (Job.meets_reply fun _ => trivial) fun reply _ => ?_
    cases reply with
    | error error => exact Job.meets_pure counted
    | ok done =>
        cases response with
        | none => exact Job.meets_pure counted
        | some response => exact Job.meets_pure (counted.trans (.noteResponse response))

theorem ask_notes (operator : Operator κ) (request : PromptRequest) :
    (operator.ask request).Meets (fun _ => True)
      fun answer => operator.Notes answer.1 ((Call.ask request).noted answer.2) := by
  unfold ask
  split
  · exact Job.meets_pure (.noteResponse _)
  · refine Job.Meets.bind (Job.meets_reply fun _ => trivial) fun response _ => ?_
    split
    · next idle =>
      refine Job.meets_pure fun frame active => ?_
      rw [idle] at active
      cases active
    · refine Job.Meets.bind (Job.meets_reply fun _ => trivial) fun reply _ => ?_
      cases reply with
      | error error => exact Job.meets_pure .refl
      | ok done => exact Job.meets_pure (.noteResponse response)

/-- An ordinary call leaves the frame in place. -/
theorem ordinary_notes (profileOf : κ → Profile) (operator : Operator κ) {call : Call}
    (ordinary : call.isOrdinary = true) :
    (operator.call profileOf call).Meets (fun _ => True)
      fun answer => operator.Notes answer.1 (call.noted answer.2) := by
  cases call with
  | record outcome => exact operator.record_notes outcome
  | ask request => exact operator.ask_notes request
  | inform message | progress message | note entry =>
      exact Job.Meets.bind (Job.meets_reply fun _ => trivial) fun _ _ =>
        Job.meets_pure .refl
  | take | install | begin | finish => cases ordinary
  | _ => exact Job.meets_pure .refl

theorem frameFor_retestsLeft (operator : Operator κ) (profile : Profile) (suffix : String) :
    (operator.frameFor profile suffix).retestsLeft = 0 := by
  unfold frameFor
  split
  · split <;> rfl
  · rfl

/-- Any other call leaves no frame in place but one that was just made. -/
theorem replacing_frame (profileOf : κ → Profile) (operator : Operator κ) {call : Call}
    (replacing : call.isOrdinary = false) :
    (operator.call profileOf call).Meets (fun _ => True) fun answer =>
      ∀ frame, answer.1.frame = some frame → frame.IsFresh ∧ frame.retestsLeft = 0 := by
  cases call with
  | take => exact Job.meets_pure (by simp)
  | install profile =>
      refine Job.Meets.bind (Job.meets_reply fun _ => trivial) fun suffix _ => ?_
      refine Job.meets_pure fun frame active => ?_
      cases active
      exact ⟨⟨rfl, rfl, rfl, rfl⟩, rfl⟩
  | begin profile =>
      have begun (suffix : String) : ∀ frame,
          some (operator.frameFor profile suffix) = some frame →
          frame.IsFresh ∧ frame.retestsLeft = 0 := by
        rintro frame ⟨⟩
        exact ⟨operator.frameFor_fresh profile suffix, operator.frameFor_retestsLeft profile suffix⟩
      refine Job.Meets.bind (Job.meets_reply fun _ => trivial) fun suffix _ => ?_
      refine Job.Meets.bind (Job.meets_any _) fun _ _ => ?_
      refine Job.Meets.bind (Job.meets_reply fun _ => trivial) fun moment _ => ?_
      refine Job.Meets.bind (Job.meets_reply fun _ => trivial) fun reply _ => ?_
      cases reply with
      | error error => exact Job.meets_pure (begun suffix)
      | ok done =>
          exact Job.Meets.bind (Job.meets_reply fun _ => trivial) fun _ _ =>
            Job.meets_pure (begun suffix)
  | finish =>
      have finishes : operator.finish.Meets (fun _ => True)
          fun answer => answer.1.frame = none := by
        unfold finish
        split
        · next idle => exact Job.meets_pure idle
        · refine Job.Meets.bind (Job.meets_reply fun _ => trivial) fun moment _ => ?_
          refine Job.Meets.bind (Job.meets_reply fun _ => trivial) fun reply _ => ?_
          cases reply <;> exact Job.meets_pure rfl
      refine Job.Meets.bind finishes fun answer none => ?_
      refine Job.meets_pure fun frame active => ?_
      rw [none] at active
      cases active
  | _ => cases replacing

end Operator

end Triage
