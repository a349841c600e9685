import Triage.Run.Surroundings

namespace Triage

namespace Job

variable {α β σ : Type}

/-! ## Jobs in a state -/

@[simp] theorem exec_pure (handle : (effect : Effect) → σ → effect.Reply × σ) (value : α)
    (state : σ) : (pure value : Job α).exec handle state = (value, state) := rfl

@[simp] theorem exec_effect (handle : (effect : Effect) → σ → effect.Reply × σ)
    (effect : Effect) (state : σ) :
    (Job.effect effect).exec handle state = handle effect state := rfl

/-! ## What a job may do

Whatever the replies are, only admitted effects are performed, and the value that
comes back is as it should be. -/

def Meets (admitted : Effect → Prop) (post : α → Prop) : Job α → Prop
  | .done value => post value
  | .perform effect next => admitted effect ∧ ∀ reply, (next reply).Meets admitted post

variable {admitted : Effect → Prop} {post : α → Prop} {later : β → Prop}
  {job : Job α} {continue_ : α → Job β}

theorem meets_pure {value : α} (holds : post value) : (pure value : Job α).Meets admitted post :=
  holds

theorem meets_effect {effect : Effect} {post : effect.Reply → Prop} (allowed : admitted effect)
    (holds : ∀ reply, post reply) : (Job.effect effect).Meets admitted post :=
  ⟨allowed, holds⟩

theorem meets_any (job : Job α) : job.Meets (fun _ => True) fun _ => True := by
  induction job with
  | done value => exact trivial
  | perform effect next induction => exact ⟨trivial, induction⟩

theorem meets_reply {effect : Effect} {post : effect.Reply → Prop} (holds : ∀ reply, post reply) :
    (Job.effect effect).Meets (fun _ => True) post :=
  ⟨trivial, holds⟩

theorem Meets.bind (first : job.Meets admitted post)
    (rest : ∀ value, post value → (continue_ value).Meets admitted later) :
    (job >>= continue_).Meets admitted later := by
  induction job with
  | done value => exact rest value first
  | perform effect next induction =>
      exact ⟨first.1, fun reply => induction reply (first.2 reply)⟩

theorem Meets.imp {weaker : α → Prop} (meets : job.Meets admitted post)
    (implies : ∀ value, post value → weaker value) : job.Meets admitted weaker := by
  induction job with
  | done value => exact implies value meets
  | perform effect next induction =>
      exact ⟨meets.1, fun reply => induction reply (meets.2 reply)⟩

theorem Meets.mono {wider : Effect → Prop} (meets : job.Meets admitted post)
    (admits : ∀ effect, admitted effect → wider effect) : job.Meets wider post := by
  induction job with
  | done value => exact meets
  | perform effect next induction =>
      exact ⟨admits effect meets.1, fun reply => induction reply (meets.2 reply)⟩

theorem Meets.and {others : Effect → Prop} {also : α → Prop} (meets : job.Meets admitted post)
    (more : job.Meets others also) :
    job.Meets (fun effect => admitted effect ∧ others effect)
      fun value => post value ∧ also value := by
  induction job with
  | done value => exact ⟨meets, more⟩
  | perform effect next induction =>
      exact ⟨⟨meets.1, more.1⟩, fun reply => induction reply (meets.2 reply) (more.2 reply)⟩

theorem meets_all {admitted : Effect → Prop} {jobs : List (Job Unit)}
    (each : ∀ job ∈ jobs, job.Meets admitted fun _ => True) :
    (all jobs).Meets admitted fun _ => True := by
  induction jobs with
  | nil => trivial
  | cons job rest induction =>
      exact (each job List.mem_cons_self).bind fun _ _ =>
        induction fun other member => each other (List.mem_cons_of_mem _ member)

/-- What every admitted effect keeps is kept by the job. -/
theorem Meets.exec {handle : (effect : Effect) → σ → effect.Reply × σ} {kept : σ → Prop}
    (keeps : ∀ effect state, admitted effect → kept state → kept (handle effect state).2)
    (meets : job.Meets admitted post) {state : σ} (holds : kept state) :
    post (job.exec handle state).1 ∧ kept (job.exec handle state).2 := by
  induction job generalizing state with
  | done value => exact ⟨meets, holds⟩
  | perform effect next induction =>
      exact induction _ (meets.2 _) (keeps effect state meets.1 holds)

end Job

/-- What work that may fail does, and comes to unless it fails. -/
def Action.Meets {α : Type} (admitted : Effect → Prop) (post : α → Prop) (action : Action α) :
    Prop :=
  action.run.Meets admitted fun result => ∀ value, result = .ok value → post value

namespace Action

variable {α β : Type} {admitted : Effect → Prop} {post : α → Prop} {later : β → Prop}

theorem meets_pure {value : α} (holds : post value) :
    Action.Meets admitted post (pure value) := by
  intro found equal
  cases equal
  exact holds

theorem meets_throw (error : RunError) :
    Action.Meets admitted post (throw error : Action α) := by
  intro found equal
  cases equal

theorem Meets.imp {weaker : α → Prop} {action : Action α}
    (meets : Action.Meets admitted post action) (implies : ∀ value, post value → weaker value) :
    Action.Meets admitted weaker action :=
  Job.Meets.imp meets fun _ holds value equal => implies value (holds value equal)

theorem Meets.bind {action : Action α} {continue_ : α → Action β}
    (first : Action.Meets admitted post action)
    (rest : ∀ value, post value → Action.Meets admitted later (continue_ value)) :
    Action.Meets admitted later (action >>= continue_) := by
  apply Job.Meets.bind first
  intro result holds
  cases result with
  | error error => exact meets_throw error
  | ok value => exact rest value (holds value rfl)

theorem meets_lift {job : Job α} (meets : job.Meets admitted post) :
    Action.Meets admitted post (liftM job : Action α) := by
  apply Job.Meets.bind meets
  intro value holds found equal
  cases equal
  exact holds

theorem meets_except {result : Except RunError α}
    (holds : ∀ value, result = .ok value → post value) :
    Action.Meets admitted post (liftM result : Action α) :=
  holds

end Action

namespace Surroundings

variable {ρ α β : Type} [Renderer ρ]

@[simp] theorem exec_pure (value : α) (surroundings : Surroundings ρ) :
    surroundings.exec (pure value) = (value, surroundings) := rfl

@[simp] theorem exec_effect (effect : Effect) (surroundings : Surroundings ρ) :
    surroundings.exec (Job.effect effect) = handle effect surroundings := rfl

@[simp] theorem exec_bind (job : Job α) (continue_ : α → Job β) (surroundings : Surroundings ρ) :
    surroundings.exec (job >>= continue_) =
      (surroundings.exec job).2.exec (continue_ (surroundings.exec job).1) :=
  job.exec_bind handle continue_ surroundings

theorem exec_meets {admitted : Effect → Prop} {post : α → Prop} {job : Job α}
    (meets : job.Meets admitted post) (surroundings : Surroundings ρ) :
    post (surroundings.exec job).1 := by
  have keeps : ∀ effect (state : Surroundings ρ), admitted effect → True →
      (fun _ => True) (handle effect state).2 := fun _ _ _ _ => trivial
  exact (meets.exec keeps trivial).1

/-! Files that are written. -/

section Files

variable {state : Surroundings ρ} {path text : String} {disk : Disk} {error : FileError}

theorem handle_createDirectory_ok (makes : state.disk.makeDirectory path = .ok disk) :
    handle (.createDirectory path) state = (.ok (), { state with disk := disk }) := by
  simp only [handle, settle, makes]
  rfl

theorem handle_createDirectory_error (fails : state.disk.makeDirectory path = .error error) :
    handle (.createDirectory path) state = (.error error, state) := by
  simp only [handle, settle, fails]
  rfl

theorem handle_writeFile_ok (writes : state.disk.write path text = .ok disk) :
    handle (.writeFile path text) state = (.ok (), { state with disk := disk }) := by
  simp only [handle, settle, writes]
  rfl

theorem handle_writeFile_error (fails : state.disk.write path text = .error error) :
    handle (.writeFile path text) state = (.error error, state) := by
  simp only [handle, settle, fails]
  rfl

end Files

/-! Work that may fail. -/

theorem exec_run_pure (value : α) (surroundings : Surroundings ρ) :
    surroundings.exec (pure value : Action α).run = (.ok value, surroundings) := rfl

theorem exec_run_throw (error : RunError) (surroundings : Surroundings ρ) :
    surroundings.exec (throw error : Action α).run = (.error error, surroundings) := rfl

theorem exec_run_lift (job : Job α) (surroundings : Surroundings ρ) :
    surroundings.exec (liftM job : Action α).run =
      (.ok (surroundings.exec job).1, (surroundings.exec job).2) :=
  exec_bind job _ surroundings

theorem exec_run_except (result : Except RunError α) (surroundings : Surroundings ρ) :
    surroundings.exec (liftM result : Action α).run = (result, surroundings) := rfl

theorem exec_run_bind (action : Action α) (continue_ : α → Action β)
    (surroundings : Surroundings ρ) :
    surroundings.exec (action >>= continue_).run =
      match surroundings.exec action.run with
      | (.ok value, later) => later.exec (continue_ value).run
      | (.error error, later) => (.error error, later) := by
  have bound : surroundings.exec (action >>= continue_).run =
      (surroundings.exec action.run).2.exec
        (ExceptT.bindCont continue_ (surroundings.exec action.run).1) :=
    exec_bind action.run _ surroundings
  rw [bound]
  rcases surroundings.exec action.run with ⟨error | value, later⟩ <;> rfl

end Surroundings

end Triage
