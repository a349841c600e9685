import Triage.Proofs.Run.Surroundings
import Triage.Run.Batch

namespace Triage

open Surroundings

/-! ## Jobs that take turns -/

/-- Jobs that are under way in the same surroundings. -/
structure Pool (ρ α : Type) where
  jobs : List (Job α)
  surroundings : Surroundings ρ

namespace Pool

variable {ρ α : Type} [Renderer ρ] {pool later final : Pool ρ α} {index : Nat} {effect : Effect}
  {schedule : List Nat} {effects : List Effect}

/-- The job at a place performs its next effect, unless it is done. -/
def advance (pool : Pool ρ α) (index : Nat) : Option (Effect × Pool ρ α) :=
  match pool.jobs[index]? with
  | some (.perform effect next) =>
      let (reply, surroundings) := handle effect pool.surroundings
      some (effect, ⟨pool.jobs.set index (next reply), surroundings⟩)
  | _ => none

/-- A schedule says whose turn it is, and names only jobs that are not done. The effects
come in the order in which they are performed. -/
def interleave (pool : Pool ρ α) : List Nat → Option (List Effect × Pool ρ α)
  | [] => some ([], pool)
  | index :: schedule => do
      let (effect, later) ← pool.advance index
      let (effects, final) ← later.interleave schedule
      return (effect :: effects, final)

theorem advance_eq_some : pool.advance index = some (effect, later) ↔
    ∃ next, pool.jobs[index]? = some (.perform effect next) ∧
      later = ⟨pool.jobs.set index (next (handle effect pool.surroundings).1),
        (handle effect pool.surroundings).2⟩ := by
  unfold advance
  split
  · next other next active =>
    constructor
    · intro advances
      cases advances
      exact ⟨next, active, rfl⟩
    · rintro ⟨also, same, rfl⟩
      rw [active] at same
      cases same
      rfl
  · next inactive =>
    constructor
    · intro advances
      cases advances
    · rintro ⟨next, active, -⟩
      exact absurd active (inactive effect next)

theorem interleave_cons : pool.interleave (index :: schedule) = some (effects, final) ↔
    ∃ effect rest later, pool.advance index = some (effect, later) ∧
      later.interleave schedule = some (rest, final) ∧ effects = effect :: rest := by
  simp only [interleave, Option.bind_eq_bind, Option.bind_eq_some_iff, Option.pure_def,
    Option.some.injEq, Prod.exists, Prod.mk.injEq]
  constructor
  · rintro ⟨effect, later, advances, rest, last, interleaves, rfl, rfl⟩
    exact ⟨effect, rest, later, advances, interleaves, rfl⟩
  · rintro ⟨effect, rest, later, advances, interleaves, rfl⟩
    exact ⟨effect, later, advances, rest, final, interleaves, rfl, rfl⟩

theorem interleave_append {more : List Nat} {others : List Effect}
    (first : pool.interleave schedule = some (effects, later))
    (second : later.interleave more = some (others, final)) :
    pool.interleave (schedule ++ more) = some (effects ++ others, final) := by
  induction schedule generalizing pool effects with
  | nil =>
      cases first
      exact second
  | cons index rest induction =>
      rcases interleave_cons.mp first with ⟨effect, performed, middle, advances, goesOn, rfl⟩
      exact interleave_cons.mpr ⟨effect, _, middle, advances, induction goesOn, rfl⟩

/-- One of the jobs is a step further. -/
def Shrinks (later earlier : List (Job α)) : Prop :=
  ∃ (index : Nat) (effect : Effect) (next : effect.Reply → Job α) (reply : effect.Reply),
    earlier[index]? = some (.perform effect next) ∧ later = earlier.set index (next reply)

omit [Renderer ρ] in
theorem shrinks_cons_iff {job : Job α} {rest jobs : List (Job α)} :
    Shrinks jobs (job :: rest) ↔
      (∃ (effect : Effect) (next : effect.Reply → Job α) (reply : effect.Reply),
        job = .perform effect next ∧ jobs = next reply :: rest) ∨
      ∃ others, Shrinks others rest ∧ jobs = job :: others := by
  constructor
  · rintro ⟨index, effect, next, reply, active, rfl⟩
    cases index with
    | zero => exact .inl ⟨effect, next, reply, by simpa using active, rfl⟩
    | succ index => exact .inr ⟨_, ⟨index, effect, next, reply, by simpa using active, rfl⟩, rfl⟩
  · rintro (⟨effect, next, reply, rfl, rfl⟩ | ⟨others, shrinks, rfl⟩)
    · exact ⟨0, effect, next, reply, rfl, rfl⟩
    · rcases shrinks with ⟨index, effect, next, reply, active, rfl⟩
      exact ⟨index + 1, effect, next, reply, by simpa using active, rfl⟩

/-- The job that is further is a part of what it was. -/
theorem acc_cons (job : Job α) {rest : List (Job α)} (acc : Acc Shrinks rest) :
    Acc Shrinks (job :: rest) := by
  induction job generalizing rest with
  | done value =>
      induction acc with
      | intro rest _ induction =>
          refine .intro _ fun jobs shrinks => ?_
          rcases shrinks_cons_iff.mp shrinks with
            ⟨effect, next, reply, same, -⟩ | ⟨others, inRest, rfl⟩
          · cases same
          · exact induction others inRest
  | perform effect next further =>
      induction acc with
      | intro rest acc induction =>
          refine .intro _ fun jobs shrinks => ?_
          rcases shrinks_cons_iff.mp shrinks with
            ⟨effect, next, reply, same, rfl⟩ | ⟨others, inRest, rfl⟩
          · cases same
            exact further reply (.intro rest acc)
          · exact induction others inRest

theorem acc_shrinks (jobs : List (Job α)) : Acc Shrinks jobs := by
  induction jobs with
  | nil =>
      refine .intro _ fun later shrinks => ?_
      rcases shrinks with ⟨index, effect, next, reply, active, -⟩
      cases active
  | cons job rest induction => exact acc_cons job induction

/-- No schedule goes on forever from here. -/
def Ends (pool : Pool ρ α) : Prop :=
  Acc (fun later earlier => ∃ index effect, earlier.advance index = some (effect, later)) pool

theorem ends (pool : Pool ρ α) : pool.Ends := by
  have acc := InvImage.accessible Pool.jobs (acc_shrinks pool.jobs)
  apply Subrelation.accessible _ acc
  rintro later earlier ⟨index, effect, advances⟩
  rcases advance_eq_some.mp advances with ⟨next, active, rfl⟩
  exact ⟨index, effect, next, _, active, rfl⟩

/-- A job may do all that it has to do before anybody else has a turn. -/
theorem interleave_exec {jobs : List (Job α)} {job : Job α} (active : jobs[index]? = some job)
    (surroundings : Surroundings ρ) :
    ∃ schedule effects, Pool.interleave ⟨jobs, surroundings⟩ schedule =
      some (effects, ⟨jobs.set index (.done (surroundings.exec job).1),
        (surroundings.exec job).2⟩) := by
  induction job generalizing jobs surroundings with
  | done value =>
      refine ⟨[], [], ?_⟩
      have same : jobs.set index (Job.done value) = jobs := by
        rcases List.getElem?_eq_some_iff.mp active with ⟨inside, holds⟩
        rw [← holds, List.set_getElem_self]
      simp [interleave, same, Surroundings.exec, Job.exec]
  | perform effect next induction =>
      rcases handled : handle effect surroundings with ⟨reply, after⟩
      let later : Pool ρ α := ⟨jobs.set index (next reply), after⟩
      have inside := (List.getElem?_eq_some_iff.mp active).1
      have advances : Pool.advance ⟨jobs, surroundings⟩ index = some (effect, later) :=
        advance_eq_some.mpr ⟨next, active, by rw [handled]⟩
      have goesOn : later.jobs[index]? = some (next reply) := List.getElem?_set_self inside
      rcases induction reply goesOn after with ⟨schedule, effects, interleaves⟩
      refine ⟨index :: schedule, effect :: effects, interleave_cons.mpr
        ⟨effect, effects, later, advances, ?_, rfl⟩⟩
      have continued : surroundings.exec (.perform effect next) = after.exec (next reply) := by
        simp only [Surroundings.exec, Job.exec, handled]
      rw [interleaves, continued, List.set_set]

end Pool

namespace Engine

variable {ρ : Type} [Renderer ρ]

/-- The runs of a batch, before the first of them has its turn. -/
def batch (engine : Engine) (requests : List Request) (surroundings : Surroundings ρ) :
    Pool ρ RunResult :=
  ⟨requests.map engine.runShared, surroundings⟩

theorem interleave_runAll (engine : Engine) (requests : List Request) (results : List RunResult)
    (surroundings : Surroundings ρ) :
    ∃ schedule effects,
      Pool.interleave ⟨results.map .done ++ requests.map engine.runShared, surroundings⟩ schedule =
        some (effects, ⟨(results ++ (surroundings.exec (engine.runAll requests)).1).map .done,
          (surroundings.exec (engine.runAll requests)).2⟩) := by
  induction requests generalizing results surroundings with
  | nil => exact ⟨[], [], by simp [Pool.interleave, runAll]⟩
  | cons request rest induction =>
      rcases ran : surroundings.exec (engine.runShared request) with ⟨result, later⟩
      let jobs := results.map Job.done ++ (request :: rest).map engine.runShared
      have active : jobs[results.length]? = some (engine.runShared request) := by
        simp [jobs]
      have after : jobs.set results.length (.done result) =
          (results ++ [result]).map Job.done ++ rest.map engine.runShared := by
        simp [jobs]
      rcases Pool.interleave_exec active surroundings with ⟨first, performed, interleaves⟩
      rw [ran, after] at interleaves
      rcases induction (results ++ [result]) later with ⟨others, more, goesOn⟩
      refine ⟨first ++ others, performed ++ more, ?_⟩
      rw [Pool.interleave_append interleaves goesOn]
      simp only [runAll, exec_bind, ran, exec_pure, List.append_assoc, List.singleton_append]

/-- One run after the other is an order in which the runs of a batch may take turns. -/
theorem interleave_runBatch (engine : Engine) (requests : List Request)
    (surroundings : Surroundings ρ) :
    ∃ (started : Surroundings ρ) (schedule : List Nat) (effects : List Effect),
      Quiet surroundings [] started ∧
      (engine.batch requests started).interleave schedule =
        some (effects, ⟨(surroundings.exec (engine.runBatch requests)).1.map .done,
          (surroundings.exec (engine.runBatch requests)).2⟩) := by
  have begins : ∃ started, Quiet surroundings [] started ∧
      surroundings.exec (engine.runBatch requests) = started.exec (engine.runAll requests) := by
    unfold runBatch
    cases engine.settings.mode.isAuto with
    | true =>
        rcases starting : surroundings.exec (Job.log .info "starting batch") with ⟨_, started⟩
        refine ⟨started, .log starting, ?_⟩
        simp only [Bool.not_true, Bool.false_eq_true, if_false, exec_bind, starting]
    | false =>
        rcases warning : surroundings.exec (Job.log .warn
          "batch runs do not prompt; running every runbook in auto mode") with ⟨_, warned⟩
        rcases starting : warned.exec (Job.log .info "starting batch") with ⟨_, started⟩
        refine ⟨started, Quiet.trans (.log warning) (.log starting), ?_⟩
        simp only [Bool.not_false, if_true, exec_bind, warning, starting]
  rcases begins with ⟨started, quiet, runs⟩
  rcases engine.interleave_runAll requests [] started with ⟨schedule, effects, interleaves⟩
  refine ⟨started, schedule, effects, quiet, ?_⟩
  rw [runs]
  simpa [batch] using interleaves

end Engine

end Triage
