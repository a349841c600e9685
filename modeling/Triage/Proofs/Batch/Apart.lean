import Triage.Proofs.Batch.Alone
import Triage.Proofs.Batch.Confined
import Triage.Proofs.Batch.Interleaving
import Triage.Proofs.Run.Story

namespace Triage

open Surroundings

/-! ## What is drawn from the common suffixes and moments -/

/-- The numbers of the draws that fall to one run, in order. -/
structure Picks (first least : Nat) (pick : Nat → Nat) : Prop where
  least : ∀ number, first ≤ number → least ≤ pick number
  increasing : ∀ number more, first ≤ number → number < more → pick number < pick more

namespace Picks

variable {first least : Nat} {pick : Nat → Nat}

theorem start (first least : Nat) : Picks first least fun number => least + number :=
  ⟨fun number _ => Nat.le_add_right least number, fun _ _ _ before =>
    Nat.add_lt_add_left before least⟩

/-- Others have drawn meanwhile. -/
theorem wait {count : Nat} (picks : Picks first (least + count) pick) : Picks first least pick :=
  ⟨fun number from_ => Nat.le_trans (Nat.le_add_right least count) (picks.least number from_),
    picks.increasing⟩

/-- The run itself has drawn. -/
theorem extend {count : Nat} (picks : Picks (first + count) (least + count) pick) :
    ∃ all : Nat → Nat, Picks first least all ∧
      (∀ number, first + count ≤ number → all number = pick number) ∧
      (0 < count → all first = least) := by
  let all (number : Nat) : Nat :=
    if number < first + count then least + (number - first) else pick number
  have early (number : Nat) (isEarly : number < first + count) :
      all number = least + (number - first) := if_pos isEarly
  have late (number : Nat) (isLate : first + count ≤ number) : all number = pick number :=
    if_neg (Nat.not_lt.mpr isLate)
  refine ⟨all, ⟨fun number inside => ?_, fun number more inside before => ?_⟩, late,
    fun draws => ?_⟩
  · by_cases isEarly : number < first + count
    · rw [early number isEarly]
      exact Nat.le_add_right _ _
    · rw [late number (Nat.not_lt.mp isEarly)]
      exact Nat.le_trans (Nat.le_add_right _ _) (picks.least number (Nat.not_lt.mp isEarly))
  · by_cases isEarly : more < first + count
    · rw [early more isEarly, early number (Nat.lt_trans before isEarly)]
      omega
    · have isLate := Nat.not_lt.mp isEarly
      rw [late more isLate]
      by_cases starts : number < first + count
      · have bound := picks.least more isLate
        rw [early number starts]
        omega
      · rw [late number (Nat.not_lt.mp starts)]
        exact picks.increasing number more (Nat.not_lt.mp starts) before
  · rw [early first (by omega), Nat.sub_self, Nat.add_zero]

end Picks

namespace Effect

def draws : Effect → Nat
  | .freshSuffix => 1
  | _ => 0

def reads : Effect → Nat
  | .now => 1
  | _ => 0

end Effect

/-- The effects count what is drawn, and draw from nothing else. -/
structure Surroundings.Counts {ρ : Type} (effect : Effect) (before after : Surroundings ρ) :
    Prop where
  drawn : after.drawn = before.drawn + effect.draws
  ticks : after.ticks = before.ticks + effect.reads
  suffixes : after.suffixes = before.suffixes
  clock : after.clock = before.clock

namespace Surroundings

variable {ρ : Type} [Renderer ρ]

theorem handle_counts (effect : Effect) (state : Surroundings ρ) :
    Counts effect state (handle effect state).2 := by
  cases effect with
  | changeReport | finishReport | createDirectory | writeFile | printFallback =>
      simp only [handle, settle]
      split <;> exact ⟨rfl, rfl, rfl, rfl⟩
  | _ => exact ⟨rfl, rfl, rfl, rfl⟩

/-- The suffixes and moments are those that are picked from the others. -/
structure Follows (initial : Surroundings ρ) (draws times : Nat → Nat) (alone : Surroundings ρ) :
    Prop where
  suffixes : ∀ number, alone.drawn ≤ number →
    alone.suffixes number = initial.suffixes (draws number)
  clock : ∀ number, alone.ticks ≤ number → alone.clock number = initial.clock (times number)

end Surroundings

/-! ## What a run comes to by itself -/

variable {ρ α : Type} [Renderer ρ] {directory : Option String} {initial state : Surroundings ρ}
  {phases : Nat → Phase} {phase later : Phase} {index other : Nat} {job : Job α} {value : α}
  {effect : Effect}

/-- With a share of what is drawn, a job comes to a value where it is alone. -/
def Projects (directory : Option String) (initial : Surroundings ρ) (phase : Phase)
    (state : Surroundings ρ) (job : Job α) (value : α) : Prop :=
  ∀ drawn ticks, ∃ draws times, Picks drawn state.drawn draws ∧ Picks ticks state.ticks times ∧
    ∀ alone : Surroundings ρ, alone.drawn = drawn → alone.ticks = ticks →
      Mirrors directory initial phase state alone → Follows initial draws times alone →
      (alone.exec job).1 = value

namespace Projects

theorem done : Projects directory initial phase state (.done value) value :=
  fun drawn ticks =>
    ⟨_, _, .start drawn state.drawn, .start ticks state.ticks, fun _ _ _ _ _ => rfl⟩

/-- The job itself has its turn. -/
theorem own_turn {continue_ : effect.Reply → Job α} {reply : effect.Reply}
    (shared : Shared directory initial phases state)
    (moves : (phases index).Moves directory effect reply later)
    (replies : (handle effect state).1 = reply)
    (plain : ∀ first second, effect.Alike first second → continue_ first = continue_ second)
    (projects : Projects directory initial later (handle effect state).2 (continue_ reply) value) :
    Projects directory initial (phases index) state (.perform effect continue_) value := by
  intro drawn ticks
  have counts := handle_counts effect state
  rcases projects (drawn + effect.draws) (ticks + effect.reads) with
    ⟨laterDraws, laterTimes, laterDrawn, laterTicks, comes⟩
  rw [counts.drawn] at laterDrawn
  rw [counts.ticks] at laterTicks
  rcases laterDrawn.extend with ⟨draws, picksDraws, sameDraws, firstDraw⟩
  rcases laterTicks.extend with ⟨times, picksTimes, sameTimes, firstTime⟩
  refine ⟨draws, times, picksDraws, picksTimes, ?_⟩
  rintro alone rfl rfl mirrors follows
  have aloneCounts := handle_counts effect alone
  have same : effect.DrawsSame state alone := by
    cases effect with
    | freshSuffix =>
        have drawnNow := follows.suffixes alone.drawn (Nat.le_refl _)
        rw [firstDraw (Nat.lt_succ_self 0)] at drawnNow
        rw [Effect.DrawsSame, drawnNow, shared.suffixes]
    | now =>
        have readNow := follows.clock alone.ticks (Nat.le_refl _)
        rw [firstTime (Nat.lt_succ_self 0)] at readNow
        rw [Effect.DrawsSame, readNow, shared.clock]
    | _ => trivial
  rcases mirrors.step shared moves replies same with ⟨alike, mirrored⟩
  have followsLater : Follows initial laterDraws laterTimes (handle effect alone).2 := by
    refine ⟨fun number inside => ?_, fun number inside => ?_⟩
    · rw [aloneCounts.drawn] at inside
      rw [aloneCounts.suffixes, follows.suffixes number (by omega), sameDraws number inside]
    · rw [aloneCounts.ticks] at inside
      rw [aloneCounts.clock, follows.clock number (by omega), sameTimes number inside]
  have continued : alone.exec (.perform effect continue_) =
      (handle effect alone).2.exec (continue_ (handle effect alone).1) := rfl
  rw [continued, ← plain _ _ alike, replies]
  exact comes _ aloneCounts.drawn aloneCounts.ticks mirrored followsLater

/-- Another job has its turn. -/
theorem other_turn {reply : effect.Reply} (shared : Shared directory initial phases state)
    (moves : (phases index).Moves directory effect reply later) (different : other ≠ index)
    (fresh : ∀ runId, effect.created? = some runId → runId ∉ state.reports.keys)
    (projects : Projects directory initial (phases other) (handle effect state).2 job value) :
    Projects directory initial (phases other) state job value := by
  intro drawn ticks
  have counts := handle_counts effect state
  rcases projects drawn ticks with ⟨draws, times, picksDraws, picksTimes, comes⟩
  rw [counts.drawn] at picksDraws
  rw [counts.ticks] at picksTimes
  refine ⟨draws, times, picksDraws.wait, picksTimes.wait, fun alone isDrawn isTicks mirrors => ?_⟩
  exact comes alone isDrawn isTicks (mirrors.step_other shared moves different fresh)

end Projects

/-! ## The runs of a batch -/

/-- The run ids of the reports that are opened. -/
def created (effects : List Effect) : List String :=
  effects.filterMap Effect.created?

theorem created_cons (effect : Effect) (rest : List Effect) :
    created (effect :: rest) = effect.created?.toList ++ created rest := by
  unfold created
  rw [List.filterMap_cons]
  cases effect.created? <;> rfl

theorem mem_keys_handle {runId : String} (effect : Effect)
    (member : runId ∈ (handle effect state).2.reports.keys) :
    effect.created? = some runId ∨ runId ∈ state.reports.keys := by
  cases stores : effect.stores with
  | false =>
      rw [handle_reports stores] at member
      exact .inr member
  | true =>
  cases effect with
  | createReport report =>
      rcases Entries.mem_keys_insert.mp member with rfl | member
      · exact .inl rfl
      · exact .inr member
  | changeReport written change =>
      refine .inr ?_
      cases own : state.own written with
      | none => rwa [handle_changeReport_unknown own] at member
      | some report =>
          rw [handle_changeReport own] at member
          have known : written ∈ state.reports.keys := Entries.mem_keys_iff.mpr ⟨report, own⟩
          cases applied : report.apply change with
          | error error =>
              rw [applied] at member
              exact member
          | ok changed =>
              rw [applied] at member
              have same : (state.withOwn written changed).reports.keys = state.reports.keys :=
                Entries.keys_insert_of_mem known
              exact same ▸ member
  | finishReport written moment =>
      refine .inr ?_
      cases own : state.own written with
      | none => rwa [handle_finishReport_unknown own] at member
      | some report =>
          rw [handle_finishReport own] at member
          have fewer : runId ∈ state.reports.keys.erase written := Entries.keys_erase ▸ member
          exact List.mem_of_mem_erase fewer
  | _ => cases stores

/-- Ids that are all different stay unknown until their reports are opened. -/
theorem fresh_later {rest : List Effect} (distinct : (created (effect :: rest)).Nodup)
    (fresh : ∀ runId ∈ created (effect :: rest), runId ∉ state.reports.keys) :
    ∀ runId ∈ created rest, runId ∉ (handle effect state).2.reports.keys := by
  rw [created_cons] at distinct fresh
  intro runId member known
  rcases mem_keys_handle effect known with creates | known
  · have isFirst : runId ∈ effect.created?.toList := by simp [creates]
    exact (List.nodup_append.mp distinct).2.2 runId isFirst runId member rfl
  · exact fresh runId (List.mem_append_right _ member) known

/-- Where each of the runs stands that have a pool to themselves. -/
structure Held (directory : Option String) (initial : Surroundings ρ) (phases : Nat → Phase)
    (pool : Pool ρ α) : Prop where
  shared : Shared directory initial phases pool.surroundings
  confined : ∀ index (job : Job α), pool.jobs[index]? = some job →
    job.Confined directory (fun later _ => later.IsClosed) (phases index)
  idle : ∀ index, pool.jobs.length ≤ index → (phases index).IsClosed

namespace Held

variable {pool next final : Pool ρ α} {schedule : List Nat} {effects : List Effect}

theorem turn (held : Held directory initial phases pool)
    (advances : pool.advance index = some (effect, next))
    (fresh : ∀ runId, effect.created? = some runId → runId ∉ pool.surroundings.reports.keys) :
    ∃ (continue_ : effect.Reply → Job α) (later : Phase),
      pool.jobs[index]? = some (.perform effect continue_) ∧
      next = ⟨pool.jobs.set index (continue_ (handle effect pool.surroundings).1),
        (handle effect pool.surroundings).2⟩ ∧
      (∀ first second, effect.Alike first second → continue_ first = continue_ second) ∧
      (phases index).Moves directory effect (handle effect pool.surroundings).1 later ∧
      Held directory initial (Function.update phases index later) next := by
  rcases Pool.advance_eq_some.mp advances with ⟨continue_, active, rfl⟩
  rcases held.confined index _ active with ⟨allowed, plain, onward⟩
  rcases held.shared.step allowed fresh with ⟨later, moves, shared⟩
  have inside := (List.getElem?_eq_some_iff.mp active).1
  refine ⟨continue_, later, active, rfl, plain, moves, shared, fun other job found => ?_,
    fun other outside => ?_⟩
  · by_cases same : other = index
    · subst same
      rw [List.getElem?_set_self inside] at found
      cases found
      rw [Function.update_self]
      exact onward _ later moves
    · rw [List.getElem?_set_ne (Ne.symm same)] at found
      rw [Function.update_of_ne same]
      exact held.confined other job found
  · rw [List.length_set] at outside
    rw [Function.update_of_ne (Nat.ne_of_gt (Nat.lt_of_lt_of_le inside outside))]
    exact held.idle other outside

/-- However the runs take turns, each that is done has come to what it comes to by itself. -/
theorem interleave (held : Held directory initial phases pool)
    (interleaves : pool.interleave schedule = some (effects, final))
    (distinct : (created effects).Nodup)
    (fresh : ∀ runId ∈ created effects, runId ∉ pool.surroundings.reports.keys) :
    (∃ last, Held directory initial last final) ∧
      ∀ index job value, pool.jobs[index]? = some job →
        final.jobs[index]? = some (.done value) →
        Projects directory initial (phases index) pool.surroundings job value := by
  induction schedule generalizing pool phases effects with
  | nil =>
      cases interleaves
      refine ⟨⟨phases, held⟩, fun index job value active isDone => ?_⟩
      rw [active] at isDone
      cases isDone
      exact .done
  | cons index rest induction =>
      rcases Pool.interleave_cons.mp interleaves with
        ⟨effect, performed, next, advances, goesOn, rfl⟩
      have freshNow (runId : String) (creates : effect.created? = some runId) :
          runId ∉ pool.surroundings.reports.keys := by
        apply fresh runId
        simp [created_cons, creates]
      have distinctLater : (created performed).Nodup := by
        rw [created_cons] at distinct
        exact (List.nodup_append.mp distinct).2.1
      have freshLater := fresh_later distinct fresh
      rcases held.turn advances freshNow with
        ⟨continue_, later, active, rfl, plain, moves, heldLater⟩
      rcases induction heldLater goesOn distinctLater freshLater with ⟨last, projects⟩
      refine ⟨last, fun other job value found isDone => ?_⟩
      have inside := (List.getElem?_eq_some_iff.mp active).1
      by_cases same : other = index
      · subst same
        rw [active] at found
        cases found
        have further := projects other _ value (List.getElem?_set_self inside) isDone
        rw [Function.update_self] at further
        exact .own_turn held.shared moves rfl plain further
      · have further := projects other job value
          ((List.getElem?_set_ne (Ne.symm same)).trans found) isDone
        rw [Function.update_of_ne same] at further
        exact further.other_turn held.shared moves same freshNow

omit [Renderer ρ] in
/-- When all are done, their reports are out of the store. -/
theorem reports (held : Held directory initial phases pool) {values : List α}
    (isDone : pool.jobs = values.map Job.done) :
    pool.surroundings.reports = initial.reports := by
  have closed (index : Nat) : (phases index).IsClosed := by
    by_cases inside : index < values.length
    · have found : pool.jobs[index]? = some (.done values[index]) := by
        simp [isDone, inside]
      exact held.confined index _ found
    · refine held.idle index ?_
      simpa [isDone] using Nat.not_lt.mp inside
  rcases held.shared.store with ⟨added, reports, lodged⟩
  have none : added.keys = [] := by
    apply List.eq_nil_iff_forall_not_mem.mpr
    intro runId member
    rcases (lodged.opened runId).mp member with ⟨index, opens⟩
    rw [closed index] at opens
    cases opens
  rw [reports, List.map_eq_nil_iff.mp none, List.append_nil]

end Held

namespace Surroundings

end Surroundings

/-- What a batch makes of a result: a crash is an error there. -/
def RunResult.shared (request : Request) : RunResult → RunResult
  | .crashed _ => .failed (.crashed request.runbook)
  | result => result

namespace Engine

variable {engine : Engine} {requests : List Request} {surroundings : Surroundings ρ}

end Engine

end Triage
