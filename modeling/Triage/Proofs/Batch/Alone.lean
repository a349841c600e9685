import Triage.Proofs.Batch.Shared

namespace Triage

open Surroundings

/-! ## A run by itself -/

variable {ρ : Type}

/-- What a run finds where it stands, it finds where it is alone as well. -/
structure Mirrors (directory : Option String) (initial : Surroundings ρ) (phase : Phase)
    (state alone : Surroundings ρ) : Prop where
  own : ∀ runId, phase.runId? = some runId → alone.own runId = state.own runId
  disk : phase ≠ .filing → alone.disk = initial.disk
  made : phase = .filing → Disk.Made directory initial.disk alone.disk
  broken : alone.fallback.broken = initial.fallback.broken

namespace Effect

/-- Suffixes and moments come in the same order to all who ask for them. -/
def DrawsSame (state alone : Surroundings ρ) : Effect → Prop
  | .freshSuffix => alone.suffixes alone.drawn = state.suffixes state.drawn
  | .now => alone.clock alone.ticks = state.clock state.ticks
  | _ => True

end Effect

namespace Mirrors

variable [Renderer ρ] {directory : Option String} {initial state alone : Surroundings ρ}
  {phases : Nat → Phase} {phase later : Phase} {index other : Nat} {effect : Effect}
  {runId : String}

omit [Renderer ρ] in
theorem keeps (mirrors : Mirrors directory initial phase state alone)
    {stateAfter aloneAfter : Surroundings ρ} (reports : stateAfter.reports = state.reports)
    (own : aloneAfter.reports = alone.reports) (disk : aloneAfter.disk = alone.disk)
    (broken : aloneAfter.fallback.broken = alone.fallback.broken) :
    Mirrors directory initial phase stateAfter aloneAfter := by
  refine ⟨fun runId opens => ?_, fun elsewhere => ?_, fun files => ?_, broken.trans mirrors.broken⟩
  · unfold Surroundings.own
    rw [own, reports]
    exact mirrors.own runId opens
  · rw [disk]
    exact mirrors.disk elsewhere
  · rw [disk]
    exact mirrors.made files

omit [Renderer ρ] in
/-- A run that has no report. -/
theorem of_closed (closed : phase.IsClosed) (disk : phase ≠ .filing → alone.disk = initial.disk)
    (made : phase = .filing → Disk.Made directory initial.disk alone.disk)
    (broken : alone.fallback.broken = initial.fallback.broken) :
    Mirrors directory initial phase state alone := by
  refine ⟨fun runId opens => ?_, disk, made, broken⟩
  rw [closed] at opens
  cases opens

omit [Renderer ρ] in
theorem of_made (made : Disk.Made directory initial.disk alone.disk)
    (broken : alone.fallback.broken = initial.fallback.broken) :
    Mirrors directory initial .filing state alone :=
  of_closed Phase.isClosed_filing (fun elsewhere => absurd rfl elsewhere) (fun _ => made) broken

omit [Renderer ρ] in
theorem of_free (disk : alone.disk = initial.disk)
    (broken : alone.fallback.broken = initial.fallback.broken) :
    Mirrors directory initial .free state alone :=
  of_closed Phase.isClosed_free (fun _ => disk) nofun broken

/-! One lemma for each effect on what is shared. -/

theorem step_changeReport (shared : Shared directory initial phases state)
    (stands : phases index = .opened runId)
    (mirrors : Mirrors directory initial (.opened runId) state alone) (change : Report.Change) :
    (handle (.changeReport runId change) state).1 = (handle (.changeReport runId change) alone).1 ∧
      Mirrors directory initial (.opened runId) (handle (.changeReport runId change) state).2
        (handle (.changeReport runId change) alone).2 := by
  have opens : (phases index).runId? = some runId := by rw [stands, Phase.runId?]
  rcases shared.known opens with ⟨report, own⟩
  have alsoOwn := (mirrors.own runId rfl).trans own
  rw [handle_changeReport own, handle_changeReport alsoOwn]
  cases report.apply change with
  | error error => exact ⟨rfl, mirrors⟩
  | ok changed =>
      refine ⟨rfl, fun found opened => ?_, mirrors.disk, mirrors.made, mirrors.broken⟩
      cases opened
      rw [own_withOwn, own_withOwn]

theorem step_createDirectory (shared : Shared directory initial phases state)
    (mirrors : Mirrors directory initial .free state alone) {path : String}
    (chosen : directory = some path) :
    (handle (.createDirectory path) state).1 = (handle (.createDirectory path) alone).1 ∧
      Mirrors directory initial
        (match (handle (.createDirectory path) state).1 with
          | .ok _ => .filing
          | .error _ => .free)
        (handle (.createDirectory path) state).2 (handle (.createDirectory path) alone).2 := by
  have start : alone.disk = initial.disk := mirrors.disk Phase.noConfusion
  rcases shared.disk.makeDirectory chosen with
    ⟨disk, first, makes, alsoMakes, -, made⟩ | ⟨error, fails, alsoFails⟩
  · rw [← start] at alsoMakes
    rw [handle_createDirectory_ok makes, handle_createDirectory_ok alsoMakes]
    exact ⟨rfl, of_made made mirrors.broken⟩
  · rw [← start] at alsoFails
    rw [handle_createDirectory_error fails, handle_createDirectory_error alsoFails]
    exact ⟨rfl, mirrors⟩

theorem step_writeFile (shared : Shared directory initial phases state)
    (stands : phases index = .filing) (mirrors : Mirrors directory initial .filing state alone)
    (path text : String) :
    Effect.Alike (.writeFile path text) (handle (.writeFile path text) state).1
        (handle (.writeFile path text) alone).1 ∧
      Mirrors directory initial .filing (handle (.writeFile path text) state).2
        (handle (.writeFile path text) alone).2 := by
  have agrees := (shared.filing index stands).agrees (mirrors.made rfl)
  cases writes : state.disk.write path text with
  | ok disk =>
      rcases Disk.write_agrees agrees writes with ⟨also, alsoWrites, -⟩
      rw [handle_writeFile_ok writes, handle_writeFile_ok alsoWrites]
      exact ⟨rfl, of_made ((mirrors.made rfl).written alsoWrites) mirrors.broken⟩
  | error error =>
      cases alsoWrites : alone.disk.write path text with
      | ok also =>
          rcases Disk.write_agrees agrees.symm alsoWrites with ⟨disk, impossible, -⟩
          rw [writes] at impossible
          cases impossible
      | error other =>
          rw [handle_writeFile_error writes, handle_writeFile_error alsoWrites]
          exact ⟨trivial, mirrors⟩

/-- A run and its double go on in the same way. -/
theorem step (shared : Shared directory initial phases state)
    (mirrors : Mirrors directory initial (phases index) state alone)
    {reply : effect.Reply} (moves : (phases index).Moves directory effect reply later)
    (replies : (handle effect state).1 = reply) (same : effect.DrawsSame state alone) :
    effect.Alike (handle effect state).1 (handle effect alone).1 ∧
      Mirrors directory initial later (handle effect state).2 (handle effect alone).2 := by
  generalize stands : phases index = phase at moves mirrors
  cases moves with
  | remark isRemark _ =>
      cases effect with
      | notify notice | log line | note entry => exact ⟨rfl, mirrors.keeps rfl rfl rfl rfl⟩
      | _ => cases isRemark
  | draw _ => exact ⟨same.symm, mirrors.keeps rfl rfl rfl rfl⟩
  | read _ => exact ⟨same.symm, mirrors.keeps rfl rfl rfl rfl⟩
  | create report =>
      refine ⟨rfl, fun runId opened => ?_, fun _ => mirrors.disk Phase.noConfusion, nofun,
        mirrors.broken⟩
      cases opened
      exact Entries.get?_insert_self.trans Entries.get?_insert_self.symm
  | change change _ => exact mirrors.step_changeReport shared stands change
  | @totals runId _ =>
      have opens : (phases index).runId? = some runId := by rw [stands, Phase.runId?]
      rcases shared.known opens with ⟨report, own⟩
      rw [handle_totals own, handle_totals ((mirrors.own runId rfl).trans own)]
      exact ⟨rfl, mirrors⟩
  | @finish runId moment _ =>
      have opens : (phases index).runId? = some runId := by rw [stands, Phase.runId?]
      rcases shared.known opens with ⟨report, own⟩
      rw [handle_finishReport own, handle_finishReport ((mirrors.own runId rfl).trans own)]
      exact ⟨rfl, of_free (mirrors.disk Phase.noConfusion) mirrors.broken⟩
  | make chosen =>
      have doubled := mirrors.step_createDirectory shared chosen
      rw [replies] at doubled ⊢
      exact doubled
  | refuse chosen _ =>
      have doubled := mirrors.step_createDirectory shared chosen
      rw [replies] at doubled ⊢
      exact doubled
  | write path text _ => exact mirrors.step_writeFile shared stands path text
  | print isClosed text _ =>
      rcases handle_printFallback text state with ⟨sink, -, handled⟩
      rcases handle_printFallback text alone with ⟨also, broken, alsoHandled⟩
      rw [handled, alsoHandled, mirrors.broken, shared.broken]
      exact ⟨rfl, mirrors.keeps rfl rfl rfl broken⟩

/-- What one run does is nothing to the double of another. -/
theorem step_other (shared : Shared directory initial phases state) {reply : effect.Reply}
    (moves : (phases index).Moves directory effect reply later) (different : other ≠ index)
    (fresh : ∀ runId, effect.created? = some runId → runId ∉ state.reports.keys)
    (mirrors : Mirrors directory initial (phases other) state alone) :
    Mirrors directory initial (phases other) (handle effect state).2 alone := by
  refine ⟨fun runId opens => ?_, mirrors.disk, mirrors.made, mirrors.broken⟩
  rw [mirrors.own runId opens]
  exact (shared.own_other moves different fresh opens).symm

end Mirrors

end Triage
