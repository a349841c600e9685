import Mathlib.Data.List.Nodup
import Mathlib.Logic.Function.Basic
import Triage.Proofs.Batch.Phase
import Triage.Proofs.Files.Disk
import Triage.Proofs.Run.Engine

namespace Triage

open Surroundings

/-! ## What is shared -/

namespace Surroundings

variable {ρ : Type} [Renderer ρ] {state : Surroundings ρ} {runId : String} {report : Report}
  {change : Report.Change} {moment : Instant}

theorem handle_changeReport (own : state.own runId = some report) :
    handle (.changeReport runId change) state =
      match report.apply change with
      | .ok changed => (.ok (), state.withOwn runId changed)
      | .error error => (.error error, state) :=
  exec_changeReport own change

theorem handle_totals (own : state.own runId = some report) :
    handle (.totals runId) state = (.ok report.totals, state) :=
  Engine.exec_totals own

theorem handle_finishReport (own : state.own runId = some report) :
    handle (.finishReport runId moment) state =
      (.ok { report with finishedAt := some moment },
        { state with reports := state.reports.erase runId }) :=
  Engine.exec_finishReport own moment

/-! Without a report in the store nothing can be written and nothing comes back. -/

theorem handle_changeReport_unknown (unknown : state.own runId = none) :
    handle (.changeReport runId change) state = (.error (.unknownRun runId), state) := by
  have missing : state.reports.get? runId = none := unknown
  simp only [handle, settle, ReportStore.change, ReportStore.report, missing]
  rfl

theorem handle_finishReport_unknown (unknown : state.own runId = none) :
    handle (.finishReport runId moment) state = (.error (.unknownRun runId), state) := by
  have missing : state.reports.get? runId = none := unknown
  simp only [handle, ReportStore.finish, ReportStore.report, missing]

theorem handle_printFallback (text : String) (state : Surroundings ρ) :
    ∃ sink, sink.broken = state.fallback.broken ∧
      handle (.printFallback text) state =
        (if state.fallback.broken then .error (.other "broken") else .ok (),
          { state with fallback := sink }) := by
  cases broken : state.fallback.broken with
  | false =>
      refine ⟨{ state.fallback with text := state.fallback.text ++ text }, broken, ?_⟩
      simp only [handle, settle, Sink.write, broken]
      rfl
  | true =>
      refine ⟨state.fallback, broken, ?_⟩
      simp only [handle, settle, Sink.write, broken]
      rfl

end Surroundings

/-! ## The reports of the runs that are under way -/

/-- To the reports that were there, every run that has opened its own has added it. -/
structure Lodged (initial : ReportStore) (phases : Nat → Phase) (added : ReportStore) : Prop where
  nodup : added.keys.Nodup
  fresh : ∀ runId ∈ added.keys, runId ∉ initial.keys
  opened : ∀ runId, runId ∈ added.keys ↔ ∃ index, (phases index).runId? = some runId
  apart : ∀ index other runId, (phases index).runId? = some runId →
    (phases other).runId? = some runId → index = other

namespace Lodged

variable {initial added : ReportStore} {phases : Nat → Phase} {index : Nat} {later : Phase}
  {runId : String}

theorem runId?_update (phases : Nat → Phase) (index other : Nat) (later : Phase) :
    (Function.update phases index later other).runId? =
      if other = index then later.runId? else (phases other).runId? := by
  by_cases same : other = index
  · rw [same, Function.update_self, if_pos rfl]
  · rw [Function.update_of_ne same, if_neg same]

/-- A run that has the same report as before moves on. -/
theorem moves (lodged : Lodged initial phases added)
    (same : later.runId? = (phases index).runId?) :
    Lodged initial (Function.update phases index later) added := by
  have owners (other : Nat) :
      (Function.update phases index later other).runId? = (phases other).runId? := by
    rw [runId?_update]
    split
    · next equal => rw [equal, same]
    · rfl
  refine ⟨lodged.nodup, lodged.fresh, fun runId => ?_, fun one other runId => ?_⟩
  · simp only [owners]
    exact lodged.opened runId
  · rw [owners, owners]
    exact lodged.apart one other runId

theorem rewrite (lodged : Lodged initial phases added) {changed : ReportStore}
    (keys : changed.keys = added.keys) : Lodged initial phases changed := by
  refine ⟨?_, fun runId member => ?_, fun runId => ?_, lodged.apart⟩
  · rw [keys]
    exact lodged.nodup
  · rw [keys] at member
    exact lodged.fresh runId member
  · rw [keys]
    exact lodged.opened runId

theorem create (lodged : Lodged initial phases added) (report : Report)
    (closed : (phases index).IsClosed) (absent : report.runId ∉ initial.keys)
    (unknown : report.runId ∉ added.keys) :
    Lodged initial (Function.update phases index (.opened report.runId))
      (added ++ [(report.runId, report)]) := by
  have keys : (added ++ [(report.runId, report)]).keys = added.keys ++ [report.runId] := by
    simp [Entries.keys]
  have nobody (other : Nat) : (phases other).runId? ≠ some report.runId := fun opens =>
    unknown ((lodged.opened _).mpr ⟨other, opens⟩)
  refine ⟨?_, fun runId member => ?_, fun runId => ?_, fun one other runId first second => ?_⟩
  · rw [keys, List.nodup_append]
    refine ⟨lodged.nodup, List.nodup_singleton _, fun runId member other single => ?_⟩
    rw [List.mem_singleton.mp single]
    exact fun same => unknown (same ▸ member)
  · rw [keys, List.mem_append, List.mem_singleton] at member
    rcases member with member | rfl
    · exact lodged.fresh runId member
    · exact absent
  · rw [keys, List.mem_append, List.mem_singleton, lodged.opened]
    constructor
    · rintro (⟨other, opens⟩ | rfl)
      · refine ⟨other, ?_⟩
        rw [runId?_update, if_neg, opens]
        rintro rfl
        rw [show (phases other).runId? = none from closed] at opens
        cases opens
      · exact ⟨index, by rw [runId?_update, if_pos rfl, Phase.runId?]⟩
    · rintro ⟨other, opens⟩
      rw [runId?_update] at opens
      split at opens
      · cases opens
        exact .inr rfl
      · exact .inl ⟨other, opens⟩
  · rw [runId?_update] at first second
    split at first
    · next isFirst =>
      cases first
      split at second
      · next isSecond => rw [isFirst, isSecond]
      · exact absurd second (nobody other)
    · split at second
      · cases second
        exact absurd first (nobody one)
      · exact lodged.apart one other runId first second

theorem finish (lodged : Lodged initial phases added)
    (opens : (phases index).runId? = some runId) (closed : later.IsClosed) :
    Lodged initial (Function.update phases index later) (added.erase runId) := by
  refine ⟨?_, fun other member => ?_, fun other => ?_, fun one other found first second => ?_⟩
  · rw [Entries.keys_erase]
    exact lodged.nodup.erase runId
  · rw [Entries.keys_erase] at member
    exact lodged.fresh other (List.mem_of_mem_erase member)
  · rw [Entries.keys_erase, lodged.nodup.mem_erase_iff, lodged.opened]
    constructor
    · rintro ⟨different, holder, holds⟩
      refine ⟨holder, ?_⟩
      rw [runId?_update, if_neg, holds]
      rintro rfl
      rw [opens] at holds
      exact different (Option.some.inj holds).symm
    · rintro ⟨holder, holds⟩
      rw [runId?_update] at holds
      split at holds
      · rw [show later.runId? = none from closed] at holds
        cases holds
      · next elsewhere =>
        refine ⟨?_, holder, holds⟩
        rintro rfl
        exact elsewhere (lodged.apart holder index other holds opens)
  · rw [runId?_update] at first second
    split at first
    · rw [show later.runId? = none from closed] at first
      cases first
    · split at second
      · rw [show later.runId? = none from closed] at second
        cases second
      · exact lodged.apart one other found first second

end Lodged

/-- The run that a report is opened for. -/
def Effect.created? : Effect → Option String
  | .createReport report => some report.runId
  | _ => none

variable {ρ : Type}

/-- What the runs of a batch made of what they share. -/
structure Shared (directory : Option String) (initial : Surroundings ρ) (phases : Nat → Phase)
    (state : Surroundings ρ) : Prop where
  store : ∃ added, state.reports = initial.reports ++ added ∧
    Lodged initial.reports phases added
  disk : Disk.Used directory initial.disk state.disk
  filing : ∀ index, phases index = .filing → Disk.Made directory initial.disk state.disk
  broken : state.fallback.broken = initial.fallback.broken
  suffixes : state.suffixes = initial.suffixes
  clock : state.clock = initial.clock

namespace Shared

variable {directory : Option String} {initial state after : Surroundings ρ}
  {phases : Nat → Phase} {index : Nat} {later : Phase} {runId path text : String}

/-- A run that has opened its report finds it. -/
theorem known (shared : Shared directory initial phases state)
    (opens : (phases index).runId? = some runId) : ∃ report, state.own runId = some report := by
  rcases shared.store with ⟨added, reports, lodged⟩
  have member : runId ∈ added.keys := (lodged.opened runId).mpr ⟨index, opens⟩
  refine Entries.mem_keys_iff.mp ?_
  rw [reports, Entries.keys_append]
  exact List.mem_append_right _ member

theorem filing_update (shared : Shared directory initial phases state) (elsewhere : later ≠ .filing)
    (other : Nat) (files : Function.update phases index later other = .filing) :
    Disk.Made directory initial.disk state.disk := by
  by_cases same : other = index
  · rw [same, Function.update_self] at files
    exact absurd files elsewhere
  · rw [Function.update_of_ne same] at files
    exact shared.filing other files

/-- Nothing was done to what is shared. -/
theorem keeps (shared : Shared directory initial phases state)
    (reports : after.reports = state.reports) (disk : after.disk = state.disk)
    (broken : after.fallback.broken = state.fallback.broken)
    (suffixes : after.suffixes = state.suffixes) (clock : after.clock = state.clock) :
    Shared directory initial (Function.update phases index (phases index)) after := by
  rw [Function.update_eq_self]
  refine ⟨?_, ?_, fun other files => ?_, broken.trans shared.broken, suffixes.trans shared.suffixes,
    clock.trans shared.clock⟩
  · rw [reports]
    exact shared.store
  · rw [disk]
    exact shared.disk
  · rw [disk]
    exact shared.filing other files

theorem create (shared : Shared directory initial phases state) (report : Report)
    (closed : (phases index).IsClosed) (absent : report.runId ∉ state.reports.keys) :
    Shared directory initial (Function.update phases index (.opened report.runId))
      { state with reports := state.reports.create report } := by
  rcases shared.store with ⟨added, reports, lodged⟩
  rw [reports, Entries.keys_append, List.mem_append, not_or] at absent
  refine ⟨⟨added ++ [(report.runId, report)], ?_, lodged.create report closed absent.1 absent.2⟩,
    shared.disk, shared.filing_update Phase.noConfusion, shared.broken, shared.suffixes,
    shared.clock⟩
  rw [reports]
  exact (Entries.insert_append absent.1).trans (by rw [Entries.insert_of_not_mem absent.2])

theorem write (shared : Shared directory initial phases state)
    (opens : (phases index).runId? = some runId) (report : Report) :
    Shared directory initial (Function.update phases index (phases index))
      (state.withOwn runId report) := by
  rcases shared.store with ⟨added, reports, lodged⟩
  have member : runId ∈ added.keys := (lodged.opened runId).mpr ⟨index, opens⟩
  rw [Function.update_eq_self]
  refine ⟨⟨added.insert runId report, ?_, lodged.rewrite (Entries.keys_insert_of_mem member)⟩,
    shared.disk, shared.filing, shared.broken, shared.suffixes, shared.clock⟩
  simp only [withOwn, reports]
  exact Entries.insert_append (lodged.fresh runId member)

theorem finish (shared : Shared directory initial phases state)
    (opens : (phases index).runId? = some runId) :
    Shared directory initial (Function.update phases index .free)
      { state with reports := state.reports.erase runId } := by
  rcases shared.store with ⟨added, reports, lodged⟩
  have member : runId ∈ added.keys := (lodged.opened runId).mpr ⟨index, opens⟩
  refine ⟨⟨added.erase runId, ?_, lodged.finish opens Phase.isClosed_free⟩, shared.disk,
    shared.filing_update Phase.noConfusion, shared.broken, shared.suffixes, shared.clock⟩
  simp only [reports]
  exact Entries.erase_append (lodged.fresh runId member)

/-- From here on the directory of the reports is there. -/
theorem file (shared : Shared directory initial phases state) (closed : (phases index).IsClosed)
    {disk : Disk} (made : Disk.Made directory initial.disk disk) :
    Shared directory initial (Function.update phases index .filing)
      { state with disk := disk } := by
  rcases shared.store with ⟨added, reports, lodged⟩
  have same : Phase.filing.runId? = (phases index).runId? := closed.symm
  exact ⟨⟨added, reports, lodged.moves same⟩, .inr made, fun _ _ => made, shared.broken,
    shared.suffixes, shared.clock⟩

variable [Renderer ρ]

/-! One lemma for each effect on the files. -/

theorem step_createDirectory (shared : Shared directory initial phases state)
    (stands : phases index = .free) (chosen : directory = some path) :
    ∃ later, Phase.free.Moves directory (.createDirectory path)
        (handle (.createDirectory path) state).1 later ∧
      Shared directory initial (Function.update phases index later)
        (handle (.createDirectory path) state).2 := by
  rcases shared.disk.makeDirectory chosen with ⟨disk, first, makes, -, made, -⟩ | ⟨error, fails, -⟩
  · have closed : (phases index).IsClosed := by rw [stands]; exact Phase.isClosed_free
    rw [handle_createDirectory_ok makes]
    exact ⟨_, .make chosen, shared.file closed made⟩
  · rw [handle_createDirectory_error fails]
    refine ⟨_, .refuse chosen error, ?_⟩
    rw [← stands]
    exact shared.keeps rfl rfl rfl rfl rfl

theorem step_writeFile (shared : Shared directory initial phases state)
    (stands : phases index = .filing) (path text : String) :
    ∃ later, Phase.filing.Moves directory (.writeFile path text)
        (handle (.writeFile path text) state).1 later ∧
      Shared directory initial (Function.update phases index later)
        (handle (.writeFile path text) state).2 := by
  cases writes : state.disk.write path text with
  | error error =>
      rw [handle_writeFile_error writes]
      refine ⟨_, .write _ _ _, ?_⟩
      rw [← stands]
      exact shared.keeps rfl rfl rfl rfl rfl
  | ok disk =>
      have closed : (phases index).IsClosed := by rw [stands]; exact Phase.isClosed_filing
      rw [handle_writeFile_ok writes]
      exact ⟨_, .write _ _ _, shared.file closed ((shared.filing index stands).written writes)⟩

theorem step_printFallback (shared : Shared directory initial phases state)
    (closed : (phases index).IsClosed) (text : String) :
    ∃ later, (phases index).Moves directory (.printFallback text)
        (handle (.printFallback text) state).1 later ∧
      Shared directory initial (Function.update phases index later)
        (handle (.printFallback text) state).2 := by
  rcases handle_printFallback text state with ⟨sink, broken, handled⟩
  rw [handled]
  exact ⟨_, .print closed _ _, shared.keeps rfl rfl broken rfl rfl⟩

/-- What a run does where it stands brings it somewhere, and the others keep their
reports and the directory. -/
theorem step {effect : Effect} (shared : Shared directory initial phases state)
    (allowed : ∃ reply later, (phases index).Moves directory effect reply later)
    (fresh : ∀ runId, effect.created? = some runId → runId ∉ state.reports.keys) :
    ∃ later, (phases index).Moves directory effect (handle effect state).1 later ∧
      Shared directory initial (Function.update phases index later) (handle effect state).2 := by
  rcases allowed with ⟨reply, later, moves⟩
  generalize stands : phases index = phase at moves ⊢
  cases moves with
  | remark isRemark _ =>
      refine ⟨_, .remark isRemark _, ?_⟩
      rw [← stands]
      cases effect with
      | notify notice | log line | note entry => exact shared.keeps rfl rfl rfl rfl rfl
      | _ => cases isRemark
  | draw _ =>
      refine ⟨_, .draw _, ?_⟩
      rw [← stands]
      exact shared.keeps rfl rfl rfl rfl rfl
  | read _ =>
      refine ⟨_, .read _, ?_⟩
      rw [← stands]
      exact shared.keeps rfl rfl rfl rfl rfl
  | create report =>
      have closed : (phases index).IsClosed := by rw [stands]; exact Phase.isClosed_free
      exact ⟨_, .create report, shared.create report closed (fresh report.runId rfl)⟩
  | @change runId change _ =>
      have opens : (phases index).runId? = some runId := by rw [stands, Phase.runId?]
      refine ⟨_, .change change _, ?_⟩
      rw [← stands]
      rcases shared.known opens with ⟨report, own⟩
      rw [handle_changeReport own]
      cases report.apply change with
      | error error => exact shared.keeps rfl rfl rfl rfl rfl
      | ok changed => exact shared.write opens changed
  | @totals runId _ =>
      have opens : (phases index).runId? = some runId := by rw [stands, Phase.runId?]
      rcases shared.known opens with ⟨report, own⟩
      rw [handle_totals own]
      refine ⟨_, .totals _, ?_⟩
      rw [← stands]
      exact shared.keeps rfl rfl rfl rfl rfl
  | @finish runId moment _ =>
      have opens : (phases index).runId? = some runId := by rw [stands, Phase.runId?]
      rcases shared.known opens with ⟨report, own⟩
      rw [handle_finishReport own]
      exact ⟨_, .finish moment _, shared.finish opens⟩
  | make chosen => exact shared.step_createDirectory stands chosen
  | refuse chosen _ => exact shared.step_createDirectory stands chosen
  | write path text _ => exact shared.step_writeFile stands path text
  | print isClosed text _ =>
      rw [← stands] at isClosed ⊢
      exact shared.step_printFallback isClosed text

/-- What a run does leaves the reports of the others as they are. -/
theorem own_other {effect : Effect} {reply : effect.Reply} {other : Nat}
    (shared : Shared directory initial phases state)
    (moves : (phases index).Moves directory effect reply later) (different : other ≠ index)
    (fresh : ∀ runId, effect.created? = some runId → runId ∉ state.reports.keys)
    (opens : (phases other).runId? = some runId) :
    (handle effect state).2.own runId = state.own runId := by
  rcases shared.store with ⟨added, reports, lodged⟩
  have notOwn (written : String) (writes : (phases index).runId? = some written) :
      runId ≠ written := by
    rintro rfl
    exact different (lodged.apart other index runId opens writes)
  generalize stands : phases index = phase at moves
  cases moves with
  | remark isRemark _ =>
      cases effect with
      | notify notice | log line | note entry => rfl
      | _ => cases isRemark
  | draw _ => rfl
  | read _ => rfl
  | create report =>
      have absent := fresh report.runId rfl
      refine Entries.get?_insert_of_ne ?_
      rintro rfl
      rcases shared.known opens with ⟨held, own⟩
      exact absent (Entries.mem_keys_iff.mpr ⟨held, own⟩)
  | @change written change _ =>
      have writes : (phases index).runId? = some written := by rw [stands, Phase.runId?]
      rcases shared.known writes with ⟨report, own⟩
      rw [handle_changeReport own]
      cases report.apply change with
      | error error => rfl
      | ok changed => exact Entries.get?_insert_of_ne (notOwn written writes)
  | @totals read _ =>
      have reads : (phases index).runId? = some read := by rw [stands, Phase.runId?]
      rcases shared.known reads with ⟨report, own⟩
      rw [handle_totals own]
  | @finish written moment _ =>
      have writes : (phases index).runId? = some written := by rw [stands, Phase.runId?]
      rcases shared.known writes with ⟨report, own⟩
      rw [handle_finishReport own]
      exact Entries.get?_erase_of_ne (notOwn written writes)
  | @make path _ | @refuse path _ _ =>
      simp only [handle, settle]
      split <;> rfl
  | write path text _ =>
      simp only [handle, settle]
      split <;> rfl
  | print _ text _ =>
      simp only [handle, settle]
      split <;> rfl

end Shared

end Triage
