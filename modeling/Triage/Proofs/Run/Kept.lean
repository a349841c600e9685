import Triage.Proofs.Run.Hearing

namespace Triage

/-! ## What a report keeps of the calls of a run -/

namespace Exchange

variable {setting : Setting} {exchange : Exchange} {executionId : String}

/-- Tries to file an outcome or an answer. -/
def files (exchange : Exchange) : Bool :=
  match exchange.call with
  | .record _ => true
  | .ask _ => !exchange.asked.isEmpty
  | _ => false

theorem Proper.tries (proper : exchange.Proper setting) (files : exchange.files = true)
    (active : exchange.executionId? = some executionId) :
    ∃ earlier change result,
      exchange.deeds = earlier ++ [⟨.changeReport setting.runId change, result⟩] ∧
        earlier.filterMap Deed.change? = [] ∧ exchange.reply.isOk = result.isOk ∧
        ∀ report : Report, (report.apply change).isOk = (report.step? executionId).isSome := by
  cases proper with
  | @recorded frame outcome answer? result _ =>
      cases active
      refine ⟨_, _, result, rfl, ?_, ?_, fun report => report.isOk_updateStep _ _⟩
      · cases answer? <;> rfl
      · cases result <;> rfl
  | @asked frame request answer result _ =>
      cases active
      refine ⟨[_], _, result, rfl, rfl, ?_, fun report => report.isOk_updateStep _ _⟩
      cases result <;> rfl
  | unrecorded | askedIdle => cases active
  | @silent frame? call reply isSilent =>
      cases call with
      | record | ask => cases isSilent
      | _ => cases files
  | _ => cases files

/-- A step is announced when its result was opened, and at no other time. -/
theorem Proper.announces (proper : exchange.Proper setting) :
    (announcements exchange.events).map (·.executionId) = exchange.opened?.toList := by
  cases proper with
  | @recorded frame outcome answer? result asked => cases answer? <;> rfl
  | @silent frame? call reply isSilent => cases call <;> first | rfl | cases isSilent
  | _ => rfl

theorem announced {exchanges : List Exchange}
    (proper : ∀ exchange ∈ exchanges, exchange.Proper setting) :
    (announcements (exchanges.flatMap events)).map (·.executionId) =
      exchanges.filterMap opened? := by
  induction exchanges with
  | nil => rfl
  | cons exchange rest induction =>
      have before := (proper exchange List.mem_cons_self).announces
      have after := induction fun other member => proper other (List.mem_cons_of_mem _ member)
      rw [List.flatMap_cons, announcements_append, List.map_append, before, after]
      cases opened : exchange.opened? <;> simp [opened]

/-- What is filed is accepted if a result was opened for it, and refused otherwise. -/
def Accepted (exchanges : List Exchange) : Prop :=
  ∀ front exchange back executionId, exchanges = front ++ exchange :: back →
    exchange.files = true → exchange.executionId? = some executionId →
    exchange.reply.isOk = front.any (·.opens executionId)

theorem Accepted.front {exchanges more : List Exchange} (accepted : Accepted (exchanges ++ more)) :
    Accepted exchanges := by
  intro front exchange back executionId split
  exact accepted front exchange (back ++ more) executionId (by simp [split])

/-- What a report holds if no id is used twice. -/
structure Collects (exchanges : List Exchange) (report : Report) : Prop where
  keys : report.results.keys = exchanges.filterMap opened?
  filed : report.filed.Perm (exchanges.filterMap filed?)

variable {exchanges : List Exchange} {report : Report}

theorem Collects.stay (collects : Collects exchanges report) (unopened : exchange.opened? = none)
    (unfiled : exchange.filed? = none) : Collects (exchanges ++ [exchange]) report := by
  constructor
  · rw [List.filterMap_append, List.filterMap_cons_none unopened, List.filterMap_nil,
      List.append_nil]
    exact collects.keys
  · rw [List.filterMap_append, List.filterMap_cons_none unfiled, List.filterMap_nil,
      List.append_nil]
    exact collects.filed

theorem Collects.update (collects : Collects exchanges report) {change : Report.Change}
    {changed : String} {update : StepResult → StepResult}
    (applies : report.apply change = report.updateStep changed update)
    (gains : ∀ result,
      (update result).evaluations = result.evaluations ++ exchange.filed?.toList)
    (known : (report.step? changed).isSome = true ∨ exchange.filed?.toList = [])
    (unopened : exchange.opened? = none) :
    Collects (exchanges ++ [exchange]) (report.amend change) := by
  constructor
  · rw [Report.keys_amend_update applies, List.filterMap_append,
      List.filterMap_cons_none unopened, List.filterMap_nil, List.append_nil]
    exact collects.keys
  · refine (Report.filed_amend_update applies gains known).trans ?_
    have more : [exchange].filterMap filed? = exchange.filed?.toList := by
      cases filed : exchange.filed? <;> simp [filed]
    rw [List.filterMap_append, more]
    exact collects.filed.append_right _

/-- A result that is opened comes last, and what is filed is added. -/
theorem Proper.collects (proper : exchange.Proper setting)
    (collects : Collects exchanges report)
    (fresh : ∀ executionId, exchange.opened? = some executionId →
      executionId ∉ exchanges.filterMap opened?)
    (accepted : exchange.files = true → ∀ executionId, exchange.executionId? = some executionId →
      exchange.reply.isOk = (report.step? executionId).isSome) :
    Collects (exchanges ++ [exchange]) (report.write exchange.changes) := by
  cases proper with
  | @recorded frame outcome answer? result asked =>
      have known := accepted rfl frame.executionId rfl
      cases result with
      | error error => cases answer? <;> exact collects.stay rfl rfl
      | ok done =>
          cases answer? <;>
            exact collects.update rfl (fun result => rfl) (.inl known.symm) rfl
  | @asked frame request answer result _ =>
      cases result with
      | error error => exact collects.stay rfl rfl
      | ok done =>
          exact collects.update rfl (fun result => (List.append_nil _).symm) (.inr rfl) rfl
  | @finished frame moment result =>
      cases result with
      | error error => exact collects.stay rfl rfl
      | ok done =>
          exact collects.update rfl (fun result => (List.append_nil _).symm) (.inr rfl) rfl
  | @begun _ _ _ moment executionId stepId name kind _ =>
      have absent := fresh executionId rfl
      rw [← collects.keys] at absent
      let opened := StepResult.opened executionId stepId name kind moment
      have isNew : opened.executionId ∉ report.results.keys := absent
      rcases Report.amend_open isNew rfl with ⟨keys, filed⟩
      constructor
      · refine keys.trans ?_
        rw [List.filterMap_append, collects.keys]
        rfl
      · refine (List.Perm.of_eq filed).trans ?_
        rw [List.filterMap_append]
        exact (List.append_nil (exchanges.filterMap filed?)).symm ▸ collects.filed
  | @silent frame? call reply isSilent =>
      cases call <;> first | exact collects.stay rfl rfl | cases isSilent
  | _ => exact collects.stay rfl rfl

theorem collects_of_written (proper : ∀ exchange ∈ exchanges, exchange.Proper setting)
    (accepted : Accepted exchanges) (distinct : (exchanges.filterMap opened?).Nodup)
    (empty : report.results = []) :
    Collects exchanges (report.write (exchanges.flatMap changes)) := by
  have unopened (executionId : String) : report.step? executionId = none := by
    simp [Report.step?, empty]
  -- From the back, since whether a call is accepted depends on all the calls before it.
  induction exchanges using List.reverseRecOn with
  | nil => exact ⟨by simp [empty, Entries.keys], by simp [Report.filed, empty]⟩
  | append_singleton earlier exchange induction =>
      have before : ∀ other ∈ earlier, other.Proper setting := fun other member =>
        proper other (List.mem_append_left _ member)
      rw [List.filterMap_append] at distinct
      have collects := induction before accepted.front (List.nodup_append.mp distinct).1
      rw [List.flatMap_append, List.flatMap_singleton, Report.write_append]
      refine (proper exchange (by simp)).collects collects ?_ ?_
      · intro executionId opened member
        have again : executionId ∈ [exchange].filterMap opened? := by simp [opened]
        exact (List.nodup_append.mp distinct).2.2 executionId member executionId again rfl
      · intro files executionId active
        rw [accepted earlier exchange [] executionId rfl files active]
        exact (isSome_of_written before (unopened executionId)).symm

end Exchange

open Exchange in
/-- What a report keeps of the calls of a run. -/
structure Kept (setting : Setting) (exchanges : List Exchange) (report : Report) : Prop where
  proper : ∀ exchange ∈ exchanges, exchange.Proper setting
  opened : ∀ executionId, (report.step? executionId).isSome =
    exchanges.any (·.opens executionId)
  accepted : Accepted exchanges
  /-- What is under an id: all that was filed for it since it was opened, and the last answer
  to a question of that execution itself. -/
  results : ∀ executionId result, report.step? executionId = some result →
    ∃ back, Since executionId exchanges back ∧
      result.evaluations = back.filterMap (evaluation? executionId) ∧
      result.response = (back.filterMap (answer? executionId)).getLast?
  collects : (exchanges.filterMap opened?).Nodup → Collects exchanges report

variable {ρ : Type} [Renderer ρ] {setting : Setting} {retests : Nat}

/-- What is shown is what the calls show. -/
theorem Overheard.shows {course last : Course} {surroundings final : Surroundings ρ}
    {hearings : List (Hearing ρ setting retests)}
    (overheard : Overheard course surroundings hearings last final) :
    Renderer.Shows surroundings.renderer
      ((hearings.flatMap Hearing.exchanges).flatMap Exchange.events) final.renderer := by
  rcases overheard.deeds with ⟨deeds, leads, isOwn, heard⟩
  have shows := leads.shows fun deed member => Effect.IsOwn.shows (isOwn deed member)
  rw [← unlogged_events, heard, List.flatMap_assoc] at shows
  exact shows

open Exchange in
theorem Overheard.kept {course last : Course} {surroundings final : Surroundings ρ}
    {hearings : List (Hearing ρ setting retests)} {report : Report}
    (overheard : Overheard course surroundings hearings last final)
    (known : surroundings.own setting.runId = some report) (empty : report.results = []) :
    ∃ later, final.own setting.runId = some later ∧
      Kept setting (hearings.flatMap Hearing.exchanges) later := by
  have proper : ∀ exchange ∈ hearings.flatMap Hearing.exchanges, exchange.Proper setting := by
    intro exchange member
    rcases List.mem_flatMap.mp member with ⟨hearing, -, isCall⟩
    exact hearing.proper exchange isCall
  have unopened (executionId : String) : report.step? executionId = none := by
    simp [Report.step?, empty]
  have own := overheard.own known
  rcases overheard.deeds with ⟨deeds, leads, isOwn, heard⟩
  generalize hearings.flatMap Hearing.exchanges = exchanges at *
  have accepted : Accepted exchanges := by
    intro front exchange back executionId split files active
    rcases (proper exchange (by simp [split])).tries files active with
      ⟨before, change, result, last, silent, replies, accepts⟩
    have divided : unlogged deeds = (front.flatMap Exchange.deeds ++ before) ++
        ⟨.changeReport setting.runId change, result⟩ :: back.flatMap Exchange.deeds := by
      rw [heard, split]
      simp [last]
    rcases unlogged_split divided with ⟨earlier, later, whole, unloggedEarlier⟩
    rw [whole] at leads isOwn
    have replied := leads.replied known fun deed member =>
      isOwn deed (List.mem_append_left _ member)
    have changes : earlier.filterMap Deed.change? = front.flatMap Exchange.changes := by
      rw [← unlogged_changes, unloggedEarlier, List.filterMap_append, silent,
        List.append_nil, List.filterMap_flatMap]
      rfl
    have among : ∀ other ∈ front, other.Proper setting := fun other member =>
      proper other (by simp [split, member])
    rw [replies, replied, accepts, changes]
    exact isSome_of_written among (unopened executionId)
  exact ⟨_, own, proper, fun executionId => isSome_of_written proper (unopened executionId),
    accepted, fun executionId result found => since_of_written proper (unopened executionId) found,
    fun distinct => collects_of_written proper accepted distinct empty⟩

end Triage
