import Triage.Proofs.Run.Surroundings

namespace Triage

/-! ## What a job does

Every effect with the reply to it, in order. -/

structure Deed where
  effect : Effect
  reply : effect.Reply

namespace Deed

def events (deed : Deed) : List Event :=
  deed.effect.events deed.reply

/-- A question and the answer to it. -/
def question? : Deed → Option (PromptRequest × PromptResponse)
  | ⟨.ask request, response⟩ => some (request, response)
  | _ => none

def answer? (deed : Deed) : Option PromptResponse :=
  deed.question?.map (·.2)

/-- A change that was made in a report. -/
def change? : Deed → Option Report.Change
  | ⟨.changeReport _ change, .ok ()⟩ => some change
  | _ => none

def isLog : Deed → Bool
  | ⟨.log _, _⟩ => true
  | _ => false

end Deed

/-- Without the lines that were logged. -/
def unlogged (deeds : List Deed) : List Deed :=
  deeds.filter (!·.isLog)

/-- Lines that are logged show nothing and change nothing. -/
theorem unlogged_events (deeds : List Deed) :
    (unlogged deeds).flatMap Deed.events = deeds.flatMap Deed.events := by
  induction deeds with
  | nil => rfl
  | cons deed rest induction =>
      rcases deed with ⟨effect, reply⟩
      cases effect with
      | log line => exact induction
      | _ => exact congrArg (_ ++ ·) induction

theorem unlogged_changes (deeds : List Deed) :
    (unlogged deeds).filterMap Deed.change? = deeds.filterMap Deed.change? := by
  rw [unlogged, List.filterMap_filter]
  congr 1
  funext deed
  rcases deed with ⟨effect, reply⟩
  cases effect <;> rfl

theorem unlogged_questions (deeds : List Deed) :
    (unlogged deeds).filterMap Deed.question? = deeds.filterMap Deed.question? := by
  rw [unlogged, List.filterMap_filter]
  congr 1
  funext deed
  rcases deed with ⟨effect, reply⟩
  cases effect <;> rfl

@[simp] theorem unlogged_append (first second : List Deed) :
    unlogged (first ++ second) = unlogged first ++ unlogged second :=
  List.filter_append ..

theorem unlogged_split {deeds front back : List Deed} {deed : Deed}
    (split : unlogged deeds = front ++ deed :: back) :
    ∃ earlier later, deeds = earlier ++ deed :: later ∧ unlogged earlier = front := by
  rcases List.filter_eq_append_iff.mp split with ⟨first, second, rfl, unloggedFirst, rest⟩
  rcases List.filter_eq_cons_iff.mp rest with ⟨lines, later, rfl, loggedAll, -, -⟩
  refine ⟨first ++ lines, later, by simp, ?_⟩
  rw [unlogged_append, unlogged, unloggedFirst, unlogged]
  simpa using loggedAll

namespace Surroundings

variable {ρ α β : Type} [Renderer ρ]

def deeds : Job α → Surroundings ρ → List Deed
  | .done _, _ => []
  | .perform effect next, surroundings =>
      ⟨effect, (handle effect surroundings).1⟩ ::
        deeds (next (handle effect surroundings).1) (handle effect surroundings).2

@[simp] theorem deeds_pure (value : α) (surroundings : Surroundings ρ) :
    surroundings.deeds (pure value : Job α) = [] := rfl

@[simp] theorem deeds_effect (effect : Effect) (surroundings : Surroundings ρ) :
    surroundings.deeds (Job.effect effect) = [⟨effect, (handle effect surroundings).1⟩] := rfl

@[simp] theorem deeds_bind (job : Job α) (continue_ : α → Job β) (surroundings : Surroundings ρ) :
    surroundings.deeds (job >>= continue_) =
      surroundings.deeds job ++
        (surroundings.exec job).2.deeds (continue_ (surroundings.exec job).1) := by
  induction job generalizing surroundings with
  | done value => rfl
  | perform effect next induction => exact congrArg (_ :: ·) (induction _ _)

/-- The answers to the questions of a job, in order. -/
def answers (job : Job α) (surroundings : Surroundings ρ) : List PromptResponse :=
  (surroundings.deeds job).filterMap Deed.answer?

theorem deeds_meets {admitted : Effect → Prop} {post : α → Prop} {job : Job α}
    (meets : job.Meets admitted post) (surroundings : Surroundings ρ) :
    ∀ deed ∈ surroundings.deeds job, admitted deed.effect := by
  induction job generalizing surroundings with
  | done value => simp [deeds]
  | perform effect next induction =>
      intro deed member
      rcases List.mem_cons.mp member with rfl | member
      · exact meets.1
      · exact induction _ (meets.2 _) _ deed member

/-- What a job does, and what it comes to. -/
structure Does (before : Surroundings ρ) (job : Job α) (deeds : List Deed) (value : α)
    (after : Surroundings ρ) : Prop where
  deeds : before.deeds job = deeds
  exec : before.exec job = (value, after)

namespace Does

variable {before middle after : Surroundings ρ} {job : Job α} {continue_ : α → Job β}
  {deeds more : List Deed} {value : α} {last : β}

theorem pure (value : α) (surroundings : Surroundings ρ) :
    surroundings.Does (pure value) [] value surroundings :=
  ⟨rfl, rfl⟩

theorem effect (effect : Effect) (surroundings : Surroundings ρ) :
    surroundings.Does (Job.effect effect) [⟨effect, (handle effect surroundings).1⟩]
      (handle effect surroundings).1 (handle effect surroundings).2 :=
  ⟨rfl, rfl⟩

theorem freshSuffix (surroundings : Surroundings ρ) :
    ∃ (suffix : String) (after : Surroundings ρ),
      surroundings.Does Job.freshSuffix [⟨.freshSuffix, suffix⟩] suffix after :=
  ⟨_, _, .effect .freshSuffix surroundings⟩

theorem now (surroundings : Surroundings ρ) :
    ∃ (moment : Instant) (after : Surroundings ρ),
      surroundings.Does Job.now [⟨.now, moment⟩] moment after :=
  ⟨_, _, .effect .now surroundings⟩

theorem ask (request : PromptRequest) (surroundings : Surroundings ρ) :
    ∃ (answer : PromptResponse) (after : Surroundings ρ),
      surroundings.Does (Job.ask request) [⟨.ask request, answer⟩] answer after :=
  ⟨_, _, .effect (.ask request) surroundings⟩

theorem changeReport (runId : String) (change : Report.Change) (surroundings : Surroundings ρ) :
    ∃ (result : Except ReportError Unit) (after : Surroundings ρ),
      surroundings.Does (Job.changeReport runId change) [⟨.changeReport runId change, result⟩]
        result after :=
  ⟨_, _, .effect (.changeReport runId change) surroundings⟩

theorem notify (notice : Notice) (surroundings : Surroundings ρ) :
    ∃ after, surroundings.Does (Job.notify notice) [⟨.notify notice, ()⟩] () after :=
  ⟨_, .effect (.notify notice) surroundings⟩

theorem bind (first : before.Does job deeds value middle)
    (rest : middle.Does (continue_ value) more last after) :
    before.Does (job >>= continue_) (deeds ++ more) last after where
  deeds := by rw [deeds_bind, first.deeds, first.exec, rest.deeds]
  exec := by rw [exec_bind, first.exec, rest.exec]

end Does

/-! Work that may fail. -/

theorem deeds_run_bind (action : Action α) (continue_ : α → Action β)
    (surroundings : Surroundings ρ) :
    surroundings.deeds (action >>= continue_).run =
      surroundings.deeds action.run ++
        match surroundings.exec action.run with
        | (.ok value, later) => later.deeds (continue_ value).run
        | (.error _, _) => [] := by
  have bound : surroundings.deeds (action >>= continue_).run =
      surroundings.deeds action.run ++ (surroundings.exec action.run).2.deeds
        (ExceptT.bindCont continue_ (surroundings.exec action.run).1) :=
    deeds_bind action.run _ surroundings
  rw [bound]
  rcases surroundings.exec action.run with ⟨error | value, later⟩ <;> rfl

theorem deeds_run_lift (job : Job α) (surroundings : Surroundings ρ) :
    surroundings.deeds (liftM job : Action α).run = surroundings.deeds job := by
  have bound : surroundings.deeds (liftM job : Action α).run =
      surroundings.deeds job ++ [] := deeds_bind job _ surroundings
  rw [bound, List.append_nil]

theorem deeds_run_pure (value : α) (surroundings : Surroundings ρ) :
    surroundings.deeds (pure value : Action α).run = [] := rfl

/-- What follows may do nothing. -/
theorem deeds_run_bind_silent {action : Action α} {continue_ : α → Action β}
    (silent : ∀ value (later : Surroundings ρ), later.deeds (continue_ value).run = [])
    (surroundings : Surroundings ρ) :
    surroundings.deeds (action >>= continue_).run = surroundings.deeds action.run := by
  rw [deeds_run_bind]
  rcases surroundings.exec action.run with ⟨error | value, later⟩
  · exact List.append_nil _
  · simp [silent]

/-! ## From one state to another -/

/-- The deeds lead from one state to the other. -/
inductive Leads : Surroundings ρ → List Deed → Surroundings ρ → Prop
  | refl (surroundings : Surroundings ρ) : Leads surroundings [] surroundings
  | deed {surroundings after : Surroundings ρ} {effect : Effect} {rest : List Deed}
      (onwards : Leads (handle effect surroundings).2 rest after) :
      Leads surroundings (⟨effect, (handle effect surroundings).1⟩ :: rest) after

theorem leads_deeds (job : Job α) (surroundings : Surroundings ρ) :
    surroundings.Leads (surroundings.deeds job) (surroundings.exec job).2 := by
  induction job generalizing surroundings with
  | done value => exact .refl _
  | perform effect next induction => exact .deed (induction _ _)

namespace Leads

variable {before middle after : Surroundings ρ} {deeds more : List Deed} {setting : Setting}
  {report : Report}

theorem append (first : before.Leads deeds middle) (second : middle.Leads more after) :
    before.Leads (deeds ++ more) after := by
  induction first with
  | refl => exact second
  | deed _ induction => exact .deed (induction second)

/-- The events are those of the deeds. -/
theorem shows (leads : before.Leads deeds after)
    (events : ∀ deed ∈ deeds, deed.effect.presents = false) :
    Renderer.Shows before.renderer (deeds.flatMap Deed.events) after.renderer := by
  induction leads with
  | refl => exact .refl _
  | @deed surroundings after effect rest _ induction =>
      have first := surroundings.handle_shows (events _ List.mem_cons_self)
      exact first.trans (induction fun deed member => events deed (List.mem_cons_of_mem _ member))

/-- What becomes of the report of a run, by the changes that were made. -/
theorem own (leads : before.Leads deeds after) (known : before.own setting.runId = some report)
    (isOwn : ∀ deed ∈ deeds, deed.effect.IsOwn setting) :
    after.own setting.runId = some (report.write (deeds.filterMap Deed.change?)) := by
  induction leads generalizing report with
  | refl => exact known
  | @deed surroundings after effect rest _ induction =>
      have admitted : effect.IsOwn setting := isOwn _ List.mem_cons_self
      have others : ∀ deed ∈ rest, deed.effect.IsOwn setting := fun deed member =>
        isOwn deed (List.mem_cons_of_mem _ member)
      cases stores : effect.stores with
      | false =>
          have same : (handle effect surroundings).2.own setting.runId = some report := by
            rw [Surroundings.own, handle_reports stores]
            exact known
          have none : (⟨effect, (handle effect surroundings).1⟩ : Deed).change? = none := by
            cases effect with
            | changeReport => cases stores
            | _ => rfl
          rw [List.filterMap_cons_none none]
          exact induction same others
      | true =>
          cases effect with
          | changeReport runId change =>
              obtain rfl : runId = setting.runId := admitted
              have handled : handle (.changeReport setting.runId change) surroundings = _ :=
                exec_changeReport known change
              rw [handled] at induction ⊢
              cases applied : report.apply change with
              | ok changed =>
                  simp only [applied] at induction ⊢
                  have written := induction own_withOwn others
                  rw [← Report.amend_of_apply applied] at written
                  exact written
              | error error =>
                  simp only [applied] at induction ⊢
                  exact induction known others
          | createReport | finishReport => cases admitted
          | _ => cases stores

theorem head {effect : Effect} {reply : effect.Reply}
    (leads : before.Leads (⟨effect, reply⟩ :: more) after) :
    (handle effect before).1 = reply ∧ (handle effect before).2.Leads more after := by
  generalize same : (⟨effect, reply⟩ :: more : List Deed) = all at leads
  cases leads with
  | refl => cases same
  | deed onwards =>
      cases same
      exact ⟨rfl, onwards⟩

theorem split (leads : before.Leads (deeds ++ more) after) :
    ∃ middle, before.Leads deeds middle ∧ middle.Leads more after := by
  induction deeds generalizing before with
  | nil => exact ⟨before, .refl before, leads⟩
  | cons deed rest induction =>
      cases leads with
      | deed onwards =>
          rcases induction onwards with ⟨middle, first, second⟩
          exact ⟨middle, .deed first, second⟩

/-- A change is accepted or refused by the report as it is at that time. -/
theorem replied {change : Report.Change} {result : Except ReportError Unit}
    (leads : before.Leads (deeds ++ ⟨.changeReport setting.runId change, result⟩ :: more) after)
    (known : before.own setting.runId = some report)
    (isOwn : ∀ deed ∈ deeds, deed.effect.IsOwn setting) :
    result.isOk = ((report.write (deeds.filterMap Deed.change?)).apply change).isOk := by
  rcases leads.split with ⟨middle, first, second⟩
  have handled : handle (.changeReport setting.runId change) middle = _ :=
    exec_changeReport (first.own known isOwn) change
  rw [← second.head.1, handled]
  cases (report.write (deeds.filterMap Deed.change?)).apply change <;> rfl

end Leads

/-! ## Answers that are given in advance -/

/-- What asks nothing takes no answer. -/
theorem answers_of_unasked {effect : Effect} {surroundings : Surroundings EventLog}
    (unasked : (⟨effect, (handle effect surroundings).1⟩ : Deed).question? = none) :
    (handle effect surroundings).2.renderer.answers = surroundings.renderer.answers := by
  cases presents : effect.presents with
  | true =>
      cases effect with
      | present presentation => rfl
      | _ => cases presents
  | false =>
      refine EventLog.answers_of_shows (handle_shows presents surroundings) ?_
      cases effect with
      | ask request => cases unasked
      | notify notice => simp [Effect.events, Event.isQuestion]
      | _ => simp [Effect.events]

/-- Every question takes the next answer, and nothing else takes one. -/
theorem Leads.answered {before after : Surroundings EventLog} {deeds : List Deed}
    (leads : before.Leads deeds after) :
    after.renderer.answers =
        before.renderer.answers.drop (deeds.filterMap Deed.question?).length ∧
      ∀ (index : Nat) (request : PromptRequest) (response : PromptResponse),
        (deeds.filterMap Deed.question?)[index]? = some (request, response) →
        response = request.read before.renderer.answers[index]? := by
  induction leads with
  | refl => simp
  | @deed surroundings after effect rest _ induction =>
      cases asks : (⟨effect, (handle effect surroundings).1⟩ : Deed).question? with
      | none =>
          rw [List.filterMap_cons_none asks]
          rw [answers_of_unasked asks] at induction
          exact induction
      | some question =>
          cases effect with
          | ask request =>
              have taken : (handle (.ask request) surroundings).2.renderer.answers =
                  surroundings.renderer.answers.tail := rfl
              rw [List.filterMap_cons_some asks]
              rw [taken] at induction
              refine ⟨by simpa using induction.1, fun index asked response found => ?_⟩
              cases index with
              | zero =>
                  cases asks
                  cases found
                  rw [← List.head?_eq_getElem?]
                  rfl
              | succ index =>
                  have later := induction.2 index asked response found
                  rwa [List.getElem?_tail] at later
          | _ => cases asks

end Surroundings

end Triage
