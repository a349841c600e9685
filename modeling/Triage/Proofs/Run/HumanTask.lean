import Triage.Proofs.Run.Conduct
import Triage.Proofs.Run.Replies
import Triage.Step.Builtin

namespace Triage

open Surroundings Walk

/-- A part of a run that files results, and leaves the parameters and the tree as they were. -/
structure Course.Leaves {ρ : Type} (setting : Setting) (course : Course) (report : Report)
    (results : List StepResult) (later : Course) (after : Surroundings ρ) : Prop where
  own : after.own setting.runId = some (report.withResults results)
  parameters : later.parameters = course.parameters
  graph : later.graph = course.graph
  attempts : ∃ attempts, later.attempts = course.attempts ++ attempts ∧
    attempts.map (·.executionId) = results.map (·.executionId)

theorem Course.Leaves.trans {ρ : Type} {setting : Setting} {report : Report}
    {course middle later : Course} {between after : Surroundings ρ}
    {results more : List StepResult}
    (first : course.Leaves setting report results middle between)
    (second : middle.Leaves setting (report.withResults results) more later after) :
    course.Leaves setting report (results ++ more) later after := by
  rcases first.attempts with ⟨attempts, added, sameIds⟩
  rcases second.attempts with ⟨others, addedToo, sameIdsToo⟩
  refine ⟨?_, second.parameters.trans first.parameters, second.graph.trans first.graph,
    attempts ++ others, ?_, ?_⟩
  · rw [second.own, Report.withResults_append]
  · rw [addedToo, added, List.append_assoc]
  · rw [List.map_append, sameIds, sameIdsToo, List.map_append]

namespace HumanTask

variable (task : HumanTask) {ρ : Type} [Renderer ρ] {setting : Setting} {retests : Nat}

/-- What a person is asked. -/
def request : PromptRequest :=
  .humanTask task.instructions

/-- What is recorded in the end, by the last answer if a person was asked. -/
def verdict (setting : Setting) (answer? : Option PromptResponse) : Outcome :=
  let resource := task.resource.getD setting.project
  match answer? with
  | none => .skipped resource (task.check "is not performed in auto mode.")
  | some .continue | some .yes => .ok resource (task.check "was completed.")
  | some .retest => .skipped resource (task.check "was not completed; no retests are left.")
  | some other => .skipped resource (task.check s!"was not completed ({answerWord other}).")

theorem verdict_status (answer? : Option PromptResponse) :
    (task.verdict setting answer?).status =
      if answer? = some .continue ∨ answer? = some .yes then .ok else .skipped := by
  rcases answer? with - | answer
  · rfl
  · cases answer <;> rfl

theorem verdict_fine (answer? : Option PromptResponse) :
    (task.verdict setting answer?).status.isFailure = false := by
  rw [verdict_status]
  split <;> rfl

theorem verdict_filed (answer? : Option PromptResponse) :
    (task.verdict setting answer?).filed none =
      Operator.evaluationOf (task.verdict setting answer?) none false := by
  simp [Outcome.filed, Outcome.skips, verdict_fine]

/-! ## One execution -/

/-- An execution, which `left` others may follow, came to its end with an answer, or without one
where nobody is asked. -/
structure Tended (setting : Setting) (left : Nat) (start : Parameters)
    (answer? : Option PromptResponse) (last : Draft)
    (questions : List (PromptRequest × PromptResponse)) : Prop where
  asked : answer?.isSome = !setting.mode.isAuto
  questions : questions = answer?.toList.map (task.request, ·)
  parameters : last.parameters = start
  children : last.frame.children = []
  retestRequested : last.frame.retestRequested = (answer? == some .retest)
  /-- Nothing is recorded by an execution that will be repeated. -/
  evaluations : last.evaluations =
    if answer? = some .retest ∧ left ≠ 0 then []
    else [(task.verdict setting answer?).filed none]

variable {draft : Draft}

theorem conclude_asks (interactive : setting.mode.isAuto = false)
    (empty : draft.evaluations = []) (fresh : draft.frame.IsFresh) (answer : PromptResponse) :
    (task.conclude (task.resource.getD setting.project) answer).Asks ρ setting retests
      (draft.noted answer) fun last questions =>
        task.Tended setting draft.frame.retestsLeft draft.parameters (some answer) last
          ((task.request, answer) :: questions) := by
  have asked : (some answer).isSome = !setting.mode.isAuto := by simp [interactive]
  have requested : (draft.frame.note answer).retestRequested =
      (some answer == some .retest) := by
    simp [Frame.note, fresh.retestRequested]
  have recorded (settled : ¬(some answer = some .retest ∧ draft.frame.retestsLeft ≠ 0)) :
      (Body.conclude (task.verdict setting (some answer))).Asks ρ setting retests
        (draft.noted answer) fun last questions =>
          task.Tended setting draft.frame.retestsLeft draft.parameters (some answer) last
            ((task.request, answer) :: questions) := by
    refine Body.asks_record (task.verdict_fine _) (Body.asks_done
      ⟨asked, rfl, rfl, fresh.children, requested, ?_⟩)
    rw [if_neg settled, verdict_filed]
    exact congrArg (· ++ _) empty
  cases answer with
  | retest =>
      refine Body.asks_isFinalAttempt ?_
      show Body.Asks ρ setting retests (if (draft.frame.retestsLeft == 0) = true then _ else _) _ _
      by_cases final : draft.frame.retestsLeft = 0
      · rw [if_pos (beq_iff_eq.mpr final)]
        exact recorded fun repeats => repeats.2 final
      · rw [if_neg (mt beq_iff_eq.mp final)]
        refine Body.asks_done ⟨asked, rfl, rfl, fresh.children, requested, ?_⟩
        rw [if_pos ⟨rfl, final⟩]
        exact empty
  | _ => exact recorded (by simp)

/-- A person is asked once, or nobody is. -/
theorem body_asks (empty : draft.evaluations = []) (fresh : draft.frame.IsFresh) :
    task.body.Asks ρ setting retests draft fun last questions =>
      ∃ answer?, task.Tended setting draft.frame.retestsLeft draft.parameters answer? last
        questions := by
  refine Body.asks_setting ?_
  cases auto : setting.mode.isAuto with
  | true =>
      refine Body.asks_record rfl (Body.asks_done ⟨none, by simp [auto], rfl, rfl, fresh.children,
        fresh.retestRequested, ?_⟩)
      rw [if_neg (by simp)]
      exact congrArg (· ++ _) empty
  | false =>
      exact Body.asks_ask auto fun answer =>
        (task.conclude_asks auto empty fresh answer).imp fun _ _ tended => ⟨some answer, tended⟩

/-! ## All executions -/

/-- Only the last execution records something, and it is the last because nobody asked for
another one or no other one may follow. -/
structure Concluded (setting : Setting) (left : Nat) (repeated : List StepResult)
    (last : StepResult) (answer? : Option PromptResponse)
    (questions : List (PromptRequest × PromptResponse)) : Prop where
  asked : answer?.isSome = !setting.mode.isAuto
  questions : questions =
    (List.replicate repeated.length PromptResponse.retest ++ answer?.toList).map (task.request, ·)
  bound : repeated.length ≤ left
  exhausted : answer? = some .retest → repeated.length = left
  once : setting.mode.isAuto = true → repeated = []
  stepIds : ∀ result ∈ repeated ++ [last], result.stepId = task.step.profile.id
  silent : ∀ result ∈ repeated, result.evaluations = []
  evaluated : last.evaluations = [(task.verdict setting answer?).filed none]

variable {surroundings : Surroundings ρ} {report : Report}

theorem attempt_tended (retests : Nat) (node : NodeId) (done left : Nat) (course : Course)
    (known : surroundings.own setting.runId = some report) :
    ∃ draft result answer? later after,
      surroundings.exec (attempt setting node task.step.profile
        (play setting retests (task.step.executions done)) left course) =
          ((later, .ok (some draft.frame)), after) ∧
      course.Leaves setting report [result] later after ∧
      result.stepId = task.step.profile.id ∧ result.evaluations = draft.evaluations ∧
      task.Tended setting left course.parameters answer? draft (surroundings.questions (attempt
        setting node task.step.profile (play setting retests (task.step.executions done)) left
        course)) := by
  have asks (draft : Draft) (same : draft.parameters = course.parameters)
      (empty : draft.evaluations = []) (fresh : draft.frame.IsFresh)
      (counted : draft.frame.retestsLeft = left) :
      task.body.Asks ρ setting retests draft fun last questions => ∃ answer?,
        task.Tended setting left course.parameters answer? last questions :=
    same ▸ counted ▸ task.body_asks empty fresh
  rcases Occasion.completed ⟨node, task.step.profile, task.body, left, course, surroundings⟩ asks
    known with ⟨draft, result, later, after, completed, answer?, tended⟩
  rcases completed.attempts with ⟨attempt, attempts, sameId⟩
  exact ⟨draft, result, answer?, later, after, completed.outcome,
    ⟨completed.own, completed.parameters.trans tended.parameters, completed.graph, [attempt],
      attempts, congrArg ([·]) sameId⟩, completed.stepId, completed.evaluations, tended⟩

namespace Concluded

variable {task} {draft : Draft} {start : Parameters} {left : Nat} {result last : StepResult}
  {repeated : List StepResult} {answer? : Option PromptResponse}
  {questions more : List (PromptRequest × PromptResponse)}

theorem single (tended : task.Tended setting left start answer? draft questions)
    (stepId : result.stepId = task.step.profile.id)
    (evaluations : result.evaluations = draft.evaluations)
    (ends : answer? = some .retest → left = 0) :
    task.Concluded setting left [] result answer? questions where
  asked := tended.asked
  questions := tended.questions
  bound := Nat.zero_le left
  exhausted repeats := (ends repeats).symm
  once _ := rfl
  stepIds := by simpa using stepId
  silent := by simp
  evaluated := by
    rw [evaluations, tended.evaluations, if_neg]
    exact fun repeats => repeats.2 (ends repeats.1)

theorem again (tended : task.Tended setting (left + 1) start (some .retest) draft questions)
    (stepId : result.stepId = task.step.profile.id)
    (evaluations : result.evaluations = draft.evaluations)
    (concluded : task.Concluded setting left repeated last answer? more) :
    task.Concluded setting (left + 1) (result :: repeated) last answer? (questions ++ more) where
  asked := concluded.asked
  questions := by
    rw [tended.questions, concluded.questions]
    rfl
  bound := Nat.succ_le_succ concluded.bound
  exhausted repeats := congrArg (· + 1) (concluded.exhausted repeats)
  once auto := by
    have asked := tended.asked
    simp [auto] at asked
  stepIds := List.forall_mem_cons.mpr ⟨stepId, concluded.stepIds⟩
  silent := by
    refine List.forall_mem_cons.mpr ⟨?_, concluded.silent⟩
    rw [evaluations, tended.evaluations, if_pos ⟨rfl, Nat.succ_ne_zero left⟩]
  evaluated := concluded.evaluated

end Concluded

theorem attempts_concluded (retests : Nat) (node : NodeId) (done left : Nat) (course : Course)
    (known : surroundings.own setting.runId = some report) :
    ∃ repeated last answer? later after,
      let visit := attempts setting node task.step.profile
        (fun index => play setting retests (task.step.executions index)) done left course
      surroundings.exec visit = ((later, .ok (some [])), after) ∧
      course.Leaves setting report (repeated ++ [last]) later after ∧
      task.Concluded setting left repeated last answer? (surroundings.questions visit) := by
  let plays (index : Nat) : Execution := play setting retests (task.step.executions index)
  -- On the count of executions that may follow, as the loop counts it down.
  induction left generalizing done course surroundings report with
  | zero =>
      rcases task.attempt_tended retests node done 0 course known with
        ⟨draft, result, answer?, later, after, attempted, leaves, stepId, evaluations, tended⟩
      rcases Walk.attempts_last plays done attempted (.inl rfl) with ⟨ends, asked⟩
      rw [tended.children] at ends
      refine ⟨[], result, answer?, later, after, ends, leaves, ?_⟩
      rw [asked]
      exact Concluded.single tended stepId evaluations fun _ => rfl
  | succ left induction =>
      rcases task.attempt_tended retests node done (left + 1) course known with
        ⟨draft, result, answer?, later, after, attempted, leaves, stepId, evaluations, tended⟩
      cases again : draft.frame.retestRequested with
      | false =>
          have settled : answer? ≠ some .retest := fun repeats => by
            simpa [again, repeats] using tended.retestRequested
          rcases Walk.attempts_last plays done attempted (.inr again) with ⟨ends, asked⟩
          rw [tended.children] at ends
          refine ⟨[], result, answer?, later, after, ends, leaves, ?_⟩
          rw [asked]
          exact Concluded.single tended stepId evaluations fun repeats => absurd repeats settled
      | true =>
          have repeats : answer? = some .retest := by
            simpa [again] using tended.retestRequested.symm
          subst repeats
          rcases logging : after.exec (Job.log .info "retesting step") with ⟨_, logged⟩
          rcases induction (done + 1) later ((Quiet.log logging).own.trans leaves.own) with
            ⟨repeated, last, answer?, ended, past, others, left, concluded⟩
          rcases Walk.attempts_again plays done attempted again logging with ⟨goesOn, asked⟩
          refine ⟨result :: repeated, last, answer?, ended, past, goesOn.trans others,
            leaves.trans left, ?_⟩
          rw [asked]
          exact Concluded.again tended stepId evaluations concluded

/-! ## A visit to the step -/

/-- What comes of a visit to the step, where the answers to its question are these. -/
structure Visited (task : HumanTask) (setting : Setting) (retests : Nat)
    (reply : Nat → PromptResponse) (results : List StepResult)
    (questions : List (PromptRequest × PromptResponse)) : Prop where
  stepIds : ∀ result ∈ results, result.stepId = task.step.profile.id
  /-- All executions together record one evaluation, and the last one does. -/
  evaluated : ∃ repeated last evaluation, results = repeated ++ [last] ∧
    (∀ result ∈ repeated, result.evaluations = []) ∧ last.evaluations = [evaluation] ∧
    evaluation = (task.verdict setting
      (if setting.mode.isAuto then none else some (reply repeated.length))).filed none ∧
    evaluation.status =
      if setting.mode.isAuto = false ∧ reply repeated.length = .continue then .ok else .skipped
  auto : setting.mode.isAuto = true → results.length = 1 ∧ questions = []
  asked : setting.mode.isAuto = false →
    questions = (List.range results.length).map fun index => (task.request, reply index)
  /-- There is one execution more than there are answers that ask for one at first, as long as
  executions are left. -/
  length : setting.mode.isAuto = false → ∀ leading, (∀ index < leading, reply index = .retest) →
    (reply leading = .retest → retests ≤ leading) → results.length = min retests leading + 1

namespace Concluded

variable {task} {left : Nat} {repeated : List StepResult} {last : StepResult}
  {answer? : Option PromptResponse} {questions : List (PromptRequest × PromptResponse)}
  {reply : Nat → PromptResponse}

/-- All answers but the last one asked for another execution. -/
theorem replied (concluded : task.Concluded setting left repeated last answer? questions)
    (interactive : setting.mode.isAuto = false)
    (replies : questions =
      (List.range questions.length).map fun index => (task.request, reply index)) :
    answer? = some (reply repeated.length) ∧ ∀ index < repeated.length, reply index = .retest := by
  have asked := concluded.asked
  rw [interactive] at asked
  rcases Option.isSome_iff_exists.mp asked with ⟨answer, rfl⟩
  have given : List.replicate repeated.length .retest ++ [answer] =
      (List.range (repeated.length + 1)).map reply := by
    have answers := congrArg (List.map Prod.snd) replies
    simpa [concluded.questions, Function.comp_def] using answers
  rw [List.range_succ, List.map_append, List.map_singleton] at given
  rcases List.append_inj' given rfl with ⟨retested, same⟩
  refine ⟨congrArg some (List.singleton_inj.mp same), fun index before => ?_⟩
  have there := congrArg (·[index]?) retested
  simpa [before] using there.symm

theorem visited (concluded : task.Concluded setting left repeated last answer? questions)
    (offers : ∀ index, task.request.Offers (reply index))
    (replies : questions =
      (List.range questions.length).map fun index => (task.request, reply index)) :
    task.Visited setting left reply (repeated ++ [last]) questions := by
  have answered : answer? =
      if setting.mode.isAuto then none else some (reply repeated.length) := by
    cases auto : setting.mode.isAuto with
    | true =>
        have asked := concluded.asked
        simpa [auto] using asked
    | false => exact (concluded.replied auto replies).1
  refine ⟨concluded.stepIds, ⟨repeated, last, _, rfl, concluded.silent, concluded.evaluated,
    by rw [answered], ?_⟩, fun auto => ?_, fun interactive => ?_,
    fun interactive leading retested settled => ?_⟩
  · have reports := PromptRequest.offers_humanTask (offers repeated.length)
    show (task.verdict setting answer?).status = _
    rw [verdict_status, answered]
    cases setting.mode.isAuto with
    | true => rfl
    | false => revert reports; cases reply repeated.length <;> simp
  · rw [auto, if_pos rfl] at answered
    rw [concluded.questions, concluded.once auto, answered]
    exact ⟨rfl, rfl⟩
  · rw [interactive, if_neg Bool.false_ne_true] at answered
    have count : questions.length = (repeated ++ [last]).length := by
      simp [concluded.questions, answered]
    rw [← count]
    exact replies
  · rcases concluded.replied interactive replies with ⟨same, repeats⟩
    have bound := concluded.bound
    have exhausted := fun again : reply repeated.length = .retest =>
      concluded.exhausted (same.trans (congrArg some again))
    have reaches : repeated.length ≤ leading := by
      by_contra short
      have enough := settled (repeats leading (by omega))
      omega
    rw [List.length_append, List.length_singleton]
    rcases Nat.lt_or_eq_of_le reaches with before | rfl
    · have all := exhausted (retested repeated.length before)
      omega
    · omega

end Concluded

/-- However a run comes to the step, and whatever is answered: the executions of the step record
one evaluation, the last of them does, and then the run goes on behind the step. -/
theorem visit_concludes (task : HumanTask) (retests : Nat) (node : NodeId) (front back : Walk)
    (course : Course) (surroundings : Surroundings Display)
    (known : surroundings.own setting.runId = some report) :
    ∃ results questions later between,
      let visit := Walk.step setting retests task.step.profile
        (fun index => play setting retests (task.step.executions index)) node front back course
      surroundings.exec visit = between.exec (front.followedBy back later) ∧
      surroundings.questions visit =
        questions ++ between.questions (front.followedBy back later) ∧
      course.Leaves setting report results later between ∧
      task.Visited setting retests (Renderer.reply task.request surroundings.renderer) results
        questions := by
  rcases task.attempts_concluded retests node 0 retests course known with
    ⟨repeated, last, answer?, later, between, attempted, leaves, concluded⟩
  have queues (index : Nat) : Queues setting (fun _ => True)
      (play setting retests (task.step.executions index)) := play_queues _ (Body.every_any _)
  have meets := attempts_meets queues node task.step.profile 0 retests course
  let visit := attempts setting node task.step.profile
    (fun index => play setting retests (task.step.executions index)) 0 retests course
  have stays : ∀ deed ∈ surroundings.deeds visit, deed.effect.presents = false :=
    fun deed member => (deeds_meets meets surroundings deed member).shows
  have only : ∀ question ∈ surroundings.questions visit, question.1 = task.request := by
    rw [concluded.questions]
    exact List.forall_mem_map.mpr fun _ _ => rfl
  have replies := (leads_deeds visit surroundings).replies stays only
  refine ⟨repeated ++ [last], _, later, between, ?_, ?_, leaves, concluded.visited
    (Display.reply_offers _ _) replies⟩
  · rw [Walk.step, exec_andThen, attempted]
    rfl
  · rw [Walk.step, questions_andThen, attempted]
    rfl

end HumanTask

namespace Sample

def manual : HumanTask :=
  ⟨"Inspect the console", "Look for kernel panics.", none⟩

def attended : Setting :=
  { setting with mode := .interactive }

/-- A run is under way, and these answers are given in advance. -/
def listening (answers : List String) : Surroundings Display :=
  (Surroundings.opened (.events (.withAnswers answers)) surroundings.suffixes surroundings.clock
    surroundings.disk).withOwn attended.runId
      (.opened attended.runId attended.runbook [] attended.mode ⟨0, 0⟩)

end Sample

open Sample in
/-- A check that is repeated once and then carried out. -/
theorem HumanTask.visit_concludes_repeated :
    let reply := Renderer.reply manual.request (listening ["R", " c "]).renderer
    ∃ results questions, manual.Visited attended 3 reply results questions ∧
      questions = [(manual.request, .retest), (manual.request, .continue)] ∧
      results.map StepResult.statuses = [[], [.ok]] := by
  intro reply
  rcases manual.visit_concludes 3 1 stay stay ⟨[], 0, .empty, []⟩ (listening ["R", " c "])
    own_withOwn with ⟨results, questions, later, between, -, -, -, visited⟩
  have first : reply 0 = .retest := by decide
  have second : reply 1 = .continue := by decide
  have count : results.length = 2 := visited.length rfl 1 (by simpa using first)
    fun again => absurd (second.symm.trans again) (by decide)
  rcases visited.evaluated with ⟨repeated, last, evaluation, rfl, silent, evaluated, -, status⟩
  have single : repeated.length = 1 := by simpa using count
  rcases List.length_eq_one_iff.mp single with ⟨result, rfl⟩
  refine ⟨_, _, visited, ?_, ?_⟩
  · rw [visited.asked rfl, count]
    show [(manual.request, reply 0), (manual.request, reply 1)] = _
    rw [first, second]
  · have ok : evaluation.status = .ok := by
      rw [status]
      exact if_pos ⟨rfl, second⟩
    simp [StepResult.statuses, silent, evaluated, ok]

end Triage
