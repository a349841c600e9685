import Triage.Proofs.Run.Order

namespace Triage

open Walk

variable {ρ : Type} [Renderer ρ]

/-! ## The executions of a run, one after the other -/

/-- An execution of a step, with what it starts from. -/
structure Occasion (ρ : Type) where
  node : NodeId
  profile : Profile
  body : Body
  /-- How often the step may be executed again. -/
  left : Nat
  course : Course
  surroundings : Surroundings ρ

/-- How far the run is when the execution is over. -/
def Occasion.outcome (occasion : Occasion ρ) (setting : Setting) (retests : Nat) :
    Progress (Option (Frame Planned)) × Surroundings ρ :=
  occasion.surroundings.exec
    (attempt setting occasion.node occasion.profile (play setting retests occasion.body)
      occasion.left occasion.course)

/-- A part of a run: executions that follow one another, and in between nothing but
steps that are attached and lines that are logged. An error ends it. -/
inductive Chain (setting : Setting) (retests : Nat) (calls : Call → Prop) :
    Course → Surroundings ρ → List (Occasion ρ) → Except RunError Unit →
      Course → Surroundings ρ → Prop
  | done {course : Course} {surroundings : Surroundings ρ} :
      Chain setting retests calls course surroundings [] (.ok ()) course surroundings
  | occasion {occasion : Occasion ρ} {frame? : Option (Frame Planned)} {course last : Course}
      {surroundings final : Surroundings ρ} {rest : List (Occasion ρ)}
      {result : Except RunError Unit}
      (performs : occasion.body.Every calls fun _ => True)
      (ends : occasion.outcome setting retests = ((course, .ok frame?), surroundings))
      (goesOn : Chain setting retests calls course surroundings rest result last final) :
      Chain setting retests calls occasion.course occasion.surroundings (occasion :: rest) result
        last final
  | aborted {occasion : Occasion ρ} {error : RunError} {course : Course}
      {surroundings : Surroundings ρ} (performs : occasion.body.Every calls fun _ => True)
      (ends : occasion.outcome setting retests = ((course, .error error), surroundings)) :
      Chain setting retests calls occasion.course occasion.surroundings [occasion] (.error error)
        course surroundings
  | attached {course last : Course} {surroundings final : Surroundings ρ}
      {graph : Graph Profile} {rest : List (Occasion ρ)} {result : Except RunError Unit}
      (size_le : course.graph.size ≤ graph.size)
      (goesOn : Chain setting retests calls { course with graph := graph } surroundings rest result
        last final) :
      Chain setting retests calls course surroundings rest result last final
  | logged {course last : Course} {surroundings final : Surroundings ρ} {line : LogLine}
      {rest : List (Occasion ρ)} {result : Except RunError Unit}
      (goesOn : Chain setting retests calls course
        (Surroundings.handle (.log line) surroundings).2 rest result last final) :
      Chain setting retests calls course surroundings rest result last final

/-- The executions of a step that was visited: each one but the last is to be repeated. -/
inductive Round (setting : Setting) (retests : Nat) (node : NodeId) (profile : Profile) :
    (left : Nat) → List (Occasion ρ) → Prop
  | last {body : Body} {left : Nat} {course : Course} {surroundings : Surroundings ρ}
      (isLast : isRetested left (Occasion.outcome ⟨node, profile, body, left, course, surroundings⟩
        setting retests).1.2 = false) :
      Round setting retests node profile left [⟨node, profile, body, left, course, surroundings⟩]
  | again {body : Body} {left : Nat} {course : Course} {surroundings : Surroundings ρ}
      {rest : List (Occasion ρ)}
      (repeats : isRetested (left + 1) (Occasion.outcome
        ⟨node, profile, body, left + 1, course, surroundings⟩ setting retests).1.2 = true)
      (goesOn : Round setting retests node profile left rest) :
      Round setting retests node profile (left + 1)
        (⟨node, profile, body, left + 1, course, surroundings⟩ :: rest)

variable {setting : Setting} {retests : Nat} {calls : Call → Prop}

namespace Chain

variable {course middle last : Course} {surroundings between final : Surroundings ρ}
  {occasions more : List (Occasion ρ)} {result : Except RunError Unit}

theorem append
    (first : Chain setting retests calls course surroundings occasions (.ok ()) middle between)
    (second : Chain setting retests calls middle between more result last final) :
    Chain setting retests calls course surroundings (occasions ++ more) result last final := by
  generalize completed : (Except.ok () : Except RunError Unit) = ended at first
  induction first with
  | done => exact second
  | occasion performs ends _ induction => exact .occasion performs ends (induction second completed)
  | aborted => cases completed
  | attached size_le _ induction => exact .attached size_le (induction second completed)
  | logged _ induction => exact .logged (induction second completed)

end Chain

/-! ## What an execution leaves alone -/

theorem Body.Every.imp {calls wider : Call → Prop} {steps more : Step → Prop}
    (implies : ∀ call, calls call → wider call) (admits : ∀ step, steps step → more step) :
    ∀ body : Body, body.Every calls steps → body.Every wider more
  | .done, _ => by trivial
  | .fail _, _ => by trivial
  | .crash _, _ => by trivial
  | .call _ operation next, every =>
      ⟨implies operation every.1, fun reply =>
        Body.Every.imp implies admits (next reply) (every.2 reply)⟩
  | .queue _ child next, every =>
      ⟨admits child every.1, fun reply =>
        Body.Every.imp implies admits (next reply) (every.2 reply)⟩

namespace Walk

theorem exec_andThen {α β : Type} (part : Job (Progress α))
    (next : α → Course → Job (Progress β)) (surroundings : Surroundings ρ) :
    surroundings.exec (Progress.andThen part next) =
      match surroundings.exec part with
      | ((course, .ok value), later) => later.exec (next value course)
      | ((course, .error error), later) => ((course, .error error), later) := by
  rcases ended : surroundings.exec part with ⟨⟨course, error | value⟩, later⟩ <;>
    simp [Progress.andThen, ended]

/-- An execution leaves the tree as it is. -/
theorem outcome_graph (setting : Setting) (retests : Nat) {occasion : Occasion ρ}
    (performs : occasion.body.Every calls fun _ => True) :
    (occasion.outcome setting retests).1.1.graph = occasion.course.graph := by
  have queues : Queues setting (fun _ => True) (play setting retests occasion.body) :=
    play_queues occasion.body performs
  exact (Surroundings.exec_meets (attempt_meets queues occasion.node occasion.profile
    occasion.left occasion.course) occasion.surroundings).graph

end Walk

theorem Chain.size_le {course last : Course} {surroundings final : Surroundings ρ}
    {occasions : List (Occasion ρ)} {result : Except RunError Unit}
    (chain : Chain setting retests calls course surroundings occasions result last final) :
    course.graph.size ≤ last.graph.size := by
  induction chain with
  | done => exact Nat.le_refl _
  | occasion performs ends _ induction =>
      have same := outcome_graph setting retests performs
      rw [ends] at same
      exact same ▸ induction
  | aborted performs ends =>
      have same := outcome_graph setting retests performs
      rw [ends] at same
      exact Nat.le_of_eq (congrArg Graph.size same.symm)
  | attached size_le _ induction => exact Nat.le_trans size_le induction
  | logged _ induction => exact induction

namespace Walk

/-! ## Walks are chains of executions -/

def Chained (ρ : Type) [Renderer ρ] (setting : Setting) (retests : Nat) (calls : Call → Prop)
    (size : Nat) (_roots _domain : List NodeId) (walk : Walk) : Prop :=
  ∀ (course : Course) (surroundings : Surroundings ρ), size ≤ course.graph.size →
    ∃ rounds : List (List (Occasion ρ)),
      (∀ round ∈ rounds, ∃ node profile, Round setting retests node profile retests round) ∧
      Chain setting retests calls course surroundings rounds.flatten
        (surroundings.exec (walk course)).1.2 (surroundings.exec (walk course)).1.1
        (surroundings.exec (walk course)).2

variable {size : Nat} {roots others domain rest : List NodeId}

theorem chained_stay : Chained ρ setting retests calls size roots domain stay :=
  fun _ _ _ => ⟨[], by simp, .done⟩

theorem chained_followedBy {first second : Walk}
    (firstChained : Chained ρ setting retests calls size roots domain first)
    (secondChained : Chained ρ setting retests calls size others rest second) :
    Chained ρ setting retests calls size (roots ++ others) (domain ++ rest)
      (first.followedBy second) := by
  intro course surroundings enough
  rcases firstChained course surroundings enough with ⟨rounds, isRound, chain⟩
  rw [followedBy, exec_andThen]
  rcases ended : surroundings.exec (first course) with ⟨⟨middle, error | value⟩, between⟩
  · rw [ended] at chain
    exact ⟨rounds, isRound, chain⟩
  · rw [ended] at chain
    rcases secondChained middle between (Nat.le_trans enough chain.size_le) with
      ⟨more, areRounds, goesOn⟩
    refine ⟨rounds ++ more, fun round member => ?_, ?_⟩
    · exact (List.mem_append.mp member).elim (isRound round) (areRounds round)
    · rw [List.flatten_append]
      exact chain.append goesOn

theorem chained_all {queued : List Planned} {ids : List NodeId}
    (each : ∀ child ∈ queued, ∀ id ∈ ids,
      Chained ρ setting retests calls size [] [] (child.walk id)) :
    Chained ρ setting retests calls size [] [] (all (List.zipWith Planned.walk queued ids)) := by
  induction queued generalizing ids with
  | nil => exact chained_stay
  | cons child queued induction =>
      cases ids with
      | nil => exact chained_stay
      | cons id ids =>
          have others := induction fun other member number isNumber =>
            each other (List.mem_cons_of_mem _ member) number (List.mem_cons_of_mem _ isNumber)
          exact chained_followedBy (each child List.mem_cons_self id List.mem_cons_self) others

/-- One execution ends the run, or the run goes on from there. -/
theorem attempt_chained {body : Body} (performs : body.Every calls fun _ => True) {node : NodeId}
    {profile : Profile} {left : Nat} {course later : Course} {surroundings after : Surroundings ρ}
    {reply : Except RunError (Option (Frame Planned))}
    (ended : surroundings.exec (attempt setting node profile (play setting retests body) left
      course) = ((later, reply), after)) :
    let occasion : Occasion ρ := ⟨node, profile, body, left, course, surroundings⟩
    match reply with
    | .error error =>
        Chain setting retests calls course surroundings [occasion] (.error error) later after
    | .ok _ => ∀ (occasions : List (Occasion ρ)) (result : Except RunError Unit) (last : Course)
        (final : Surroundings ρ),
        Chain setting retests calls later after occasions result last final →
        Chain setting retests calls course surroundings (occasion :: occasions) result last
          final := by
  intro occasion
  have isBody : occasion.body.Every calls fun _ => True := performs
  have ends : occasion.outcome setting retests = ((later, reply), after) := ended
  cases reply with
  | error error => exact .aborted isBody ends
  | ok frame? => exact fun _ _ _ _ chain => .occasion isBody ends chain

theorem isRetested_outcome {body : Body} {node : NodeId} {profile : Profile} {left : Nat}
    {course later : Course} {surroundings after : Surroundings ρ}
    {reply : Except RunError (Option (Frame Planned))}
    (ended : surroundings.exec (attempt setting node profile (play setting retests body) left
      course) = ((later, reply), after)) :
    isRetested left (Occasion.outcome ⟨node, profile, body, left, course, surroundings⟩ setting
      retests).1.2 = isRetested left reply := by
  have outcome : Occasion.outcome ⟨node, profile, body, left, course, surroundings⟩ setting
      retests = ((later, reply), after) := ended
  rw [outcome]

/-- The executions of a step; what is queued in the last one comes back. -/
theorem attempts_chained (calls : Call → Prop) {executions : Nat → Body}
    (performs : ∀ index, (executions index).Every calls fun _ => True) (node : NodeId)
    (profile : Profile) (done left : Nat) (course : Course) (surroundings : Surroundings ρ) :
    let ended := surroundings.exec (attempts setting node profile
      (fun index => play setting retests (executions index)) done left course)
    ∃ round : List (Occasion ρ), Round setting retests node profile left round ∧
      Chain setting retests calls course surroundings round
        (ended.1.2.map fun _ => ()) ended.1.1 ended.2 := by
  -- On the count of executions that may follow, as the loop counts it down.
  induction left generalizing done course surroundings with
  | zero =>
      simp only [attempts]
      rw [exec_andThen]
      rcases ended : surroundings.exec (attempt setting node profile
        (play setting retests (executions done)) 0 course) with ⟨⟨later, error | frame?⟩, after⟩
      · exact ⟨_, .last (isRetested_outcome ended), attempt_chained (performs done) ended⟩
      · have isLast : isRetested 0 (.ok frame?) = false := by
          cases frame? <;> simp [isRetested]
        exact ⟨_, .last ((isRetested_outcome ended).trans isLast),
          attempt_chained (performs done) ended _ _ _ _ .done⟩
  | succ left induction =>
      simp only [attempts]
      rw [exec_andThen]
      rcases ended : surroundings.exec (attempt setting node profile
        (play setting retests (executions done)) (left + 1) course) with
        ⟨⟨later, error | frame?⟩, after⟩
      · exact ⟨_, .last (isRetested_outcome ended), attempt_chained (performs done) ended⟩
      · have goesOn := attempt_chained (performs done) ended
        cases frame? with
        | none => exact ⟨_, .last (isRetested_outcome ended), goesOn _ _ _ _ .done⟩
        | some frame =>
            have repeats := isRetested_outcome ended
            cases again : frame.retestRequested with
            | false =>
                simp only [again]
                simp only [isRetested, again, Bool.false_and] at repeats
                exact ⟨_, .last repeats, goesOn _ _ _ _ .done⟩
            | true =>
                simp only [again, if_true, Surroundings.exec_bind]
                simp only [isRetested, again, Bool.true_and, Nat.zero_lt_succ,
                  decide_true] at repeats
                rcases induction (done + 1) later (Surroundings.handle (.log
                  (.of .info "retesting step")) after).2 with ⟨round, isRound, chain⟩
                exact ⟨_, .again repeats isRound, goesOn _ _ _ _ (.logged chain)⟩

theorem chained_step {executions : Nat → Body} {node : NodeId} {profile : Profile}
    {before after : Walk}
    (performs : ∀ index, (executions index).Every calls fun _ => True)
    (queues : ∀ index, Queues setting
      (fun child => ∀ id, size ≤ id → Chained ρ setting retests calls size [] [] (child.walk id))
      (play setting retests (executions index)))
    (beforeChained : Chained ρ setting retests calls size [] [] before)
    (afterChained : Chained ρ setting retests calls size [] [] after) :
    Chained ρ setting retests calls size roots domain
      (step setting retests profile (fun index => play setting retests (executions index)) node
        before after) := by
  intro course surroundings enough
  rcases attempts_chained calls performs node profile 0 retests course surroundings with
    ⟨round, isRound, chain⟩
  have single : ∀ other ∈ [round], ∃ node profile,
      Round setting retests node profile retests other := by
    simpa using ⟨node, profile, isRound⟩
  have visited := Surroundings.exec_meets
    (attempts_meets queues node profile 0 retests course) surroundings
  rw [step, exec_andThen]
  rcases ended : surroundings.exec (attempts setting node profile
    (fun index => play setting retests (executions index)) 0 retests course) with
    ⟨⟨later, error | children?⟩, between⟩
  · rw [ended] at chain
    exact ⟨[round], single, List.flatten_singleton ▸ chain⟩
  · rw [ended] at chain visited
    have graph : later.graph = course.graph := visited.graph
    cases children? with
    | none => exact ⟨[round], single, List.flatten_singleton ▸ chain⟩
    | some children =>
        rcases visited.visit _ rfl with ⟨visit, -, -, -, -, -, good⟩
        have sizes := size_attachAll later.graph node children
        have grows : later.graph.size ≤ (attachAll later.graph node children).1.size := by omega
        rw [← graph] at enough
        have each : ∀ child ∈ children, ∀ id ∈ numbers later.graph children,
            Chained ρ setting retests calls size [] [] (child.walk id) :=
          fun child member id isNumber =>
            good child member id (Nat.le_trans enough (mem_numbers.mp isNumber).1)
        have walks := chained_all each
        rw [← walks_attachAll later.graph node] at walks
        have below := chained_followedBy beforeChained
          (chained_followedBy walks afterChained)
        rcases below { later with graph := (attachAll later.graph node children).1 } between
          (Nat.le_trans enough grows) with ⟨more, areRounds, goesOn⟩
        refine ⟨round :: more, fun other member => ?_, ?_⟩
        · rcases List.mem_cons.mp member with rfl | member
          · exact ⟨node, profile, isRound⟩
          · exact areRounds other member
        · rw [List.flatten_cons]
          exact chain.append (.attached grows goesOn)

/-- Every walk of a run is a chain of executions. -/
theorem chain_rule (tree : Graph Step) :
    Rule setting retests calls tree (Chained ρ setting retests calls tree.size) where
  stay := chained_stay
  followedBy first second _ := chained_followedBy first second
  step {profile executions node before after _ _ _ _} every beforeChained afterChained _ _ := by
    have performs : ∀ index, (executions index).Every calls fun _ => True := fun index =>
      (every index).imp (fun _ holds => holds) fun _ _ => trivial
    exact chained_step performs (fun index => play_queues _ (every index)) beforeChained
      afterChained

/-- The executions of a run, by the steps that were visited. -/
theorem through_rounds (setting : Setting) (retests : Nat) {tree : Graph Step} {start : Nat}
    (forest : tree.Forest)
    (started : tree.start = some start)
    (uses : ∀ id step, tree.step? id = some step → step.Uses calls)
    (surroundings : Surroundings ρ) :
    let ended := surroundings.exec (through setting retests tree)
    ∃ rounds : List (List (Occasion ρ)),
      (∀ round ∈ rounds, ∃ node profile, Round setting retests node profile retests round) ∧
      Chain setting retests calls ⟨setting.context.parameters, 0, tree.outline, []⟩ surroundings
        rounds.flatten ended.1.2 ended.1.1 ended.2 := by
  have inside := (forest.start_iff.mp started).1
  have chained : Chained ρ setting retests calls tree.size [start] tree.reachable
      (from_ setting retests tree tree.size start) :=
    (chain_rule tree).from_ forest uses tree.size start tree.reachable
      (forest.whole_reachable started) (forest.reachable_nodup started) inside
      (Nat.le_add_left _ _)
  have size : tree.size ≤ tree.outline.size := Nat.le_of_eq (tree.size_map _).symm
  unfold through
  rw [started]
  exact chained _ surroundings size

end Walk

end Triage
