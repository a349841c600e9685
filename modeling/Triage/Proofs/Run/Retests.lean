import Triage.Proofs.Run.Kept
import Triage.Proofs.Run.Story
import Triage.Proofs.Verdict

namespace Triage

open Surroundings

variable {ρ : Type} [Renderer ρ] {setting : Setting} {retests : Nat}

/-! ## The executions of one step -/

/-- Whether the step is executed again if that may be. -/
def Occasion.repeats (occasion : Occasion ρ) (setting : Setting) (retests : Nat) : Bool :=
  Walk.isRetested occasion.left (occasion.outcome setting retests).1.2

namespace Round

variable {node : NodeId} {profile : Profile} {left : Nat} {round : List (Occasion ρ)}

theorem node_eq (isRound : Round setting retests node profile left round) :
    ∀ occasion ∈ round, occasion.node = node := by
  induction isRound with
  | last isLast => simp
  | again repeats goesOn induction =>
      intro occasion member
      rcases List.mem_cons.mp member with rfl | member
      · rfl
      · exact induction occasion member

/-- Each execution may be repeated once less than the one before. -/
theorem left_eq (isRound : Round setting retests node profile left round) {index : Nat}
    {occasion : Occasion ρ} (found : round[index]? = some occasion) :
    occasion.left + index = left := by
  induction isRound generalizing index with
  | last isLast =>
      cases index with
      | zero =>
          cases found
          rfl
      | succ index => cases found
  | again repeats goesOn induction =>
      cases index with
      | zero =>
          cases found
          rfl
      | succ index =>
          have before := induction found
          omega

theorem ends (isRound : Round setting retests node profile left round) :
    ∃ repeated last, round = repeated ++ [last] ∧ last.repeats setting retests = false ∧
      ∀ occasion ∈ repeated, occasion.repeats setting retests = true := by
  induction isRound with
  | last isLast => exact ⟨[], _, rfl, isLast, by simp⟩
  | again repeats goesOn induction =>
      rcases induction with ⟨repeated, last, rfl, isLast, others⟩
      refine ⟨_ :: repeated, last, rfl, isLast, fun occasion member => ?_⟩
      rcases List.mem_cons.mp member with rfl | member
      · exact repeats
      · exact others occasion member

end Round

/-- The executions of one step belong to rounds of that step. -/
theorem Round.filter {rounds : List (List (Occasion ρ))}
    (areRounds : ∀ round ∈ rounds, ∃ node profile,
      Round setting retests node profile retests round) (id : NodeId) :
    ∃ chosen : List (List (Occasion ρ)),
      rounds.flatten.filter (·.node == id) = chosen.flatten ∧
        ∀ round ∈ chosen, ∃ profile, Round setting retests id profile retests round := by
  induction rounds with
  | nil => exact ⟨[], rfl, by simp⟩
  | cons round rest induction =>
      rcases areRounds round List.mem_cons_self with ⟨node, profile, isRound⟩
      rcases induction fun other member => areRounds other (List.mem_cons_of_mem _ member) with
        ⟨chosen, filtered, areChosen⟩
      rw [List.flatten_cons, List.filter_append, filtered]
      by_cases same : node = id
      · have all : round.filter (·.node == id) = round :=
          List.filter_eq_self.mpr fun occasion member => by
            simp [isRound.node_eq occasion member, same]
        refine ⟨round :: chosen, by rw [all, List.flatten_cons], fun other member => ?_⟩
        rcases List.mem_cons.mp member with rfl | member
        · exact ⟨profile, same ▸ isRound⟩
        · exact areChosen other member
      · have none : round.filter (·.node == id) = [] :=
          List.filter_eq_nil_iff.mpr fun occasion member => by
            simp [isRound.node_eq occasion member, same]
        exact ⟨chosen, by rw [none, List.nil_append], areChosen⟩

/-- If all but the last of some executions of a step are repeated, they are one round. -/
theorem Round.single {rounds : List (List (Occasion ρ))} {id : NodeId}
    (areRounds : ∀ round ∈ rounds, ∃ profile, Round setting retests id profile retests round)
    {repeated : List (Occasion ρ)} {last : Occasion ρ} (split : rounds.flatten = repeated ++ [last])
    (repeats : ∀ occasion ∈ repeated, occasion.repeats setting retests = true) :
    ∃ profile, Round setting retests id profile retests rounds.flatten := by
  cases rounds with
  | nil => simp at split
  | cons first rest =>
      rcases areRounds first List.mem_cons_self with ⟨profile, isRound⟩
      rcases isRound.ends with ⟨before, isLast, ends, ended, -⟩
      -- The end of a round is not repeated, so no other execution can come after it.
      have done : rest.flatten = [] := by
        by_contra more
        have front := congrArg List.dropLast split
        rw [List.flatten_cons, List.dropLast_append_of_ne_nil more, List.dropLast_concat] at front
        have again := repeats isLast (by simp [← front, ends])
        rw [ended] at again
        cases again
      rw [List.flatten_cons, done, List.append_nil]
      exact ⟨profile, isRound⟩

/-! ## Whether an execution is repeated -/

/-- Whether an execution asks for another one: it was completed, and a retest is among the
answers that are noted in the frame that it left in place. -/
def Attempt.asksAgain (attempt : Attempt) : Bool :=
  attempt.ending.isCompleted &&
    attempt.frame.any fun frame => frame.responses.contains .retest

namespace Hearing

variable (hearing : Hearing ρ setting retests)

theorem outcome_result : (hearing.occasion.outcome setting retests).1.2 = hearing.result := by
  rw [hearing.outcome_eq]

theorem repeats_eq : hearing.occasion.repeats setting retests = hearing.attempt.retested := by
  rw [Occasion.repeats, hearing.outcome_result]
  rfl

theorem fresh : hearing.frame.IsFresh := by
  rcases hearing.performed.fresh with ⟨suffix, same⟩
  rw [same]
  exact Operator.frameFor_fresh _ _ _

/-- The answers in the frame that a step leaves in place are those that came since the frame
was put there. -/
theorem responses {frame : Frame Planned} (active : hearing.worked.frame = some frame) :
    frame.responses = (Walk.recent hearing.said).flatMap Exchange.noted ∧
      frame.retestRequested = frame.responses.contains .retest := by
  by_cases ordinary : ∀ exchange ∈ hearing.said, exchange.call.isOrdinary = true
  · rcases hearing.worked_inPlace.own ordinary with ⟨kept, found, keeps⟩
    rw [active] at found
    cases found
    have responses : frame.responses = hearing.said.flatMap Exchange.noted := by
      rw [keeps.responses, hearing.fresh.responses, List.nil_append]
    refine ⟨by rw [Walk.recent_of_ordinary ordinary, responses], ?_⟩
    rw [keeps.retestRequested, hearing.fresh.retestRequested, Bool.false_or, responses]
  · simp only [not_forall, Bool.not_eq_true] at ordinary
    rcases ordinary with ⟨exchange, member, replacing⟩
    exact (hearing.worked_inPlace.other exchange member replacing frame active).2

/-- Unless an error ends the run, an execution is repeated if it asks for that and may be. -/
theorem retested_eq {frame? : Option (Frame Planned)} (came : hearing.result = .ok frame?) :
    hearing.attempt.retested = (hearing.attempt.asksAgain && 0 < hearing.occasion.left) := by
  -- The engine looks at the frame that is handed back when the step is ended, which is the one
  -- that the step left in place.
  have left := exec_meets (Walk.leave_meets hearing.setting_eq hearing.frame.executionId
    hearing.ending) hearing.played
  rw [hearing.leaves] at left
  have goesOn := left frame? came
  show Walk.isRetested hearing.occasion.left hearing.result = _
  rw [came]
  cases frame? with
  | none =>
      have halted : hearing.ending.isCompleted = false := goesOn
      simp [Walk.isRetested, Attempt.asksAgain, attempt, Walk.attemptOf, halted]
  | some frame =>
      rcases goesOn with ⟨completed, active⟩
      simp [Walk.isRetested, Attempt.asksAgain, attempt, Walk.attemptOf, completed, active,
        (hearing.responses active).2, Frame.map]

/-- What a step is told about its last execution, as long as its frame is in place; there is
no other one for a frame that was put in its place. -/
theorem final {front back : List Exchange} {frame? : Option (Frame Profile)}
    {reply : Except RunError Bool} {deeds : List Deed}
    (split : hearing.said = front ++ ⟨frame?, .isFinalAttempt, reply, deeds⟩ :: back) :
    reply = .ok (hearing.occasion.left == 0 ||
      front.any fun exchange => !exchange.call.isOrdinary) := by
  have member : ⟨frame?, .isFinalAttempt, reply, deeds⟩ ∈ hearing.exchanges := by
    simp [exchanges, split]
  have inPlace := hearing.said_inPlace split
  cases hearing.proper _ member with
  | judged =>
      congr 1
      by_cases ordinary : ∀ exchange ∈ front, exchange.call.isOrdinary = true
      · rcases inPlace.own ordinary with ⟨kept, found, keeps⟩
        have unreplaced : (front.any fun exchange => !exchange.call.isOrdinary) = false := by
          simpa using ordinary
        simp only at found
        rw [found, unreplaced, Bool.or_false, Option.all_some, keeps.retestsLeft]
      · simp only [not_forall, Bool.not_eq_true] at ordinary
        rcases ordinary with ⟨exchange, isEarlier, replacing⟩
        have replaced : (front.any fun exchange => !exchange.call.isOrdinary) = true :=
          List.any_eq_true.mpr ⟨exchange, isEarlier, by simp [replacing]⟩
        rw [replaced, Bool.or_true]
        cases frame? with
        | none => rfl
        | some frame =>
            have left := (inPlace.other exchange isEarlier replacing frame rfl).1
            simp [left]
  | silent isSilent => cases isSilent

end Hearing

/-! ## How often each step is executed -/

/-- No execution of a run that comes to its end is ended by an error. -/
theorem Chain.results_ok {calls : Call → Prop} {course last : Course}
    {surroundings final : Surroundings ρ} {occasions : List (Occasion ρ)}
    (chain : Chain setting retests calls course surroundings occasions (.ok ()) last final) :
    ∀ occasion ∈ occasions, ∃ frame?, (occasion.outcome setting retests).1.2 = .ok frame? := by
  generalize completed : (Except.ok () : Except RunError Unit) = result at chain
  induction chain with
  | done => simp
  | @occasion first frame? _ _ _ _ _ _ performs ends _ induction =>
      intro occasion member
      rcases List.mem_cons.mp member with rfl | member
      · exact ⟨frame?, by rw [ends]⟩
      · exact induction completed occasion member
  | aborted => cases completed
  | attached _ _ induction => exact induction completed
  | logged _ induction => exact induction completed

/-- How often the steps of a run are executed, and what their executions have to do with it. -/
structure Repeats (course : Course)
    (hearings : List (Hearing ρ setting retests)) : Prop where
  attempts : course.attempts = hearings.map Hearing.attempt
  /-- Each step that is visited is executed until one execution does not ask for another one,
  but not more often than it may be. -/
  times : ∀ id ∈ course.route, course.timesOf id = min (retests + 1)
    ((course.attempts.filter (·.node == id)).findIdx (fun attempt => !attempt.asksAgain) + 1)
  /-- What counts are the answers that came since the frame was put in place. -/
  noted : ∀ hearing ∈ hearings, ∀ frame, hearing.attempt.frame = some frame →
    frame.responses = (Walk.recent hearing.said).flatMap Exchange.noted
  /-- An execution learns whether it is the last that may be, until it replaces its frame. -/
  final : ∀ id ∈ course.route, ∀ (index : Nat) (hearing : Hearing ρ setting retests),
    (hearings.filter (·.occasion.node == id))[index]? = some hearing →
    ∀ (front back : List Exchange) (frame? : Option (Frame Profile)) (reply : Except RunError Bool)
      (deeds : List Deed), hearing.said = front ++ ⟨frame?, .isFinalAttempt, reply, deeds⟩ :: back →
      reply = .ok (index == retests || front.any fun exchange => !exchange.call.isOrdinary)

theorem findIdx_concat {α : Type} {again : α → Bool} {repeated : List α} {last : α}
    (repeats : ∀ item ∈ repeated, again item = true) :
    (repeated ++ [last]).findIdx (fun item => !again item) =
      repeated.length + if again last then 1 else 0 := by
  have none : repeated.findIdx (fun item => !again item) = repeated.length := by
    rw [List.findIdx_eq_length]
    intro item member
    simp [repeats item member]
  rw [List.findIdx_append, none, if_neg (Nat.lt_irrefl _), Nat.add_comm]
  cases asks : again last <;> simp [asks]

/-- The executions of a step that is visited are one round. -/
theorem Traversal.round {base : Graph Profile} {course : Course}
    {hearings : List (Hearing ρ setting retests)} {rounds : List (List (Occasion ρ))}
    (traversal : Traversal base retests course)
    (attempts : course.attempts = hearings.map Hearing.attempt)
    (occasions : hearings.map Hearing.occasion = rounds.flatten)
    (areRounds : ∀ round ∈ rounds, ∃ node profile,
      Round setting retests node profile retests round) {id : NodeId}
    (visited : id ∈ course.route) :
    ∃ profile repeated last,
      hearings.filter (·.occasion.node == id) = repeated ++ [last] ∧
      Round setting retests id profile retests ((repeated ++ [last]).map Hearing.occasion) ∧
      (∀ hearing ∈ repeated, hearing.attempt.retested = true) ∧
      last.attempt.retested = false := by
  have executions : course.attempts.filter (·.node == id) =
      (hearings.filter (·.occasion.node == id)).map Hearing.attempt := by
    rw [attempts, List.filter_map]
    rfl
  have chosen : (hearings.filter (·.occasion.node == id)).map Hearing.occasion =
      rounds.flatten.filter (·.node == id) := by
    rw [← occasions, List.filter_map]
    rfl
  -- The rounds of the run give the count of retests that are left, the traversal gives the one
  -- execution of the step that is not repeated; so there is one round only.
  rcases Round.filter areRounds id with ⟨ownRounds, filtered, areOwn⟩
  rcases traversal.repeats id visited with ⟨before, ended, split, isLast, retested⟩
  rw [executions] at split
  rcases List.map_eq_append_iff.mp split with ⟨repeated, back, parts, rfl, backAttempt⟩
  rcases List.map_eq_singleton_iff.mp backAttempt with ⟨last, rfl, rfl⟩
  have again : ∀ hearing ∈ repeated, hearing.attempt.retested = true := fun hearing member =>
    (retested _ (List.mem_map_of_mem member)).1
  rw [filtered, parts] at chosen
  have together : ownRounds.flatten = repeated.map Hearing.occasion ++ [last.occasion] := by
    rw [← chosen, List.map_append]
    rfl
  have single := Round.single areOwn together fun occasion member => by
    rcases List.mem_map.mp member with ⟨hearing, isRepeated, rfl⟩
    rw [hearing.repeats_eq]
    exact again hearing isRepeated
  rw [← chosen] at single
  rcases single with ⟨profile, isRound⟩
  exact ⟨profile, repeated, last, parts, isRound, again, isLast⟩

/-- A round comes to its end with the first execution that does not ask for another one, or
with the last that may be. -/
theorem Round.length_eq {id : NodeId} {profile : Profile} {last : Hearing ρ setting retests}
    {repeated : List (Hearing ρ setting retests)}
    (isRound : Round setting retests id profile retests
      ((repeated ++ [last]).map Hearing.occasion))
    (again : ∀ hearing ∈ repeated, hearing.attempt.retested = true)
    (isLast : last.attempt.retested = false)
    (results : ∀ hearing ∈ repeated ++ [last], ∃ frame?, hearing.result = .ok frame?) :
    (repeated ++ [last]).length = min (retests + 1)
      ((repeated ++ [last]).findIdx (fun hearing => !hearing.attempt.asksAgain) + 1) := by
  have ended (hearing : Hearing ρ setting retests) (member : hearing ∈ repeated ++ [last]) :
      hearing.attempt.retested = (hearing.attempt.asksAgain && 0 < hearing.occasion.left) := by
    rcases results hearing member with ⟨frame?, came⟩
    exact hearing.retested_eq came
  have asks : ∀ hearing ∈ repeated, hearing.attempt.asksAgain = true := by
    intro hearing isRepeated
    have retested := again hearing isRepeated
    rw [ended hearing (List.mem_append_left _ isRepeated), Bool.and_eq_true] at retested
    exact retested.1
  have place : ((repeated ++ [last]).map Hearing.occasion)[repeated.length]? =
      some last.occasion := by simp
  have left := isRound.left_eq place
  have lastEnded := ended last (by simp)
  rw [isLast] at lastEnded
  rw [findIdx_concat asks, List.length_append, List.length_singleton]
  cases asksLast : last.attempt.asksAgain with
  | false =>
      simp only [Bool.false_eq_true, if_false]
      omega
  | true =>
      simp only [asksLast, Bool.true_and] at lastEnded
      have none : last.occasion.left = 0 := by simpa using lastEnded
      simp only [if_true]
      omega

theorem Repeats.of_traversal {base : Graph Profile} {course : Course}
    {hearings : List (Hearing ρ setting retests)} {rounds : List (List (Occasion ρ))}
    (traversal : Traversal base retests course)
    (attempts : course.attempts = hearings.map Hearing.attempt)
    (occasions : hearings.map Hearing.occasion = rounds.flatten)
    (areRounds : ∀ round ∈ rounds, ∃ node profile,
      Round setting retests node profile retests round)
    (results : ∀ hearing ∈ hearings, ∃ frame?, hearing.result = .ok frame?) :
    Repeats course hearings := by
  have round {id : NodeId} (visited : id ∈ course.route) :=
    traversal.round attempts occasions areRounds visited
  refine ⟨attempts, fun id visited => ?_, fun hearing member frame active => ?_,
    fun id visited index hearing found front back frame? reply deeds split => ?_⟩
  · rcases round visited with ⟨profile, repeated, last, parts, isRound, again, isLast⟩
    have executions : course.attempts.filter (·.node == id) =
        (repeated ++ [last]).map Hearing.attempt := by
      rw [attempts, List.filter_map]
      exact congrArg (List.map Hearing.attempt) parts
    have completed : ∀ hearing ∈ repeated ++ [last], ∃ frame?, hearing.result = .ok frame? := by
      intro hearing member
      rw [← parts] at member
      exact results hearing (List.mem_filter.mp member).1
    rw [Course.timesOf, List.countP_eq_length_filter, executions, List.length_map,
      List.findIdx_map]
    exact isRound.length_eq again isLast completed
  · rcases Option.map_eq_some_iff.mp active with ⟨kept, isKept, rfl⟩
    exact (hearing.responses isKept).1
  · rcases round visited with ⟨profile, repeated, last, parts, isRound, -, -⟩
    rw [parts] at found
    have place : ((repeated ++ [last]).map Hearing.occasion)[index]? = some hearing.occasion := by
      rw [List.getElem?_map, found]
      rfl
    have left := isRound.left_eq place
    rw [hearing.final split]
    congr 2
    rw [Bool.eq_iff_iff, beq_iff_eq, beq_iff_eq]
    omega

/-! ## What is left of each execution -/

open Exchange in
/-- Each execution has a result of its own, and all that was filed is in the report and counts,
whether or not the step was executed again. -/
structure Trail (hearings : List (Hearing ρ setting retests)) (report : Report) : Prop where
  distinct : (hearings.map (·.attempt.executionId)).Nodup
  keys : report.results.keys = (hearings.flatMap Hearing.exchanges).filterMap opened?
  own : ∀ hearing ∈ hearings, ∃ result, report.step? hearing.attempt.executionId = some result ∧
    (hearing.said ++ hearing.closing).filterMap (evaluation? hearing.attempt.executionId) <+:
      result.evaluations
  evaluations : (report.evaluations.map (·.2)).Perm
    ((hearings.flatMap Hearing.exchanges).filterMap filed?)
  totals : report.totals =
    .ofStatuses (((hearings.flatMap Hearing.exchanges).filterMap filed?).map (·.status))

theorem Exchange.Since.unique {executionId : String} {exchanges front back tail : List Exchange}
    {opener : Exchange} (distinct : (exchanges.filterMap Exchange.opened?).Nodup)
    (split : exchanges = front ++ opener :: tail) (opens : opener.opens executionId = true)
    (since : Exchange.Since executionId exchanges back) : back = tail := by
  rcases since with ⟨other, last, parts, opensLast, unopened⟩
  have same := split.symm.trans parts
  rcases List.append_eq_append_iff.mp same with ⟨between, rfl, rest⟩ | ⟨between, rfl, rest⟩
  · cases between with
    | nil => exact (List.cons.inj rest).2.symm
    | cons first between =>
        rcases List.cons.inj rest with ⟨rfl, rfl⟩
        rw [split, List.filterMap_append] at distinct
        have twice := (List.nodup_append.mp distinct).2.1
        rw [List.filterMap_cons_some (opens_iff.mp opens)] at twice
        refine absurd ?_ (List.nodup_cons.mp twice).1
        exact List.mem_filterMap.mpr ⟨last, by simp, opens_iff.mp opensLast⟩
  · cases between with
    | nil => exact (List.cons.inj rest).2
    | cons first between =>
        rcases List.cons.inj rest with ⟨rfl, rfl⟩
        have closed := unopened opener (by simp)
        rw [opens] at closed
        cases closed

theorem Hearing.opened_sublist (hearings : List (Hearing ρ setting retests)) :
    (hearings.map (·.attempt.executionId)).Sublist
      ((hearings.flatMap Hearing.exchanges).filterMap Exchange.opened?) := by
  induction hearings with
  | nil => exact .slnil
  | cons hearing rest induction =>
      rw [List.flatMap_cons, List.filterMap_append, List.map_cons]
      exact (induction.trans (List.sublist_append_right _ _)).cons_cons hearing.attempt.executionId

open Exchange in
theorem Kept.trail {hearings : List (Hearing ρ setting retests)} {report : Report}
    (kept : Kept setting (hearings.flatMap Hearing.exchanges) report)
    (distinct : ((hearings.flatMap Hearing.exchanges).filterMap opened?).Nodup) :
    Trail hearings report := by
  rcases kept.collects distinct with ⟨keys, filed⟩
  rw [← report.evaluations_filed] at filed
  refine ⟨distinct.sublist (Hearing.opened_sublist hearings), keys, fun hearing member => ?_, filed,
    ?_⟩
  · rcases List.append_of_mem member with ⟨before, after, split⟩
    let opener : Exchange :=
      ⟨none, .begin hearing.occasion.profile, .ok hearing.frame.executionId, hearing.opening⟩
    have opens : opener.opens hearing.attempt.executionId = true := opens_iff.mpr rfl
    have parts : hearings.flatMap Hearing.exchanges = before.flatMap Hearing.exchanges ++
        opener :: ((hearing.said ++ hearing.closing) ++ after.flatMap Hearing.exchanges) := by
      rw [split, List.flatMap_append, List.flatMap_cons]
      rfl
    have isSome := kept.opened hearing.attempt.executionId
    have wasOpened : (hearings.flatMap Hearing.exchanges).any
        (·.opens hearing.attempt.executionId) = true :=
      List.any_eq_true.mpr ⟨opener, by simp [parts], opens⟩
    rw [wasOpened] at isSome
    rcases Option.isSome_iff_exists.mp isSome with ⟨result, found⟩
    rcases kept.results _ result found with ⟨back, since, evaluations, -⟩
    refine ⟨result, found, ?_⟩
    rw [evaluations, since.unique distinct parts opens]
    exact (List.prefix_append _ _).filterMap _
  · have statuses : report.statuses = (report.evaluations.map (·.2)).map (·.status) := by
      rw [List.map_map]
      rfl
    rw [Report.totals, statuses]
    exact Totals.ofStatuses_perm (filed.map _)

/-- The totals of a run that came to its end. -/
def Sample.totalsOf : RunResult → Option Totals
  | .completed run => some run.report.totals
  | _ => none

namespace Engine

variable {engine : Engine} {mode : Mode} {request : Request} {name : String}
  {blueprint : Blueprint} {notes : List Json.Node} {graph : Graph Step} {course : Course}
  {surroundings final : Surroundings ρ}

/-- In a run that comes to its end, each step that is visited is executed until an execution
does not ask for another one, as often as may be at most. -/
theorem walk_repeats (built : blueprint.build name = (notes, .ok (.ok graph)))
    (walked : surroundings.exec (engine.walk setting graph) = ((course, .ok ()), final)) :
    ∃ (hearings : List (Hearing ρ setting engine.settings.retests)) (report : Report),
      engine.Unfolds setting graph (fun _ => True) surroundings (hearings.map Hearing.occasion)
        (.ok ()) course final ∧
      final.own setting.runId = some report ∧
      Renderer.Shows surroundings.renderer
        ((hearings.flatMap Hearing.exchanges).flatMap Exchange.events) final.renderer ∧
      Traversal graph.outline engine.settings.retests course ∧ Repeats course hearings ∧
      Kept setting (hearings.flatMap Hearing.exchanges) report := by
  rcases walk_rounds built (fun _ step _ => step.uses_any) walked with
    ⟨rounds, areRounds, moment, opened, reports, shows, chain⟩
  rcases walk_traversal built walked with ⟨-, -, traversal, -, -⟩
  have known := (filed_of_opened graph reports).own
  rcases chain.heard known with ⟨hearings, occasions, overheard⟩
  rcases overheard.kept known rfl with ⟨report, own, kept⟩
  have results : ∀ hearing ∈ hearings, ∃ frame?, hearing.result = .ok frame? := by
    intro hearing member
    rcases chain.results_ok hearing.occasion (occasions ▸ List.mem_map_of_mem member) with
      ⟨frame?, came⟩
    exact ⟨frame?, hearing.outcome_result.symm.trans came⟩
  have repeats := Repeats.of_traversal traversal overheard.attempts occasions areRounds results
  exact ⟨hearings, report, ⟨moment, opened, reports, shows, occasions ▸ chain⟩, own,
    shows.trans overheard.shows, traversal, repeats, kept⟩

/-- A run that comes to its end executes each step that it visits until an execution fails,
crashes or is completed without a retest among its answers, as often as may be at most. The
steps that are attached are those that the last execution of a step queued. If the executions
are told apart by their ids, the results of all of them stay in the report and count. -/
theorem runIn_repeats {after : Surroundings ρ} {run : Completed}
    (ran : surroundings.exec (engine.runIn mode request) = (.completed run, after)) :
    ∃ (registered : Registered) (graph : Graph Step) (setting : Setting) (course : Course)
      (prepared final : Surroundings ρ)
      (hearings : List (Hearing ρ setting engine.settings.retests)) (shown : List Event),
      engine.Admits mode request (surroundings.suffixes surroundings.drawn) registered graph
        setting ∧
      engine.Unfolds setting graph (fun _ => True) prepared (hearings.map Hearing.occasion)
        (.ok ()) course final ∧
      Renderer.Shows surroundings.renderer
        (shown ++ [.shown (.summary setting.runbook run.report.totals)]) after.renderer ∧
      Traversal graph.outline engine.settings.retests course ∧ Repeats course hearings ∧
      (((announcements shown).map (·.executionId)).Nodup → Trail hearings run.report) := by
  cases engine.admission mode request surroundings with
  | refused _ runs untouched =>
      rw [ran] at runs
      cases runs
  | crashed runs untouched =>
      rw [ran] at runs
      cases runs
  | @admitted registered graph setting prepared admits untouched runs =>
      have quiet := untouched.quiet.trans (.freshSuffix rfl)
      generalize { prepared with drawn := prepared.drawn + 1 } = begun at runs quiet
      rcases admits.built with ⟨notes, built⟩
      rcases walked : begun.exec (engine.walk setting graph) with ⟨⟨course, ended⟩, final⟩
      cases ended with
      | error error =>
          rcases walk_unfolds built (fun _ step _ => step.uses_any) walked with
            ⟨occasions, moment, opened, reports, -, chain⟩
          rcases chain.heard (filed_of_opened graph reports).own with ⟨hearings, -, overheard⟩
          have own := overheard.own (filed_of_opened graph reports).own
          rcases exec_execute walked own with ⟨moment, past, -, executed, -⟩
          rw [ran, executed] at runs
          cases runs
      | ok done =>
          rcases walk_repeats built walked with
            ⟨hearings, report, unfolds, own, shows, traversal, repeats, kept⟩
          rcases exec_execute walked own with ⟨moment, past, -, path, executed, summary⟩
          rw [ran, executed] at runs
          cases runs
          refine ⟨registered, graph, setting, course, begun, final, hearings,
            (hearings.flatMap Hearing.exchanges).flatMap Exchange.events, admits, unfolds,
            quiet.shows.trans (shows.trans summary), traversal, repeats, fun distinct => ?_⟩
          rw [Exchange.announced kept.proper] at distinct
          have trail := kept.trail distinct
          exact ⟨trail.distinct, trail.keys, trail.own, trail.evaluations, trail.totals⟩

open Sample in
/-- A step queues another one and records a failure, twice. -/
theorem runIn_repeats_queueing :
    let engine := library (pair (.enqueue (step "queued" .step .done) (.conclude full)) .done)
    ∃ run after, (answering ["r", "c"]).exec (engine.runIn .interactive Sample.request) =
        (.completed run, after) ∧
      (announcements after.renderer.events).map (·.name) =
        ["start", "first", "first", "queued", "second"] ∧
      run.report.totals = [(.failed, 2)] ∧
      ∃ (setting : Setting) (course : Course)
        (hearings : List (Hearing EventLog setting engine.settings.retests)),
        Repeats course hearings ∧ Trail hearings run.report := by
  intro engine
  let ended := (answering ["r", "c"]).exec (engine.runIn .interactive Sample.request)
  have distinct :
      ((announcements ended.2.renderer.events).map (·.executionId)).Nodup := by decide +kernel
  have names : (announcements ended.2.renderer.events).map (·.name) =
      ["start", "first", "first", "queued", "second"] := by decide +kernel
  have counted : totalsOf ended.1 = some [(.failed, 2)] := by decide +kernel
  rcases ran : ended with ⟨result, after⟩
  rw [ran] at distinct names counted
  cases result with
  | completed run =>
      rcases runIn_repeats ran with
        ⟨registered, graph, setting, course, prepared, final, hearings, shown, -, -, shows, -,
          repeats, trail⟩
      have events := EventLog.events_of_shows shows
      have all : after.renderer.events =
          shown ++ [.shown (.summary setting.runbook run.report.totals)] := by
        simpa [answering, EventLog.withAnswers] using events
      rw [all, announcements_append, List.map_append] at distinct
      exact ⟨run, after, ran, names, Option.some.inj counted, setting, course, hearings, repeats,
        trail (List.nodup_append.mp distinct).1⟩
  | failed error => cases counted
  | crashed message => cases counted

open Sample in
/-- A step that starts another one in its place is told at once that this is its last execution,
and is not executed again for the answer that it got before. -/
theorem retest_lost :
    let starting := pair (.invoke (.record full) fun _ =>
      .invoke (.begin ⟨"other", .step, some "other", none⟩) fun _ =>
      .invoke .isFinalAttempt fun isFinal =>
      .invoke (.inform (if isFinal then "last" else "not the last")) fun _ => .done) .done
    let engine := library starting
    let ended := (answering ["r"]).exec (engine.runIn .interactive Sample.request)
    engine.settings.retests = 3 ∧ totalsOf ended.1 = some [(.failed, 1)] ∧
      .asked .humanTask Operator.defaultTask .retest ∈ ended.2.renderer.events ∧
      .shown (.info "last") ∈ ended.2.renderer.events ∧
      (announcements ended.2.renderer.events).map (·.name) =
        ["start", "first", "other", "second"] := by
  intro starting engine ended
  exact ⟨rfl, by decide +kernel, by decide +kernel, by decide +kernel, by decide +kernel⟩

end Engine

end Triage
