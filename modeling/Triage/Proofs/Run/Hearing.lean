import Mathlib.Data.List.DropRight
import Triage.Proofs.Run.Abort
import Triage.Proofs.Run.Exchange

namespace Triage

open Surroundings

variable {ρ : Type} [Renderer ρ] {setting : Setting} {retests : Nat}

namespace Walk

/-! ## The calls of a step -/

/-- The calls that a step makes, in order. -/
def exchanges (setting : Setting) (retests : Nat) :
    Body → Operator Planned → Surroundings ρ → List Exchange
  | .done, _, _ => []
  | .fail _, _, _ => []
  | .crash _, _, _ => []
  | .call _ call next, operator, surroundings =>
      let ended := surroundings.exec (operator.call Planned.profile call)
      operator.exchange Planned.profile call surroundings ::
        exchanges setting retests (next ended.1.2) ended.1.1 ended.2
  | .queue _ child next, operator, surroundings =>
      let queued := operator.queue child.profile (plan setting retests child)
      exchanges setting retests (next queued.2) queued.1 surroundings

/-- A step does nothing but by calls. -/
theorem deeds_play (setting : Setting) (retests : Nat) :
    ∀ (body : Body) (operator : Operator Planned) (surroundings : Surroundings ρ),
      unlogged (surroundings.deeds (play setting retests body operator)) =
        (exchanges setting retests body operator surroundings).flatMap Exchange.deeds
  | .done, _, _ => by
      simp only [play]
      rfl
  | .fail _, _, _ => by
      simp only [play]
      rfl
  | .crash _, _, _ => by
      simp only [play]
      rfl
  | .call _ call next, operator, surroundings => by
      simp only [play, deeds_bind, unlogged_append, exchanges, List.flatMap_cons]
      rw [deeds_play setting retests (next _)]
      rfl
  | .queue _ child next, operator, surroundings => by
      simp only [play, exchanges]
      exact deeds_play setting retests (next _) _ _

theorem exchanges_proper (setting : Setting) (retests : Nat) :
    ∀ (body : Body) (operator : Operator Planned) (surroundings : Surroundings ρ),
      operator.setting = setting →
      ∀ exchange ∈ exchanges setting retests body operator surroundings, exchange.Proper setting
  | .done, _, _, _ => by simp [exchanges]
  | .fail _, _, _, _ => by simp [exchanges]
  | .crash _, _, _, _ => by simp [exchanges]
  | .call _ call next, operator, surroundings, same => by
      intro exchange member
      rcases List.mem_cons.mp member with rfl | member
      · exact same ▸ operator.exchange_proper Planned.profile call surroundings
      · have follows := exec_meets (operator.call_meets Planned.profile call) surroundings
        exact exchanges_proper setting retests (next _) _ _ (follows.setting.trans same) exchange
          member
  | .queue _ child next, operator, surroundings, same => by
      have stays := Operator.queue_same
        (Eq.refl (operator.queue child.profile (plan setting retests child)))
      exact exchanges_proper setting retests (next _) _ _ (stays.setting.trans same)

/-! ## The frame in place -/

/-- The calls behind the last one that replaced the frame. -/
def recent (exchanges : List Exchange) : List Exchange :=
  exchanges.rtakeWhile fun exchange => exchange.call.isOrdinary

theorem recent_of_ordinary {exchanges : List Exchange}
    (ordinary : ∀ exchange ∈ exchanges, exchange.call.isOrdinary = true) :
    recent exchanges = exchanges :=
  List.rtakeWhile_eq_self_iff.mpr ordinary

theorem recent_concat (exchanges : List Exchange) (exchange : Exchange) :
    recent (exchanges ++ [exchange]) =
      if exchange.call.isOrdinary then recent exchanges ++ [exchange] else [] :=
  List.rtakeWhile_concat _ _ _

/-- What is in place after some calls of a step that was started under a frame: the same frame
with the answers that came, or if it was replaced one that knows only what came since. -/
structure InPlace {κ : Type} (frame : Frame Planned) (earlier : List Exchange)
    (frame? : Option (Frame κ)) : Prop where
  own : (∀ exchange ∈ earlier, exchange.call.isOrdinary = true) →
    ∃ kept, frame? = some kept ∧ frame.Keeps kept (earlier.flatMap Exchange.noted)
  other : ∀ exchange ∈ earlier, exchange.call.isOrdinary = false → ∀ kept, frame? = some kept →
    kept.retestsLeft = 0 ∧ kept.responses = (recent earlier).flatMap Exchange.noted ∧
      kept.retestRequested = kept.responses.contains .retest

namespace InPlace

variable {frame : Frame Planned} {earlier : List Exchange} {operator later : Operator Planned}

theorem begun : InPlace frame [] (some frame) :=
  ⟨fun _ => ⟨frame, rfl, .refl⟩, by simp⟩

theorem map {frame? : Option (Frame Planned)} (held : InPlace frame earlier frame?) :
    InPlace frame earlier (frame?.map (·.map Planned.profile)) where
  own ordinary := by
    rcases held.own ordinary with ⟨kept, rfl, keeps⟩
    exact ⟨_, rfl, by simpa using keeps.trans (.map Planned.profile)⟩
  other exchange member replacing kept active := by
    rcases Option.map_eq_some_iff.mp active with ⟨before, found, rfl⟩
    exact held.other exchange member replacing before found

/-- An ordinary call leaves the frame in place, with what is answered. -/
theorem call_of_ordinary (held : InPlace frame earlier operator.frame) {call : Call}
    (keepsFrame : call.isOrdinary = true) (surroundings : Surroundings ρ) :
    InPlace frame (earlier ++ [operator.exchange Planned.profile call surroundings])
      (surroundings.exec (operator.call Planned.profile call)).1.1.frame := by
  have kind :
      (operator.exchange Planned.profile call surroundings).call.isOrdinary = true := keepsFrame
  have stays :=
    (exec_meets (operator.ordinary_meets Planned.profile keepsFrame) surroundings).toStays
  have notes := exec_meets (operator.ordinary_notes Planned.profile keepsFrame) surroundings
  constructor
  · intro ordinary
    rcases held.own fun other member => ordinary other (List.mem_append_left _ member) with
      ⟨kept, active, keeps⟩
    rcases notes kept active with ⟨later, activeLater, noted⟩
    refine ⟨later, activeLater, ?_⟩
    rw [List.flatMap_append, List.flatMap_singleton]
    exact keeps.trans noted
  · intro other member replacing kept active
    -- The call itself replaces nothing, so the frame was replaced before.
    have isEarlier : other ∈ earlier := by
      rcases List.mem_append.mp member with isEarlier | isLast
      · exact isEarlier
      · rw [List.mem_singleton.mp isLast, kind] at replacing
        cases replacing
    have same := stays.executionId
    rw [active] at same
    rcases Option.map_eq_some_iff.mp same.symm with ⟨before, activeBefore, -⟩
    rcases held.other other isEarlier replacing before activeBefore with
      ⟨left, responses, requested⟩
    rcases notes before activeBefore with ⟨later, activeLater, noted⟩
    rw [active] at activeLater
    cases activeLater
    rw [recent_concat, if_pos kind, List.flatMap_append, List.flatMap_singleton]
    refine ⟨noted.retestsLeft.trans left, ?_, ?_⟩
    · rw [noted.responses, responses]
      rfl
    · rw [noted.retestRequested, noted.responses, requested, List.contains_append]

/-- Any other call leaves no frame in place, or a fresh one. -/
theorem call_of_replacing {call : Call} (replaces : call.isOrdinary = false)
    (operator : Operator Planned) (surroundings : Surroundings ρ) :
    InPlace frame (earlier ++ [operator.exchange Planned.profile call surroundings])
      (surroundings.exec (operator.call Planned.profile call)).1.1.frame := by
  have kind :
      (operator.exchange Planned.profile call surroundings).call.isOrdinary = false := replaces
  have replaced := exec_meets (operator.replacing_frame Planned.profile replaces) surroundings
  constructor
  · intro ordinary
    have isOrdinary := ordinary _ (List.mem_append_right earlier List.mem_cons_self)
    rw [kind] at isOrdinary
    cases isOrdinary
  · intro other member replacing kept active
    rcases replaced kept active with ⟨fresh, left⟩
    rw [recent_concat, if_neg (by simp [kind])]
    exact ⟨left, fresh.responses, by rw [fresh.responses, fresh.retestRequested]; rfl⟩

theorem call (held : InPlace frame earlier operator.frame) (call : Call)
    (surroundings : Surroundings ρ) :
    InPlace frame (earlier ++ [operator.exchange Planned.profile call surroundings])
      (surroundings.exec (operator.call Planned.profile call)).1.1.frame := by
  cases kind : call.isOrdinary with
  | true => exact held.call_of_ordinary kind surroundings
  | false => exact call_of_replacing kind operator surroundings

theorem queue (held : InPlace frame earlier operator.frame) {profile : Profile} {child : Planned}
    {reply : Except RunError Unit} (queues : operator.queue profile child = (later, reply)) :
    InPlace frame earlier later.frame := by
  rcases Operator.queue_cases queues with rfl | ⟨before, active, rfl⟩
  · exact held
  · constructor
    · intro ordinary
      rcases held.own ordinary with ⟨kept, found, keeps⟩
      rw [active] at found
      cases found
      exact ⟨_, rfl, by simpa using keeps.trans (.queued _)⟩
    · rintro exchange member replacing kept ⟨⟩
      exact held.other exchange member replacing before active

end InPlace

theorem exchanges_inPlace (setting : Setting) (retests : Nat) :
    ∀ (body : Body) (operator : Operator Planned) (surroundings : Surroundings ρ)
      {frame : Frame Planned} {earlier front back : List Exchange} {exchange : Exchange},
      InPlace frame earlier operator.frame →
      exchanges setting retests body operator surroundings = front ++ exchange :: back →
      InPlace frame (earlier ++ front) exchange.frame
  | .done, _, _, _, _, _, _, _, _, split => by simp [exchanges] at split
  | .fail _, _, _, _, _, _, _, _, _, split => by simp [exchanges] at split
  | .crash _, _, _, _, _, _, _, _, _, split => by simp [exchanges] at split
  | .call _ call next, operator, surroundings, frame, earlier, front, back, exchange, held,
      split => by
      rw [exchanges] at split
      cases front with
      | nil =>
          cases split
          rw [List.append_nil]
          exact held.map
      | cons first rest =>
          rcases List.cons.inj split with ⟨rfl, after⟩
          rw [List.append_cons]
          exact exchanges_inPlace setting retests (next _) _ _ (held.call call surroundings) after
  | .queue _ child next, operator, surroundings, frame, earlier, front, back, exchange, held,
      split => by
      rw [exchanges] at split
      exact exchanges_inPlace setting retests (next _) _ _ (held.queue rfl) split

theorem exec_play_inPlace (setting : Setting) (retests : Nat) :
    ∀ (body : Body) (operator : Operator Planned) (surroundings : Surroundings ρ)
      {frame : Frame Planned} {earlier : List Exchange}, InPlace frame earlier operator.frame →
      InPlace frame (earlier ++ exchanges setting retests body operator surroundings)
        (surroundings.exec (play setting retests body operator)).1.1.frame
  | .done, _, _, _, _, held => by simpa [play, exchanges] using held
  | .fail _, _, _, _, _, held => by simpa [play, exchanges] using held
  | .crash _, _, _, _, _, held => by simpa [play, exchanges] using held
  | .call _ call next, operator, surroundings, frame, earlier, held => by
      rw [exchanges, List.append_cons]
      simp only [play, exec_bind]
      exact exec_play_inPlace setting retests (next _) _ _ (held.call call surroundings)
  | .queue _ child next, operator, surroundings, frame, earlier, held => by
      rw [exchanges]
      simp only [play]
      exact exec_play_inPlace setting retests (next _) _ _ (held.queue rfl)

/-! ## The end of an execution -/

theorem deeds_attend {κ α : Type} (job : Job (Operator.Answer κ α))
    (surroundings : Surroundings ρ) :
    surroundings.deeds (attend job).run = surroundings.deeds job := by
  refine (deeds_bind job _ surroundings).trans ?_
  rcases (surroundings.exec job).1 with ⟨operator, error | reply⟩ <;> exact List.append_nil _

variable {operator : Operator Planned} {ending : Ending}

/-- A call that the engine makes when a step is over. -/
structure Closes (operator : Operator Planned) (ending : Ending) (exchange : Exchange) : Prop where
  proper : exchange.Proper operator.setting
  executionId : exchange.executionId? = operator.frame.map (·.executionId)
  call : exchange.call = .finish ∨ ∃ outcome, exchange.call = .record outcome ∧
    (outcome.status.isFailure = false ∨ outcome.prompts = false) ∧
    ending.verdict operator.setting = [outcome.filed none]

theorem Closes.finish {later : Operator Planned} (stays : operator.Stays later)
    (surroundings : Surroundings ρ) :
    Closes operator ending (later.exchange Planned.profile .finish surroundings) := by
  refine ⟨?_, ?_, .inl rfl⟩
  · exact stays.setting ▸ later.exchange_proper Planned.profile .finish surroundings
  · rw [← stays.executionId]
    simp [Operator.exchange, Exchange.executionId?, Frame.map, Function.comp_def]

theorem Closes.record {outcome : Outcome}
    (unprompted : outcome.status.isFailure = false ∨ outcome.prompts = false)
    (verdict : ending.verdict operator.setting =
      [Operator.evaluationOf outcome none outcome.status.isFailure])
    (surroundings : Surroundings ρ) :
    Closes operator ending (operator.exchange Planned.profile (.record outcome) surroundings) := by
  refine ⟨operator.exchange_proper Planned.profile (.record outcome) surroundings, ?_,
    .inr ⟨outcome, rfl, unprompted, ?_⟩⟩
  · simp [Operator.exchange, Exchange.executionId?, Frame.map, Function.comp_def]
  · exact verdict.trans (by simp [Outcome.filed, Outcome.skips])

theorem deeds_finish (operator : Operator Planned) (surroundings : Surroundings ρ) :
    unlogged (surroundings.deeds operator.finish) =
      (operator.exchange Planned.profile .finish surroundings).deeds := by
  have maps : surroundings.deeds (operator.call Planned.profile .finish) =
      surroundings.deeds operator.finish ++ [] := deeds_bind operator.finish _ surroundings
  rw [Operator.exchange, maps, List.append_nil]

theorem deeds_finish_bind {β : Type} {next : Operator Planned × Option (Frame Planned) → Action β}
    (silent : ∀ value (later : Surroundings ρ), later.deeds (next value).run = [])
    (operator : Operator Planned) (surroundings : Surroundings ρ) :
    unlogged (surroundings.deeds (attend operator.finish >>= next).run) =
      (operator.exchange Planned.profile .finish surroundings).deeds := by
  rw [deeds_run_bind_silent silent, deeds_attend, deeds_finish]

theorem deeds_conclude (operator : Operator Planned) (level : LogLevel) (remark : String)
    (outcome : Outcome) (surroundings : Surroundings ρ) :
    unlogged (surroundings.deeds (conclude operator level remark outcome).run) =
      (operator.exchange Planned.profile (.record outcome)
        (surroundings.exec (Job.log level remark)).2).deeds := by
  rw [conclude, deeds_run_bind, deeds_run_lift, exec_run_lift]
  simp only
  rw [deeds_run_bind_silent (fun _ _ => rfl), deeds_attend, unlogged_append]
  rfl

/-- A step that is over is ended, behind the verdict on it. -/
theorem leave_heard (operator : Operator Planned) (executionId : String) (ending : Ending)
    (surroundings : Surroundings ρ) :
    ∃ closing : List Exchange,
      unlogged (surroundings.deeds (leave operator executionId ending).run) =
        closing.flatMap Exchange.deeds ∧
      ∀ exchange ∈ closing, Closes operator ending exchange := by
  unfold leave
  cases settling operator ending with
  | completed completed allowed verdict settles =>
      refine ⟨[operator.exchange Planned.profile .finish surroundings], ?_, ?_⟩
      · rw [settles, deeds_run_bind, exec_run_pure, deeds_run_pure, List.nil_append]
        refine (deeds_finish_bind ?_ operator surroundings).trans (List.append_nil _).symm
        rintro ⟨later, none | frame⟩ past <;> rfl
      · simpa using Closes.finish .refl surroundings
  | forbidden halted forbidden verdict failure step message failed returned settles =>
      refine ⟨[operator.exchange Planned.profile .finish surroundings], ?_, ?_⟩
      · have throws : ∃ error past, surroundings.exec (settle operator ending).run =
            (.error error, past) := by
          rw [settles, exec_run_bind]
          rcases surroundings.exec (attend operator.finish).run with ⟨error | reply, past⟩
          · exact ⟨error, past, rfl⟩
          · exact ⟨_, past, rfl⟩
        rcases throws with ⟨error, past, throws⟩
        rw [deeds_run_bind, throws, settles, List.append_nil]
        exact (deeds_finish_bind (fun _ _ => rfl) operator surroundings).trans
          (List.append_nil _).symm
      · simpa using Closes.finish .refl surroundings
  | concluded halted allowed level remark outcome unprompted verdict settles =>
      let logged := (surroundings.exec (Job.log level remark)).2
      have records := Closes.record unprompted verdict logged
      have recording := deeds_conclude operator level remark outcome surroundings
      rw [← settles] at recording
      rcases concluding : surroundings.exec (settle operator ending).run with
        ⟨error | ⟨later, goesOn⟩, past⟩
      · refine ⟨[operator.exchange Planned.profile (.record outcome) logged], ?_, ?_⟩
        · rw [deeds_run_bind, concluding, List.append_nil, recording]
          exact (List.append_nil _).symm
        · simpa using records
      · refine ⟨[operator.exchange Planned.profile (.record outcome) logged,
          later.exchange Planned.profile .finish past], ?_, ?_⟩
        · rw [deeds_run_bind, concluding, unlogged_append, recording]
          refine congrArg (_ ++ ·) ((deeds_finish_bind ?_ later past).trans
            (List.append_nil _).symm)
          rintro ⟨later, none | frame⟩ past <;> rfl
        · have settled := exec_meets (settle_meets (Eq.refl operator.setting) ending)
            surroundings
          rw [concluding] at settled
          simpa using ⟨records, Closes.finish (settled _ rfl).1.toStays past⟩

/-- A step that begins does nothing else. -/
theorem deeds_enter (operator : Operator Planned) (profile : Profile) (left : Nat)
    (surroundings : Surroundings ρ) :
    surroundings.deeds (enter operator profile left).run =
      surroundings.deeds (operator.begin profile) := by
  unfold enter
  rw [deeds_run_bind_silent, deeds_attend]
  rintro ⟨begun, executionId⟩ later
  simp only [Operator.setRetestsLeft]
  cases begun.frame <;> rfl

end Walk

/-! ## An execution, call by call -/

/-- An execution with all that was called on its behalf. -/
structure Hearing (ρ : Type) [Renderer ρ] (setting : Setting) (retests : Nat) where
  occasion : Occasion ρ
  /-- The report when the step was started. -/
  before : Report
  operator : Operator Planned
  frame : Frame Planned
  moment : Instant
  entered : Surroundings ρ
  worked : Operator Planned
  ending : Ending
  played : Surroundings ρ
  performed : Walk.Performed setting retests occasion before operator frame moment entered worked
    ending played
  opening : List Deed
  opens : Exchange.Proper setting
    ⟨none, .begin occasion.profile, .ok frame.executionId, opening⟩
  setting_eq : worked.setting = setting
  closing : List Exchange
  closes : ∀ exchange ∈ closing, Walk.Closes worked ending exchange
  result : Except RunError (Option (Frame Planned))
  past : Surroundings ρ
  leaves : played.exec (Walk.leave worked frame.executionId ending).run = (result, past)

namespace Hearing

variable (hearing : Hearing ρ setting retests)

/-- The calls of the step itself. -/
def said : List Exchange :=
  Walk.exchanges setting retests hearing.occasion.body hearing.operator hearing.entered

/-- The call that starts the step, those of the step, and those that end it. -/
def exchanges : List Exchange :=
  ⟨none, .begin hearing.occasion.profile, .ok hearing.frame.executionId, hearing.opening⟩ ::
    (hearing.said ++ hearing.closing)

def attempt : Attempt :=
  Walk.attemptOf hearing.occasion hearing.frame.executionId hearing.ending hearing.worked
    hearing.result

theorem outcome_eq : hearing.occasion.outcome setting retests =
    ((⟨hearing.worked.parameters, hearing.worked.started, hearing.occasion.course.graph,
      hearing.occasion.course.attempts ++ [hearing.attempt]⟩, hearing.result), hearing.past) :=
  hearing.performed.outcome hearing.leaves

theorem active : hearing.operator.frame =
    some { hearing.frame with retestsLeft := hearing.occasion.left } := by
  rw [hearing.performed.operator_eq]

theorem proper : ∀ exchange ∈ hearing.exchanges, exchange.Proper setting := by
  intro exchange member
  have same : hearing.operator.setting = setting := by rw [hearing.performed.operator_eq]
  rcases List.mem_cons.mp member with rfl | member
  · exact hearing.opens
  · rcases List.mem_append.mp member with member | member
    · exact Walk.exchanges_proper setting retests _ _ _ same exchange member
    · exact hearing.setting_eq ▸ (hearing.closes exchange member).proper

theorem inPlace : Walk.InPlace { hearing.frame with retestsLeft := hearing.occasion.left } []
    hearing.operator.frame := by
  rw [hearing.active]
  exact .begun

theorem said_inPlace {front back : List Exchange} {exchange : Exchange}
    (split : hearing.said = front ++ exchange :: back) :
    Walk.InPlace { hearing.frame with retestsLeft := hearing.occasion.left } front
      exchange.frame := by
  exact Walk.exchanges_inPlace setting retests _ _ _ hearing.inPlace split

theorem worked_inPlace : Walk.InPlace { hearing.frame with retestsLeft := hearing.occasion.left }
    hearing.said hearing.worked.frame := by
  have held := Walk.exec_play_inPlace setting retests hearing.occasion.body hearing.operator
    hearing.entered hearing.inPlace
  rw [hearing.performed.plays] at held
  exact held

end Hearing

theorem Occasion.heard (retests : Nat) {occasion : Occasion ρ} {report : Report}
    {calls : Call → Prop} (performs : occasion.body.Every calls fun _ => True)
    (known : occasion.surroundings.own setting.runId = some report) :
    ∃ hearing : Hearing ρ setting retests, hearing.occasion = occasion ∧ hearing.before = report ∧
      unlogged (occasion.surroundings.deeds (Walk.attempt setting occasion.node occasion.profile
        (Walk.play setting retests occasion.body) occasion.left occasion.course)) =
        hearing.exchanges.flatMap Exchange.deeds := by
  let idle : Operator Planned :=
    ⟨setting, occasion.course.parameters, occasion.course.started, none⟩
  have begins : occasion.surroundings.own idle.setting.runId = some report := known
  rcases idle.exec_begin occasion.profile begins with
    ⟨frame, suffix, moment, entered, fresh, begun, own, shows⟩
  rcases Walk.performed_of_begins retests fresh begun own shows with
    ⟨operator, worked, ending, played, parts⟩
  rcases idle.begin_does occasion.profile occasion.surroundings with
    ⟨opening, reply, later, after, does, opens⟩
  have same := parts.setting_eq performs
  have began := does.exec.symm.trans begun
  cases began
  rcases leaving : played.exec (Walk.leave worked frame.executionId ending).run with
    ⟨result, past⟩
  rcases Walk.leave_heard worked frame.executionId ending played with ⟨closing, closed, closes⟩
  let hearing : Hearing ρ setting retests :=
    { occasion, before := report, operator, frame, moment, entered, worked, ending, played
      performed := parts
      opening := unlogged opening
      opens := opens none
      setting_eq := same
      closing, closes, result, past
      leaves := leaving }
  refine ⟨hearing, rfl, rfl, ?_⟩
  have enters := Walk.exec_enter occasion.left rfl begun
  rw [← parts.operator_eq] at enters
  have works := Walk.deeds_play setting retests occasion.body operator entered
  have plays := parts.plays
  simp only [idle] at enters does
  simp only [Walk.attempt, deeds_bind, Walk.deeds_enter, enters, plays, deeds_pure,
    List.append_nil, unlogged_append, works, closed, does.deeds]
  simp [hearing, Hearing.exchanges, Hearing.said]

/-! ## The executions of a run, call by call -/

/-- What a part of a run does, by the calls of its executions. -/
structure Overheard (course : Course) (surroundings : Surroundings ρ)
    (hearings : List (Hearing ρ setting retests)) (last : Course) (final : Surroundings ρ) :
    Prop where
  attempts : last.attempts = course.attempts ++ hearings.map Hearing.attempt
  deeds : ∃ deeds, surroundings.Leads deeds final ∧
    (∀ deed ∈ deeds, deed.effect.IsOwn setting) ∧
    unlogged deeds = (hearings.flatMap Hearing.exchanges).flatMap Exchange.deeds

namespace Overheard

variable {course middle last : Course} {surroundings between final : Surroundings ρ}
  {hearings more : List (Hearing ρ setting retests)} {report : Report}

theorem trans (first : Overheard course surroundings hearings middle between)
    (second : Overheard middle between more last final) :
    Overheard course surroundings (hearings ++ more) last final := by
  rcases first.deeds with ⟨deeds, leads, isOwn, heard⟩
  rcases second.deeds with ⟨others, leadsOn, isOwnToo, heardToo⟩
  refine ⟨?_, deeds ++ others, leads.append leadsOn, fun deed member => ?_, ?_⟩
  · rw [second.attempts, first.attempts, List.map_append, List.append_assoc]
  · exact (List.mem_append.mp member).elim (isOwn deed) (isOwnToo deed)
  · rw [unlogged_append, heard, heardToo, List.flatMap_append, List.flatMap_append]

/-- The report is written by the calls. -/
theorem own (overheard : Overheard course surroundings hearings last final)
    (known : surroundings.own setting.runId = some report) :
    final.own setting.runId = some
      (report.write ((hearings.flatMap Hearing.exchanges).flatMap Exchange.changes)) := by
  rcases overheard.deeds with ⟨deeds, leads, isOwn, heard⟩
  rw [leads.own known isOwn, ← unlogged_changes, heard, List.filterMap_flatMap]
  rfl

end Overheard

theorem Occasion.overheard (retests : Nat) {occasion : Occasion ρ} {report : Report}
    {calls : Call → Prop} (performs : occasion.body.Every calls fun _ => True)
    (known : occasion.surroundings.own setting.runId = some report) :
    ∃ hearing : Hearing ρ setting retests, hearing.occasion = occasion ∧
      Overheard occasion.course occasion.surroundings [hearing]
        (occasion.outcome setting retests).1.1 (occasion.outcome setting retests).2 := by
  rcases Occasion.heard retests performs known with ⟨hearing, rfl, -, heard⟩
  have queues : Walk.Queues setting (fun _ => True)
      (Walk.play setting retests hearing.occasion.body) :=
    Walk.play_queues hearing.occasion.body performs
  have meets := Walk.attempt_meets queues hearing.occasion.node hearing.occasion.profile
    hearing.occasion.left hearing.occasion.course
  refine ⟨hearing, rfl, ?_, _, leads_deeds _ _, deeds_meets meets _, by simpa using heard⟩
  rw [hearing.outcome_eq]
  rfl

theorem Chain.heard {calls : Call → Prop} {course last : Course}
    {surroundings final : Surroundings ρ} {occasions : List (Occasion ρ)}
    {result : Except RunError Unit} {report : Report}
    (chain : Chain setting retests calls course surroundings occasions result last final)
    (known : surroundings.own setting.runId = some report) :
    ∃ hearings : List (Hearing ρ setting retests), hearings.map Hearing.occasion = occasions ∧
      Overheard course surroundings hearings last final := by
  induction chain generalizing report with
  | done => exact ⟨[], rfl, by simp, [], .refl _, by simp, rfl⟩
  | occasion performs ends _ induction =>
      rcases Occasion.overheard retests performs known with ⟨hearing, rfl, first⟩
      rw [ends] at first
      rcases induction (first.own known) with ⟨hearings, rfl, second⟩
      exact ⟨hearing :: hearings, rfl, first.trans second⟩
  | aborted performs ends =>
      rcases Occasion.overheard retests performs known with ⟨hearing, rfl, first⟩
      rw [ends] at first
      exact ⟨[hearing], rfl, first⟩
  | attached _ _ induction =>
      rcases induction known with ⟨hearings, same, overheard⟩
      exact ⟨hearings, same, overheard.attempts, overheard.deeds⟩
  | logged _ induction =>
      rcases induction known with ⟨hearings, same, overheard⟩
      rcases overheard.deeds with ⟨deeds, leads, isOwn, heard⟩
      refine ⟨hearings, same, overheard.attempts, _, .deed leads, fun deed member => ?_, heard⟩
      rcases List.mem_cons.mp member with rfl | member
      · exact trivial
      · exact isOwn deed member

end Triage
