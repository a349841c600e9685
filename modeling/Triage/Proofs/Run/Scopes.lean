import Mathlib.Logic.Function.Basic
import Triage.Proofs.Job
import Triage.Proofs.Run.Within

namespace Triage

namespace Scopes

variable {α : Type}

/-- Whatever happens in scopes, in the end the stack is what it was. -/
theorem run_restores (history : History α) (scopes : Scopes α) : (run scopes history).1 = scopes := by
  induction history generalizing scopes with
  | done => rfl
  | call next induction => exact induction scopes
  | scope scope inside next insideInduction nextInduction =>
      simp only [run]
      rw [insideInduction, nextInduction, leave_enter]

end Scopes

/-! ## Threads

Threads share the operators, and each has its own scopes. -/

/-- Something that a thread does with operators and scopes. -/
inductive Session.Move where
  | enter (operator : Nat)
  /-- The guard that was got last is dropped. -/
  | leave
  | call (own : Nat) (via : Via) (call : Call)
  | queue (own : Nat) (via : Via) (profile : Profile)

open Session (Move)

def Session.perform (session : Session) : Move → Job Session
  | .enter operator => return session.enter operator
  | .leave => return session.leave (session.guards.length - 1)
  | .call own via call => return (← session.call own via call).1
  | .queue own via profile => return (session.queue own via profile).1

/-- The scopes that a thread is in, and the guards that it holds. -/
abbrev Stack := Scopes Nat × List Scopes.Guard

def Session.stack (session : Session) : Stack :=
  (session.scopes, session.guards)

structure Threads where
  operators : List (Operator Profile)
  stackOf : Nat → Stack

namespace Threads

/-- The operators as a thread uses them. -/
def session (threads : Threads) (thread : Nat) : Session :=
  ⟨threads.operators, (threads.stackOf thread).1, (threads.stackOf thread).2⟩

def resume (threads : Threads) (thread : Nat) (session : Session) : Threads :=
  ⟨session.operators, Function.update threads.stackOf thread session.stack⟩

/-- What the threads do, one move after the other. -/
def run : List (Nat × Move) → Threads → Job Threads
  | [], threads => return threads
  | (thread, move) :: rest, threads => do
      let session ← (threads.session thread).perform move
      run rest (threads.resume thread session)

/-- The part of one thread in what happens. -/
def own (thread : Nat) (history : List (Nat × Move)) : List Move :=
  history.filterMap fun (other, move) => if other = thread then some move else none

end Threads

namespace Session

variable {session : Session} {move : Move} {moves rest : List Move} {stack : Stack}

/-- Only entering and leaving scopes moves the stack. -/
def Move.moved (move : Move) (stack : Stack) : Stack :=
  match move with
  | .enter operator => (operator :: stack.1, stack.2 ++ [⟨stack.1.length⟩])
  | .leave =>
      match stack.2.getLast? with
      | some guard => (stack.1.leave guard, stack.2.dropLast)
      | none => stack
  | _ => stack

theorem call_stack (session : Session) (own : Nat) (via : Via) (call : Call) :
    (session.call own via call).Meets (fun _ => True) (·.1.stack = session.stack) := by
  unfold Session.call
  split
  · exact Job.meets_pure rfl
  · split
    · exact Job.meets_pure rfl
    · exact (Job.meets_any _).bind fun _ _ => Job.meets_pure rfl

theorem queue_stack (session : Session) (own : Nat) (via : Via) (profile : Profile) :
    (session.queue own via profile).1.stack = session.stack := by
  unfold Session.queue
  split
  · rfl
  · split <;> rfl

theorem leave_stack (session : Session) :
    (session.leave (session.guards.length - 1)).stack = Move.leave.moved session.stack := by
  rcases session with ⟨operators, scopes, guards⟩
  simp only [Session.leave, Move.moved, stack, List.getLast?_eq_getElem?]
  cases guards[guards.length - 1]? with
  | none => rfl
  | some guard => simp only [List.eraseIdx_length_sub_one]

theorem perform_stack (session : Session) (move : Move) :
    (session.perform move).Meets (fun _ => True) (·.stack = move.moved session.stack) := by
  cases move with
  | enter operator => exact Job.meets_pure rfl
  | leave => exact Job.meets_pure session.leave_stack
  | call own via call =>
      exact (session.call_stack own via call).bind fun _ same => Job.meets_pure same
  | queue own via profile => exact Job.meets_pure (session.queue_stack own via profile)

end Session

/-- What other threads do does not count. -/
theorem Threads.run_stack (thread : Nat) (history : List (Nat × Move)) (threads : Threads) :
    (threads.run history).Meets (fun _ => True) fun later =>
      later.stackOf thread = (own thread history).foldl (fun stack move => move.moved stack)
        (threads.stackOf thread) := by
  induction history generalizing threads with
  | nil => exact Job.meets_pure rfl
  | cons entry rest induction =>
      rcases entry with ⟨other, move⟩
      refine ((threads.session other).perform_stack move).bind fun session moves => ?_
      refine (induction (threads.resume other session)).imp fun later after => ?_
      rw [after, own, own, List.filterMap_cons]
      by_cases same : other = thread
      · subst same
        simp only [if_true, List.foldl_cons, resume, Function.update_self, moves]
        rfl
      · simp only [if_neg same, resume, Function.update_of_ne (Ne.symm same)]

/-! ## Well-nested moves -/

/-- Every scope that is entered is left again, after all that were entered in it. -/
inductive Balanced : List Move → Prop
  | nil : Balanced []
  | call {own : Nat} {via : Via} {call : Call} {rest : List Move} (balanced : Balanced rest) :
      Balanced (.call own via call :: rest)
  | queue {own : Nat} {via : Via} {profile : Profile} {rest : List Move}
      (balanced : Balanced rest) : Balanced (.queue own via profile :: rest)
  | scope {operator : Nat} {inside rest : List Move} (within : Balanced inside)
      (balanced : Balanced rest) :
      Balanced (.enter operator :: (inside ++ .leave :: rest))

/-- Scopes that are still open may yet be left. -/
def WellNested (moves : List Move) : Prop :=
  ∃ rest, Balanced (moves ++ rest)

section

variable {moves inside rest : List Move} {stack : Stack}

theorem Balanced.restores (balanced : Balanced moves) (stack : Stack) :
    moves.foldl (fun stack move => move.moved stack) stack = stack := by
  induction balanced generalizing stack with
  | nil => rfl
  | call _ induction => exact induction stack
  | queue _ induction => exact induction stack
  | @scope operator inside rest _ _ insideInduction restInduction =>
      rw [List.foldl_cons, List.foldl_append, insideInduction, List.foldl_cons]
      have left : Move.leave.moved ((Move.enter operator).moved stack) = stack := by
        simp only [Session.Move.moved, List.getLast?_concat, List.dropLast_concat]
        exact congrArg (·, stack.2) (Scopes.leave_enter operator stack.1)
      rw [left, restInduction]

/-- Of scopes that are well nested all have been left, or one is the innermost that is open. -/
theorem Balanced.of_append (balanced : Balanced (moves ++ rest)) :
    Balanced moves ∨
      ∃ before operator after, moves = before ++ .enter operator :: after ∧ Balanced after := by
  generalize whole : moves ++ rest = all at balanced
  induction balanced generalizing moves rest with
  | nil =>
      rw [(List.append_eq_nil_iff.mp whole).1]
      exact .inl .nil
  | call _ induction | queue _ induction =>
      rcases List.append_eq_cons_iff.mp whole with ⟨rfl, -⟩ | ⟨moves, rfl, isRest⟩
      · exact .inl .nil
      · rcases induction isRest.symm with balanced | ⟨before, operator, after, rfl, balanced⟩
        · exact .inl (by constructor; exact balanced)
        · exact .inr ⟨_ :: before, operator, after, rfl, balanced⟩
  | @scope outer inside others within _ insideInduction othersInduction =>
      rcases List.append_eq_cons_iff.mp whole with ⟨rfl, -⟩ | ⟨moves, rfl, isRest⟩
      · exact .inl .nil
      rcases List.append_eq_append_iff.mp isRest with ⟨more, rfl, leaves⟩ | ⟨more, isInside, -⟩
      · rcases List.cons_eq_append_iff.mp leaves with ⟨rfl, -⟩ | ⟨more, rfl, isOthers⟩
        · exact .inr ⟨[], outer, inside, by simp, within⟩
        · rcases othersInduction isOthers.symm with balanced | ⟨before, operator, after, rfl, balanced⟩
          · exact .inl (.scope within balanced)
          · exact .inr ⟨.enter outer :: (inside ++ .leave :: before), operator, after, by simp,
              balanced⟩
      · rcases insideInduction isInside.symm with balanced | ⟨before, operator, after, rfl, balanced⟩
        · exact .inr ⟨[], outer, moves, rfl, balanced⟩
        · exact .inr ⟨.enter outer :: before, operator, after, rfl, balanced⟩

end

/-! ## Code with scopes

A scope is left when what happens in it has returned, failed or crashed; what happens then may
depend on which. A run of an engine is such a scope, in which the executions of steps are. -/

inductive Code where
  | done
  | fail (failure : Failure)
  | crash (message : Crash)
  | call (own : Nat) (via : Via) (call : Call) (next : Except RunError call.Reply → Code)
  | queue (own : Nat) (via : Via) (profile : Profile) (next : Except RunError Unit → Code)
  | scope (operator : Nat) (inside : Code) (next : Ending → Code)

namespace Code

/-- What a thread does that carries out the code, with some replies, and how that ends. -/
inductive Traces : Code → List Move → Ending → Prop
  | done : Traces .done [] .completed
  | fail (failure : Failure) : Traces (.fail failure) [] (.failed failure)
  | crash (message : Crash) : Traces (.crash message) [] (.crashed message)
  | call {own : Nat} {via : Via} {call : Call} {next : Except RunError call.Reply → Code}
      (reply : Except RunError call.Reply) {moves : List Move} {ending : Ending}
      (later : Traces (next reply) moves ending) :
      Traces (.call own via call next) (.call own via call :: moves) ending
  | queue {own : Nat} {via : Via} {profile : Profile} {next : Except RunError Unit → Code}
      (reply : Except RunError Unit) {moves : List Move} {ending : Ending}
      (later : Traces (next reply) moves ending) :
      Traces (.queue own via profile next) (.queue own via profile :: moves) ending
  | scope {operator : Nat} {inside : Code} {next : Ending → Code} {within moves : List Move}
      {inner ending : Ending} (insideTraces : Traces inside within inner)
      (later : Traces (next inner) moves ending) :
      Traces (.scope operator inside next) (.enter operator :: (within ++ .leave :: moves)) ending

/-- However it ends, scopes are well nested. -/
theorem Traces.balanced {code : Code} {moves : List Move} {ending : Ending}
    (traces : code.Traces moves ending) : Balanced moves := by
  induction traces with
  | done | fail | crash => exact .nil
  | call _ _ balanced => exact .call balanced
  | queue _ _ balanced => exact .queue balanced
  | scope _ _ within balanced => exact .scope within balanced

end Code

/-! ## Who acts -/

namespace Session

/-- What addresses the current operator acts on this one. -/
structure ActsFor (session : Session) (operator : Nat) : Prop where
  current : session.scopes.current = .ok operator
  calls : ∀ own call held, session.operators[operator]? = some held →
    session.call own .current call = do
      let (held, reply) ← held.call id call
      return (session.withOperator operator held, reply)
  queues : ∀ own profile held, session.operators[operator]? = some held →
    session.queue own .current profile =
      (session.withOperator operator (held.queue profile profile).1,
        (held.queue profile profile).2)
  /-- In the scope of a run its steps do the same whichever operator they address. -/
  plays : ∀ setting retests body held,
    session.operators[operator]? = some (Operator.map Planned.profile held) →
    session.play operator body = do
      let (held, ending) ← Walk.play setting retests body held
      return (session.withOperator operator (held.map Planned.profile), ending)

/-- What addresses the current operator fails, and changes nothing. -/
structure Vacant (session : Session) : Prop where
  current : session.scopes.current = .error .noOperator
  calls : ∀ own call, session.call own .current call = pure (session, .error .noOperator)
  queues : ∀ own profile, session.queue own .current profile = (session, .error .noOperator)

variable {session : Session} {operator : Nat}

theorem actsFor_of_current (current : session.scopes.current = .ok operator) :
    session.ActsFor operator where
  current := current
  calls own call held isHeld := by simp only [Session.call, addressed, current, isHeld]
  queues own profile held isHeld := by simp only [Session.queue, addressed, current, isHeld]
  plays setting retests body held isHeld :=
    (play_within setting retests body held session current isHeld).trans
      (map_eq_pure_bind _ _)

theorem vacant_of_current (current : session.scopes.current = .error .noOperator) :
    session.Vacant where
  current := current
  calls own call := by simp only [Session.call, addressed, current]
  queues own profile := by simp only [Session.queue, addressed, current]

/-- Who acts after these moves of a thread that was in no scope. -/
structure Serves (session : Session) (moves : List Move) : Prop where
  /-- The innermost scope is the last that was entered and has not been left. -/
  inside : ∀ before operator after, moves = before ++ .enter operator :: after →
    Balanced after → session.ActsFor operator
  outside : Balanced moves → session.Vacant
  /-- There is one unless all have been left. -/
  vacant_iff : session.scopes.current = .error .noOperator ↔ Balanced moves

end Session

open Session in
/-- Whatever other threads do, what addresses the current operator acts on that of the innermost
scope, and fails only if there is none; a scope that has ended leaves no trace, however it ended. -/
theorem Threads.run_scoped (thread : Nat) (history : List (Nat × Move)) :
    (∀ code ending, Code.Traces code (own thread history) ending →
        Balanced (own thread history)) ∧
      (∀ threads : Threads, Balanced (own thread history) →
        (threads.run history).Meets (fun _ => True) fun later =>
          later.stackOf thread = threads.stackOf thread) ∧
      ∀ threads : Threads, (threads.stackOf thread).1 = [] → WellNested (own thread history) →
        (threads.run history).Meets (fun _ => True) fun later =>
          (later.session thread).Serves (own thread history) := by
  refine ⟨fun _ _ traces => traces.balanced, ?_, ?_⟩
  · intro threads balanced
    refine (threads.run_stack thread history).imp fun later after => ?_
    rw [after, balanced.restores]
  · intro threads isVacant nested
    refine (threads.run_stack thread history).imp fun later after => ?_
    have outside (balanced : Balanced (own thread history)) :
        (later.session thread).Vacant := by
      refine vacant_of_current ?_
      rw [session, after, balanced.restores, isVacant]
      rfl
    have inside (before : List Move) (operator : Nat) (more : List Move)
        (isOwn : own thread history = before ++ .enter operator :: more)
        (balanced : Balanced more) : (later.session thread).ActsFor operator := by
      refine actsFor_of_current ?_
      rw [session, after, isOwn, List.foldl_append, List.foldl_cons, balanced.restores]
      rfl
    refine ⟨inside, outside, fun isCurrent => ?_, fun balanced => (outside balanced).current⟩
    rcases nested with ⟨rest, balanced⟩
    rcases balanced.of_append with balanced | ⟨before, operator, more, isOwn, balanced⟩
    · exact balanced
    · rw [(inside before operator more isOwn balanced).current] at isCurrent
      cases isCurrent

namespace Sample

/-- One thread is in a scope while another one works in one of its own, and crashes. -/
def shifts : List (Nat × Session.Move) :=
  [(0, .enter 0), (1, .enter 1), (0, .enter 1), (1, .call 1 .current (.get "zone")), (0, .leave),
    (1, .leave)]

/-- What the other one carries out. -/
def crashing : Code :=
  .scope 1 (.call 1 .current (.get "zone") fun _ => .crash "out of order") fun _ => .done

end Sample

open Sample in
theorem Threads.run_scoped_shifts :
    Code.Traces crashing (own 1 shifts) .completed ∧
      (∀ threads : Threads, (threads.run shifts).Meets (fun _ => True) fun later =>
        later.stackOf 1 = threads.stackOf 1) ∧
      ∀ operators : List (Operator Profile),
        (run shifts ⟨operators, fun _ => ([], [])⟩).Meets (fun _ => True) fun later =>
          (later.session 0).ActsFor 0 := by
  have crashes : Code.Traces (.call 1 .current (.get "zone") fun _ => .crash "out of order")
      [.call 1 .current (.get "zone")] (.crashed "out of order") :=
    .call (.ok none) (.crash _)
  have traces : Code.Traces crashing (own 1 shifts) .completed := crashes.scope .done
  have balanced := (run_scoped 1 shifts).1 _ _ traces
  have restored : Balanced [.enter 1, .leave] := .scope .nil .nil
  have nested : WellNested (own 0 shifts) := ⟨[.leave], .scope restored .nil⟩
  refine ⟨traces, fun threads => (run_scoped 1 shifts).2.1 threads balanced, fun operators => ?_⟩
  refine ((run_scoped 0 shifts).2.2 ⟨operators, fun _ => ([], [])⟩ rfl nested).imp ?_
  exact fun later serves => serves.inside [] 0 _ rfl restored

end Triage
