import Triage.Run.Operator
import Triage.Run.Scopes

namespace Triage

/-! Several operators side by side, and the scopes of the thread that uses them.
Calls address an operator, or whichever is current. -/

structure Session where
  operators : List (Operator Profile)
  /-- Operators by number. -/
  scopes : Scopes Nat
  /-- The guards that are held, in the order in which they were got. -/
  guards : List Scopes.Guard

namespace Session

/-- A session, and a reply or an error. -/
abbrev Reply (α : Type) := Session × Except RunError α

def withOperator (session : Session) (index : Nat) (operator : Operator Profile) : Session :=
  { session with operators := session.operators.set index operator }

def opened (settings : List Setting) : Session :=
  ⟨settings.map .opened, [], []⟩

/-- Enters the scope of an operator. -/
def enter (index : Nat) (session : Session) : Session :=
  let (scopes, guard) := session.scopes.enter index
  { session with scopes := scopes, guards := session.guards ++ [guard] }

/-- Leaves by a guard that is held. -/
def leave (position : Nat) (session : Session) : Session :=
  match session.guards[position]? with
  | none => session
  | some guard =>
      { session with
        scopes := session.scopes.leave guard
        guards := session.guards.eraseIdx position }

/-- Which operator a step of the operator `own` addresses. -/
def addressed (session : Session) (own : Nat) : Via → Except RunError Nat
  | .own => .ok own
  | .current => session.scopes.current

def call (session : Session) (own : Nat) (via : Via) (call : Call) :
    Job (Reply call.Reply) :=
  match session.addressed own via with
  | .error error => return (session, .error error)
  | .ok index =>
      match session.operators[index]? with
      | none => return (session, .error .noOperator)
      | some operator => do
          let (operator, reply) ← operator.call id call
          return (session.withOperator index operator, reply)

def queue (session : Session) (own : Nat) (via : Via) (profile : Profile) : Reply Unit :=
  match session.addressed own via with
  | .error error => (session, .error error)
  | .ok index =>
      match session.operators[index]? with
      | none => (session, .error .noOperator)
      | some operator =>
          let (operator, reply) := operator.queue profile profile
          (session.withOperator index operator, reply)

/-- Does what a step does, on behalf of the operator `own`. -/
def play (own : Nat) : Body → Session → Job (Session × Ending)
  | .done, session => return (session, .completed)
  | .fail failure, session => return (session, .failed failure)
  | .crash message, session => return (session, .crashed message)
  | .call via call next, session => do
      let (session, reply) ← session.call own via call
      play own (next reply) session
  | .queue via child next, session =>
      let (session, reply) := session.queue own via child.profile
      play own (next reply) session

end Session

end Triage
