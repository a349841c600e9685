import Triage.Error

namespace Triage

/-! Which run a thread is working for: a stack of scopes, the innermost first.
Whoever enters a scope gets a guard, and leaving by the guard also leaves every
scope that was entered since. -/

abbrev Scopes (α : Type) := List α

namespace Scopes

variable {α : Type}

/-- The number of scopes that were open before. -/
structure Guard where
  depth : Nat
deriving DecidableEq, Repr

def enter (scope : α) (scopes : Scopes α) : Scopes α × Guard :=
  (scope :: scopes, ⟨scopes.length⟩)

def leave (guard : Guard) (scopes : Scopes α) : Scopes α :=
  scopes.drop (scopes.length - guard.depth)

def current (scopes : Scopes α) : Except RunError α :=
  match scopes with
  | [] => .error .noOperator
  | scope :: _ => .ok scope

theorem leave_enter (scope : α) (scopes : Scopes α) :
    leave (enter scope scopes).2 (enter scope scopes).1 = scopes := by
  simp [enter, leave]

/-! What happens on a thread: calls on behalf of the current scope, and scopes
with what happens inside of them. A scope ends the same way whether the inside
returned, failed or crashed. -/

inductive History (α : Type) where
  | done
  /-- Something that needs the current scope. -/
  | call (next : History α)
  | scope (scope : α) (inside next : History α)

/-- The scopes at the end, and the one that every call acted for, in order. -/
def run (scopes : Scopes α) : History α → Scopes α × List (Except RunError α)
  | .done => (scopes, [])
  | .call next =>
      let (after, calls) := run scopes next
      (after, scopes.current :: calls)
  | .scope scope inside next =>
      let (entered, guard) := scopes.enter scope
      let (left, within) := run entered inside
      let (after, calls) := run (left.leave guard) next
      (after, within ++ calls)

end Scopes

end Triage
