namespace Triage

/-! Powers of the two radices in which numbers are written and held. -/

def twoPow (exponent : Nat) : Nat :=
  Nat.pow 2 exponent

def tenPow (exponent : Nat) : Nat :=
  Nat.pow 10 exponent

example : twoPow 10 = 1024 ∧ tenPow 3 = 1000 := by decide

end Triage
