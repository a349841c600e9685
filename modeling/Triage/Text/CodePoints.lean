namespace Triage.Text

/-! Character classes and character maps as tables over code points. A table is
a flat, ascending list of numbers read in groups, so that a whole Unicode
property stays one plain literal. -/

/-- Ascending pairs `first, last` of code points. -/
abbrev Ranges := List Nat

namespace Ranges

def contains : Ranges → Nat → Bool
  | first :: last :: rest, code =>
      if code < first then false
      else if code ≤ last then true
      else contains rest code
  | _, _ => false

example : contains [65, 90, 97, 122] 98 = true := rfl

example : contains [65, 90, 97, 122] 95 = false := rfl

end Ranges

/-- Ascending triples `first, last, step`: every `step`-th code point from
`first` to `last`. -/
abbrev Strides := List Nat

namespace Strides

def contains : Strides → Nat → Bool
  | first :: last :: step :: rest, code =>
      if code < first then false
      else if code ≤ last && (code - first) % step == 0 then true
      else contains rest code
  | _, _ => false

end Strides

/-- Ascending groups `first, last, step, image`: every `step`-th code point from
`first` to `last` is moved by the same distance, and `first` goes to `image`. -/
abbrev Shifts := List Nat

namespace Shifts

def image? : Shifts → Nat → Option Nat
  | first :: last :: step :: image :: rest, code =>
      if code < first then none
      else if code ≤ last && (code - first) % step == 0 then some (image + (code - first))
      else image? rest code
  | _, _ => none

/-- The code points that a table sends to `target`. -/
def sources : Shifts → Nat → List Nat
  | first :: last :: step :: image :: rest, target =>
      let code := first + (target - image)
      if image ≤ target && code ≤ last && (code - first) % step == 0 then
        code :: sources rest target
      else sources rest target
  | _, _ => []

end Shifts

end Triage.Text
