import Triage.Text.Chars

namespace Triage

/-! Internet addresses: reading the usual spellings, writing one. -/

inductive Address where
  | v4 (octets : List Nat)
  | v6 (groups : List Nat)
deriving DecidableEq, Repr

namespace Address

def digitValue? (radix : Nat) (char : Char) : Option Nat :=
  let value? :=
    if '0' ≤ char ∧ char ≤ '9' then some (char.toNat - '0'.toNat)
    else if 'a' ≤ char ∧ char ≤ 'f' then some (char.toNat - 'a'.toNat + 10)
    else if 'A' ≤ char ∧ char ≤ 'F' then some (char.toNat - 'A'.toNat + 10)
    else none
  value?.filter (· < radix)

def valueOf (radix : Nat) (digits : Chars) : Nat :=
  digits.foldl (fun value char => value * radix + (digitValue? radix char).getD 0) 0

/-- All digits in front, if there are some but not too many. -/
def number? (radix most : Nat) (chars : Chars) : Option (Chars × Chars) :=
  let isDigit (char : Char) : Bool := (digitValue? radix char).isSome
  let digits := chars.takeWhile isDigit
  if digits.isEmpty || most < digits.length then none
  else some (digits, chars.dropWhile isDigit)

/-- A part of a dotted address has no leading zero. -/
def octet? (chars : Chars) : Option (Nat × Chars) := do
  let (digits, rest) ← number? 10 3 chars
  if digits.head? == some '0' && 1 < digits.length then none
  let value := valueOf 10 digits
  if value < 256 then some (value, rest) else none

def expect? (char : Char) : Chars → Option Chars
  | found :: rest => if found == char then some rest else none
  | [] => none

def dotted? (chars : Chars) : Option (List Nat × Chars) := do
  let (first, rest) ← octet? chars
  let (second, rest) ← octet? (← expect? '.' rest)
  let (third, rest) ← octet? (← expect? '.' rest)
  let (fourth, rest) ← octet? (← expect? '.' rest)
  return ([first, second, third, fourth], rest)

def group? (chars : Chars) : Option (Nat × Chars) :=
  (number? 16 4 chars).map fun (digits, rest) => (valueOf 16 digits, rest)

/-- After a group the next one needs a colon. -/
def separated? (first : Bool) (chars : Chars) : Option Chars :=
  if first then some chars else expect? ':' chars

/-- At most `limit` groups; a dotted address may stand for the last two of them.
The flag tells whether one did. -/
def groups (first : Bool) : (limit : Nat) → Chars → List Nat × Bool × Chars
  | 0, chars => ([], false, chars)
  | limit + 1, chars =>
      let dotted := if limit = 0 then none else (separated? first chars).bind dotted?
      match dotted with
      | some ([a, b, c, d], rest) => ([a * 256 + b, c * 256 + d], true, rest)
      | _ =>
          match (separated? first chars).bind group? with
          | some (value, rest) =>
              let (more, dotted, rest) := groups false limit rest
              (value :: more, dotted, rest)
          | none => ([], false, chars)

/-- Groups on both sides of a double colon, which stands for at least one group
of zeros. -/
def grouped? (chars : Chars) : Option (List Nat × Chars) := do
  let (head, dotted, rest) := groups true 8 chars
  if head.length = 8 then return (head, rest)
  if dotted then none
  let rest ← expect? ':' (← expect? ':' rest)
  let (tail, _, rest) := groups true (7 - head.length) rest
  return (head ++ List.replicate (8 - head.length - tail.length) 0 ++ tail, rest)

def read? (chars : Chars) : Option Address :=
  match dotted? chars with
  | some (octets, []) => some (.v4 octets)
  | _ =>
      match grouped? chars with
      | some (groups, []) => some (.v6 groups)
      | _ => none

/-! The longest run of two zeros or more is written as a double colon; of equally
long runs the first. -/

def zeroRun : List Nat → Nat
  | 0 :: rest => zeroRun rest + 1
  | _ => 0

/-- Start and length of the longest run of zeros, positions counted from
`index`. -/
def longestRun (index : Nat) : List Nat → Nat × Nat
  | [] => (index, 0)
  | group :: rest =>
      let here := zeroRun (group :: rest)
      let (start, length) := longestRun (index + 1) rest
      if length ≤ here then (index, here) else (start, length)

def hexText (value : Nat) : Chars :=
  Nat.toDigits 16 value

def joined (groups : List Nat) : Chars :=
  Chars.join [':'] (groups.map hexText)

def dottedText (octets : List Nat) : Chars :=
  Chars.join ['.'] (octets.map fun octet => (toString octet).toList)

def groupText (groups : List Nat) : Chars :=
  match groups with
  | [0, 0, 0, 0, 0, 0xFFFF, high, low] =>
      "::ffff:".toList ++ dottedText [high / 256, high % 256, low / 256, low % 256]
  | _ =>
      let (start, length) := longestRun 0 groups
      if 1 < length then
        joined (groups.take start) ++ "::".toList ++ joined (groups.drop (start + length))
      else joined groups

def text : Address → String
  | .v4 octets => String.ofList (dottedText octets)
  | .v6 groups => String.ofList (groupText groups)

end Address

end Triage
