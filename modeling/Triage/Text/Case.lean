import Triage.Text.Letter
import Triage.Text.Table.CaseMaps

namespace Triage.Text

/-! Case mappings. A character may become several: the dotted capital I in lower
case, and ligatures and sharp s in upper case. -/

def lowerChars (char : Char) : Chars :=
  if char.toNat < 0x80 then [char.toLower]
  else if char == 'İ' then ['i', '\u0307']
  else
    match Table.toLower.image? char.toNat with
    | some code => [Char.ofNat code]
    | none => [char]

def upperChars (char : Char) : Chars :=
  if char.toNat < 0x80 then [char.toUpper]
  else
    match Table.toUpper.image? char.toNat with
    | some code => [Char.ofNat code]
    | none =>
        match Table.toUpperMany.find? (·.1 == char.toNat) with
        | some (_, codes) => codes.map Char.ofNat
        | none => [char]

example : lowerChars 'K' = ['k'] ∧ upperChars 'z' = ['Z'] := by decide

/-! A capital sigma ends a word when a cased character comes before it and none
after it, not counting characters that case ignores. -/

def nextIsCased (after : Chars) : Bool :=
  match after.dropWhile isCaseIgnorable with
  | [] => false
  | char :: _ => isCased char

/-- `before` holds the characters on the left, nearest first. -/
def sigmaEndsWord (before after : Chars) : Bool :=
  nextIsCased before && !nextIsCased after

end Triage.Text

namespace Triage.Chars

def lowerAfter (before : Chars) : Chars → Chars
  | [] => []
  | char :: after =>
      let image :=
        if char == 'Σ' then if Text.sigmaEndsWord before after then ['ς'] else ['σ']
        else Text.lowerChars char
      image ++ lowerAfter (char :: before) after

def lower (chars : Chars) : Chars :=
  lowerAfter [] chars

end Triage.Chars

namespace Triage.Text

def lower (text : String) : String :=
  String.ofList (Chars.lower text.toList)

/-- Names that are compared without regard to case or surrounding white space. -/
def fold (text : String) : String :=
  lower (trim text)

end Triage.Text
