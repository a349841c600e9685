import Triage.Text.Chars
import Triage.Text.Table.Widths

namespace Triage.Text

/-! Widths in character cells. A character alone has a width of zero, one or two
cells; a string can differ from the sum of its characters, because a control
character takes a cell in a string and emoji sequences share two cells. -/

def isControl (char : Char) : Bool :=
  char.toNat < 0x20 || (0x7F ≤ char.toNat && char.toNat < 0xA0)

def charWidth (char : Char) : Nat :=
  if char.toNat < 0x7F then (if char.toNat < 0x20 then 0 else 1)
  else if isControl char then 0
  else if Table.zeroWidth.contains char.toNat then 0
  else if Table.wide.contains char.toNat then 2
  else 1

-- A table takes more recursion than the default depth allows.
set_option maxRecDepth 4000 in
example : charWidth 'a' = 1 ∧ charWidth '\t' = 0 ∧ charWidth '日' = 2 := by decide

end Triage.Text

namespace Triage.StringWidth

/-! A string is measured from its last character to its first. What stands to
the right decides how a character counts. -/

/-- The part of a sequence that the characters on the right belong to. -/
inductive Following where
  | nothing
  | lineFeed
  | alef
  | skinTone
  | regionalIndicator
  | emoji
  | joinedEmoji
  | joinedKeycap
deriving DecidableEq, Repr

/-- A variation selector on the right asks for emoji or for text style. -/
inductive Style where
  | unmarked
  | emoji
  | text
deriving DecidableEq, Repr

structure Right where
  following : Following
  style : Style
deriving DecidableEq, Repr

def isLam (char : Char) : Bool :=
  char == '\u0644' || ('\u06b5' ≤ char && char ≤ '\u06b8') || char == '\u076a' ||
    char == '\u08a6' || char == '\u08c7'

def isAlef (char : Char) : Bool :=
  ('\u0622' ≤ char && char ≤ '\u0623') || char == '\u0625' || char == '\u0627' ||
    ('\u0671' ≤ char && char ≤ '\u0673') || char == '\u0675' ||
    ('\u0773' ≤ char && char ≤ '\u0774') || ('\u0870' ≤ char && char ≤ '\u0882')

def isRegionalIndicator (char : Char) : Bool :=
  0x1F1E6 ≤ char.toNat && char.toNat ≤ 0x1F1FF

def isSkinTone (char : Char) : Bool :=
  0x1F3FB ≤ char.toNat && char.toNat ≤ 0x1F3FF

def isEmoji (char : Char) : Bool :=
  Text.Table.emoji.contains char.toNat

def isEmojiPresentation (char : Char) : Bool :=
  Text.Table.emojiPresentation.contains char.toNat

/-- A character on its own, and what it starts for the characters before it. -/
def alone (char : Char) (right : Right) : Nat × Right :=
  if char == '\n' then (1, ⟨.lineFeed, .unmarked⟩)
  else if char == '\r' && right.following == .lineFeed then (0, ⟨.nothing, .unmarked⟩)
  else if Text.isControl char then (1, ⟨.nothing, .unmarked⟩)
  else
    let width := Text.charWidth char
    if isSkinTone char then (width, ⟨.skinTone, .unmarked⟩)
    else if isRegionalIndicator char then (width, ⟨.regionalIndicator, .unmarked⟩)
    else if isEmojiPresentation char then (width, ⟨.emoji, .unmarked⟩)
    else if isAlef char then (width, ⟨.alef, .unmarked⟩)
    else (width, ⟨.nothing, .unmarked⟩)

/-- Sequences that run on to the right without a variation selector. -/
def within (char : Char) (right : Right) : Nat × Right :=
  match right.following with
  | .alef =>
      if isLam char then (0, ⟨.nothing, .unmarked⟩)
      else if Text.charWidth char == 0 && !Text.isControl char then (0, right)
      else alone char right
  | .skinTone =>
      if Text.Table.emojiModifierBase.contains char.toNat then (0, ⟨.emoji, .unmarked⟩)
      else alone char right
  | .emoji =>
      if char == '\u200d' then (0, ⟨.joinedEmoji, .unmarked⟩) else alone char right
  | .regionalIndicator =>
      if char == '\u200d' then (0, ⟨.joinedEmoji, .unmarked⟩) else alone char right
  | .joinedEmoji =>
      if char == '\u20e3' then (0, ⟨.joinedKeycap, .unmarked⟩)
      else if isSkinTone char then (0, ⟨.skinTone, .unmarked⟩)
      else if isEmojiPresentation char then (0, ⟨.emoji, .unmarked⟩)
      else alone char right
  | _ => alone char right

def step (char : Char) (right : Right) : Nat × Right :=
  if char == '\ufe0f' then (0, { right with style := .emoji })
  else if char == '\ufe0e' then (0, { right with style := .text })
  else
    match right.style with
    | .emoji =>
        if isEmoji char then
          (if right.following == .joinedEmoji || right.following == .joinedKeycap then 0 else 2,
            ⟨.emoji, .unmarked⟩)
        else within char ⟨right.following, .unmarked⟩
    | .text =>
        if isEmojiPresentation char then (1, ⟨.nothing, .unmarked⟩)
        else within char ⟨right.following, .unmarked⟩
    | .unmarked => within char right

def measure : Chars → Nat × Right
  | [] => (0, ⟨.nothing, .unmarked⟩)
  | char :: rest =>
      let (width, right) := measure rest
      let (more, right) := step char right
      (width + more, right)

end Triage.StringWidth

namespace Triage.Text

def stringWidth (chars : Chars) : Nat :=
  (StringWidth.measure chars).1

set_option maxRecDepth 4000 in
example : stringWidth ['a', '\n', 'b'] = 3 ∧ stringWidth ['日', 'x'] = 3 := by decide

/-! Cutting a text to a width. The text itself is measured as a string; what is
kept of a longer one is counted character by character. -/

def takeWidth (room : Nat) : Chars → Chars
  | [] => []
  | char :: rest =>
      if charWidth char < room then char :: takeWidth (room - charWidth char) rest else []

/-- At most `width` cells; a cut text ends in an ellipsis. -/
def truncateChars (width : Nat) (chars : Chars) : Chars :=
  if stringWidth chars ≤ width then chars
  else if width = 0 then []
  else takeWidth width chars ++ ['…']

def truncate (width : Nat) (text : String) : String :=
  String.ofList (truncateChars width text.toList)

end Triage.Text
