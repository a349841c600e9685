import Triage.Text.Letter
import Triage.Text.Table.Categories
import Triage.Text.Table.Folds
import Triage.Text.Table.Scripts
import Triage.Text.Table.Widths

namespace Triage

/-! Sets of characters, as far as patterns can name them. -/

namespace Text

/-- The general category is one of those whose abbreviation starts this way. -/
def isInCategory (start : String) (char : Char) : Bool :=
  Table.Category.all.any fun (name, strides) =>
    hasPrefix start name && strides.contains char.toNat

def isAssigned (char : Char) : Bool :=
  isInCategory "" char

def isDigit (char : Char) : Bool :=
  isInCategory "Nd" char

def isJoinControl (char : Char) : Bool :=
  char == '\u200c' || char == '\u200d'

/-- Letters, digits, and what is written as a part of them. -/
def isWord (char : Char) : Bool :=
  isAlphabetic char || isInCategory "M" char || isDigit char || isInCategory "Pc" char ||
    isJoinControl char

/-- The same for ASCII alone. -/
def isAsciiWord (char : Char) : Bool :=
  char.isAlphanum || char == '_'

def foldCode (code : Nat) : Nat :=
  (Table.folds.image? code).getD code

/-- The characters that differ from this one in case only, itself included. -/
def caseVariants (char : Char) : List Nat :=
  let code := foldCode char.toNat
  code :: Table.folds.sources code

end Text

/-- A property of characters. -/
inductive Property where
  | any
  | ascii
  | assigned
  | alphabetic
  | uppercase
  | lowercase
  | cased
  | caseIgnorable
  | blank
  | digit
  | word
  | joinControl
  | emoji
  | emojiPresentation
  | emojiModifierBase
  /-- Everything whose category abbreviation starts this way. -/
  | category (start : String)
  /-- By name in lower case, without underscores. -/
  | script (name : String)
deriving DecidableEq, Repr

def Property.holds : Property → Char → Bool
  | .any, _ => true
  | .ascii, char => char.toNat < 0x80
  | .assigned, char => Text.isAssigned char
  | .alphabetic, char => Text.isAlphabetic char
  | .uppercase, char => Text.isUpper char
  | .lowercase, char => Text.isLower char
  | .cased, char => Text.isCased char
  | .caseIgnorable, char => Text.isCaseIgnorable char
  | .blank, char => Text.isBlank char
  | .digit, char => Text.isDigit char
  | .word, char => Text.isWord char
  | .joinControl, char => Text.isJoinControl char
  | .emoji, char => Text.Table.emoji.contains char.toNat
  | .emojiPresentation, char => Text.Table.emojiPresentation.contains char.toNat
  | .emojiModifierBase, char => Text.Table.emojiModifierBase.contains char.toNat
  | .category start, char => Text.isInCategory start char
  | .script name, char =>
      ((Text.Table.scripts.lookup name).getD []).contains char.toNat

inductive CharSet where
  | ranges (ranges : Text.Ranges)
  | property (property : Property)
  | union (left right : CharSet)
  | intersection (left right : CharSet)
  | difference (left right : CharSet)
  /-- What is in one of the two but not in both. -/
  | exclusive (left right : CharSet)
  | complement (set : CharSet)
  /-- Everything that differs from a member in case only. -/
  | folded (set : CharSet)
deriving DecidableEq, Repr

namespace CharSet

def contains : CharSet → Nat → Bool
  | .ranges listed, code => listed.contains code
  | .property wanted, code => wanted.holds (Char.ofNat code)
  | .union left right, code => left.contains code || right.contains code
  | .intersection left right, code => left.contains code && right.contains code
  | .difference left right, code => left.contains code && !right.contains code
  | .exclusive left right, code => left.contains code != right.contains code
  | .complement set, code => !set.contains code
  | .folded set, code => (Text.caseVariants (Char.ofNat code)).any set.contains

def empty : CharSet :=
  .ranges []

def single (char : Char) : CharSet :=
  .ranges [char.toNat, char.toNat]

def between (first last : Char) : CharSet :=
  .ranges [first.toNat, last.toNat]

def negatedIf (negated : Bool) (set : CharSet) : CharSet :=
  if negated then .complement set else set

def foldedIf (ignoreCase : Bool) (set : CharSet) : CharSet :=
  if ignoreCase then .folded set else set

end CharSet

end Triage
