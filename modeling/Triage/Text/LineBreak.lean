import Triage.Text.Chars
import Triage.Text.Table.Breaks

namespace Triage.LineBreak

/-! Where a line may be broken: the Unicode line breaking algorithm. Characters
fall into classes, and an ordered list of rules decides at every position. -/

inductive BreakClass where
  | alphabetic | mandatory | carriageReturn | lineFeed | nextLine | space
  | zeroWidthSpace | zeroWidthJoiner | wordJoiner | glue | combiningMark
  | ideographic | breakAfter | breakBefore | breakBoth | contingent | hyphen
  | openPunctuation | closePunctuation | closeParenthesis | quotation
  | exclamation | nonstarter | inseparable | infixSeparator | symbolAllowingBreak
  | numeric | prefixNumeric | postfixNumeric | hebrewLetter
  | leadingJamo | vowelJamo | trailingJamo | syllableLV | syllableLVT
  | regionalIndicator | emojiBase | emojiModifier
deriving DecidableEq, Repr

open Text.Table in
/-- The classes that are looked up, in any order: they are disjoint. -/
def tables : List (BreakClass × Text.Ranges) :=
  [(.combiningMark, combiningMark), (.ideographic, ideographic), (.breakAfter, breakAfter),
    (.openPunctuation, openPunctuation), (.closePunctuation, closePunctuation),
    (.numeric, numericForBreaks), (.nonstarter, nonstarter), (.emojiBase, emojiBase),
    (.exclamation, exclamation), (.prefixNumeric, prefixNumeric),
    (.postfixNumeric, postfixNumeric), (.breakBefore, breakBefore), (.glue, glue),
    (.quotation, quotation), (.infixSeparator, infixSeparator), (.hebrewLetter, hebrewLetter),
    (.breakBoth, [0x2014, 0x2014, 0x2E3A, 0x2E3B]), (.mandatory, [0xB, 0xC, 0x2028, 0x2029]),
    (.contingent, [0xFFFC, 0xFFFC]), (.closeParenthesis, [0x29, 0x29, 0x5D, 0x5D]),
    (.carriageReturn, [0xD, 0xD]), (.lineFeed, [0xA, 0xA]), (.nextLine, [0x85, 0x85]),
    (.space, [0x20, 0x20]), (.hyphen, [0x2D, 0x2D]), (.symbolAllowingBreak, [0x2F, 0x2F]),
    (.emojiModifier, [0x1F3FB, 0x1F3FF]), (.regionalIndicator, [0x1F1E6, 0x1F1FF]),
    (.inseparable, [0x2024, 0x2026, 0x22EF, 0x22EF, 0xFE19, 0xFE19, 0x10AF6, 0x10AF6]),
    (.leadingJamo, [0x1100, 0x115F, 0xA960, 0xA97C]),
    (.vowelJamo, [0x1160, 0x11A7, 0xD7B0, 0xD7C6]),
    (.trailingJamo, [0x11A8, 0x11FF, 0xD7CB, 0xD7FB]),
    (.wordJoiner, [0x2060, 0x2060, 0xFEFF, 0xFEFF]), (.zeroWidthSpace, [0x200B, 0x200B]),
    (.zeroWidthJoiner, [0x200D, 0x200D])]

def classOf (char : Char) : BreakClass :=
  let code := char.toNat
  if 0xAC00 ≤ code && code ≤ 0xD7A3 then
    if (code - 0xAC00) % 28 == 0 then .syllableLV else .syllableLVT
  else
    match tables.find? (·.2.contains code) with
    | some (found, _) => found
    | none => .alphabetic

/-- What is left of a position, as far as the rules look at it. -/
structure Left where
  /-- Class of the last character that is neither a space nor attached to one
  before it. -/
  base : BreakClass
  /-- Whether spaces follow the base. -/
  spaced : Bool
  /-- Whether the very last character is a zero width joiner. -/
  joined : Bool
  /-- Whether the base is the second of a pair of regional indicators. -/
  pairClosed : Bool
  /-- Whether the base is a hyphen after a Hebrew letter. -/
  hebrewHyphen : Bool
  /-- Whether the base is a closing parenthesis of East Asian width. -/
  eastAsian : Bool
  /-- Whether the base is a reserved pictograph. -/
  pictograph : Bool
deriving DecidableEq, Repr

/-- The class that counts for a character: a mark with nothing to attach to
stands for a letter. -/
def resolve (found : BreakClass) : BreakClass :=
  match found with
  | .combiningMark | .zeroWidthJoiner => .alphabetic
  | other => other

def opensLine (found : BreakClass) : Bool :=
  match found with
  | .mandatory | .carriageReturn | .lineFeed | .nextLine => true
  | _ => false

/-- Whether a mark after `left` attaches to the base. -/
def attaches (left : Left) (found : BreakClass) : Bool :=
  (found == .combiningMark || found == .zeroWidthJoiner) &&
    !left.spaced && !opensLine left.base && left.base != .zeroWidthSpace

def isLetter (found : BreakClass) : Bool :=
  found == .alphabetic || found == .hebrewLetter

def isHangul (found : BreakClass) : Bool :=
  [.leadingJamo, .vowelJamo, .trailingJamo, .syllableLV, .syllableLVT].contains found

def isIdeographic (found : BreakClass) : Bool :=
  [.ideographic, .emojiBase, .emojiModifier].contains found

/-- The pairs that stay together when nothing stands between them. -/
def keepsPair (left : Left) (next : BreakClass) (nextIsEastAsian : Bool) : Bool :=
  let base := left.base
  [.quotation].contains next || base == .quotation ||
  (if base == .contingent || next == .contingent then false else
    [.breakAfter, .hyphen, .nonstarter].contains next || base == .breakBefore ||
    left.hebrewHyphen ||
    (base == .symbolAllowingBreak && next == .hebrewLetter) ||
    next == .inseparable ||
    (isLetter base && next == .numeric) || (base == .numeric && isLetter next) ||
    (base == .prefixNumeric && isIdeographic next) ||
    (isIdeographic base && next == .postfixNumeric) ||
    ([.prefixNumeric, .postfixNumeric].contains base && isLetter next) ||
    (isLetter base && [.prefixNumeric, .postfixNumeric].contains next) ||
    ([.closePunctuation, .closeParenthesis, .numeric].contains base &&
      [.postfixNumeric, .prefixNumeric].contains next) ||
    ([.postfixNumeric, .prefixNumeric].contains base &&
      [.openPunctuation, .numeric].contains next) ||
    ([.hyphen, .infixSeparator, .numeric, .symbolAllowingBreak].contains base &&
      next == .numeric) ||
    (base == .leadingJamo &&
      [.leadingJamo, .vowelJamo, .syllableLV, .syllableLVT].contains next) ||
    ([.vowelJamo, .syllableLV].contains base && [.vowelJamo, .trailingJamo].contains next) ||
    ([.trailingJamo, .syllableLVT].contains base && next == .trailingJamo) ||
    (isHangul base && next == .postfixNumeric) ||
    (base == .prefixNumeric && isHangul next) ||
    (isLetter base && isLetter next) ||
    (base == .infixSeparator && isLetter next) ||
    ((isLetter base || base == .numeric) && next == .openPunctuation && !nextIsEastAsian) ||
    (base == .closeParenthesis && !left.eastAsian && (isLetter next || next == .numeric)) ||
    (base == .regionalIndicator && next == .regionalIndicator && !left.pairClosed) ||
    ((base == .emojiBase || left.pictograph) && next == .emojiModifier))

/-- Whether a break is allowed before a character of class `next`. -/
def allows (left : Left) (next : BreakClass) (nextIsEastAsian : Bool) : Bool :=
  if !left.spaced && opensLine left.base then
    !(left.base == .carriageReturn && next == .lineFeed)
  else if opensLine next || next == .space || next == .zeroWidthSpace then false
  else if left.base == .zeroWidthSpace then true
  else if left.joined then false
  else if attaches left next then false
  else
    let next := resolve next
    if next == .wordJoiner || (left.base == .wordJoiner && !left.spaced) then false
    else if left.base == .glue && !left.spaced then false
    else if next == .glue && !left.spaced &&
        !(left.base == .breakAfter || left.base == .hyphen) then false
    else if [.closePunctuation, .closeParenthesis, .exclamation, .infixSeparator,
        .symbolAllowingBreak].contains next then false
    else if left.base == .openPunctuation then false
    else if left.base == .quotation && next == .openPunctuation then false
    else if [.closePunctuation, .closeParenthesis].contains left.base && next == .nonstarter then
      false
    else if left.base == .breakBoth && next == .breakBoth then false
    else if left.spaced then true
    else !keepsPair left next nextIsEastAsian

def isEastAsian (char : Char) : Bool :=
  Text.Table.eastAsian.contains char.toNat

def Left.fresh (found : BreakClass) (char : Char) : Left where
  base := resolve found
  spaced := found == .space
  joined := found == .zeroWidthJoiner
  pairClosed := false
  hebrewHyphen := false
  eastAsian := isEastAsian char
  pictograph := Text.Table.reservedPictograph.contains char.toNat

def Left.push (left : Left) (char : Char) : Left :=
  let found := classOf char
  if found == .space then
    -- Spaces after a line end or at the start are a base of their own.
    if opensLine left.base then { Left.fresh found char with base := .space }
    else { left with spaced := true, joined := false }
  else if attaches left found then { left with joined := found == .zeroWidthJoiner }
  else
    { Left.fresh found char with
      pairClosed := found == .regionalIndicator && left.base == .regionalIndicator &&
        !left.spaced && !left.pairClosed
      hebrewHyphen := (found == .hyphen || found == .breakAfter) &&
        left.base == .hebrewLetter && !left.spaced }

/-- For every character but the first: whether a break may stand before it. -/
def flagsAfter (left : Left) : Chars → List Bool
  | [] => []
  | char :: rest =>
      allows left (classOf char) (isEastAsian char) :: flagsAfter (left.push char) rest

def flags : Chars → List Bool
  | [] => []
  | char :: rest => false :: flagsAfter (.fresh (classOf char) char) rest

end Triage.LineBreak
