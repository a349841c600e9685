import Triage.Text.LineBreak
import Triage.Text.Width
import Triage.Text.Letter

namespace Triage.Wrap

/-! Escape sequences for terminals are part of a text but take no room. -/

/-- Where a character stands with regard to escape sequences. -/
inductive Escape where
  | outside
  | opened
  | control
  | command (previous : Char)
deriving DecidableEq, Repr

/-- Whether the character is hidden, and where the next one stands. -/
def Escape.step (escape : Escape) (char : Char) : Bool × Escape :=
  match escape with
  | .outside => if char == '\x1b' then (true, .opened) else (false, .outside)
  | .opened =>
      if char == '[' then (true, .control)
      else if char == ']' then (true, .command ']')
      else (true, .outside)
  | .control => (true, if '@' ≤ char && char ≤ '~' then .outside else .control)
  | .command previous =>
      (true, if char == '\x07' || (char == '\\' && previous == '\x1b') then .outside
        else .command char)

/-- Every character with whether it is hidden. -/
def marksFrom (escape : Escape) : Chars → List (Char × Bool)
  | [] => []
  | char :: rest =>
      let (hidden, escape) := escape.step char
      (char, hidden) :: marksFrom escape rest

def marks (chars : Chars) : List (Char × Bool) :=
  marksFrom .outside chars

def visible (chars : Chars) : Chars :=
  ((marks chars).filter (!·.2)).map (·.1)

def displayWidth (chars : Chars) : Nat :=
  (visible chars).foldr (fun char width => Text.charWidth char + width) 0

/-! Words. The caller says after how many visible characters a line may be
broken; breaks after a hyphen or a soft hyphen are left to the hyphen rule
below. -/

/-- The break positions that end a word, for the flags that stand before each
visible character. The end of the line counts as a position, and the last one
that is left is dropped: nothing has to be cut there. -/
def cutPositions (flags : List Bool) (shown : Chars) : List Nat :=
  let positions := (List.range shown.length).filter (fun index => flags.getD index false) ++
    [shown.length]
  (positions.filter fun index =>
    match shown[index - 1]? with
    | some before => before != '-' && before != '\u00ad'
    | none => true).dropLast

/-- `count` visible characters have been read, and `word` is the word so far. An
escape sequence at a cut goes to the word behind it. -/
def cutWords (positions : List Nat) (count : Nat) (afterHidden : Bool) (word : Chars) :
    List (Char × Bool) → List Chars
  | [] => if word.isEmpty then [] else [word]
  | (char, hidden) :: rest =>
      let count' := if hidden then count else count + 1
      if positions.contains count && !afterHidden && !word.isEmpty then
        word :: cutWords positions count' hidden [char] rest
      else cutWords positions count' hidden (word ++ [char]) rest

def words (breaks : Chars → List Bool) (line : Chars) : List Chars :=
  let shown := visible line
  cutWords (cutPositions (breaks shown) shown) 0 false [] (marks line)

/-- A piece that is never broken, and the spaces behind it. -/
structure Fragment where
  text : Chars
  spaces : Nat
  width : Nat
deriving DecidableEq, Repr

def Fragment.ofWord (word : Chars) : Fragment :=
  let text := word.dropEndWhile (· == ' ')
  ⟨text, word.length - text.length, displayWidth text⟩

/-- A word may be broken after a hyphen that stands between letters or numbers. -/
def hyphenPieces (previous : Option Char) (piece : Chars) : Chars → List Chars
  | [] => [piece]
  | [char] => [piece ++ [char]]
  | char :: next :: rest =>
      if char == '-' && previous.any Text.isAlphanumeric && Text.isAlphanumeric next then
        (piece ++ [char]) :: hyphenPieces (some char) [] (next :: rest)
      else hyphenPieces (some char) (piece ++ [char]) (next :: rest)

/-- The spaces of the whole go to its last piece. -/
def withPieces (whole : Fragment) : List (Chars × Nat) → List Fragment
  | [] => []
  | [(text, width)] => [⟨text, whole.spaces, width⟩]
  | (text, width) :: rest => ⟨text, 0, width⟩ :: withPieces whole rest

def splitHyphens (fragment : Fragment) : List Fragment :=
  withPieces fragment
    ((hyphenPieces none [] fragment.text).map fun piece => (piece, displayWidth piece))

/-- A new piece starts where the next character would not fit, unless the piece
is still empty. -/
def chunks (room : Nat) (piece : Chars) (width : Nat) : List (Char × Bool) → List (Chars × Nat)
  | [] => if piece.isEmpty then [] else [(piece, width)]
  | (char, hidden) :: rest =>
      if hidden then chunks room (piece ++ [char]) width rest
      else if 0 < width && room < width + Text.charWidth char then
        (piece, width) :: chunks room [char] (Text.charWidth char) rest
      else chunks room (piece ++ [char]) (width + Text.charWidth char) rest

def breakLong (room : Nat) (fragment : Fragment) : List Fragment :=
  if room < fragment.width then
    withPieces fragment (chunks room [] 0 (marks fragment.text))
  else [fragment]

/-! Lines. Among all ways to fill lines with the fragments, one of least cost is
taken: every line costs something, a line that is too wide costs a lot, a gap at
the end of a line costs its square, and a very short last line costs a little. -/

def lineCost (room : Nat) (isLast single : Bool) (width : Nat) : Nat :=
  let room := max room 1
  1000 +
    (if room < width then (width - room) * 2500
    else if !isLast then (room - width) * (room - width)
    else if single && width * 4 < room then 25
    else 0)

/-- Lines for the first fragments, the last line first. -/
structure Layout where
  cost : Nat
  lines : List (List Fragment)
deriving DecidableEq, Repr

/-- The best layout whose last line ends with the fragments in `line`. The
fragments before them come nearest first, each with the best layout of what
stands before it; of two equally good layouts the one with the longer last line
is taken. -/
def bestFrom (room : Nat) (isLast : Bool) (line : List Fragment) (width : Nat) :
    List Fragment → List Layout → Option Layout
  | fragment :: fragments, before :: layouts =>
      let single := line.isEmpty
      let width := width + fragment.width + (if single then 0 else fragment.spaces)
      let line := fragment :: line
      let here : Layout := ⟨before.cost + lineCost room isLast single width, line :: before.lines⟩
      match bestFrom room isLast line width fragments layouts with
      | some longer => if longer.cost ≤ here.cost then some longer else some here
      | none => some here
  | _, _ => none

/-- `done` holds the fragments laid out so far, nearest first, and `layouts` the
best layouts of their initial parts, the longest first. -/
def layoutFrom (room : Nat) (done : List Fragment) (layouts : List Layout) :
    List Fragment → List Layout
  | [] => layouts
  | fragment :: rest =>
      let done := fragment :: done
      match bestFrom room rest.isEmpty [] 0 done layouts with
      | some best => layoutFrom room done (best :: layouts) rest
      | none => layouts

def layout (room : Nat) (fragments : List Fragment) : List (List Fragment) :=
  match layoutFrom room [] [⟨0, []⟩] fragments with
  | best :: _ => best.lines.reverse
  | [] => []

def lineText : List Fragment → Chars
  | [] => []
  | [fragment] => fragment.text
  | fragment :: rest =>
      fragment.text ++ List.replicate fragment.spaces ' ' ++ lineText rest

/-- With an indent the first line may hold no word at all. -/
def fragments (breaks : Chars → List Bool) (room : Nat) (indent line : Chars) : List Fragment :=
  let pieces := (words breaks line).map Fragment.ofWord
  let pieces := (pieces.flatMap splitHyphens).flatMap (breakLong room)
  if indent.isEmpty then pieces else ⟨[], 0, 0⟩ :: pieces

def fillLine (breaks : Chars → List Bool) (width : Nat) (indent line : Chars) : List Chars :=
  if line.byteLength < width && indent.isEmpty then [line.dropEndWhile (· == ' ')]
  else
    let room := width - displayWidth indent
    (layout room (fragments breaks room indent line)).map fun parts => indent ++ lineText parts

def wrapLine (breaks : Chars → List Bool) (width : Nat) (indent line : Chars) : List Chars :=
  if line.all Text.isBlank then [[]] else fillLine breaks width indent line

/-- There is always room for ten columns behind the indent. -/
def effectiveWidth (width : Nat) (indent : Chars) : Nat :=
  max width (Text.stringWidth indent + 10)

def linesWith (breaks : Chars → List Bool) (width : Nat) (indent text : Chars) : List Chars :=
  text.lines.flatMap (wrapLine breaks (effectiveWidth width indent) indent)

end Triage.Wrap

namespace Triage.Text

/-- Every line of the text is wrapped on its own, and every line of the result
that is not blank starts with the indent. -/
def wrap (width : Nat) (indent text : String) : String :=
  String.ofList
    (Chars.join ['\n'] (Wrap.linesWith LineBreak.flags width indent.toList text.toList))

end Triage.Text
