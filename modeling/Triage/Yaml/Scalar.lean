import Triage.Value.Syntax

namespace Triage.Yaml

/-! Characters of a YAML text. Once a text is normalized, a line ends with a line
feed or with one of the two Unicode separators. -/

def isBreak (char : Char) : Bool :=
  char == '\n' || char == '\u2028' || char == '\u2029'

def isBlank (char : Char) : Bool :=
  char == ' ' || char == '\t'

def isSpace (char : Char) : Bool :=
  isBlank char || isBreak char

/-- The characters that a text may hold. -/
def isAllowed (char : Char) : Bool :=
  char == '\t' || char == '\n' || char == '\r' || (' ' ≤ char && char ≤ '~') ||
    char == '\u0085' || ('\u00a0' ≤ char && char ≤ '\ufffd') || 0x10000 ≤ char.toNat

/-- The text with every line end written as one character. -/
def normalize? : Chars → Option Chars
  | [] => some []
  | '\r' :: '\n' :: rest => (normalize? rest).map ('\n' :: ·)
  | char :: rest =>
      if char == '\r' || char == '\u0085' then (normalize? rest).map ('\n' :: ·)
      else if isAllowed char then (normalize? rest).map (char :: ·)
      else none

/-- Whether a word ends before these characters. -/
def endsWord : Chars → Bool
  | [] => true
  | char :: _ => isSpace char

/-- Three hyphens or three points on their own, as they stand between documents. -/
def atMarker : Chars → Bool
  | '-' :: '-' :: '-' :: rest => endsWord rest
  | '.' :: '.' :: '.' :: rest => endsWord rest
  | _ => false

/-- What structures a collection in brackets or braces. -/
def isFlowMark (char : Char) : Bool :=
  [',', '[', ']', '{', '}'].contains char

/-! White space inside of a scalar: blanks on one line, or line ends with any
blanks around them. -/

inductive Gap where
  | blanks (spaces : Chars)
  /-- Without a first line end when that one was escaped. -/
  | lines (first : Option Char) (more : Chars)

namespace Gap

def none : Gap :=
  .blanks []

def isNone : Gap → Bool
  | .blanks spaces => spaces.isEmpty
  | .lines _ _ => false

def isLines : Gap → Bool
  | .blanks _ => false
  | .lines _ _ => true

def push (char : Char) : Gap → Gap
  | .blanks spaces => if isBreak char then .lines (some char) [] else .blanks (spaces ++ [char])
  | .lines first more => if isBreak char then .lines first (more ++ [char]) else .lines first more

/-- What the gap stands for. A single line end is folded into a space. -/
def text : Gap → Chars
  | .blanks spaces => spaces
  | .lines (some '\n') [] => [' ']
  | .lines (some '\n') more => more
  | .lines first more => first.toList ++ more

end Gap

/-! Plain scalars end where structure begins. -/

structure Plain where
  text : Chars
  /-- Whether a line ended behind the text. -/
  endsLine : Bool
  rest : Chars

namespace Plain

/-- A scalar goes on with lines that are indented by at least `indent`. -/
def from_ (flow : Bool) (indent column : Nat) (gap : Gap) : Chars → Option Plain
  | [] => some ⟨[], gap.isLines, []⟩
  | char :: rest =>
      let here := char :: rest
      if isBreak char then from_ flow indent 0 (gap.push char) rest
      else if isBlank char then
        if gap.isLines && column < indent && char == '\t' then none
        else from_ flow indent (column + 1) (gap.push char) rest
      else if !gap.isNone && ((!flow && column < indent) || (column == 0 && atMarker here) ||
          char == '#') then
        some ⟨[], gap.isLines, here⟩
      else if flow && char == ':' &&
          rest.head?.any (fun next => isFlowMark next || next == '?') then
        none
      else if (char == ':' && endsWord rest) || (flow && isFlowMark char) then
        some ⟨[], gap.isLines, here⟩
      else
        (from_ flow indent (column + 1) .none rest).map fun plain =>
          { plain with text := gap.text ++ char :: plain.text }

end Plain

/-! Quoted scalars. `fresh` holds at the start of a line. -/

/-- The rest of a scalar in single quotes; a doubled quote stands for itself. -/
def singleQuoted (fresh : Bool) (gap : Gap) : Chars → Option (Chars × Chars)
  | [] => none
  | '\'' :: '\'' :: rest =>
      (singleQuoted false .none rest).map fun (text, rest) => (gap.text ++ '\'' :: text, rest)
  | char :: rest =>
      if isSpace char then singleQuoted (isBreak char) (gap.push char) rest
      else if fresh && atMarker (char :: rest) then none
      else if char == '\'' then some (gap.text, rest)
      else (singleQuoted false .none rest).map fun (text, rest) => (gap.text ++ char :: text, rest)

/-- Escapes of one letter. -/
def escape? : Char → Option Char
  | '0' => some '\x00'
  | 'a' => some '\x07'
  | 'b' => some '\x08'
  | 't' | '\t' => some '\t'
  | 'n' => some '\n'
  | 'v' => some '\x0b'
  | 'f' => some '\x0c'
  | 'r' => some '\r'
  | 'e' => some '\x1b'
  | ' ' => some ' '
  | '"' => some '"'
  | '/' => some '/'
  | '\\' => some '\\'
  | 'N' => some '\u0085'
  | '_' => some '\u00a0'
  | 'L' => some '\u2028'
  | 'P' => some '\u2029'
  | _ => none

/-- How many hexadecimal digits follow a letter. -/
def escapeWidth? : Char → Option Nat
  | 'x' => some 2
  | 'u' => some 4
  | 'U' => some 8
  | _ => none

def hexFrom? (value : Nat) : Chars → Option Nat
  | [] => some value
  | char :: rest => (Json.hexValue? char).bind fun digit => hexFrom? (value * 16 + digit) rest

def character? (code : Nat) : Option Char :=
  if code.isValidChar then some (Char.ofNat code) else none

/-- The character behind a backslash, and what follows it. -/
def escaped? : Chars → Option (Char × Chars)
  | [] => none
  | letter :: rest =>
      match escapeWidth? letter with
      | none => (escape? letter).map (·, rest)
      | some width =>
          if (rest.take width).length < width then none
          else
            ((hexFrom? 0 (rest.take width)).bind character?).map (·, rest.drop width)

/-- The rest of a scalar in double quotes. `fuel` is at least the number of
characters left. -/
def doubleQuoted (fresh : Bool) (gap : Gap) : (fuel : Nat) → Chars → Option (Chars × Chars)
  | 0, _ => none
  | _, [] => none
  | fuel + 1, char :: rest =>
      if isSpace char then doubleQuoted (isBreak char) (gap.push char) fuel rest
      else if fresh && atMarker (char :: rest) then none
      else if char == '"' then some (gap.text, rest)
      else if char == '\\' then
        match rest with
        | next :: more =>
            if isBreak next then
              (doubleQuoted true (.lines none []) fuel more).map fun (text, rest) =>
                (gap.text ++ text, rest)
            else
              match escaped? rest with
              | some (meant, after) =>
                  (doubleQuoted false .none fuel after).map fun (text, rest) =>
                    (gap.text ++ meant :: text, rest)
              | none => none
        | [] => none
      else
        (doubleQuoted false .none fuel rest).map fun (text, rest) =>
          (gap.text ++ char :: text, rest)

/-! Block scalars: the indented lines below a header. -/

/-- What becomes of the line ends at the end. -/
inductive Chomping where
  | strip
  | clip
  | keep
deriving DecidableEq

structure BlockHeader where
  chomping : Chomping
  /-- How far the lines are indented, if that is not to be found out. -/
  increment : Option Nat

namespace BlockHeader

def chomping? : Chars → Option (Chomping × Chars)
  | '+' :: rest => some (.keep, rest)
  | '-' :: rest => some (.strip, rest)
  | _ => none

def increment? : Chars → Option (Nat × Chars)
  | char :: rest => (Decimal.digitValue? char).map (·, rest)
  | [] => none

/-- The two indicators in either order. -/
def indicators (chars : Chars) : BlockHeader × Chars :=
  match chomping? chars, increment? chars with
  | some (chomping, rest), _ =>
      match increment? rest with
      | some (increment, rest) => (⟨chomping, some increment⟩, rest)
      | none => (⟨chomping, none⟩, rest)
  | none, some (increment, rest) =>
      match chomping? rest with
      | some (chomping, rest) => (⟨chomping, some increment⟩, rest)
      | none => (⟨.clip, some increment⟩, rest)
  | none, none => (⟨.clip, none⟩, chars)

/-- The header of a block scalar, and the lines below it. -/
def read? (chars : Chars) : Option (BlockHeader × Chars) :=
  let (header, rest) := indicators chars
  let rest := rest.dropWhile isBlank
  let rest := if rest.head? == some '#' then rest.dropWhile (!isBreak ·) else rest
  if header.increment == some 0 then none
  else
    match rest with
    | [] => some (header, [])
    | char :: lines => if isBreak char then some (header, lines) else none

end BlockHeader

/-- The empty lines before a line of a block scalar. -/
structure BlockGap where
  breaks : Chars
  /-- Where the line starts. -/
  column : Nat
  /-- The deepest indentation that was seen. -/
  deepest : Nat
  rest : Chars

namespace BlockGap

/-- Skips indentation up to `indent`, or all of it while that is not known. A tab
is no indentation. -/
def from_ (indent : Option Nat) (column deepest : Nat) : Chars → Option BlockGap
  | [] => some ⟨[], column, max deepest column, []⟩
  | char :: rest =>
      let inside := indent.all (column < ·)
      if inside && char == ' ' then from_ indent (column + 1) deepest rest
      else if inside && char == '\t' then none
      else if isBreak char then
        (from_ indent 0 (max deepest column) rest).map fun gap =>
          { gap with breaks := char :: gap.breaks }
      else some ⟨[], column, max deepest column, char :: rest⟩

end BlockGap

/-- The lines of a block scalar joined: the text without its tail, the line end of
its last line, and the empty lines behind it. -/
structure BlockText where
  text : Chars
  lastBreak : Chars
  trailing : Chars
  rest : Chars

namespace BlockText

/-- The line end between two lines. In a folded scalar it is a space, or nothing
if empty lines follow it, unless a line beside it starts with a blank. -/
def joint (folded : Bool) (lastBreak trailing : Chars) : Chars :=
  if folded && lastBreak.head? == some '\n' then
    if trailing.isEmpty then [' '] else trailing
  else lastBreak ++ trailing

/-- `lastBlank` holds when the line before started with a blank. `fuel` is at
least the number of lines left. -/
def from_ (literal : Bool) (indent : Nat) (lastBlank : Bool) (lastBreak : Chars) :
    (fuel : Nat) → BlockGap → Option BlockText
  | 0, _ => none
  | fuel + 1, gap =>
      if gap.column != indent || gap.rest.isEmpty then
        some ⟨[], lastBreak, gap.breaks, gap.rest⟩
      else
        let blank := gap.rest.head?.any isBlank
        let line := gap.rest.takeWhile (!isBreak ·)
        let after := gap.rest.dropWhile (!isBreak ·)
        let start := joint (!literal && !lastBlank && !blank) lastBreak gap.breaks
        match BlockGap.from_ (some indent) 0 0 (after.drop 1) with
        | none => none
        | some next =>
            (from_ literal indent blank (after.take 1) fuel next).map fun block =>
              { block with text := start ++ line ++ block.text }

def chomped (block : BlockText) : Chomping → Chars
  | .strip => block.text
  | .clip => block.text ++ block.lastBreak
  | .keep => block.text ++ block.lastBreak ++ block.trailing

end BlockText

/-- The block scalar behind its indicator, below a node that is indented by
`parent`, if there is one. -/
def blockScalar (literal : Bool) (parent : Option Nat) (chars : Chars) :
    Option (Chars × Chars) := do
  let (header, lines) ← BlockHeader.read? chars
  let given := header.increment.map (parent.getD 0 + ·)
  let gap ← BlockGap.from_ given 0 0 lines
  let least := (parent.map (· + 1)).getD 0
  let indent := given.getD (max (max gap.deepest least) 1)
  let block ← BlockText.from_ literal indent false [] (lines.length + 1) gap
  return (block.chomped header.chomping, block.rest)

end Triage.Yaml
