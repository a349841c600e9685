import Triage.Number.Decimal
import Triage.Pattern.Basic
import Triage.Pattern.Property

namespace Triage.Pattern

/-! Reading patterns. A text that is not a pattern gives nothing. -/

/-- Settings that a pattern may change on the way. -/
structure Flags where
  ignoreCase : Bool
  /-- Circumflex and dollar stand at lines. -/
  lines : Bool
  /-- A dot is also a line feed. -/
  dotFeeds : Bool
  unicode : Bool
  /-- A carriage return is a part of a line end. -/
  returns : Bool
  /-- White space and comments do not count. -/
  verbose : Bool

namespace Flags

def initial : Flags :=
  ⟨false, false, false, true, false, false⟩

/-- The flag `U` only says which of several matches to prefer. -/
def set? (flags : Flags) (name : Char) (on : Bool) : Option Flags :=
  match name with
  | 'i' => some { flags with ignoreCase := on }
  | 'm' => some { flags with lines := on }
  | 's' => some { flags with dotFeeds := on }
  | 'u' => some { flags with unicode := on }
  | 'R' => some { flags with returns := on }
  | 'x' => some { flags with verbose := on }
  | 'U' => some flags
  | _ => none

def skipFrom (comment : Bool) : Chars → Chars
  | [] => []
  | char :: rest =>
      if comment then skipFrom (char != '\n') rest
      else if Text.isBlank char then skipFrom false rest
      else if char == '#' then skipFrom true rest
      else char :: rest

/-- The text without the ignored part at its front. -/
def skip (flags : Flags) (chars : Chars) : Chars :=
  if flags.verbose then skipFrom false chars else chars

end Flags

/-! Sets of characters. Without Unicode a set must stay within ASCII. -/

def adjustCase (flags : Flags) (set : CharSet) : CharSet :=
  if !flags.ignoreCase then set
  else if flags.unicode then .folded set
  else .intersection (.folded set) (.property .ascii)

def negate? (flags : Flags) (negated : Bool) (set : CharSet) : Option CharSet :=
  if negated && !flags.unicode then none else some (.negatedIf negated set)

def literalSet (flags : Flags) (char : Char) : CharSet :=
  if flags.unicode || char.toNat < 0x80 then adjustCase flags (.single char) else .single char

def asciiClasses : List (String × Text.Ranges) :=
  [("alnum", [0x30, 0x39, 0x41, 0x5A, 0x61, 0x7A]), ("alpha", [0x41, 0x5A, 0x61, 0x7A]),
    ("ascii", [0x0, 0x7F]), ("blank", [0x9, 0x9, 0x20, 0x20]), ("cntrl", [0x0, 0x1F, 0x7F, 0x7F]),
    ("digit", [0x30, 0x39]), ("graph", [0x21, 0x7E]), ("lower", [0x61, 0x7A]),
    ("print", [0x20, 0x7E]), ("punct", [0x21, 0x2F, 0x3A, 0x40, 0x5B, 0x60, 0x7B, 0x7E]),
    ("space", [0x9, 0xD, 0x20, 0x20]), ("upper", [0x41, 0x5A]),
    ("word", [0x30, 0x39, 0x41, 0x5A, 0x5F, 0x5F, 0x61, 0x7A]),
    ("xdigit", [0x30, 0x39, 0x41, 0x46, 0x61, 0x66])]

/-- A name between colons, behind an opening bracket. -/
def asciiClass? (flags : Flags) (chars : Chars) : Option (Option CharSet × Chars) := do
  let rest ← match chars with
    | ':' :: rest => some rest
    | _ => none
  let (negated, rest) := match rest with
    | '^' :: rest => (true, rest)
    | _ => (false, rest)
  let (name, rest) ← Chars.cut? ':' rest
  match rest with
  | ']' :: rest =>
      let ranges ← asciiClasses.lookup (String.ofList name)
      return (negate? flags negated (adjustCase flags (.ranges ranges)), rest)
  | _ => none

/-- The classes that are written with one letter. -/
def letterClass? (flags : Flags) (name : Char) : Option CharSet :=
  let choose (property : Property) (ascii : String) : CharSet :=
    if flags.unicode then .property property else .ranges ((asciiClasses.lookup ascii).getD [])
  match name.toLower with
  | 'd' => some (choose .digit "digit")
  | 's' => some (choose .blank "space")
  | 'w' => some (choose .word "word")
  | _ => none

/-! Escapes. -/

/-- What an escape or a single character stands for. -/
inductive Item where
  | char (char : Char)
  | set (set : CharSet)
  | edge (edge : Edge)

def Item.set? (flags : Flags) : Item → Option CharSet
  | .char found => if flags.unicode || found.toNat < 0x80 then some (.single found) else none
  | .set found => some found
  | .edge _ => none

def Item.pattern (flags : Flags) : Item → Pattern
  | .char found => .one (literalSet flags found)
  | .set found => .one found
  | .edge place => .edge place

def hexValue? (digits : Chars) : Option Nat :=
  if digits.isEmpty then none
  else digits.foldl (fun value? digit => do
    let value ← value?
    let place ← if digit.isDigit then some (digit.toNat - '0'.toNat)
      else if 'a' ≤ digit && digit ≤ 'f' then some (digit.toNat - 'a'.toNat + 10)
      else if 'A' ≤ digit && digit ≤ 'F' then some (digit.toNat - 'A'.toNat + 10)
      else none
    if 0x10FFFF < value then none else some (value * 16 + place)) (some 0)

def charOf? (code : Nat) : Option Char :=
  if code < 0xD800 || (0xDFFF < code && code ≤ 0x10FFFF) then some (Char.ofNat code) else none

/-- A character by its number: a fixed count of digits, or any in braces. -/
def hexChar? (flags : Flags) (count : Nat) (chars : Chars) : Option (Char × Chars) := do
  match chars with
  | '{' :: rest =>
      let (digits, rest) ← Chars.cut? '}' rest
      return (← (hexValue? digits).bind charOf?, rest)
  | _ =>
      if chars.length < count then none
      let value ← hexValue? (chars.take count)
      if count == 2 && !flags.unicode && 0x7F < value then none
      return (← charOf? value, chars.drop count)

/-- Whether a backslash may stand before the character without changing it. -/
def isEscapable (char : Char) : Bool :=
  char.toNat < 0x80 && !char.isAlphanum && char != '<' && char != '>'

/-- What may stand in braces behind a word boundary. -/
def boundary? (unicode : Bool) (name : Chars) : Option Edge :=
  [("start", Edge.wordStart unicode), ("end", .wordEnd unicode),
    ("start-half", .halfStart unicode), ("end-half", .halfEnd unicode)].lookup (String.ofList name)

def isBoundaryChar (char : Char) : Bool :=
  char.isAlpha || char == '-'

/-- Braces behind a boundary that do not start with a letter count repetitions. -/
def readBoundary (flags : Flags) (chars : Chars) : Option (Edge × Chars) :=
  match chars with
  | ['{'] => none
  | '{' :: char :: rest =>
      if !isBoundaryChar char then some (.wordBoundary flags.unicode, chars)
      else
        match (char :: rest).dropWhile isBoundaryChar with
        | '}' :: after =>
            (boundary? flags.unicode ((char :: rest).takeWhile isBoundaryChar)).map (·, after)
        | _ => none
  | _ => some (.wordBoundary flags.unicode, chars)

def property? (flags : Flags) (negated : Bool) (name : Chars) : Option CharSet :=
  if flags.unicode then
    (Property.read? name).map fun set => .negatedIf negated (adjustCase flags set)
  else none

/-- One letter, or a name in braces. -/
def readProperty (flags : Flags) (negated : Bool) : Chars → Option (CharSet × Chars)
  | '{' :: rest => do
      let (name, rest) ← Chars.cut? '}' rest
      return (← property? flags negated name, rest)
  | '\\' :: _ => none
  | char :: rest => (property? flags negated [char]).map (·, rest)
  | [] => none

/-- What follows a backslash. -/
def readEscape (flags : Flags) : Chars → Option (Item × Chars)
  | [] => none
  | char :: rest =>
      if char == 'x' then (hexChar? flags 2 rest).map fun (char, rest) => (.char char, rest)
      else if char == 'u' then (hexChar? flags 4 rest).map fun (char, rest) => (.char char, rest)
      else if char == 'U' then (hexChar? flags 8 rest).map fun (char, rest) => (.char char, rest)
      else if char == 'p' || char == 'P' then
        (readProperty flags (char == 'P') rest).map fun (set, rest) => (.set set, rest)
      else if char == 'b' then
        (readBoundary flags rest).map fun (place, rest) => (.edge place, rest)
      else if isEscapable char then some (.char char, rest)
      else
        match letterClass? flags char with
        | some set => (negate? flags char.isUpper set).map fun set => (.set set, rest)
        | none => (simple? char).map (·, rest)
where
  simple? : Char → Option Item
    | 'a' => some (.char '\x07')
    | 'f' => some (.char '\x0c')
    | 't' => some (.char '\t')
    | 'n' => some (.char '\n')
    | 'r' => some (.char '\r')
    | 'v' => some (.char '\x0b')
    | 'A' => some (.edge .textStart)
    | 'z' => some (.edge .textEnd)
    | 'B' => some (.edge (.noWordBoundary flags.unicode))
    | '<' => some (.edge (.wordStart flags.unicode))
    | '>' => some (.edge (.wordEnd flags.unicode))
    | _ => none

/-! Sets in brackets. -/

inductive SetOperation where
  | intersection
  | difference
  | exclusive

def SetOperation.apply : SetOperation → CharSet → CharSet → CharSet
  | .intersection => .intersection
  | .difference => .difference
  | .exclusive => .exclusive

def combine (flags : Flags) (pending : Option (SetOperation × CharSet)) (members : List CharSet) :
    CharSet :=
  let set := members.foldl (fun held member => .union member held) .empty
  match pending with
  | some (operation, left) => operation.apply (adjustCase flags left) (adjustCase flags set)
  | none => set

def readItem (flags : Flags) : Chars → Option (Item × Chars)
  | '\\' :: rest => readEscape flags rest
  | char :: rest => some (.char char, rest)
  | [] => none

/-- An item, or two characters with a hyphen between them. -/
def readRange (flags : Flags) (chars : Chars) : Option (CharSet × Chars) := do
  let (first, rest) ← readItem flags chars
  let alone := (first.set? flags).map fun set => (set, flags.skip rest)
  match flags.skip rest with
  | '-' :: after =>
      match flags.skip after with
      | ']' :: _ | '-' :: _ => alone
      | after =>
          let (last, rest) ← readItem flags after
          match first, last with
          | .char first, .char last =>
              if last < first || (!flags.unicode && 0x80 ≤ last.toNat) then none
              return (.between first last, rest)
          | _, _ => none
  | _ => alone

/-- Hyphens at the very front are members. -/
def dropHyphens (flags : Flags) : Nat → Chars → Chars
  | fuel + 1, '-' :: rest => dropHyphens flags fuel (flags.skip rest)
  | _, chars => chars

/-- The circumflex, and what can only stand at the front. -/
def readFront (flags : Flags) (chars : Chars) : Bool × List CharSet × Chars :=
  let (negated, rest) := match flags.skip chars with
    | '^' :: rest => (true, flags.skip rest)
    | rest => (false, rest)
  let afterHyphens := dropHyphens flags rest.length rest
  if afterHyphens.length < rest.length then (negated, [.single '-'], afterHyphens)
  else
    match rest with
    | ']' :: rest => (negated, [.single ']'], rest)
    | _ => (negated, [], rest)

mutual
/-- Behind the opening bracket. -/
def readSet (flags : Flags) : (fuel : Nat) → Chars → Option (CharSet × Chars)
  | 0, _ => none
  | fuel + 1, chars => do
      let (negated, members, rest) := readFront flags chars
      let (set, rest) ← readMembers flags fuel none members rest
      return (← negate? flags negated (adjustCase flags set), rest)

def readMembers (flags : Flags) : (fuel : Nat) → Option (SetOperation × CharSet) →
    List CharSet → Chars → Option (CharSet × Chars)
  | 0, _, _, _ => none
  | fuel + 1, pending, members, chars =>
      let operate (operation : SetOperation) (rest : Chars) :=
        readMembers flags fuel (some (operation, combine flags pending members)) [] rest
      match flags.skip chars with
      | [] => none
      | '[' :: rest =>
          match asciiClass? flags rest with
          | some (set, rest) => do readMembers flags fuel pending ((← set) :: members) rest
          | none => do
              let (set, rest) ← readSet flags fuel rest
              readMembers flags fuel pending (set :: members) rest
      | ']' :: rest => some (combine flags pending members, rest)
      | '&' :: '&' :: rest => operate .intersection rest
      | '-' :: '-' :: rest => operate .difference rest
      | '~' :: '~' :: rest => operate .exclusive rest
      | chars => do
          let (set, rest) ← readRange flags chars
          readMembers flags fuel pending (set :: members) rest
end

/-! Groups and alternatives. -/

/-- What has been read between two parentheses. -/
structure Level where
  /-- The alternatives that are complete, last first. -/
  branches : List Pattern
  /-- The current alternative, last first. A change of flags is a piece too, but
  one that cannot be repeated. -/
  pieces : List (Option Pattern)
  /-- The flags behind the closing parenthesis. -/
  outer : Flags

namespace Level

def opened (outer : Flags) : Level :=
  ⟨[], [], outer⟩

def push (level : Level) (piece : Pattern) : Level :=
  { level with pieces := some piece :: level.pieces }

def branch (level : Level) : Pattern :=
  level.pieces.foldl (fun rest piece =>
    match piece with
    | none => rest
    | some piece => if rest = .empty then piece else .sequence piece rest) .empty

def alternate (level : Level) : Level :=
  { level with branches := level.branch :: level.branches, pieces := [] }

def pattern (level : Level) : Pattern :=
  level.branches.foldl (fun rest branch => .choice branch rest) level.branch

end Level

structure State where
  flags : Flags
  /-- The names of groups, which must differ. -/
  names : List Chars
  /-- The level that is read. -/
  level : Level
  /-- The levels around it, innermost first. -/
  around : List Level

namespace State

def push (state : State) (piece : Pattern) : State :=
  { state with level := state.level.push piece }

def openGroup (state : State) (flags : Flags) : State :=
  { state with
    flags := flags
    level := .opened state.flags
    around := state.level :: state.around }

def closeGroup? (state : State) : Option State :=
  match state.around with
  | [] => none
  | level :: around =>
      some { state with
        flags := state.level.outer
        level := level.push state.level.pattern
        around := around }

def setFlags (state : State) (flags : Flags) : State :=
  { state with
    flags := flags
    level := { state.level with pieces := none :: state.level.pieces } }

/-- The last piece, repeated. -/
def repeat? (state : State) (least : Nat) (most : Option Nat) : Option State :=
  match state.level.pieces with
  | some piece :: pieces =>
      let piece := Pattern.repeated piece least most
      some { state with level := { state.level with pieces := some piece :: pieces } }
  | _ => none

end State

def isNameChar (first : Bool) (char : Char) : Bool :=
  if first then char == '_' || Text.isAlphabetic char
  else char == '_' || char == '.' || char == '[' || char == ']' || Text.isAlphanumeric char

def groupName? (state : State) (chars : Chars) : Option (Chars × Chars) := do
  let (name, rest) ← Chars.cut? '>' chars
  match name with
  | [] => none
  | first :: others =>
      if isNameChar true first && others.all (isNameChar false) && !state.names.contains name then
        return (name, rest)
      else none

/-- Flags up to a colon or a parenthesis, which is returned. No flag may be named
twice, nor may the hyphen that turns those behind it off. -/
def readFlags (flags : Flags) (seen : List Char) : Chars → Option (Flags × List Char × Char × Chars)
  | [] => none
  | char :: rest =>
      if char == ':' || char == ')' then
        if seen.head? == some '-' then none else some (flags, seen, char, rest)
      else if seen.contains char then none
      else if char == '-' then readFlags flags ('-' :: seen) rest
      else do readFlags (← flags.set? char (!seen.contains '-')) (char :: seen) rest

def named? (state : State) (chars : Chars) : Option (State × Chars) := do
  let (name, rest) ← groupName? state chars
  return ({ state.openGroup state.flags with names := name :: state.names }, rest)

/-- Behind an opening parenthesis. -/
def readGroup (state : State) (chars : Chars) : Option (State × Chars) :=
  match state.flags.skip chars with
  | '?' :: '=' :: _ | '?' :: '!' :: _ | '?' :: '<' :: '=' :: _ | '?' :: '<' :: '!' :: _ => none
  | '?' :: 'P' :: '<' :: rest => named? state rest
  | '?' :: '<' :: rest => named? state rest
  | '?' :: rest => do
      let (flags, seen, stop, rest) ← readFlags state.flags [] rest
      if stop == ':' then return (state.openGroup flags, rest)
      else if seen.isEmpty then none
      else return (state.setFlags flags, rest)
  | rest => some (state.openGroup state.flags, rest)

/-! Repetitions. -/

def readCount (chars : Chars) : Option (Nat × Chars) := do
  let digits := (chars.dropWhile Text.isBlank).takeWhile Char.isDigit
  let rest := (chars.dropWhile Text.isBlank).dropWhile Char.isDigit
  let count ← Decimal.nat? digits
  if twoPow 32 ≤ count then none
  return (count, rest.dropWhile Text.isBlank)

/-- Behind an opening brace. -/
def readBounds (flags : Flags) (chars : Chars) : Option (Nat × Option Nat × Chars) := do
  let (least, rest) ← readCount (flags.skip chars)
  match rest with
  | '}' :: rest => return (least, some least, rest)
  | ',' :: rest =>
      match flags.skip rest with
      | '}' :: rest => return (least, none, rest)
      | rest =>
          let (most, rest) ← readCount rest
          match rest with
          | '}' :: rest => if most < least then none else return (least, some most, rest)
          | _ => none
  | _ => none

/-- A question mark behind a repetition asks for a short match, which does not
matter here. -/
def dropLazy : Chars → Chars
  | '?' :: rest => rest
  | chars => chars

def dot? (flags : Flags) : Option CharSet :=
  if !flags.unicode then none
  else if flags.dotFeeds then some (.property .any)
  else if flags.returns then some (.complement (.union (.single '\n') (.single '\r')))
  else some (.complement (.single '\n'))

def startEdge (flags : Flags) : Edge :=
  if !flags.lines then .textStart
  else if flags.returns then .lineStartAfterReturn
  else .lineStart

def endEdge (flags : Flags) : Edge :=
  if !flags.lines then .textEnd
  else if flags.returns then .lineEndBeforeReturn
  else .lineEnd

/-- Reads the piece that starts with `char`. -/
def readPiece (state : State) (char : Char) (rest : Chars) : Option (State × Chars) :=
  match char with
  | '(' => readGroup state rest
  | ')' => state.closeGroup?.map (·, rest)
  | '|' => some ({ state with level := state.level.alternate }, rest)
  | '[' => (readSet state.flags (2 * rest.length + 2) rest).map fun (set, rest) =>
      (state.push (.one set), rest)
  | '?' => (state.repeat? 0 (some 1)).map (·, dropLazy rest)
  | '*' => (state.repeat? 0 none).map (·, dropLazy rest)
  | '+' => (state.repeat? 1 none).map (·, dropLazy rest)
  | '{' => do
      let (least, most, rest) ← readBounds state.flags rest
      return (← state.repeat? least most, dropLazy (state.flags.skip rest))
  | '\\' => (readEscape state.flags rest).map fun (item, rest) =>
      (state.push (item.pattern state.flags), rest)
  | '.' => (dot? state.flags).map fun set => (state.push (.one set), rest)
  | '^' => some (state.push (.edge (startEdge state.flags)), rest)
  | '$' => some (state.push (.edge (endEdge state.flags)), rest)
  | char => some (state.push (.one (literalSet state.flags char)), rest)

/-- Every piece takes at least one character; so `fuel` need not exceed their
number. -/
def readFrom (state : State) : (fuel : Nat) → Chars → Option Pattern
  | 0, _ => none
  | fuel + 1, chars =>
      match state.flags.skip chars with
      | [] => if state.around.isEmpty then some state.level.pattern else none
      | char :: rest => do
          let (state, rest) ← readPiece state char rest
          readFrom state fuel rest

/-- Patterns that would become too large are refused. -/
def greatestWeight : Nat := 327680

def read? (text : String) : Option Pattern :=
  let start : State := ⟨.initial, [], .opened .initial, []⟩
  (readFrom start (text.toList.length + 1) text.toList).filter (·.weight ≤ greatestWeight)

end Triage.Pattern
