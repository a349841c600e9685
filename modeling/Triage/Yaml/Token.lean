import Triage.Yaml.Scalar

namespace Triage.Yaml

/-! Tokens of a YAML text. Indentation and the keys of mappings show as tokens of
their own. -/

inductive Token where
  | documentStart
  | documentEnd
  | version (major minor : Nat)
  | tagHandle (handle expansion : String)
  | blockSequence
  | blockMapping
  /-- The end of a collection that is structured by indentation. -/
  | blockEnd
  | flowSequence
  | flowSequenceEnd
  | flowMapping
  | flowMappingEnd
  | flowEntry
  | blockEntry
  | key
  | value
  | alias (name : String)
  | anchor (name : String)
  | tag (handle suffix : String)
  | scalar (plain : Bool) (text : String)
deriving DecidableEq, Repr

/-- What begins here turns out to be a key only when a colon follows. Until then a
place among the tokens is kept free for it. -/
structure PossibleKey where
  /-- Which place. -/
  place : Nat
  /-- Whether nothing but a key can stand here. -/
  required : Bool
  index : Nat
  line : Nat
  column : Nat

structure Scan where
  rest : Chars
  index : Nat
  line : Nat
  column : Nat
  /-- What stands at each place. -/
  tokens : Array (List Token)
  /-- The columns of the open block collections, innermost first. -/
  indents : List Nat
  /-- One for the block level, and one for each open flow collection, innermost
  first. -/
  keys : List (Option PossibleKey)
  /-- Whether a key may begin here. -/
  keyAllowed : Bool

namespace Scan

def of (text : Chars) : Scan where
  rest := text
  index := 0
  line := 0
  column := 0
  tokens := #[]
  indents := []
  keys := [none]
  keyAllowed := true

def inFlow (scan : Scan) : Bool :=
  1 < scan.keys.length

def push (token : Token) (scan : Scan) : Scan :=
  { scan with tokens := scan.tokens.push [token] }

/-! Moving on. -/

def pass (char : Char) (scan : Scan) : Scan :=
  if isBreak char then
    { scan with index := scan.index + 1, line := scan.line + 1, column := 0 }
  else { scan with index := scan.index + 1, column := scan.column + 1 }

/-- Goes on at `rest`, which is a tail of what is left. -/
def moveTo (rest : Chars) (scan : Scan) : Scan :=
  let passed := scan.rest.take (scan.rest.length - rest.length)
  { passed.foldl (fun scan char => scan.pass char) scan with rest := rest }

/-- White space and comments before the next token. A tab is no indentation, and
the end of a line allows a key unless a flow collection is open. `fresh` holds at
the start of a line. -/
def skipSpace (flow fresh comment keyAllowed : Bool) : Chars → Chars × Bool
  | [] => ([], keyAllowed)
  | char :: rest =>
      if isBreak char then skipSpace flow true false (keyAllowed || !flow) rest
      else if comment then skipSpace flow false true keyAllowed rest
      else if char == '#' then skipSpace flow false true keyAllowed rest
      else if char == ' ' || (char == '\t' && (flow || !keyAllowed)) ||
          (fresh && char == '\ufeff') then
        skipSpace flow false false keyAllowed rest
      else (char :: rest, keyAllowed)

def toToken (scan : Scan) : Scan :=
  let (rest, keyAllowed) :=
    skipSpace scan.inFlow (scan.column == 0) false scan.keyAllowed scan.rest
  { scan.moveTo rest with keyAllowed := keyAllowed }

/-! Indentation. -/

/-- Opens a block collection at a column that lies further in. -/
def opening (column : Nat) (token : Token) (scan : Scan) : List Token × Scan :=
  if !scan.inFlow && scan.indents.head?.all (· < column) then
    ([token], { scan with indents := column :: scan.indents })
  else ([], scan)

def openBlock (token : Token) (scan : Scan) : Scan :=
  let (tokens, scan) := scan.opening scan.column token
  { scan with tokens := scan.tokens ++ (tokens.map ([·])).toArray }

/-- Closes the block collections that `closes` tells by their column. -/
def closeBlocks (closes : Nat → Bool) (scan : Scan) : Scan :=
  if scan.inFlow then scan
  else
    let closed := scan.indents.takeWhile closes
    { scan with
      tokens := scan.tokens ++ (closed.map fun _ => [Token.blockEnd]).toArray
      indents := scan.indents.dropWhile closes }

/-! Keys. -/

def withKey (key : Option PossibleKey) (scan : Scan) : Scan :=
  { scan with keys := key :: scan.keys.tail }

/-- Gives up the possible key of this level. -/
def dropKey (scan : Scan) : Option Scan :=
  match scan.keys.head? with
  | some (some key) => if key.required then none else some (scan.withKey none)
  | _ => some scan

/-- What comes next may turn out to be a key. -/
def saveKey (scan : Scan) : Option Scan :=
  if scan.keyAllowed then
    scan.dropKey.map fun scan =>
      let key : PossibleKey :=
        { place := scan.tokens.size
          required := !scan.inFlow && scan.indents.head? == some scan.column
          index := scan.index
          line := scan.line
          column := scan.column }
      { scan with tokens := scan.tokens.push [] }.withKey (some key)
  else some scan

/-- The colon must stand on the line of its key, and not too far behind its
beginning. -/
def isStale (scan : Scan) (key : PossibleKey) : Bool :=
  key.line < scan.line || key.index + 1024 < scan.index

/-- Gives up the possible keys for which a colon would come too late. -/
def dropStale (scan : Scan) : Option Scan :=
  let staleKeys := scan.keys.filterMap fun key => key.filter scan.isStale
  if staleKeys.any (·.required) then none
  else some { scan with keys := scan.keys.map fun key => key.filter (!scan.isStale ·) }

def allowKey (allowed : Bool) (scan : Scan) : Scan :=
  { scan with keyAllowed := allowed }

/-! One token after the other. -/

/-- The characters of anchors and of names in directives. -/
def isNameChar (char : Char) : Bool :=
  ('0' ≤ char && char ≤ '9') || ('A' ≤ char && char ≤ 'Z') || ('a' ≤ char && char ≤ 'z') ||
    char == '_' || char == '-'

def isTagChar (char : Char) : Bool :=
  isNameChar char || ";/?:@&=+$.%!~*'()".toList.contains char

/-- A token of one character. -/
def single (token : Token) (keyAllowed : Bool) (scan : Scan) : Scan :=
  ((scan.moveTo (scan.rest.drop 1)).push token).allowKey keyAllowed

/-- Between documents every open block ends. -/
def betweenDocuments (scan : Scan) : Option Scan :=
  ((scan.closeBlocks fun _ => true).dropKey).map (·.allowKey false)

def marker (char : Char) (scan : Scan) : Option Scan := do
  let scan ← scan.betweenDocuments
  let token := if char == '-' then Token.documentStart else .documentEnd
  return (scan.moveTo (scan.rest.drop 3)).push token

def openFlow (token : Token) (scan : Scan) : Option Scan := do
  let scan ← scan.saveKey
  return { scan with keys := none :: scan.keys }.single token true

def closeFlow (token : Token) (scan : Scan) : Option Scan := do
  let scan ← scan.dropKey
  let keys := if scan.inFlow then scan.keys.tail else scan.keys
  return { scan with keys := keys }.single token false

def flowEntry (scan : Scan) : Option Scan := do
  return (← scan.dropKey).single .flowEntry true

/-- Opens a block collection if need be; only where a key may begin. -/
def ensureBlock (token : Token) (scan : Scan) : Option Scan :=
  if scan.inFlow then some scan
  else if scan.keyAllowed then some (scan.openBlock token)
  else none

def blockEntry (scan : Scan) : Option Scan := do
  return (← (← scan.ensureBlock .blockSequence).dropKey).single .blockEntry true

def explicitKey (scan : Scan) : Option Scan := do
  let scan ← (← scan.ensureBlock .blockMapping).dropKey
  return scan.single .key (!scan.inFlow)

/-- A colon makes what may be a key into one, or follows a key that was announced. -/
def value (scan : Scan) : Option Scan :=
  match scan.keys.head? with
  | some (some key) =>
      let (tokens, scan) := scan.opening key.column .blockMapping
      let tokens := scan.tokens.setIfInBounds key.place (tokens ++ [.key])
      some (({ scan with tokens := tokens }.withKey none).single .value false)
  | _ => (scan.ensureBlock .blockMapping).map fun scan => scan.single .value (!scan.inFlow)

def endMarks : Chars :=
  ['?', ':', ',', ']', '\x7d', '%', '@', '\x60']

/-- The name of an anchor ends before white space or punctuation. -/
def name (token : String → Token) (scan : Scan) : Option Scan := do
  let scan ← scan.saveKey
  let chars := scan.rest.drop 1
  let name := chars.takeWhile isNameChar
  let rest := chars.dropWhile isNameChar
  if name.isEmpty || !(endsWord rest || rest.head?.any (endMarks.contains ·)) then none
  else return ((scan.moveTo rest).push (token (String.ofList name))).allowKey false

/-- A tag, and what follows it: in full between angle brackets, or a handle and a
suffix. -/
def readTag? (chars : Chars) : Option (Token × Chars) :=
  match chars with
  | '!' :: '<' :: rest =>
      let isFullChar (char : Char) : Bool :=
        isTagChar char || char == ',' || char == '[' || char == ']'
      let uri := rest.takeWhile isFullChar
      match uri.isEmpty, rest.dropWhile isFullChar with
      | false, '>' :: rest => some (.tag "" (String.ofList uri), rest)
      | _, _ => none
  | '!' :: rest =>
      let word := rest.takeWhile isNameChar
      let suffix (rest : Chars) : String := String.ofList (rest.takeWhile isTagChar)
      match rest.dropWhile isNameChar with
      | '!' :: more =>
          if suffix more == "" then none
          else
            some (.tag ("!" ++ String.ofList word ++ "!") (suffix more), more.dropWhile isTagChar)
      | _ =>
          if suffix rest == "" then some (.tag "" "!", rest)
          else some (.tag "!" (suffix rest), rest.dropWhile isTagChar)
  | _ => none

def tag (scan : Scan) : Option Scan := do
  let scan ← scan.saveKey
  let (token, rest) ← readTag? scan.rest
  if endsWord rest || (scan.inFlow && rest.head? == some ',') then
    return ((scan.moveTo rest).push token).allowKey false
  else none

def quoted (quote : Char) (scan : Scan) : Option Scan := do
  let scan ← scan.saveKey
  let inside := scan.rest.drop 1
  let (text, rest) ←
    if quote == '"' then doubleQuoted false .none (inside.length + 1) inside
    else singleQuoted false .none inside
  return ((scan.moveTo rest).push (.scalar false (String.ofList text))).allowKey false

def block (literal : Bool) (scan : Scan) : Option Scan := do
  let scan ← scan.dropKey
  let (text, rest) ← blockScalar literal scan.indents.head? (scan.rest.drop 1)
  return ((scan.moveTo rest).push (.scalar false (String.ofList text))).allowKey true

def plain (scan : Scan) : Option Scan := do
  let scan ← scan.saveKey
  let indent := (scan.indents.head?.map (· + 1)).getD 0
  let plain ← Plain.from_ scan.inFlow indent scan.column .none scan.rest
  return ((scan.moveTo plain.rest).push (.scalar true (String.ofList plain.text))).allowKey
    plain.endsLine

/-! Directives. -/

def readVersion? (chars : Chars) : Option (Token × Chars) := do
  let (major, rest) := Json.takeDigits (chars.dropWhile isBlank)
  match rest with
  | '.' :: rest =>
      let (minor, rest) := Json.takeDigits rest
      if 9 < major.length || 9 < minor.length then none
      else return (.version (← Decimal.nat? major) (← Decimal.nat? minor), rest)
  | _ => none

def readTagHandle? (chars : Chars) : Option (Token × Chars) :=
  match chars.dropWhile isBlank with
  | '!' :: rest => do
      let word := rest.takeWhile isNameChar
      let (handle, rest) ← match rest.dropWhile isNameChar with
        | '!' :: rest => some ('!' :: word ++ ['!'], rest)
        | rest => if word.isEmpty then some (['!'], rest) else none
      let isFullChar (char : Char) : Bool :=
        isTagChar char || char == ',' || char == '[' || char == ']'
      let uri := (rest.dropWhile isBlank).takeWhile isFullChar
      let after := (rest.dropWhile isBlank).dropWhile isFullChar
      if rest.head?.any isBlank && !uri.isEmpty && endsWord after then
        return (.tagHandle (String.ofList handle) (String.ofList uri), after)
      else none
  | _ => none

def directive (scan : Scan) : Option Scan := do
  let scan ← scan.betweenDocuments
  let chars := scan.rest.drop 1
  let rest := chars.dropWhile isNameChar
  let name := String.ofList (chars.takeWhile isNameChar)
  let (token, rest) ←
    if name == "YAML" then readVersion? rest
    else if name == "TAG" then readTagHandle? rest
    else none
  let rest := rest.dropWhile isBlank
  let rest := if rest.head? == some '#' then rest.dropWhile (!isBreak ·) else rest
  if rest.head?.all isBreak then return (scan.moveTo (rest.drop 1)).push token else none

/-! All tokens. -/

/-- The token that starts with `char`. -/
def fetch (char : Char) (scan : Scan) : Option Scan :=
  let next := scan.rest.drop 1
  if scan.column == 0 && char == '%' then scan.directive
  else if scan.column == 0 && atMarker scan.rest then scan.marker char
  else
    match char with
    | '[' => scan.openFlow .flowSequence
    | '{' => scan.openFlow .flowMapping
    | ']' => scan.closeFlow .flowSequenceEnd
    | '}' => scan.closeFlow .flowMappingEnd
    | ',' => scan.flowEntry
    | '*' => scan.name .alias
    | '&' => scan.name .anchor
    | '!' => scan.tag
    | '\'' | '"' => scan.quoted char
    | _ =>
        if char == '-' && endsWord next then scan.blockEntry
        else if char == '?' && (scan.inFlow || endsWord next) then scan.explicitKey
        else if char == ':' && (scan.inFlow || endsWord next) then scan.value
        else if (char == '|' || char == '>') && !scan.inFlow then scan.block (char == '|')
        else if isBlank char || "#|>%@`".toList.contains char then none
        else scan.plain

def finish (scan : Scan) : Option (List Token) := do
  let scan ← scan.betweenDocuments
  return scan.tokens.toList.flatten

/-- `fuel` is more than the number of characters left. -/
def run : (fuel : Nat) → Scan → Option (List Token)
  | 0, _ => none
  | fuel + 1, scan => do
      let scan ← scan.toToken.dropStale
      let scan := scan.closeBlocks (scan.column < ·)
      match scan.rest with
      | [] => scan.finish
      | char :: _ => run fuel (← scan.fetch char)

end Scan

def Token.ofText? (text : String) : Option (List Token) := do
  let chars ← normalize? text.toList
  let chars := if chars.head? == some '\ufeff' then chars.drop 1 else chars
  (Scan.of chars).run (chars.length + 1)

end Triage.Yaml
