import Triage.Value.Basic

namespace Triage

/-! JSON texts as trees. A tree keeps the order and the repetitions of keys and
the spelling of numbers, which the readers of records need; it is also what is
printed. -/

namespace Json

inductive Node where
  | null
  | bool (flag : Bool)
  /-- The digits as they are written. -/
  | number (lexeme : Chars)
  | string (text : String)
  /-- A text with half of a surrogate pair: well formed, but not a string. -/
  | unpaired
  | array (items : List Node)
  | object (members : List (String × Node))
deriving Repr, Inhabited

/-! Printing. Strings escape quotes, backslashes and control characters and hold
everything else as it is. -/

def hexDigit (value : Nat) : Char :=
  if value < 10 then Char.ofNat ('0'.toNat + value) else Char.ofNat ('a'.toNat + value - 10)

def escapeChar (char : Char) : Chars :=
  if char == '"' then ['\\', '"']
  else if char == '\\' then ['\\', '\\']
  else if char == '\n' then ['\\', 'n']
  else if char == '\r' then ['\\', 'r']
  else if char == '\t' then ['\\', 't']
  else if char == '\x08' then ['\\', 'b']
  else if char == '\x0c' then ['\\', 'f']
  else if char.toNat < 0x20 then
    ['\\', 'u', '0', '0', hexDigit (char.toNat / 16), hexDigit (char.toNat % 16)]
  else [char]

def quoted (text : String) : Chars :=
  '"' :: (text.toList.flatMap escapeChar ++ ['"'])

mutual
def Node.compact : Node → Chars
  | .null => "null".toList
  | .bool flag => (toString flag).toList
  | .number lexeme => lexeme
  | .string text => quoted text
  | .unpaired => quoted ""
  | .array items => '[' :: (compactItems items ++ [']'])
  | .object members => '{' :: (compactMembers members ++ ['}'])

def compactItems : List Node → Chars
  | [] => []
  | [item] => item.compact
  | item :: rest => item.compact ++ ',' :: compactItems rest

def compactMembers : List (String × Node) → Chars
  | [] => []
  | [(key, item)] => quoted key ++ ':' :: item.compact
  | (key, item) :: rest => quoted key ++ ':' :: (item.compact ++ ',' :: compactMembers rest)
end

/-- A line feed and two spaces per level. -/
def newLine (level : Nat) : Chars :=
  '\n' :: List.replicate (2 * level) ' '

mutual
/-- One item per line; empty arrays and objects stay on the line. -/
def Node.pretty (level : Nat) : Node → Chars
  | .null => "null".toList
  | .bool flag => (toString flag).toList
  | .number lexeme => lexeme
  | .string text => quoted text
  | .unpaired => quoted ""
  | .array items =>
      if items.isEmpty then ['[', ']']
      else '[' :: (prettyItems (level + 1) items ++ newLine level ++ [']'])
  | .object members =>
      if members.isEmpty then ['{', '}']
      else '{' :: (prettyMembers (level + 1) members ++ newLine level ++ ['}'])

def prettyItems (level : Nat) : List Node → Chars
  | [] => []
  | item :: rest =>
      newLine level ++ item.pretty level ++
        (if rest.isEmpty then [] else ',' :: prettyItems level rest)

def prettyMembers (level : Nat) : List (String × Node) → Chars
  | [] => []
  | (key, item) :: rest =>
      newLine level ++ quoted key ++ ':' :: ' ' :: (item.pretty level ++
        (if rest.isEmpty then [] else ',' :: prettyMembers level rest))
end

/-! Reading. Every function returns what it read and the characters after it. -/

def isSpace (char : Char) : Bool :=
  char == ' ' || char == '\n' || char == '\t' || char == '\r'

def skipSpace (chars : Chars) : Chars :=
  chars.dropWhile isSpace

def hexValue? (char : Char) : Option Nat :=
  if '0' ≤ char ∧ char ≤ '9' then some (char.toNat - '0'.toNat)
  else if 'a' ≤ char ∧ char ≤ 'f' then some (char.toNat - 'a'.toNat + 10)
  else if 'A' ≤ char ∧ char ≤ 'F' then some (char.toNat - 'A'.toNat + 10)
  else none

def hexUnit? : Chars → Option (Nat × Chars)
  | first :: second :: third :: fourth :: rest => do
      let value := ((← hexValue? first) * 16 + (← hexValue? second)) * 16 + (← hexValue? third)
      return (value * 16 + (← hexValue? fourth), rest)
  | _ => none

/-- What an escape stands for: nothing when it is half of a surrogate pair. -/
def simpleEscape? : Char → Option Char
  | '"' => some '"'
  | '\\' => some '\\'
  | '/' => some '/'
  | 'b' => some '\x08'
  | 'f' => some '\x0c'
  | 'n' => some '\n'
  | 'r' => some '\r'
  | 't' => some '\t'
  | _ => none

/-- `text` is the text so far, nothing once it holds half of a pair. `fuel` is at
least the number of characters left. -/
def readString (text : Option Chars) : (fuel : Nat) → Chars → Option (Option Chars × Chars)
  | 0, _ => none
  | fuel + 1, chars =>
      match chars with
      | [] => none
      | '"' :: rest => some (text.map List.reverse, rest)
      | '\\' :: 'u' :: rest => do
          let (unit, rest) ← hexUnit? rest
          if 0xD800 ≤ unit ∧ unit < 0xDC00 then
            match rest with
            | '\\' :: 'u' :: more => do
                let (second, more) ← hexUnit? more
                if 0xDC00 ≤ second ∧ second < 0xE000 then
                  let code := 0x10000 + (unit - 0xD800) * 0x400 + (second - 0xDC00)
                  readString (text.map (Char.ofNat code :: ·)) fuel more
                else readString none fuel rest
            | _ => readString none fuel rest
          else if 0xDC00 ≤ unit ∧ unit < 0xE000 then readString none fuel rest
          else readString (text.map (Char.ofNat unit :: ·)) fuel rest
      | '\\' :: escape :: rest => do
          let char ← simpleEscape? escape
          readString (text.map (char :: ·)) fuel rest
      | char :: rest =>
          if char.toNat < 0x20 || char == '\\' then none
          else readString (text.map (char :: ·)) fuel rest

def takeDigits (chars : Chars) : Chars × Chars :=
  (chars.takeWhile Char.isDigit, chars.dropWhile Char.isDigit)

/-- An optional part of a number that starts with one of `marks`. -/
def readPart (marks : Chars) (signed : Bool) (chars : Chars) : Option (Chars × Chars) :=
  match chars with
  | mark :: rest =>
      if marks.contains mark then
        let (sign, rest) :=
          match rest with
          | '+' :: more => if signed then (['+'], more) else ([], rest)
          | '-' :: more => if signed then (['-'], more) else ([], rest)
          | _ => ([], rest)
        let (digits, rest) := takeDigits rest
        if digits.isEmpty then none else some (mark :: sign ++ digits, rest)
      else some ([], chars)
  | [] => some ([], [])

def readNumber (chars : Chars) : Option (Chars × Chars) := do
  let (sign, rest) := match chars with
    | '-' :: rest => (['-'], rest)
    | _ => ([], chars)
  let (whole, rest) := takeDigits rest
  if whole.isEmpty || (whole.head? == some '0' && 1 < whole.length) then none
  let (fraction, rest) ← readPart ['.'] false rest
  let (exponent, rest) ← readPart ['e', 'E'] true rest
  return (sign ++ whole ++ fraction ++ exponent, rest)

/-- The rest of an array behind its opening bracket or a comma. -/
def readItems (read : Chars → Option (Node × Chars)) :
    (fuel : Nat) → Chars → Option (List Node × Chars)
  | 0, _ => none
  | fuel + 1, chars => do
      let (item, rest) ← read chars
      match skipSpace rest with
      | ',' :: rest => do
          let (items, rest) ← readItems read fuel rest
          return (item :: items, rest)
      | ']' :: rest => return ([item], rest)
      | _ => none

def readKey (fuel : Nat) (chars : Chars) : Option (String × Chars) :=
  match skipSpace chars with
  | '"' :: rest => do
      let (text, rest) ← readString (some []) fuel rest
      let text ← text
      match skipSpace rest with
      | ':' :: rest => return (String.ofList text, rest)
      | _ => none
  | _ => none

/-- The rest of an object behind its opening brace or a comma. -/
def readMembers (read : Chars → Option (Node × Chars)) :
    (fuel : Nat) → Chars → Option (List (String × Node) × Chars)
  | 0, _ => none
  | fuel + 1, chars => do
      let (key, rest) ← readKey (fuel + 1) chars
      let (item, rest) ← read rest
      match skipSpace rest with
      | ',' :: rest => do
          let (members, rest) ← readMembers read fuel rest
          return ((key, item) :: members, rest)
      | '}' :: rest => return ([(key, item)], rest)
      | _ => none

/-- `fuel` bounds both the depth and the length of what is read. -/
def readNode : (fuel : Nat) → Chars → Option (Node × Chars)
  | 0, _ => none
  | fuel + 1, chars =>
      match skipSpace chars with
      | 'n' :: 'u' :: 'l' :: 'l' :: rest => some (.null, rest)
      | 't' :: 'r' :: 'u' :: 'e' :: rest => some (.bool true, rest)
      | 'f' :: 'a' :: 'l' :: 's' :: 'e' :: rest => some (.bool false, rest)
      | '"' :: rest => do
          let (text, rest) ← readString (some []) (fuel + 1) rest
          match text with
          | some text => return (.string (String.ofList text), rest)
          | none => return (.unpaired, rest)
      | '[' :: rest =>
          match skipSpace rest with
          | ']' :: rest => some (.array [], rest)
          | rest => (readItems (readNode fuel) (fuel + 1) rest).map fun (items, rest) =>
              (.array items, rest)
      | '{' :: rest =>
          match skipSpace rest with
          | '}' :: rest => some (.object [], rest)
          | rest => (readMembers (readNode fuel) (fuel + 1) rest).map fun (members, rest) =>
              (.object members, rest)
      | rest => (readNumber rest).map fun (lexeme, rest) => (.number lexeme, rest)

/-- The tree of a whole text. -/
def Node.read? (text : Chars) : Option Node := do
  let (node, rest) ← readNode (text.length + 1) text
  if (skipSpace rest).isEmpty then some node else none

end Json

end Triage
