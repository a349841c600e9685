import Triage.Text.CodePoints

namespace Triage.Text

/-! White space is the Unicode property of that name, and nothing else: the
zero width space and the information separators are ordinary characters. -/

def blanks : Ranges :=
  [0x9, 0xD, 0x20, 0x20, 0x85, 0x85, 0xA0, 0xA0, 0x1680, 0x1680, 0x2000, 0x200A,
    0x2028, 0x2029, 0x202F, 0x202F, 0x205F, 0x205F, 0x3000, 0x3000]

def isBlank (char : Char) : Bool :=
  blanks.contains char.toNat

example : isBlank ' ' = true ∧ isBlank '\x0b' = true ∧ isBlank 'x' = false := by decide

example : isBlank '\x1c' = false ∧ isBlank '\u200b' = false := by decide

end Triage.Text

namespace Triage

/-- The characters of a text; what the library says about texts is proved here. -/
abbrev Chars := List Char

namespace Chars

/-! Cutting a text at its ends and at separators. -/

def trimStart (chars : Chars) : Chars :=
  chars.dropWhile Text.isBlank

def dropEndWhile (drop : Char → Bool) (chars : Chars) : Chars :=
  (chars.reverse.dropWhile drop).reverse

def trimEnd (chars : Chars) : Chars :=
  chars.dropEndWhile Text.isBlank

def trim (chars : Chars) : Chars :=
  chars.trimStart.trimEnd

/-- The pieces between the characters that satisfy `separates`; one more than
there are separators. -/
def splitWhere (separates : Char → Bool) : Chars → List Chars
  | [] => [[]]
  | char :: rest =>
      if separates char then [] :: splitWhere separates rest
      else
        match splitWhere separates rest with
        | [] => [[char]]
        | piece :: pieces => (char :: piece) :: pieces

def split (separator : Char) (chars : Chars) : List Chars :=
  chars.splitWhere (· == separator)

def join (separator : Chars) : List Chars → Chars
  | [] => []
  | [piece] => piece
  | piece :: pieces => piece ++ separator ++ join separator pieces

/-- The two parts around the first separator, which is dropped. -/
def cut? (separator : Char) : Chars → Option (Chars × Chars)
  | [] => none
  | char :: rest =>
      if char == separator then some ([], rest)
      else (cut? separator rest).map fun (before, after) => (char :: before, after)

def dropPrefix? : (start : Chars) → Chars → Option Chars
  | [], chars => some chars
  | _ :: _, [] => none
  | expected :: start, char :: chars =>
      if expected == char then dropPrefix? start chars else none

/-- The text from the first occurrence of `wanted` on. -/
def findFrom? (wanted : Chars) : Chars → Option Chars
  | [] => if wanted.isEmpty then some [] else none
  | char :: rest =>
      if (dropPrefix? wanted (char :: rest)).isSome then some (char :: rest)
      else findFrom? wanted rest

/-- Every occurrence of `wanted`, found from the left and not overlapping, gives
way to `replacement`. -/
def replace (wanted replacement : Chars) (chars : Chars) : Chars :=
  go chars.length chars
where
  go : Nat → Chars → Chars
    | 0, rest => rest
    | _, [] => []
    | fuel + 1, char :: rest =>
        match dropPrefix? wanted (char :: rest) with
        | some after => replacement ++ go fuel after
        | none => char :: go fuel rest

/-- How many bytes the text takes in UTF-8. -/
def byteLength : Chars → Nat
  | [] => 0
  | char :: rest => char.utf8Size + byteLength rest

/-- The lines with their line feeds; a last line may lack one. -/
def rawLines : Chars → List Chars
  | [] => []
  | char :: rest =>
      if char == '\n' then [char] :: rawLines rest
      else
        match rawLines rest with
        | [] => [[char]]
        | line :: more => (char :: line) :: more

/-- A carriage return before the line feed belongs to the line end. -/
def dropLineEnd (line : Chars) : Chars :=
  match line.reverse with
  | '\n' :: '\r' :: rest => rest.reverse
  | '\n' :: rest => rest.reverse
  | _ => line

def lines (chars : Chars) : List Chars :=
  chars.rawLines.map dropLineEnd

example : lines ['a', '\r', '\n', '\n', 'b', '\r'] = [['a'], [], ['b', '\r']] := rfl

end Chars

namespace Text

/-! The same operations on strings. -/

def trim (text : String) : String :=
  String.ofList (Chars.trim text.toList)

def trimEnd (text : String) : String :=
  String.ofList (Chars.trimEnd text.toList)

def isBlankText (text : String) : Bool :=
  text.toList.all isBlank

def split (separator : Char) (text : String) : List String :=
  (Chars.split separator text.toList).map String.ofList

def join (separator : String) (pieces : List String) : String :=
  String.ofList (Chars.join separator.toList (pieces.map String.toList))

def cut? (separator : Char) (text : String) : Option (String × String) :=
  (Chars.cut? separator text.toList).map fun (before, after) =>
    (String.ofList before, String.ofList after)

def dropPrefix? (start text : String) : Option String :=
  (Chars.dropPrefix? start.toList text.toList).map String.ofList

def hasPrefix (start text : String) : Bool :=
  (dropPrefix? start text).isSome

/-- The part after the last separator, or the whole text if there is none. -/
def afterLast (separator : Char) (text : String) : String :=
  (split separator text).getLastD text

def lines (text : String) : List String :=
  (Chars.lines text.toList).map String.ofList

def replace (wanted replacement text : String) : String :=
  String.ofList (Chars.replace wanted.toList replacement.toList text.toList)

/-- At least `width` characters. -/
def padRight (width : Nat) (text : String) : String :=
  text ++ String.ofList (List.replicate (width - text.length) ' ')

def containsChar (char : Char) (text : String) : Bool :=
  text.toList.contains char

end Text

end Triage
