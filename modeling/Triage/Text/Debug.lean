import Triage.Pattern.CharSet

namespace Triage.Text

/-! Texts in quotes, for messages that show exactly what a text holds. -/

def hexDigits (fuel : Nat) (code : Nat) : Chars :=
  match fuel with
  | 0 => []
  | fuel + 1 =>
      let digit := code % 16
      let char := Char.ofNat (if digit < 10 then '0'.toNat + digit else 'a'.toNat + digit - 10)
      if code < 16 then [char] else hexDigits fuel (code / 16) ++ [char]

/-- Marks that take space but still belong to the character before them. -/
def spacingExtenders : Ranges :=
  [0x9BE, 0x9BE, 0x9D7, 0x9D7, 0xB3E, 0xB3E, 0xB57, 0xB57, 0xBBE, 0xBBE, 0xBD7, 0xBD7, 0xCC2,
    0xCC2, 0xCD5, 0xCD6, 0xD3E, 0xD3E, 0xD57, 0xD57, 0xDCF, 0xDCF, 0xDDF, 0xDDF, 0x1B35, 0x1B35,
    0x302E, 0x302F, 0xFF9E, 0xFF9F, 0x1133E, 0x1133E, 0x11357, 0x11357, 0x114B0, 0x114B0,
    0x114BD, 0x114BD, 0x115AF, 0x115AF, 0x11930, 0x11930, 0x1D165, 0x1D165, 0x1D16E, 0x1D172]

/-- Whether the character would join the one before it. -/
def isExtender (char : Char) : Bool :=
  isInCategory "Mn" char || isInCategory "Me" char || spacingExtenders.contains char.toNat

/-- Characters that can be seen, and the space. -/
def isVisible (char : Char) : Bool :=
  char == ' ' || (isAssigned char && !isInCategory "C" char && !isInCategory "Z" char)

def escapeQuoted (char : Char) : Chars :=
  if char == '\x00' then ['\\', '0']
  else if char == '\t' then ['\\', 't']
  else if char == '\r' then ['\\', 'r']
  else if char == '\n' then ['\\', 'n']
  else if char == '"' then ['\\', '"']
  else if char == '\\' then ['\\', '\\']
  else if isExtender char || !isVisible char then
    ['\\', 'u', '{'] ++ hexDigits 6 char.toNat ++ ['}']
  else [char]

def debug (text : String) : String :=
  "\"" ++ String.ofList (text.toList.flatMap escapeQuoted) ++ "\""

end Triage.Text
