import Triage.Text.Case

namespace Triage.Words

/-! The words of an identifier. Everything but letters and numbers separates;
inside such a piece the case of the letters does. Numbers keep the case mode of
the letters before them. -/

/-- Case of the last cased character since the last boundary. -/
inductive Mode where
  | start
  | lower
  | upper
deriving DecidableEq, Repr

def Mode.after (mode : Mode) (char : Char) : Mode :=
  if Text.isLower char then .lower
  else if Text.isUpper char then .upper
  else mode

/-- `word` is the word read so far. A boundary falls after `char` when the next
character is a capital after a small letter, and before `char` when it is the
last of several capitals with a small letter behind it. -/
def cut (mode : Mode) (word : Chars) : Chars → List Chars
  | [] => [word]
  | [char] => [word ++ [char]]
  | char :: next :: rest =>
      if mode.after char = .lower ∧ Text.isUpper next then
        (word ++ [char]) :: cut .start [] (next :: rest)
      else if mode = .upper ∧ Text.isUpper char ∧ Text.isLower next then
        word :: cut .start [char] (next :: rest)
      else cut (mode.after char) (word ++ [char]) (next :: rest)

def pieces (chars : Chars) : List Chars :=
  (chars.splitWhere fun char => !Text.isAlphanumeric char).filter (!·.isEmpty)

def ofChars (chars : Chars) : List Chars :=
  (pieces chars).flatMap (cut .start [])

/-! Words are lower-cased on their own: a capital sigma is final in a word only
as its last character. -/

def lower : Chars → Chars
  | [] => []
  | char :: rest =>
      (if char == 'Σ' && rest.isEmpty then ['ς'] else Text.lowerChars char) ++ lower rest

def capitalize : Chars → Chars
  | [] => []
  | char :: rest => Text.upperChars char ++ lower rest

def kebab (chars : Chars) : Chars :=
  Chars.join ['-'] ((ofChars chars.trim).map lower)

example : kebab "VmSSHConnectivity".toList = "vm-ssh-connectivity".toList := by decide

example : kebab "IPv4Address".toList = "i-pv4-address".toList := by decide

end Triage.Words

namespace Triage.Text

/-- The words in lower case, joined by hyphens. -/
def kebab (text : String) : String :=
  String.ofList (Words.kebab text.toList)

end Triage.Text
