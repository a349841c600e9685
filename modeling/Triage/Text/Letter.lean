import Triage.Text.Chars
import Triage.Text.Table.Letters
import Triage.Text.Table.Cases

namespace Triage.Text

/-! Classes of letters and numbers. The ASCII part is written out, the rest is
looked up. -/

def isUpper (char : Char) : Bool :=
  if char.toNat < 0x80 then char.isUpper else Table.uppercase.contains char.toNat

def isLower (char : Char) : Bool :=
  if char.toNat < 0x80 then char.isLower else Table.lowercase.contains char.toNat

def isAlphabetic (char : Char) : Bool :=
  if char.toNat < 0x80 then char.isAlpha else Table.alphabetic.contains char.toNat

def isNumeric (char : Char) : Bool :=
  if char.toNat < 0x80 then char.isDigit else Table.numeric.contains char.toNat

def isAlphanumeric (char : Char) : Bool :=
  isAlphabetic char || isNumeric char

def isCased (char : Char) : Bool :=
  if char.toNat < 0x80 then char.isAlpha else Table.cased.contains char.toNat

/-- Characters that do not decide whether a word goes on, as far as case is
concerned. -/
def isCaseIgnorable (char : Char) : Bool :=
  if char.toNat < 0x80 then ['\'', '.', ':', '^', '`'].contains char
  else Table.caseIgnorable.contains char.toNat

end Triage.Text
