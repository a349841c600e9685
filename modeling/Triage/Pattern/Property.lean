import Triage.Pattern.CharSet
import Triage.Text.Case

namespace Triage.Property

/-! Properties by name. Case, spaces, hyphens and underscores of a name do not
matter, and neither does a leading `is`. -/

def normalize (name : Chars) : Chars :=
  let kept := (name.map Char.toLower).filter fun char =>
    char != ' ' && char != '_' && char != '-' && char.toNat < 0x80
  match kept with
  | ['i', 's', 'c'] => kept
  | 'i' :: 's' :: rest => rest
  | _ => kept

def categories : List (String × String) :=
  [("other", "C"), ("control", "Cc"), ("cntrl", "Cc"), ("format", "Cf"), ("unassigned", "Cn"),
    ("privateuse", "Co"), ("surrogate", "Cs"), ("letter", "L"), ("casedletter", "LC"),
    ("lowercaseletter", "Ll"), ("modifierletter", "Lm"), ("otherletter", "Lo"),
    ("titlecaseletter", "Lt"), ("uppercaseletter", "Lu"), ("mark", "M"), ("combiningmark", "M"),
    ("spacingmark", "Mc"), ("enclosingmark", "Me"), ("nonspacingmark", "Mn"), ("number", "N"),
    ("decimalnumber", "Nd"), ("digit", "Nd"), ("letternumber", "Nl"), ("othernumber", "No"),
    ("punctuation", "P"), ("punct", "P"), ("connectorpunctuation", "Pc"),
    ("dashpunctuation", "Pd"), ("closepunctuation", "Pe"), ("finalpunctuation", "Pf"),
    ("initialpunctuation", "Pi"), ("otherpunctuation", "Po"), ("openpunctuation", "Ps"),
    ("symbol", "S"), ("currencysymbol", "Sc"), ("modifiersymbol", "Sk"), ("mathsymbol", "Sm"),
    ("othersymbol", "So"), ("separator", "Z"), ("lineseparator", "Zl"),
    ("paragraphseparator", "Zp"), ("spaceseparator", "Zs")]

def flags : List (String × Property) :=
  [("alphabetic", .alphabetic), ("alpha", .alphabetic), ("uppercase", .uppercase),
    ("upper", .uppercase), ("lowercase", .lowercase), ("lower", .lowercase), ("cased", .cased),
    ("caseignorable", .caseIgnorable), ("ci", .caseIgnorable), ("whitespace", .blank),
    ("wspace", .blank), ("space", .blank), ("joincontrol", .joinControl),
    ("joinc", .joinControl), ("emoji", .emoji), ("emojipresentation", .emojiPresentation),
    ("epres", .emojiPresentation), ("emojimodifierbase", .emojiModifierBase),
    ("ebase", .emojiModifierBase)]

/-- A category by abbreviation; those of code points that are not assigned have
no table. -/
def categorySet (start : String) : CharSet :=
  if start == "Cn" then .complement (.property .assigned)
  else if start == "C" then .union (.property (.category "C")) (.complement (.property .assigned))
  else if start == "LC" then
    .union (.property (.category "Lu"))
      (.union (.property (.category "Ll")) (.property (.category "Lt")))
  else .property (.category start)

/-- The abbreviations themselves are names too. -/
def abbreviation? (name : String) : Option String :=
  (categories.map (·.2)).find? (Text.lower · == name)

def category? (name : String) : Option CharSet :=
  if name == "any" then some (.property .any)
  else if name == "ascii" then some (.property .ascii)
  else if name == "assigned" then some (.property .assigned)
  else ((categories.lookup name).orElse fun _ => abbreviation? name).map categorySet

def script? (name : String) : Option CharSet :=
  if (Text.Table.scripts.lookup name).isSome then some (.property (.script name)) else none

def byValue? (name value : String) : Option CharSet :=
  if ["generalcategory", "gc"].contains name then category? value
  else if ["script", "sc", "scriptextensions", "scx"].contains name then script? value
  else none

def byName? (name : String) : Option CharSet :=
  match flags.lookup name with
  | some property => some (.property property)
  | none => (category? name).orElse fun _ => script? name

/-- A name, or a name and a value around a colon or an equals sign, which an
exclamation mark turns round. -/
def read? (chars : Chars) : Option CharSet :=
  let text (chars : Chars) : String := String.ofList (normalize chars)
  match (Chars.cut? ':' chars).orElse fun _ => Chars.cut? '=' chars with
  | some (name, value) =>
      if name.getLast? == some '!' then
        (byValue? (text name.dropLast) (text value)).map .complement
      else byValue? (text name) (text value)
  | none => byName? (text chars)

end Triage.Property
