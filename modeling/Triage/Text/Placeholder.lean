import Triage.Text.Chars

namespace Triage.Placeholder

/-! A placeholder is a name in braces, with white space around the name if one
likes. Rendering is a single pass from the left: a value is not looked at again,
and a placeholder without a value stays as it is written. -/

def startsName (char : Char) : Bool :=
  char.isAlpha || char == '_'

def continuesName (char : Char) : Bool :=
  char.isAlphanum || char == '_'

/-- The name in the placeholder that the text starts with, and how many
characters the placeholder has. -/
def atStart? (chars : Chars) : Option (Chars × Nat) :=
  match chars with
  | '{' :: rest =>
      let named := rest.dropWhile Text.isBlank
      let name := named.takeWhile continuesName
      match (named.dropWhile continuesName).dropWhile Text.isBlank with
      | '}' :: after =>
          if name.head?.any startsName then some (name, chars.length - after.length) else none
      | _ => none
  | _ => none

/-- `skip` characters still belong to the placeholder that was rendered last. -/
def renderFrom (lookup : Chars → Option Chars) (skip : Nat) : Chars → Chars
  | [] => []
  | char :: rest =>
      match skip with
      | skip + 1 => renderFrom lookup skip rest
      | 0 =>
          match atStart? (char :: rest) with
          | some (name, length) =>
              let written := (char :: rest).take length
              (lookup name).getD written ++ renderFrom lookup (length - 1) rest
          | none => char :: renderFrom lookup 0 rest

def render (lookup : Chars → Option Chars) (template : Chars) : Chars :=
  renderFrom lookup 0 template

example :
    render (fun _ => some ['x']) ['a', '{', ' ', 'b', '}', '{', '1', '}'] =
      ['a', 'x', '{', '1', '}'] := rfl

end Triage.Placeholder

namespace Triage.Text

def fillPlaceholders (lookup : String → Option String) (template : String) : String :=
  String.ofList
    (Placeholder.render (fun name => (lookup (String.ofList name)).map String.toList)
      template.toList)

end Triage.Text
