import Triage.Step.Profile
import Triage.Text.Words

namespace Triage.RunbookId

/-! Ids of runbooks: a product and a name around a slash, both in kebab case. -/

/-- The text without slashes at its ends. -/
def trimSlashes (chars : Chars) : Chars :=
  Chars.dropEndWhile (· == '/') (chars.dropWhile (· == '/'))

def segments (chars : Chars) : List Chars :=
  (Chars.split '/' (trimSlashes chars.trim)).filter (!·.trim.isEmpty)

def normalizeChars (chars : Chars) : Chars :=
  Chars.join ['/'] ((segments chars).map Words.kebab)

/-- The one spelling of an id under which its runbook is registered. -/
def normalize (id : String) : String :=
  String.ofList (normalizeChars id.toList)

/-- The id of a tree that is named by its type path. -/
def ofType (product typePath : String) : String :=
  Text.kebab product ++ "/" ++ String.ofList (Words.kebab (TypePath.shortName typePath.toList))

/-- The part before the first slash. -/
def productOf (id : String) : String :=
  (Text.split '/' id).headD ""

end Triage.RunbookId
