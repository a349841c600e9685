namespace Triage

/-! Why a file could not be read or written. -/

inductive FileError where
  | notFound
  | exists
  | notDirectory
  | isDirectory
  /-- The content is not a text. -/
  | notText
  | other (message : String)
deriving DecidableEq, Repr

def FileError.text : FileError → String
  | .notFound => "No such file or directory (os error 2)"
  | .exists => "File exists (os error 17)"
  | .notDirectory => "Not a directory (os error 20)"
  | .isDirectory => "Is a directory (os error 21)"
  | .notText => "stream did not contain valid UTF-8"
  | .other message => message

end Triage
