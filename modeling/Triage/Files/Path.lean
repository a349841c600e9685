import Triage.Text.Chars

namespace Triage.Path

/-! Paths, whose segments stand between slashes. -/

def isAbsolute (path : Chars) : Bool :=
  path.head? == some '/'

/-- A path below a directory; an absolute path stands for itself. -/
def below (directory path : Chars) : Chars :=
  if isAbsolute path then path
  else if directory.isEmpty || directory.getLast? == some '/' then directory ++ path
  else directory ++ '/' :: path

def join (directory path : String) : String :=
  String.ofList (below directory.toList path.toList)

/-- A path without its last segment. The root and the empty path have none. -/
def parentChars? (path : Chars) : Option Chars :=
  let whole := path.dropEndWhile (· == '/')
  if whole.isEmpty then none
  else
    let before := whole.dropEndWhile (· != '/')
    let directory := before.dropEndWhile (· == '/')
    some (if directory.isEmpty && isAbsolute path then ['/'] else directory)

def parent? (path : String) : Option String :=
  (parentChars? path.toList).map String.ofList

/-- A tilde that is the first segment stands for the home directory. -/
def expandChars (home path : Chars) : Chars :=
  match path.trim with
  | ['~'] => home
  | '~' :: '/' :: rest | '~' :: '\\' :: rest => below home rest
  | path => path

def expandTilde (home path : String) : String :=
  String.ofList (expandChars home.toList path.toList)

example : expandChars ['/', 'h'] [' ', '~', '/', 'r', ' '] = ['/', 'h', '/', 'r'] := by decide

example : expandChars ['/', 'h'] ['~', '/', '/', 'r'] = ['/', 'r'] := by decide

end Triage.Path
