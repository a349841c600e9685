import Triage.Text.Words

namespace Triage

inductive StepKind where
  /-- Where a run begins; one per tree. -/
  | start
  | step
  /-- Decides during the run which steps follow. -/
  | gateway
  /-- Stands for a fixed group of checks. -/
  | composite
  /-- The last step of a run. -/
  | end
deriving DecidableEq, Repr, Inhabited

namespace StepKind

def name : StepKind → String
  | .start => "start"
  | .step => "step"
  | .gateway => "gateway"
  | .composite => "composite"
  | .end => "end"

def all : List StepKind :=
  [.start, .step, .gateway, .composite, .end]

def ofName? (name : String) : Option StepKind :=
  all.find? (·.name == name)

/-- Steps that only the construction of a tree may place. -/
def isFixed : StepKind → Bool
  | .start | .end => true
  | _ => false

end StepKind

namespace TypePath

/-! Steps and trees are named after a path of modules, such as
`diagnostics::disk::SpaceCheck<Root>`; what stands in angle brackets does not
count. -/

def dropArguments (path : Chars) : Chars :=
  path.takeWhile (· != '<')

/-- The segments between double colons. -/
def segments (path : Chars) : List Chars :=
  go [] path
where
  go (segment : Chars) : Chars → List Chars
    | ':' :: ':' :: rest => segment :: go [] rest
    | char :: rest => go (segment ++ [char]) rest
    | [] => [segment]

def dotted (path : Chars) : Chars :=
  Chars.join ['.'] (segments (dropArguments path))

def untilColons : Chars → Chars
  | ':' :: ':' :: _ => []
  | char :: rest => char :: untilColons rest
  | [] => []

/-- What stands behind the last two colons. -/
def shortName (path : Chars) : Chars :=
  (untilColons (dropArguments path).reverse).reverse

example : shortName "a:::Check".toList = "Check".toList ∧
    dotted "a:::Check".toList = "a.:Check".toList := by
  decide

/-! A name in words: a sentence that starts with a capital. `rest` is what is
left of the name; it says how a word was spelled, so that an acronym keeps its
capitals. -/

/-- The first `count` bytes and what follows, if a character ends there. -/
def splitBytes? : (count : Nat) → Chars → Option (Chars × Chars)
  | 0, chars => some ([], chars)
  | _ + 1, [] => none
  | count + 1, char :: rest =>
      if char.utf8Size ≤ count + 1 then
        (splitBytes? (count + 1 - char.utf8Size) rest).map fun (taken, rest) =>
          (char :: taken, rest)
      else none

def isAcronym (word : Chars) : Bool :=
  1 < word.byteLength && word.all Text.isUpper

def sentenceWords (first : Bool) (rest : Chars) : List Chars → List Chars
  | [] => []
  | word :: words =>
      let rest := rest.dropWhile (· == '_')
      let (spelled, rest) := (splitBytes? word.byteLength rest).getD (word, [])
      (if isAcronym spelled then spelled else if first then word else Chars.lower word) ::
        sentenceWords false rest words

def sentence (path : Chars) : Chars :=
  let name := shortName path
  let words := (Words.ofChars name).map Words.capitalize
  Chars.join [' '] (sentenceWords true name (words.filter (!·.isEmpty)))

example : sentence "a::VmSSHGateway<F>".toList = "Vm SSH gateway".toList := by decide

end TypePath

/-- What is known of a step without running it. -/
structure Profile where
  typePath : String
  kind : StepKind
  /-- A name for people; without one the template or the type names the step. -/
  label : Option String
  /-- The message template that phrases the outcomes of the step. -/
  template : Option String
deriving DecidableEq, Repr, Inhabited

namespace Profile

def id (profile : Profile) : String :=
  String.ofList (TypePath.dotted profile.typePath.toList)

def name (profile : Profile) : String :=
  profile.label.getD (String.ofList (TypePath.sentence profile.typePath.toList))

end Profile

end Triage
