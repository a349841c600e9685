import Triage.Proofs.Text.Kebab
import Triage.Step.Profile

namespace Triage

namespace Words

open Text

variable {char separator : Char} {chars run gap word text rest : Chars} {words others : List Chars}

/-! ## The words of an identifier -/

/-- Nothing but underscores. -/
def Gap (chars : Chars) : Prop :=
  ∀ char ∈ chars, char = '_'

/-- The words stand in the text in this order, with gaps before, between and behind them. -/
inductive Spread : List Chars → Chars → Prop
  | gap {gap : Chars} (isGap : Gap gap) : Spread [] gap
  | word {gap word rest : Chars} {words : List Chars} (isGap : Gap gap)
      (more : Spread words rest) : Spread (word :: words) (gap ++ word ++ rest)

theorem Gap.append (isGap : Gap gap) (restGap : Gap rest) : Gap (gap ++ rest) :=
  List.forall_mem_append.mpr ⟨isGap, restGap⟩

theorem Spread.behind (isGap : Gap gap) (spread : Spread words text) :
    Spread words (gap ++ text) := by
  cases spread with
  | gap restGap => exact .gap (isGap.append restGap)
  | word restGap more =>
      rw [← List.append_assoc, ← List.append_assoc]
      exact .word (isGap.append restGap) more

theorem Spread.append (first : Spread words text) (second : Spread others rest) :
    Spread (words ++ others) (text ++ rest) := by
  induction first with
  | gap isGap => exact second.behind isGap
  | word isGap _ induction =>
      rw [List.append_assoc]
      exact .word isGap induction

theorem spread_flatten (words : List Chars) : Spread words words.flatten := by
  induction words with
  | nil => exact .gap (List.forall_mem_nil _)
  | cons word words induction =>
      exact .word (List.forall_mem_nil _) induction

theorem ofChars_append_cons (separates : isAlphanumeric separator = false) (chars rest : Chars) :
    ofChars (chars ++ separator :: rest) = ofChars chars ++ ofChars rest := by
  have stops : (!isAlphanumeric separator) = true := by simp [separates]
  rw [ofChars, pieces, Chars.splitWhere_append_cons stops, List.filter_append,
    List.flatMap_append]
  rfl

theorem flatten_ofChars (isRun : Run run) : (ofChars run).flatten = run := by
  have whole : ∀ char ∈ run, (!isAlphanumeric char) = false := fun char member => by
    rw [isAlphanumeric_ascii (ascii_of_isAlphanum (isRun char member)), isRun char member]
    rfl
  rw [ofChars, pieces, Chars.splitWhere_of_none whole]
  cases run with
  | nil => rfl
  | cons char rest => simp [flatten_cut]

theorem Run.spread (isRun : Run run) : Spread (ofChars run) run := by
  have spread := spread_flatten (ofChars run)
  rwa [flatten_ofChars isRun] at spread

/-- Letters, digits and underscores of ASCII. -/
def Identifier (chars : Chars) : Prop :=
  ∀ char ∈ chars, char.isAlphanum = true ∨ char = '_'

instance (chars : Chars) : Decidable (Identifier chars) :=
  List.decidableBAll _ _

/-- The search for words loses nothing but underscores. By induction on what follows the letters
and digits read so far. -/
theorem spread_run (isRun : Run run) (identifier : Identifier chars) :
    Spread (ofChars (run ++ chars)) (run ++ chars) := by
  induction chars generalizing run with
  | nil => simpa using isRun.spread
  | cons char rest induction =>
      have restIdentifier : Identifier rest := (List.forall_mem_cons.mp identifier).2
      rcases identifier char List.mem_cons_self with known | rfl
      · have longer : Run (run ++ [char]) :=
          List.forall_mem_append.mpr ⟨isRun, List.forall_mem_singleton.mpr known⟩
        simpa using induction longer restIdentifier
      · have spread : Spread (ofChars rest) rest :=
          induction (List.forall_mem_nil _) restIdentifier
        have underscore : Gap ['_'] := fun _ member => List.mem_singleton.mp member
        rw [ofChars_append_cons (by decide)]
        exact isRun.spread.append (spread.behind underscore)

theorem Identifier.spread (identifier : Identifier chars) : Spread (ofChars chars) chars :=
  spread_run (List.forall_mem_nil _) identifier

/-- A word of an identifier: letters and digits, at least one. -/
structure Word (word : Chars) : Prop where
  filled : word ≠ []
  run : Run word

theorem Identifier.isWord (identifier : Identifier chars) (member : word ∈ ofChars chars) :
    Word word := by
  rcases mem_ofChars member with ⟨filled, drawn⟩
  refine ⟨filled, fun char inWord => ?_⟩
  rcases drawn char inWord with ⟨known, inChars⟩
  rcases identifier char inChars with isAlphanum | rfl
  · exact isAlphanum
  · exact absurd known (by decide)

theorem Run.whole (isRun : Run word) : '_' ∉ word :=
  fun member => absurd (isRun '_' member) (by decide)

/-- In small letters, but for the first. -/
def titled (word : Chars) : Chars :=
  (word.map Char.toLower).modifyHead Char.toUpper

theorem isAlphanum_toLower (known : char.isAlphanum = true) : char.toLower.isAlphanum = true :=
  forall_ascii (fun char => char.isAlphanum = true → char.toLower.isAlphanum = true) (by decide)
    (ascii_of_isAlphanum known) known

theorem isAlphanum_toUpper (known : char.isAlphanum = true) : char.toUpper.isAlphanum = true :=
  forall_ascii (fun char => char.isAlphanum = true → char.toUpper.isAlphanum = true) (by decide)
    (ascii_of_isAlphanum known) known

theorem toLower_toLower (known : char.isAlphanum = true) : char.toLower.toLower = char.toLower :=
  forall_ascii (fun char => char.toLower.toLower = char.toLower) (by decide)
    (ascii_of_isAlphanum known)

theorem Run.lower (isRun : Run word) : Run (word.map Char.toLower) :=
  List.forall_mem_map.mpr fun char member => isAlphanum_toLower (isRun char member)

theorem Run.titled (isRun : Run word) : Run (titled word) := by
  cases word with
  | nil => exact isRun
  | cons char rest =>
      exact List.forall_mem_cons.mpr
        ⟨isAlphanum_toUpper (isAlphanum_toLower isRun.head), isRun.tail.lower⟩

theorem lower_lower (isRun : Run word) :
    (word.map Char.toLower).map Char.toLower = word.map Char.toLower := by
  rw [List.map_map]
  exact List.map_congr_left fun char member => toLower_toLower (isRun char member)

/-- Two or more capitals. -/
def Acronym (word : Chars) : Prop :=
  2 ≤ word.length ∧ ∀ char ∈ word, char.isUpper = true

instance (word : Chars) : Decidable (Acronym word) :=
  @instDecidableAnd _ _ _ (List.decidableBAll _ _)

/-- A word as a sentence has it, at its start or behind other words. -/
def phrase (first : Bool) (word : Chars) : Chars :=
  if Acronym word then word else if first then titled word else word.map Char.toLower

def phrased (first : Bool) : List Chars → List Chars
  | [] => []
  | word :: words => phrase first word :: phrased false words

end Words

namespace TypePath

open Words

variable {first : Bool} {gap word text rest name : Chars} {words before after : List Chars}

/-! ## The loop over the words -/

/-- A type as the compiler names it: the modules that it stands in, an identifier, and arguments
in angle brackets or none. -/
structure Parts where
  modules : List Chars
  identifier : Chars
  arguments : Chars
  plain : ∀ part ∈ modules, '<' ∉ part
  isIdentifier : Identifier identifier
  opens : arguments.head?.all (· == '<') = true

def Parts.path (parts : Parts) : Chars :=
  parts.modules.flatMap (· ++ [':', ':']) ++ parts.identifier ++ parts.arguments

namespace Parts

variable (parts : Parts)

theorem isWord (member : word ∈ ofChars parts.identifier) : Word word :=
  parts.isIdentifier.isWord member

end Parts

/-- A path with underscores, a digit and two acronyms in the name. -/
def Sample.gateway : Parts where
  modules := ["gcpdiag".toList, "steps".toList]
  identifier := "_VmSSH__2Gateway_IP".toList
  arguments := "<Root>".toList
  plain := by decide
  isIdentifier := by decide
  opens := by decide

end TypePath

end Triage
