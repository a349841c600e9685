import Mathlib.Data.List.Induction
import Triage.Proofs.Text.Words

namespace Triage

namespace Words

open Text

variable {char : Char} {chars word : Chars} {mode : Mode}

/-! ## Letters and digits of ASCII -/

theorem isAlphanum_eq (char : Char) :
    char.isAlphanum = (char.isUpper || char.isLower || char.isDigit) :=
  rfl

theorem ascii_of_isAlphanum (known : char.isAlphanum = true) : char.toNat < 0x80 := by
  rw [isAlphanum_eq, Bool.or_eq_true, Bool.or_eq_true, Char.isDigit_iff_toNat] at known
  rcases known with (capital | small) | digit
  · have within : 65 ≤ char.toNat ∧ char.toNat ≤ 90 := of_decide_eq_true capital
    omega
  · have within := of_decide_eq_true (Bool.and_eq_true_iff.mp small).2
    exact Nat.lt_of_le_of_lt within (by decide)
  · exact Nat.lt_of_le_of_lt digit.2 (by decide)

/-- What holds of the first 128 characters, one by one, holds of all of ASCII. -/
theorem forall_ascii (holds : Char → Prop) (all : ∀ code < 0x80, holds (Char.ofNat code))
    (ascii : char.toNat < 0x80) : holds char := by
  have same := all char.toNat ascii
  rwa [Char.ofNat_toNat] at same

theorem isUpper_ascii (ascii : char.toNat < 0x80) : isUpper char = char.isUpper :=
  if_pos ascii

theorem isLower_ascii (ascii : char.toNat < 0x80) : isLower char = char.isLower :=
  if_pos ascii

theorem isAlphanumeric_ascii (ascii : char.toNat < 0x80) :
    isAlphanumeric char = char.isAlphanum := by
  simp [isAlphanumeric, isAlphabetic, isNumeric, Char.isAlphanum, ascii]

theorem not_isAlphanum_of_blank (blank : isBlank char = true) : char.isAlphanum = false := by
  cases known : char.isAlphanum with
  | false => rfl
  | true =>
      have sort := not_alphanumeric_of_blank blank
      rw [isAlphanumeric_ascii (ascii_of_isAlphanum known), known] at sort
      cases sort

theorem not_isUpper_of_isLower (small : char.isLower = true) : char.isUpper = false := by
  have known : char.isAlphanum = true := by simp [isAlphanum_eq, small]
  exact forall_ascii (fun char => char.isLower = true → char.isUpper = false) (by decide)
    (ascii_of_isAlphanum known) small

theorem not_isLower_of_isUpper (capital : char.isUpper = true) : char.isLower = false := by
  cases small : char.isLower with
  | false => rfl
  | true => simp [not_isUpper_of_isLower small] at capital

theorem not_isLower_of_separates (separates : char.isAlphanum = false) : char.isLower = false := by
  rw [isAlphanum_eq, Bool.or_eq_false_iff, Bool.or_eq_false_iff] at separates
  exact separates.1.2

/-- Nothing but letters and digits of ASCII. -/
def Run (chars : Chars) : Prop :=
  ∀ char ∈ chars, char.isAlphanum = true

theorem Run.head (run : Run (char :: chars)) : char.isAlphanum = true :=
  run char List.mem_cons_self

theorem Run.tail (run : Run (char :: chars)) : Run chars :=
  fun other member => run other (List.mem_cons_of_mem _ member)

theorem lower_run (run : Run word) : lower word = word.map Char.toLower := by
  induction word with
  | nil => rfl
  | cons char rest induction =>
      have ascii := ascii_of_isAlphanum run.head
      have notSigma : char ≠ 'Σ' := by
        rintro rfl
        exact absurd ascii (by decide)
      rw [lower, induction run.tail, lowerChars, if_pos ascii]
      simp [notSigma]

/-! ## Where hyphens stand -/

/-- Whether a word ends before `char`, where the last letter of the word so far has this case. -/
def Mode.breaks (mode : Mode) (char : Char) (after : Chars) : Bool :=
  char.isUpper && (mode == .lower || (mode == .upper && after.head?.any Char.isLower))

theorem breaks_congr {after other : Chars}
    (same : after.head?.any Char.isLower = other.head?.any Char.isLower) :
    mode.breaks char after = mode.breaks char other := by
  rw [Mode.breaks, Mode.breaks, same]

/-- The words of a text in small letters with a hyphen before each of them, letter by letter. The
mode is that of the letters since the last separator: it goes on over a boundary, where the
search for words starts again. -/
def spelled (mode? : Option Mode) : Chars → Chars
  | [] => []
  | char :: after =>
      if char.isAlphanum then
        (if mode?.all (·.breaks char after) then ['-'] else []) ++
          char.toLower :: spelled (some ((mode?.getD .start).after char)) after
      else spelled none after

theorem spelled_cons (known : char.isAlphanum = true) (mode : Mode) (after : Chars) :
    spelled (some mode) (char :: after) =
      (if mode.breaks char after then ['-'] else []) ++
        char.toLower :: spelled (some (mode.after char)) after :=
  if_pos known

/-- Words with a hyphen before each of them. -/
def hyphened (words : List Chars) : Chars :=
  words.flatMap ('-' :: ·)

theorem hyphened_cons (first : Chars) (rest : List Chars) :
    hyphened (first :: rest) = '-' :: first ++ hyphened rest := rfl

theorem join_eq_tail (words : List Chars) :
    Chars.join ['-'] words = (hyphened words).tail := by
  induction words with
  | nil => rfl
  | cons first rest induction =>
      cases rest with
      | nil => simp [Chars.join, hyphened]
      | cons second rest =>
          rw [Chars.join_cons_cons, induction]
          simp [hyphened]

theorem after_eq (known : char.isAlphanum = true) :
    mode.after char =
      if char.isLower then .lower else if char.isUpper then .upper else mode := by
  have ascii := ascii_of_isAlphanum known
  rw [Mode.after, isLower_ascii ascii, isUpper_ascii ascii]

/-- A boundary before a capital, where the search starts again, needs no second hyphen. -/
theorem spelled_capital (known : char.isAlphanum = true) (capital : char.isUpper = true)
    (after : Chars) :
    spelled (some .lower) (char :: after) = '-' :: spelled (some .start) (char :: after) := by
  simp [spelled_cons known, after_eq known, Mode.breaks, capital, not_isLower_of_isUpper capital]

/-- The capital that begins a word is forgotten at the small letter behind it. -/
theorem spelled_small (known : char.isAlphanum = true) (small : char.isLower = true)
    (after : Chars) :
    spelled (some .upper) (char :: after) = spelled (some .start) (char :: after) := by
  simp [spelled_cons known, after_eq known, Mode.breaks, small, not_isUpper_of_isLower small]

theorem not_breaks {after : Chars} (ended : mode = .lower → char.isUpper = false)
    (early : ¬(mode = .upper ∧ char.isUpper = true ∧ after.head?.any Char.isLower = true)) :
    mode.breaks char after = false := by
  cases mode with
  | start => simp [Mode.breaks]
  | lower => simp [Mode.breaks, ended rfl]
  | upper => simpa [Mode.breaks] using early

/-- The search for words in a run of letters and digits, with the mode that it has there: if a
word ends before the first character of `chars`, it has ended already. -/
theorem hyphened_cut (run : Run (word ++ chars))
    (ended : mode = .lower → chars.head?.any Char.isUpper = false) :
    hyphened ((cut mode word chars).map lower) =
      '-' :: word.map Char.toLower ++ spelled (some mode) chars := by
  fun_induction cut mode word chars with
  | case1 mode word => simp [hyphened, spelled, lower_run (by simpa using run : Run word)]
  | case2 mode word char =>
      rw [spelled_cons (run char (by simp)), not_breaks ended (by simp)]
      simp [hyphened, spelled, lower_run run]
  | case3 mode word char next rest boundary induction =>
      have known : char.isAlphanum = true := run char (by simp)
      have front : Run (word ++ [char]) := fun other member => run other (by grind)
      have back : Run (next :: rest) := fun other member => run other (by simp_all)
      have capital : next.isUpper = true :=
        isUpper_ascii (ascii_of_isAlphanum back.head) ▸ boundary.2
      have unbroken : mode.breaks char (next :: rest) = false :=
        not_breaks ended (by simp [not_isLower_of_isUpper capital])
      rw [List.map_cons, hyphened_cons, induction back (by simp), lower_run front,
        spelled_cons known, unbroken, boundary.1, spelled_capital back.head capital]
      simp
  | case4 mode word char next rest boundary late induction =>
      have known : char.isAlphanum = true := run char (by simp)
      have front : Run word := fun other member => run other (List.mem_append_left _ member)
      have back : Run (char :: next :: rest) := fun other member =>
        run other (List.mem_append_right _ member)
      have capital : char.isUpper = true := isUpper_ascii (ascii_of_isAlphanum known) ▸ late.2.1
      have small : next.isLower = true :=
        isLower_ascii (ascii_of_isAlphanum back.tail.head) ▸ late.2.2
      have breaks : mode.breaks char (next :: rest) = true := by
        simp [Mode.breaks, late.1, capital, small]
      rw [List.map_cons, hyphened_cons, induction back (by simp), lower_run front,
        spelled_cons known, breaks, after_eq known, not_isLower_of_isUpper capital, capital]
      simp [spelled_small back.tail.head small]
  | case5 mode word char next rest boundary late induction =>
      have known : char.isAlphanum = true := run char (by simp)
      have nextKnown : next.isAlphanum = true := run next (by simp)
      rw [isUpper_ascii (ascii_of_isAlphanum nextKnown)] at boundary
      rw [isUpper_ascii (ascii_of_isAlphanum known),
        isLower_ascii (ascii_of_isAlphanum nextKnown)] at late
      have later : mode.after char = .lower → (next :: rest).head?.any Char.isUpper = false :=
        fun isLower => by simpa [isLower] using boundary
      have unbroken : mode.breaks char (next :: rest) = false := not_breaks ended late
      rw [induction (by simpa using run) later, spelled_cons known, unbroken]
      simp

/-! ## Kebab case, letter by letter -/

theorem hyphened_append (first second : List Chars) :
    hyphened (first ++ second) = hyphened first ++ hyphened second :=
  List.flatMap_append

theorem spelled_none (known : char.isAlphanum = true) (after : Chars) :
    spelled none (char :: after) = '-' :: spelled (some .start) (char :: after) := by
  rw [spelled_cons known]
  simp [spelled, known, Mode.breaks]

theorem spelled_separator (separates : char.isAlphanum = false) (mode? : Option Mode)
    (after : Chars) : spelled mode? (char :: after) = spelled none after :=
  if_neg (by simp [separates])

/-- The words of some pieces, with a hyphen before each of them. -/
def hyphenedPieces (pieces : List Chars) : Chars :=
  hyphened (((pieces.filter (!·.isEmpty)).flatMap (cut .start [])).map lower)

theorem hyphenedPieces_nil (pieces : List Chars) :
    hyphenedPieces ([] :: pieces) = hyphenedPieces pieces := rfl

theorem hyphenedPieces_run (run : Run (char :: chars)) (pieces : List Chars) :
    hyphenedPieces ((char :: chars) :: pieces) =
      '-' :: spelled (some .start) (char :: chars) ++ hyphenedPieces pieces := by
  have cutRun : hyphened ((cut .start [] (char :: chars)).map lower) = _ :=
    hyphened_cut run Mode.noConfusion
  simp only [hyphenedPieces, List.filter_cons, List.isEmpty_cons, Bool.not_false, if_true,
    List.flatMap_cons, List.map_append, hyphened_append, cutRun]
  rfl

/-- Up to the first separator the letters are spelled as a run on its own, and everything behind
it as pieces, whether or not a run has begun. -/
theorem spelled_split (ascii : ∀ char ∈ chars, char.toNat < 0x80) :
    ∃ run pieces, Run run ∧ chars.splitWhere (!isAlphanumeric ·) = run :: pieces ∧
      (run.head?.any Char.isLower = chars.head?.any Char.isLower) ∧
      (∀ mode, spelled (some mode) chars = spelled (some mode) run ++ hyphenedPieces pieces) ∧
      spelled none chars = hyphenedPieces (run :: pieces) := by
  induction chars with
  | nil => exact ⟨[], [], by simp [Run], rfl, rfl, fun mode => rfl, rfl⟩
  | cons char rest induction =>
      rcases induction fun other member => ascii other (List.mem_cons_of_mem _ member) with
        ⟨run, pieces, isRun, isSplit, sameHead, inside, behind⟩
      have sort := isAlphanumeric_ascii (ascii char List.mem_cons_self)
      cases known : char.isAlphanum with
      | true =>
          have longer : Run (char :: run) := List.forall_mem_cons.mpr ⟨known, isRun⟩
          have whole (mode : Mode) : spelled (some mode) (char :: rest) =
              spelled (some mode) (char :: run) ++ hyphenedPieces pieces := by
            rw [spelled_cons known, spelled_cons known, inside, breaks_congr sameHead]
            simp
          refine ⟨char :: run, pieces, longer, ?_, rfl, whole, ?_⟩
          · simp [Chars.splitWhere, sort, known, isSplit]
          · rw [spelled_none known, whole, hyphenedPieces_run longer]
            rfl
      | false =>
          refine ⟨[], run :: pieces, fun _ member => absurd member List.not_mem_nil, ?_, ?_,
            fun mode => ?_, ?_⟩
          · simp [Chars.splitWhere, sort, known, isSplit]
          · simp [not_isLower_of_separates known]
          · rw [spelled_separator known, behind]
            rfl
          · rw [spelled_separator known, behind, hyphenedPieces_nil]

theorem hyphened_ofChars (ascii : ∀ char ∈ chars, char.toNat < 0x80) :
    hyphened ((ofChars chars).map lower) = spelled none chars := by
  rcases spelled_split ascii with ⟨run, pieces, -, isSplit, -, -, whole⟩
  rw [whole, ← isSplit]
  rfl

theorem spelled_trimStart (chars : Chars) : spelled none chars.trimStart = spelled none chars := by
  induction chars with
  | nil => rfl
  | cons char rest induction =>
      rw [Chars.trimStart, List.dropWhile_cons]
      split
      · next blank =>
          rw [spelled_separator (not_isAlphanum_of_blank blank), ← induction]
          rfl
      · rfl

theorem spelled_append_separators {separators : Chars}
    (separate : ∀ char ∈ separators, char.isAlphanum = false) (mode? : Option Mode) :
    spelled mode? (chars ++ separators) = spelled mode? chars := by
  induction chars generalizing mode? with
  | nil =>
      induction separators generalizing mode? with
      | nil => rfl
      | cons char rest induction =>
          exact (spelled_separator (separate char List.mem_cons_self) mode? rest).trans
            (induction (fun other member => separate other (List.mem_cons_of_mem _ member)) none)
  | cons char rest induction =>
      have sameHead : (rest ++ separators).head?.any Char.isLower = rest.head?.any Char.isLower := by
        cases rest with
        | cons next more => rfl
        | nil =>
            cases separators with
            | nil => rfl
            | cons next more => exact not_isLower_of_separates (separate next List.mem_cons_self)
      simp only [List.cons_append, spelled, induction, breaks_congr sameHead]

theorem spelled_trim (chars : Chars) : spelled none chars.trim = spelled none chars := by
  rw [← spelled_trimStart chars]
  rcases Chars.exists_dropEndWhile_append isBlank chars.trimStart with ⟨blanks, whole, areBlank⟩
  conv => rhs; rw [whole]
  exact (spelled_append_separators (fun char member =>
    not_isAlphanum_of_blank (areBlank char member)) none).symm

/-- What kebab case is, letter by letter. -/
theorem kebab_eq_spelled (ascii : ∀ char ∈ chars, char.toNat < 0x80) :
    kebab chars = (spelled none chars).tail := by
  have trimmed : ∀ char ∈ chars.trim, char.toNat < 0x80 := fun char member =>
    ascii char ((Chars.isInfix_trim chars).subset member)
  rw [kebab, join_eq_tail, hyphened_ofChars trimmed, spelled_trim]

/-! ## Letters and hyphens -/

theorem toLower_ne_hyphen (known : char.isAlphanum = true) : char.toLower ≠ '-' :=
  forall_ascii (fun char => char.isAlphanum = true → char.toLower ≠ '-') (by decide)
    (ascii_of_isAlphanum known) known

/-- The letters and digits of a text, in lower case. -/
def letters (chars : Chars) : Chars :=
  (chars.filter Char.isAlphanum).map Char.toLower

/-- What is left of a text without its hyphens. -/
def unhyphened (chars : Chars) : Chars :=
  chars.filter (· != '-')

/-- Where the scan stands behind a character. -/
def follow (mode? : Option Mode) (char : Char) : Option Mode :=
  if char.isAlphanum then some ((mode?.getD .start).after char) else none

theorem spelled_append (before rest : Chars) (mode? : Option Mode) :
    ∃ front, spelled mode? (before ++ rest) = front ++ spelled (before.foldl follow mode?) rest ∧
      unhyphened front = letters before := by
  induction before generalizing mode? with
  | nil => exact ⟨[], rfl, rfl⟩
  | cons char before induction =>
      rcases induction (follow mode? char) with ⟨front, whole, same⟩
      cases known : char.isAlphanum with
      | true =>
          rw [follow, if_pos known] at whole
          refine ⟨(if mode?.all (·.breaks char (before ++ rest)) then ['-'] else []) ++
            char.toLower :: front, ?_, ?_⟩
          · rw [List.cons_append, spelled, if_pos known, whole]
            simp [follow, known]
          · have solid := toLower_ne_hyphen known
            split <;> simp_all [unhyphened, letters]
      | false =>
          rw [follow, if_neg (by simp [known])] at whole
          refine ⟨front, ?_, ?_⟩
          · rw [List.cons_append, spelled_separator known, whole]
            simp [follow, known]
          · simpa [letters, known] using same

/-- The character before the digits that a text ends with. Between letters and digits a word is
never cut, so if this is a letter, it is the last letter of the word so far. -/
def lastLetter? (before : Chars) : Option Char :=
  (before.reverse.dropWhile Char.isDigit).head?

/-- The case changes that end a word before `char`: from a small letter to a capital, and, where
capitals come before, to the last of them if a small letter follows. -/
def CaseChange (before : Chars) (char : Char) (after : Chars) : Prop :=
  char.isUpper = true ∧ ((lastLetter? before).any Char.isLower = true ∨
    (lastLetter? before).any Char.isUpper = true ∧ after.head?.any Char.isLower = true)

theorem follow_digit (digit : char.isDigit = true) {case : Mode} (isCase : case ≠ .start)
    (mode? : Option Mode) : follow mode? char = some case ↔ mode? = some case := by
  have known : char.isAlphanum = true := by simp [isAlphanum_eq, digit]
  have caseless : char.isUpper = false ∧ char.isLower = false :=
    forall_ascii
      (fun char => char.isDigit = true → char.isUpper = false ∧ char.isLower = false) (by decide)
      (ascii_of_isAlphanum known) digit
  rw [follow, if_pos known, after_eq known, caseless.1, caseless.2]
  cases mode? with
  | none => simpa using isCase.symm
  | some mode => rfl

/-- The case of the last letter is what the scan goes by. -/
theorem foldl_follow (before : Chars) :
    (before.foldl follow none = some .lower ↔ (lastLetter? before).any Char.isLower = true) ∧
      (before.foldl follow none = some .upper ↔ (lastLetter? before).any Char.isUpper = true) := by
  induction before using List.reverseRecOn with
  | nil => simp [lastLetter?]
  | append_singleton before char induction =>
      rw [List.foldl_append, List.foldl_cons, List.foldl_nil, lastLetter?, List.reverse_append,
        List.reverse_singleton, List.singleton_append, List.dropWhile_cons]
      split
      · next digit =>
        rw [follow_digit digit Mode.noConfusion, follow_digit digit Mode.noConfusion]
        exact induction
      · next other =>
        rw [List.head?_cons, Option.any_some, Option.any_some, follow]
        cases known : char.isAlphanum with
        | true =>
            have isLetter : char.isUpper = true ∨ char.isLower = true := by
              simpa [isAlphanum_eq, other] using known
            rw [if_pos rfl, after_eq known]
            rcases isLetter with capital | small
            · simp [capital, not_isLower_of_isUpper capital]
            · simp [small, not_isUpper_of_isLower small]
        | false =>
            rw [isAlphanum_eq, Bool.or_eq_false_iff, Bool.or_eq_false_iff] at known
            simp [known.1]

theorem breaks_iff {before : Chars} (isMode : before.foldl follow none = some mode)
    (char : Char) (after : Chars) :
    mode.breaks char after = true ↔ CaseChange before char after := by
  rcases foldl_follow before with ⟨isLower, isUpper⟩
  rw [isMode, Option.some.injEq] at isLower isUpper
  simp [Mode.breaks, CaseChange, ← isLower, ← isUpper]

/-- A text of words with hyphens before them begins with one. -/
theorem head?_spelled (first : (spelled none chars).head? = some char) : char = '-' := by
  induction chars with
  | nil => cases first
  | cons next rest induction =>
      cases known : next.isAlphanum with
      | true =>
          rw [spelled_none known] at first
          exact (Option.some.inj first).symm
      | false =>
          rw [spelled_separator known] at first
          exact induction first

/-- Where two letters stand side by side, no hyphen stands between them. -/
theorem not_hyphen_between {front back front' back' : Chars} {first second : Char}
    (firstSolid : first ≠ '-') (secondSolid : second ≠ '-')
    (same : front ++ '-' :: back = front' ++ first :: second :: back') :
    unhyphened front ≠ unhyphened front' ++ [first] := by
  induction front' generalizing front with
  | nil =>
      intro letters
      rcases front with _ | ⟨char, _ | ⟨next, more⟩⟩ <;>
        simp only [List.nil_append, List.cons_append, List.cons.injEq] at same
      · exact firstSolid same.1.symm
      · exact secondSolid same.2.1.symm
      · simp [unhyphened, same.1, same.2.1, firstSolid, secondSolid] at letters
  | cons char' front' induction =>
      intro letters
      cases front with
      | nil => simp [unhyphened] at letters
      | cons char more =>
          simp only [List.cons_append, List.cons.injEq] at same
          refine induction same.2 ?_
          rw [unhyphened, unhyphened, same.1, List.filter_cons, List.filter_cons] at letters
          split at letters
          · exact (List.cons.inj letters).2
          · exact letters

/-- What is spelled up to a letter or digit, and behind it. -/
theorem spelled_before (known : char.isAlphanum = true) (before after : Chars) :
    ∃ front, unhyphened front = letters before ∧
      spelled none (before ++ char :: after) =
        '-' :: front ++ char.toLower :: spelled ((before ++ [char]).foldl follow none) after := by
  rcases spelled_append before (char :: after) none with ⟨front, whole, same⟩
  rw [spelled, if_pos known, ← List.append_assoc] at whole
  generalize isGap : front ++ _ = start at whole
  have gapless : unhyphened start = letters before := by
    rw [← isGap, ← same, unhyphened, List.filter_append]
    split <;> simp [unhyphened]
  cases start with
  | nil =>
      have first : (spelled none (before ++ char :: after)).head? = some char.toLower := by
        rw [whole]
        rfl
      exact absurd (head?_spelled first) (toLower_ne_hyphen known)
  | cons hyphen start =>
      obtain rfl : hyphen = '-' := head?_spelled (by rw [whole]; rfl)
      refine ⟨start, by simpa [unhyphened] using gapless, ?_⟩
      rw [whole, List.foldl_append, List.foldl_cons, List.foldl_nil, follow, if_pos known]

/-- Two letters or digits side by side, and what is spelled between them. -/
theorem tail_spelled {first second : Char} (firstKnown : first.isAlphanum = true)
    (secondKnown : second.isAlphanum = true) (before after : Chars) :
    ∃ front between back, unhyphened front = letters before ∧
      (spelled none (before ++ first :: second :: after)).tail =
        front ++ first.toLower :: (between ++ second.toLower :: back) ∧
      (CaseChange (before ++ [first]) second after ∧ between = ['-'] ∨
        ¬CaseChange (before ++ [first]) second after ∧ between = []) := by
  rcases spelled_before firstKnown before (second :: after) with ⟨front, same, whole⟩
  obtain ⟨mode, isMode⟩ : ∃ mode, (before ++ [first]).foldl follow none = some mode := by
    rw [List.foldl_append, List.foldl_cons, List.foldl_nil, follow, if_pos firstKnown]
    exact ⟨_, rfl⟩
  rw [isMode, spelled_cons secondKnown] at whole
  refine ⟨front, _, _, same, congrArg List.tail whole, ?_⟩
  by_cases breaks : mode.breaks second after = true
  · exact .inl ⟨(breaks_iff isMode second after).mp breaks, if_pos breaks⟩
  · exact .inr ⟨mt (breaks_iff isMode second after).mpr breaks, if_neg breaks⟩

/-- A hyphen between two letters or digits that stand side by side means a change of case. -/
theorem hyphen_iff {first second : Char} (firstKnown : first.isAlphanum = true)
    (secondKnown : second.isAlphanum = true) (before after : Chars) :
    (∃ front back, (spelled none (before ++ first :: second :: after)).tail = front ++ '-' :: back ∧
      unhyphened front = letters (before ++ [first])) ↔
      CaseChange (before ++ [first]) second after := by
  rcases tail_spelled firstKnown secondKnown before after with
    ⟨front, between, back, same, whole, decides⟩
  have longer : letters (before ++ [first]) = unhyphened front ++ [first.toLower] := by
    simp [letters, same, firstKnown]
  have solid := toLower_ne_hyphen firstKnown
  rw [whole, longer]
  rcases decides with ⟨changes, rfl⟩ | ⟨keeps, rfl⟩
  · refine ⟨fun _ => changes, fun _ => ⟨front ++ [first.toLower], second.toLower :: back, ?_, ?_⟩⟩
    · simp
    · simp [unhyphened, solid]
  · refine ⟨fun ⟨front', back', parts, same'⟩ => ?_, fun changes => absurd changes keeps⟩
    exact absurd same' (not_hyphen_between solid (toLower_ne_hyphen secondKnown) parts.symm)

/-! ## Texts of ASCII -/

/-- Words of small letters and digits with single hyphens between them, or nothing. -/
def KebabForm (chars : Chars) : Prop :=
  ∃ words : List Chars, chars = Chars.join ['-'] words ∧
    ∀ word ∈ words, word ≠ [] ∧ ∀ char ∈ word, char.isLower = true ∨ char.isDigit = true

theorem KebabForm.unchanged (form : KebabForm chars) : kebab chars = chars := by
  rcases form with ⟨words, rfl, plain⟩
  refine kebab_join (fun word isWord => (plain word isWord).1) fun word isWord char inWord => ?_
  have isPlain := (plain word isWord).2 char inWord
  have known : char.isAlphanum = true := by
    rcases isPlain with small | digit <;> simp [isAlphanum_eq, *]
  exact forall_ascii (fun char => char.isLower = true ∨ char.isDigit = true → Settled char)
    (by unfold Settled; decide) (ascii_of_isAlphanum known) isPlain

theorem kebabForm_kebab (ascii : ∀ char ∈ chars, char.toNat < 0x80) :
    KebabForm (kebab chars) := by
  refine ⟨_, rfl, fun small member => ?_⟩
  rcases List.mem_map.mp member with ⟨word, isWord, rfl⟩
  rcases mem_ofChars isWord with ⟨filled, drawn⟩
  have run : Run word := fun char inWord => by
    have isAscii := ascii char ((Chars.isInfix_trim chars).subset (drawn char inWord).2)
    rw [← isAlphanumeric_ascii isAscii, (drawn char inWord).1]
  refine ⟨lower_ne_nil filled, fun image inLower => ?_⟩
  rw [lower_run run] at inLower
  rcases List.mem_map.mp inLower with ⟨char, inWord, rfl⟩
  exact forall_ascii (fun char => char.isAlphanum = true →
    char.toLower.isLower = true ∨ char.toLower.isDigit = true) (by decide)
    (ascii_of_isAlphanum (run char inWord)) (run char inWord)

theorem unhyphened_spelled (mode? : Option Mode) (chars : Chars) :
    unhyphened (spelled mode? chars) = letters chars := by
  rcases spelled_append chars [] mode? with ⟨front, whole, same⟩
  rw [List.append_nil] at whole
  rw [whole, ← same]
  simp [spelled]

theorem unhyphened_kebab (ascii : ∀ char ∈ chars, char.toNat < 0x80) :
    unhyphened (kebab chars) = letters chars := by
  rw [kebab_eq_spelled ascii, ← unhyphened_spelled none chars]
  cases isSpelled : spelled none chars with
  | nil => rfl
  | cons char rest =>
      obtain rfl : char = '-' := head?_spelled (by rw [isSpelled]; rfl)
      rfl

end Words

namespace Text

open Words

/-- In ASCII: kebab case has the letters and digits of the text, in lower case, as words with
single hyphens between them. It is unchanged in kebab case, and of two letters or digits side by
side a hyphen parts exactly those at a change of case. -/
theorem kebab_ascii (text : String) (ascii : ∀ char ∈ text.toList, char.toNat < 0x80) :
    KebabForm (kebab text).toList ∧
      unhyphened (kebab text).toList = letters text.toList ∧
      (KebabForm text.toList → kebab text = text) ∧
      kebab (kebab text) = kebab text ∧
      ∀ before first second after, text.toList = before ++ first :: second :: after →
        first.isAlphanum = true → second.isAlphanum = true →
        ((∃ front back, (kebab text).toList = front ++ '-' :: back ∧
          unhyphened front = letters (before ++ [first])) ↔
          CaseChange (before ++ [first]) second after) := by
  have form : KebabForm (kebab text).toList := by
    rw [kebab, String.toList_ofList]
    exact kebabForm_kebab ascii
  have unchanged {text : String} (form : KebabForm text.toList) : kebab text = text := by
    rw [kebab, form.unchanged, String.ofList_toList]
  refine ⟨form, ?_, unchanged, unchanged form, fun before first second after whole => ?_⟩
  · rw [kebab, String.toList_ofList, unhyphened_kebab ascii]
  · intro firstKnown secondKnown
    rw [kebab, String.toList_ofList, kebab_eq_spelled ascii, whole]
    exact hyphen_iff firstKnown secondKnown before after

theorem kebab_ascii_acronym :
    (∀ char ∈ "VmSSH2Go".toList, char.toNat < 0x80) ∧ kebab "VmSSH2Go" = "vm-ssh2-go" ∧
      kebab (kebab "VmSSH2Go") = kebab "VmSSH2Go" ∧ CaseChange "VmSSH2".toList 'G' ['o'] := by
  have ascii : ∀ char ∈ "VmSSH2Go".toList, char.toNat < 0x80 := by simp
  rcases kebab_ascii "VmSSH2Go" ascii with ⟨-, -, -, again, apart⟩
  refine ⟨ascii, by decide, again, ?_⟩
  exact (apart "VmSSH".toList '2' 'G' ['o'] (by decide) (by decide) (by decide)).mp
    ⟨"vm-ssh2".toList, "go".toList, by decide, by decide⟩

end Text

end Triage
