import Mathlib.Data.List.Basic
import Mathlib.Data.List.TakeWhile
import Triage.Text.Chars

namespace Triage

namespace Chars

variable {separates : Char → Bool} {separator : Char} {chars piece rest : Chars}
  {pieces : List Chars}

/-! ## Pieces between separators -/

theorem splitWhere_ne_nil : splitWhere separates chars ≠ [] := by
  cases chars with
  | nil => simp [splitWhere]
  | cons char rest =>
      unfold splitWhere
      split
      · simp
      · split <;> simp

theorem splitWhere_of_none (whole : ∀ char ∈ chars, separates char = false) :
    splitWhere separates chars = [chars] := by
  induction chars with
  | nil => rfl
  | cons char rest induction =>
      have restWhole := induction fun other member => whole other (List.mem_cons_of_mem _ member)
      simp [splitWhere, whole char List.mem_cons_self, restWhole]

theorem separates_of_mem_splitWhere (member : piece ∈ splitWhere separates chars) :
    ∀ char ∈ piece, separates char = false := by
  induction chars generalizing piece with
  | nil =>
      rw [List.mem_singleton.mp member]
      exact fun char none_ => absurd none_ List.not_mem_nil
  | cons first rest induction =>
      rw [splitWhere] at member
      split at member
      · rcases List.mem_cons.mp member with rfl | later
        · exact fun char none_ => absurd none_ List.not_mem_nil
        · exact induction later
      · next keeps =>
        have isKept : separates first = false := by simpa using keeps
        split at member
        · next empty => exact absurd empty splitWhere_ne_nil
        · next head tail pieces =>
          rcases List.mem_cons.mp member with rfl | later
          · intro char inPiece
            rcases List.mem_cons.mp inPiece with rfl | inHead
            · exact isKept
            · exact induction (pieces ▸ List.mem_cons_self) char inHead
          · exact induction (pieces ▸ List.mem_cons_of_mem _ later)

/-! ## Joining and splitting -/

theorem join_cons_cons (separator first second : Chars) (rest : List Chars) :
    join separator (first :: second :: rest) =
      first ++ separator ++ join separator (second :: rest) := rfl

theorem splitWhere_append (whole : ∀ char ∈ piece, separates char = false)
    (stops : separates separator = true) (rest : Chars) :
    splitWhere separates (piece ++ separator :: rest) = piece :: splitWhere separates rest := by
  induction piece with
  | nil => simp [splitWhere, stops]
  | cons char tail induction =>
      have tailWhole := induction fun other member => whole other (List.mem_cons_of_mem _ member)
      simp [splitWhere, whole char List.mem_cons_self, tailWhole]

/-- Pieces that hold no separator are what their joined text is split into. -/
theorem splitWhere_join (stops : separates separator = true) (nonempty : pieces ≠ [])
    (whole : ∀ piece ∈ pieces, ∀ char ∈ piece, separates char = false) :
    splitWhere separates (join [separator] pieces) = pieces := by
  induction pieces with
  | nil => exact absurd rfl nonempty
  | cons first rest induction =>
      have firstWhole := whole first List.mem_cons_self
      cases rest with
      | nil => exact splitWhere_of_none firstWhole
      | cons second rest =>
          have restWhole := induction (List.cons_ne_nil _ _) fun piece member =>
            whole piece (List.mem_cons_of_mem _ member)
          rw [join_cons_cons, List.append_assoc, List.singleton_append,
            splitWhere_append firstWhole stops, restWhole]

theorem mem_join {separator : Chars} {char : Char} (member : char ∈ join separator pieces) :
    char ∈ separator ∨ ∃ piece ∈ pieces, char ∈ piece := by
  induction pieces with
  | nil => exact absurd member List.not_mem_nil
  | cons first rest induction =>
      cases rest with
      | nil => exact .inr ⟨first, List.mem_cons_self, member⟩
      | cons second rest =>
          rw [join_cons_cons, List.append_assoc] at member
          rcases List.mem_append.mp member with inFirst | later
          · exact .inr ⟨first, List.mem_cons_self, inFirst⟩
          · rcases List.mem_append.mp later with between | later
            · exact .inl between
            · rcases induction later with between | ⟨piece, isPiece, inPiece⟩
              · exact .inl between
              · exact .inr ⟨piece, List.mem_cons_of_mem _ isPiece, inPiece⟩

theorem mem_of_mem_splitWhere {char : Char} (isPiece : piece ∈ splitWhere separates chars)
    (member : char ∈ piece) : char ∈ chars := by
  induction chars generalizing piece with
  | nil =>
      rw [List.mem_singleton.mp isPiece] at member
      exact member
  | cons first rest induction =>
      rw [splitWhere] at isPiece
      split at isPiece
      · rcases List.mem_cons.mp isPiece with rfl | later
        · exact absurd member List.not_mem_nil
        · exact List.mem_cons_of_mem _ (induction later member)
      · split at isPiece
        · next empty => exact absurd empty splitWhere_ne_nil
        · next head tail isSplit =>
          rcases List.mem_cons.mp isPiece with rfl | later
          · rcases List.mem_cons.mp member with rfl | inHead
            · exact List.mem_cons_self
            · exact List.mem_cons_of_mem _ (induction (isSplit ▸ List.mem_cons_self) inHead)
          · exact List.mem_cons_of_mem _
              (induction (isSplit ▸ List.mem_cons_of_mem _ later) member)

theorem head?_join {separator : Chars} {char : Char} (filled : ∀ piece ∈ pieces, piece ≠ [])
    (first : (join separator pieces).head? = some char) : ∃ piece ∈ pieces, char ∈ piece := by
  cases pieces with
  | nil => cases first
  | cons piece rest =>
      refine ⟨piece, List.mem_cons_self, ?_⟩
      rcases List.exists_cons_of_ne_nil (filled piece List.mem_cons_self) with ⟨head, tail, rfl⟩
      cases rest <;> simp_all [join]

theorem getLast?_join {separator : Chars} {char : Char} (filled : ∀ piece ∈ pieces, piece ≠ [])
    (last : (join separator pieces).getLast? = some char) : ∃ piece ∈ pieces, char ∈ piece := by
  induction pieces with
  | nil => cases last
  | cons piece rest induction =>
      cases rest with
      | nil => exact ⟨piece, List.mem_cons_self, List.mem_of_getLast? last⟩
      | cons second more =>
          have restFilled : ∀ piece ∈ second :: more, piece ≠ [] := fun piece member =>
            filled piece (List.mem_cons_of_mem _ member)
          have nonempty : join separator (second :: more) ≠ [] := by
            rcases List.exists_cons_of_ne_nil (restFilled second List.mem_cons_self) with
              ⟨head, tail, rfl⟩
            cases more <;> simp [join]
          rw [join_cons_cons, List.getLast?_append_of_ne_nil _ nonempty] at last
          rcases induction restFilled last with ⟨found, member, holds⟩
          exact ⟨found, List.mem_cons_of_mem _ member, holds⟩

/-- The pieces before a separator and the pieces behind it. -/
theorem splitWhere_append_cons (stops : separates separator = true) :
    splitWhere separates (chars ++ separator :: rest) =
      splitWhere separates chars ++ splitWhere separates rest := by
  induction chars with
  | nil => simp [splitWhere, stops]
  | cons char others induction =>
      rw [List.cons_append, splitWhere, splitWhere, induction]
      by_cases isSeparator : separates char = true
      · simp [isSeparator]
      · rw [if_neg isSeparator, if_neg isSeparator]
        cases pieces : splitWhere separates others with
        | nil => exact absurd pieces splitWhere_ne_nil
        | cons piece more => rfl

theorem split_append_cons (separator : Char) (chars rest : Chars) :
    split separator (chars ++ separator :: rest) = split separator chars ++ split separator rest :=
  splitWhere_append_cons (beq_self_eq_true separator)

theorem split_join {pieces : List Chars} (nonempty : pieces ≠ [])
    (whole : ∀ piece ∈ pieces, separator ∉ piece) :
    split separator (join [separator] pieces) = pieces :=
  splitWhere_join (beq_self_eq_true separator) nonempty fun piece isPiece _ isMember =>
    beq_false_of_ne fun isSeparator => whole piece isPiece (isSeparator ▸ isMember)

/-- What stands before a separator is told apart if there are as many pieces behind it. -/
theorem append_join_inj {other : Chars} {pieces others : List Chars} (nonempty : pieces ≠ [])
    (sameLength : pieces.length = others.length) (whole : ∀ piece ∈ pieces, separator ∉ piece)
    (othersWhole : ∀ piece ∈ others, separator ∉ piece)
    (same : chars ++ separator :: join [separator] pieces =
      other ++ separator :: join [separator] others) :
    chars = other ∧ pieces = others := by
  have othersNonempty : others ≠ [] := by
    rintro rfl
    exact nonempty (List.length_eq_zero_iff.mp sameLength)
  have sameSplit := congrArg (split separator) same
  rw [split_append_cons, split_append_cons, split_join nonempty whole,
    split_join othersNonempty othersWhole] at sameSplit
  have samePieces : pieces = others := List.append_inj_right' sameSplit sameLength
  rw [samePieces] at same
  exact ⟨List.append_cancel_right same, samePieces⟩

/-! ## Cutting at the first separator -/

variable {before after : Chars}

theorem cut?_eq_some (found : cut? separator chars = some (before, after)) :
    chars = before ++ separator :: after ∧ separator ∉ before := by
  induction chars generalizing before with
  | nil => cases found
  | cons first rest induction =>
      rw [cut?] at found
      split at found
      · next stops =>
        cases found
        simpa using stops
      · next goesOn =>
        rcases Option.map_eq_some_iff.mp found with ⟨⟨head, tail⟩, foundLater, same⟩
        cases same
        rcases induction foundLater with ⟨rfl, absent⟩
        have differs : first ≠ separator := by simpa using goesOn
        exact ⟨rfl, by simp [absent, Ne.symm differs]⟩

theorem not_mem_of_cut?_eq_none (absent : cut? separator chars = none) : separator ∉ chars := by
  induction chars with
  | nil => exact List.not_mem_nil
  | cons first rest induction =>
      rw [cut?] at absent
      split at absent
      · cases absent
      · next goesOn =>
        have differs : first ≠ separator := by simpa using goesOn
        have restAbsent := induction (Option.map_eq_none_iff.mp absent)
        simp [restAbsent, Ne.symm differs]

theorem cut?_append_cons (absent : separator ∉ before) :
    cut? separator (before ++ separator :: after) = some (before, after) := by
  induction before with
  | nil => simp [cut?]
  | cons first rest induction =>
      have differs : first ≠ separator := fun same => absent (same ▸ List.mem_cons_self)
      have later := induction fun member => absent (List.mem_cons_of_mem _ member)
      simp [cut?, differs, later]

theorem cut?_eq_none (absent : separator ∉ chars) : cut? separator chars = none := by
  cases found : cut? separator chars with
  | none => rfl
  | some parts =>
      rcases cut?_eq_some found with ⟨rfl, -⟩
      exact absurd (List.mem_append_right _ List.mem_cons_self) absent

/-! ## The first occurrence of a text -/

variable {wanted host : Chars}

theorem dropPrefix?_append (start rest : Chars) :
    dropPrefix? start (start ++ rest) = some rest := by
  induction start with
  | nil => rfl
  | cons char start induction => simpa [dropPrefix?] using induction

theorem append_of_dropPrefix? {start : Chars} (found : dropPrefix? start chars = some rest) :
    chars = start ++ rest := by
  induction start generalizing chars with
  | nil => exact Option.some.inj found
  | cons expected start induction =>
      cases chars with
      | nil => cases found
      | cons char chars =>
          rw [dropPrefix?] at found
          split at found
          · next same => rw [beq_iff_eq.mp same, induction found, List.cons_append]
          · cases found

theorem dropPrefix?_isSome_iff {start : Chars} :
    (dropPrefix? start chars).isSome = true ↔ start <+: chars := by
  constructor
  · intro found
    rcases Option.isSome_iff_exists.mp found with ⟨rest, found⟩
    exact ⟨rest, (append_of_dropPrefix? found).symm⟩
  · rintro ⟨rest, rfl⟩
    rw [dropPrefix?_append, Option.isSome_some]

theorem findFrom?_of_isPrefix (isPrefix : wanted <+: chars) :
    findFrom? wanted chars = some chars := by
  cases chars with
  | nil =>
      obtain rfl := List.prefix_nil.mp isPrefix
      rfl
  | cons char rest => rw [findFrom?, if_pos (dropPrefix?_isSome_iff.mpr isPrefix)]

/-- What does not begin before the end of the first part is found behind it. -/
theorem findFrom?_append (isPrefix : wanted <+: chars)
    (absent : ∀ later, later <:+ host → later ≠ [] → ¬wanted <+: later ++ chars) :
    findFrom? wanted (host ++ chars) = some chars := by
  induction host with
  | nil => exact findFrom?_of_isPrefix isPrefix
  | cons char host induction =>
      have notHere : ¬wanted <+: char :: (host ++ chars) :=
        absent (char :: host) List.suffix_rfl (List.cons_ne_nil _ _)
      rw [List.cons_append, findFrom?, if_neg (mt dropPrefix?_isSome_iff.mp notHere)]
      exact induction fun later isSuffix => absent later (isSuffix.trans (List.suffix_cons _ _))

/-! ## Cutting at the ends -/

variable {drop : Char → Bool}

theorem dropWhile_of_head? (keeps : ∀ char, chars.head? = some char → drop char = false) :
    chars.dropWhile drop = chars := by
  cases chars with
  | nil => rfl
  | cons char rest => simp [keeps char rfl]

theorem dropEndWhile_of_getLast? (keeps : ∀ char, chars.getLast? = some char → drop char = false) :
    chars.dropEndWhile drop = chars := by
  have backwards : chars.reverse.dropWhile drop = chars.reverse :=
    dropWhile_of_head? fun char first => keeps char (by simpa using first)
  rw [dropEndWhile, backwards, List.reverse_reverse]

/-- Nothing is cut off in front of a character that is kept. -/
theorem dropEndWhile_append {front back : Chars} (filled : ∃ char ∈ back, drop char = false) :
    (front ++ back).dropEndWhile drop = front ++ back.dropEndWhile drop := by
  have rest : back.reverse.dropWhile drop ≠ [] := by
    rcases filled with ⟨char, member, kept⟩
    intro empty
    have dropped := List.dropWhile_eq_nil_iff.mp empty char (List.mem_reverse.mpr member)
    rw [kept] at dropped
    cases dropped
  rw [dropEndWhile, List.reverse_append, List.dropWhile_append, if_neg (by simpa using rest),
    List.reverse_append, List.reverse_reverse]
  rfl

theorem isPrefix_dropEndWhile (drop : Char → Bool) (chars : Chars) :
    chars.dropEndWhile drop <+: chars := by
  have backwards : chars.reverse.dropWhile drop <:+ chars.reverse := List.dropWhile_suffix _
  simpa [dropEndWhile] using List.reverse_prefix.mpr backwards

/-- What is cut off at the end. -/
theorem exists_dropEndWhile_append (drop : Char → Bool) (chars : Chars) :
    ∃ dropped, chars = chars.dropEndWhile drop ++ dropped ∧ ∀ char ∈ dropped, drop char = true := by
  refine ⟨(chars.reverse.takeWhile drop).reverse, ?_, fun char member => ?_⟩
  · rw [dropEndWhile, ← List.reverse_append, List.takeWhile_append_dropWhile, List.reverse_reverse]
  · exact List.mem_takeWhile_imp (List.mem_reverse.mp member)

theorem not_drop_of_getLast? {char : Char}
    (isLast : (chars.dropEndWhile drop).getLast? = some char) : drop char = false := by
  have kept := List.head?_dropWhile_not drop chars.reverse
  rw [dropEndWhile, List.getLast?_reverse] at isLast
  rw [isLast] at kept
  exact kept

theorem not_drop_of_head? {char : Char}
    (isFirst : (dropEndWhile drop (chars.dropWhile drop)).head? = some char) :
    drop char = false := by
  have kept := List.head?_dropWhile_not drop chars
  rcases isPrefix_dropEndWhile drop (chars.dropWhile drop) with ⟨rest, whole⟩
  rw [← whole, List.head?_append, isFirst] at kept
  exact kept

/-! ## White space at the ends -/

theorem isInfix_trim (chars : Chars) : chars.trim <:+: chars :=
  (isPrefix_dropEndWhile _ _).isInfix.trans (List.dropWhile_suffix _).isInfix

theorem trim_of_no_blank (solid : ∀ char ∈ chars, Text.isBlank char = false) :
    chars.trim = chars := by
  have keeps (others : Chars) (solid : ∀ char ∈ others, Text.isBlank char = false) :
      others.dropWhile Text.isBlank = others := by
    cases others with
    | nil => rfl
    | cons char rest => simp [solid char List.mem_cons_self]
  have backwards := keeps chars.reverse fun char member => solid char (List.mem_reverse.mp member)
  rw [trim, trimStart, keeps chars solid, trimEnd, dropEndWhile, backwards, List.reverse_reverse]

theorem trim_of_ends
    (starts : ∀ char, chars.head? = some char → Text.isBlank char = false)
    (ends : ∀ char, chars.getLast? = some char → Text.isBlank char = false) :
    chars.trim = chars := by
  rw [trim, trimStart, dropWhile_of_head? starts, trimEnd, dropEndWhile_of_getLast? ends]

theorem trim_trim (chars : Chars) : chars.trim.trim = chars.trim :=
  trim_of_ends (fun _ isFirst => not_drop_of_head? isFirst)
    fun _ isLast => not_drop_of_getLast? isLast

theorem trim_eq_nil_iff : chars.trim = [] ↔ ∀ char ∈ chars, Text.isBlank char = true := by
  constructor
  · intro empty char member
    rcases exists_dropEndWhile_append Text.isBlank chars.trimStart with ⟨dropped, whole, blank⟩
    have rest : chars.trimStart = dropped := by
      rw [whole, show chars.trimStart.dropEndWhile Text.isBlank = [] from empty, List.nil_append]
    rw [← List.takeWhile_append_dropWhile (p := Text.isBlank) (l := chars)] at member
    rcases List.mem_append.mp member with leading | later
    · exact List.mem_takeWhile_imp leading
    · exact blank char (rest ▸ later)
  · intro blank
    rw [trim, trimStart, List.dropWhile_eq_nil_iff.mpr blank]
    rfl

end Chars

end Triage
