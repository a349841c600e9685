import Mathlib.Data.List.Forall2
import Triage.Proofs.Text.Wrap

namespace Triage

namespace Wrap

variable {room : Nat} {line indent : Chars} {fragment : Fragment}

/-! ## From a line to its fragments

At every stage the pieces with the spaces behind them make up the line again. -/

theorem map_fst_marksFrom (escape : Escape) (chars : Chars) :
    (marksFrom escape chars).map (·.1) = chars := by
  induction chars generalizing escape with
  | nil => rfl
  | cons char rest induction => rw [marksFrom, List.map_cons, induction]

theorem flatten_cutWords (positions : List Nat) (count : Nat) (afterHidden : Bool) (word : Chars)
    (rest : List (Char × Bool)) :
    (cutWords positions count afterHidden word rest).flatten = word ++ rest.map (·.1) := by
  induction rest generalizing count afterHidden word with
  | nil =>
      unfold cutWords
      split
      · next empty => simp [List.isEmpty_iff.mp empty]
      · simp
  | cons next rest induction =>
      rcases next with ⟨char, hidden⟩
      simp only [cutWords]
      split
      · rw [List.flatten_cons, induction, List.singleton_append]
        rfl
      · rw [induction, List.append_assoc]
        rfl

theorem flatten_words (breaks : Chars → List Bool) (line : Chars) :
    (words breaks line).flatten = line := by
  rw [words, flatten_cutWords, List.nil_append, marks, map_fst_marksFrom]

/-- A fragment with the spaces behind it. -/
def Fragment.spaced (fragment : Fragment) : Chars :=
  fragment.text ++ List.replicate fragment.spaces ' '

theorem spaced_ofWord (word : Chars) : (Fragment.ofWord word).spaced = word := by
  rcases Chars.exists_dropEndWhile_append (· == ' ') word with ⟨spaces, whole, areSpaces⟩
  have same : spaces = List.replicate spaces.length ' ' :=
    List.eq_replicate_iff.mpr ⟨rfl, fun char member => by simpa using areSpaces char member⟩
  have count : word.length - (word.dropEndWhile (· == ' ')).length = spaces.length := by
    have lengths := congrArg List.length whole
    rw [List.length_append] at lengths
    omega
  rw [Fragment.spaced, Fragment.ofWord]
  dsimp only
  rw [count, ← same, ← whole]

theorem flatten_hyphenPieces (previous : Option Char) (piece chars : Chars) :
    (hyphenPieces previous piece chars).flatten = piece ++ chars := by
  fun_induction hyphenPieces with
  | case1 => simp
  | case2 => simp
  | case3 _ _ _ _ _ _ induction => simp [induction]
  | case4 _ _ _ _ _ _ induction => simp [induction]

theorem hyphenPieces_ne_nil (previous : Option Char) (piece chars : Chars) :
    hyphenPieces previous piece chars ≠ [] := by
  fun_induction hyphenPieces with
  | case1 | case2 | case3 => exact List.cons_ne_nil _ _
  | case4 _ _ _ _ _ _ induction => exact induction

theorem spaced_withPieces (whole : Fragment) {pieces : List (Chars × Nat)}
    (filled : pieces ≠ []) :
    (withPieces whole pieces).flatMap Fragment.spaced =
      pieces.flatMap (·.1) ++ List.replicate whole.spaces ' ' := by
  fun_induction withPieces with
  | case1 => exact absurd rfl filled
  | case2 text width => simp [Fragment.spaced]
  | case3 text width rest more induction =>
      have restFilled : rest ≠ [] := by
        rintro rfl
        exact more rfl
      simp [Fragment.spaced, induction restFilled]

theorem spaced_splitHyphens (fragment : Fragment) :
    (splitHyphens fragment).flatMap Fragment.spaced = fragment.spaced := by
  have filled := hyphenPieces_ne_nil none [] fragment.text
  rw [splitHyphens, spaced_withPieces fragment (by simpa using filled), List.flatMap_map]
  dsimp only
  rw [List.flatMap_id', flatten_hyphenPieces, List.nil_append, Fragment.spaced]

theorem flatten_chunks (room : Nat) (piece : Chars) (width : Nat) (rest : List (Char × Bool)) :
    (chunks room piece width rest).flatMap (·.1) = piece ++ rest.map (·.1) := by
  fun_induction chunks with
  | case1 => simp_all
  | case2 => simp
  | case3 _ _ _ _ induction => simp [induction]
  | case4 _ _ _ _ _ _ _ induction => simp [induction]
  | case5 _ _ _ _ _ _ _ induction => simp [induction]

theorem spaced_breakLong (sized : fragment.width = displayWidth fragment.text) :
    (breakLong room fragment).flatMap Fragment.spaced = fragment.spaced := by
  unfold breakLong
  split
  · next wide =>
    have whole := flatten_chunks room [] 0 (marks fragment.text)
    rw [marks, map_fst_marksFrom, List.nil_append] at whole
    have filled : chunks room [] 0 (marks fragment.text) ≠ [] := by
      intro none_
      rw [marks] at none_
      rw [none_] at whole
      rw [sized, ← whole] at wide
      exact Nat.not_lt_zero _ wide
    rw [spaced_withPieces fragment filled, marks, whole, Fragment.spaced]
  · simp

theorem spaced_fragments (breaks : Chars → List Bool) (room : Nat) (indent line : Chars) :
    (fragments breaks room indent line).flatMap Fragment.spaced = line := by
  have sized : ∀ piece ∈ ((words breaks line).map Fragment.ofWord).flatMap splitHyphens,
      piece.width = displayWidth piece.text := by
    intro piece member
    rcases List.mem_flatMap.mp member with ⟨whole, -, isPiece⟩
    rcases List.mem_map.mp (mem_withPieces isPiece) with ⟨text, -, same⟩
    obtain ⟨rfl, width⟩ := Prod.mk.inj same
    exact width.symm
  have pieces : ((((words breaks line).map Fragment.ofWord).flatMap splitHyphens).flatMap
      (breakLong room)).flatMap Fragment.spaced = line := by
    rw [List.flatMap_assoc, List.flatMap_congr fun piece member =>
      spaced_breakLong (sized piece member), List.flatMap_assoc]
    simp only [spaced_splitHyphens, List.flatMap_map, spaced_ofWord, List.flatMap_id',
      flatten_words]
  unfold fragments
  split
  · exact pieces
  · rw [List.flatMap_cons, pieces]
    rfl

/-! ## From the fragments to lines -/

theorem flatten_layout (fragments : List Fragment) :
    (layout room fragments).flatten = fragments := by
  by_cases filled : fragments = []
  · rw [filled]
    rfl
  · have ⟨best, found, isBest⟩ : ∃ best, layout room fragments = best.lines.reverse ∧
        Best room true fragments best := layout_best filled
    rw [found, isBest.whole]

/-- Only spaces behind the last fragment are not written. -/
theorem exists_spaced_eq (parts : List Fragment) :
    ∃ spaces, parts.flatMap Fragment.spaced = lineText parts ++ List.replicate spaces ' ' := by
  fun_induction lineText parts with
  | case1 => exact ⟨0, rfl⟩
  | case2 part => exact ⟨part.spaces, by simp [Fragment.spaced]⟩
  | case3 part rest more induction =>
      rcases induction with ⟨spaces, whole⟩
      exact ⟨spaces, by simp [Fragment.spaced, whole]⟩

/-- What is written on the lines behind the indent, and how many spaces are left out after each,
make up the line of the text. -/
theorem fillLine_restores (breaks : Chars → List Bool) (width : Nat) (indent line : Chars) :
    ∃ bodies : List (Chars × Nat),
      fillLine breaks width indent line = bodies.map (indent ++ ·.1) ∧
        line = bodies.flatMap fun body => body.1 ++ List.replicate body.2 ' ' := by
  have restore (layout : List (List Fragment)) : ∃ bodies : List (Chars × Nat),
      layout.map (indent ++ lineText ·) = bodies.map (indent ++ ·.1) ∧
        layout.flatten.flatMap Fragment.spaced =
          bodies.flatMap fun body => body.1 ++ List.replicate body.2 ' ' := by
    induction layout with
    | nil => exact ⟨[], rfl, rfl⟩
    | cons parts layout induction =>
        rcases induction with ⟨bodies, written, whole⟩
        rcases exists_spaced_eq parts with ⟨spaces, partsWhole⟩
        exact ⟨(lineText parts, spaces) :: bodies, by simp [written], by simp [whole, partsWhole]⟩
  unfold fillLine
  split
  · next short =>
    have unindented : indent = [] := by simp_all
    have whole := spaced_ofWord line
    refine ⟨[(line.dropEndWhile (· == ' '), line.length - (line.dropEndWhile (· == ' ')).length)],
      by simp [unindented], ?_⟩
    simpa [Fragment.spaced, Fragment.ofWord] using whole.symm
  · dsimp only
    rcases restore (layout (width - displayWidth indent)
      (fragments breaks (width - displayWidth indent) indent line)) with ⟨bodies, written, whole⟩
    rw [flatten_layout, spaced_fragments] at whole
    exact ⟨bodies, written, whole⟩

/-- What is written is from the indent and from the line. -/
theorem mem_wrapLine {breaks : Chars → List Bool} {width : Nat} {indent line piece : Chars}
    {char : Char} (isWritten : piece ∈ wrapLine breaks width indent line) (member : char ∈ piece) :
    char ∈ indent ∨ char ∈ line := by
  unfold wrapLine at isWritten
  split at isWritten
  · rw [List.mem_singleton.mp isWritten] at member
    cases member
  · rcases fillLine_restores breaks width indent line with ⟨bodies, written, whole⟩
    rw [written] at isWritten
    rcases List.mem_map.mp isWritten with ⟨body, isBody, rfl⟩
    refine (List.mem_append.mp member).imp_right fun inBody => ?_
    rw [whole]
    exact List.mem_flatMap.mpr ⟨body, isBody, List.mem_append_left _ inBody⟩

/-! ## White space and the rest -/

/-- The characters that are not white space. -/
def solid (chars : Chars) : Chars :=
  chars.filter (!Text.isBlank ·)

theorem solid_append (first second : Chars) :
    solid (first ++ second) = solid first ++ solid second :=
  List.filter_append first second

theorem solid_of_blank {blanks : Chars} (areBlank : ∀ char ∈ blanks, Text.isBlank char = true) :
    solid blanks = [] :=
  List.filter_eq_nil_iff.mpr fun char member => by simp [areBlank char member]

theorem solid_replicate (spaces : Nat) : solid (List.replicate spaces ' ') = [] :=
  solid_of_blank fun char member => by
    rw [List.eq_of_mem_replicate member]
    decide

theorem solid_bodies (blankIndent : ∀ char ∈ indent, Text.isBlank char = true)
    (bodies : List (Chars × Nat)) :
    solid (bodies.map (indent ++ ·.1)).flatten =
      solid (bodies.flatMap fun body => body.1 ++ List.replicate body.2 ' ') := by
  induction bodies with
  | nil => rfl
  | cons body bodies induction =>
      rw [List.map_cons, List.flatten_cons, List.flatMap_cons, solid_append, solid_append,
        solid_append, solid_append, induction, solid_of_blank blankIndent, solid_replicate,
        List.nil_append, List.append_nil]

/-- What becomes of one line of a text. -/
structure Laid (indent line : Chars) (written : List Chars) : Prop where
  filled : written ≠ []
  unbroken : ∀ piece ∈ written, '\n' ∉ piece
  solid_eq : solid written.flatten = solid line
  blank : line.all Text.isBlank = true → written = [[]]
  indented : line.all Text.isBlank = false → ∀ piece ∈ written, indent <+: piece

theorem wrapLine_laid (breaks : Chars → List Bool) (width : Nat)
    (blankIndent : ∀ char ∈ indent, Text.isBlank char = true) (unbrokenIndent : '\n' ∉ indent)
    (unbroken : '\n' ∉ line) : Laid indent line (wrapLine breaks width indent line) := by
  cases blank : line.all Text.isBlank with
  | true =>
      have none_ : solid line = [] := solid_of_blank (List.all_eq_true.mp blank)
      rw [wrapLine, if_pos blank]
      exact ⟨List.cons_ne_nil _ _, by simp, by rw [none_]; rfl, fun _ => rfl,
        fun notBlank => absurd (blank.symm.trans notBlank) Bool.noConfusion⟩
  | false =>
      have written : wrapLine breaks width indent line = fillLine breaks width indent line :=
        if_neg (by simp [blank])
      have apart : ∀ piece ∈ wrapLine breaks width indent line, '\n' ∉ piece :=
        fun piece isPiece feed => (mem_wrapLine isPiece feed).elim unbrokenIndent unbroken
      rcases fillLine_restores breaks width indent line with ⟨bodies, isWritten, whole⟩
      rw [written, isWritten] at apart ⊢
      refine ⟨?_, apart, ?_,
        fun isBlank => absurd (blank.symm.trans isBlank) Bool.noConfusion, fun _ piece member => ?_⟩
      · intro none_
        rw [List.map_eq_nil_iff.mp none_] at whole
        rw [whole] at blank
        cases blank
      · rw [solid_bodies blankIndent, ← whole]
      · rcases List.mem_map.mp member with ⟨body, -, rfl⟩
        exact List.prefix_append indent body.1

/-! ## Texts -/

theorem flatten_rawLines (chars : Chars) : chars.rawLines.flatten = chars := by
  induction chars with
  | nil => rfl
  | cons char rest induction =>
      rw [Chars.rawLines]
      split
      · simp [induction]
      · split
        · next none_ =>
          rw [none_] at induction
          simp [← induction]
        · next line more found =>
          rw [found] at induction
          simp [← induction]

theorem solid_dropLineEnd (raw : Chars) : solid (Chars.dropLineEnd raw) = solid raw := by
  unfold Chars.dropLineEnd
  split
  · next rest shape =>
    have whole : raw = rest.reverse ++ ['\r', '\n'] := by
      simpa using congrArg List.reverse shape
    have ends : solid ['\r', '\n'] = [] := by decide
    rw [whole, solid_append, ends, List.append_nil]
  · next rest _ shape =>
    have whole : raw = rest.reverse ++ ['\n'] := by simpa using congrArg List.reverse shape
    have ends : solid ['\n'] = [] := by decide
    rw [whole, solid_append, ends, List.append_nil]
  · rfl

theorem solid_flatten (pieces : List Chars) : solid pieces.flatten = pieces.flatMap solid := by
  induction pieces with
  | nil => rfl
  | cons piece pieces induction =>
      rw [List.flatten_cons, solid_append, induction, List.flatMap_cons]

theorem solid_lines (chars : Chars) : chars.lines.flatMap solid = solid chars := by
  rw [Chars.lines, List.flatMap_map]
  simp only [solid_dropLineEnd]
  rw [← solid_flatten, flatten_rawLines]

theorem solid_join (pieces : List Chars) :
    solid (Chars.join ['\n'] pieces) = pieces.flatMap solid := by
  have feed : solid ['\n'] = [] := by decide
  induction pieces with
  | nil => rfl
  | cons first rest induction =>
      cases rest with
      | nil => simp [Chars.join]
      | cons second rest =>
          rw [Chars.join_cons_cons, solid_append, solid_append, feed, induction]
          simp only [List.flatMap_cons, List.append_nil]

end Wrap

namespace Text

open Wrap

theorem mem_wrap {width : Nat} {indent text : String} {char : Char}
    (member : char ∈ (wrap width indent text).toList) :
    char = '\n' ∨ char ∈ indent.toList ∨ char ∈ text.toList := by
  rw [wrap, String.toList_ofList] at member
  rcases Chars.mem_join member with feed | ⟨piece, isPiece, inPiece⟩
  · exact .inl (List.mem_singleton.mp feed)
  · rcases List.mem_flatMap.mp isPiece with ⟨line, isLine, isWritten⟩
    exact .inr ((mem_wrapLine isWritten inPiece).imp_right fun inLine =>
      (Chars.mem_lines isLine inLine).1)

/-- Wrapping with any rule for where a line may be broken. -/
def wrapWith (breaks : Chars → List Bool) (width : Nat) (indent text : String) : String :=
  String.ofList (Chars.join ['\n'] (linesWith breaks width indent.toList text.toList))

/-- Wherever lines may be broken: behind an indent of white space, what is not white space is
written as it stands in the text, line by line. -/
theorem wrapWith_conserves (width : Nat) (indent text : String)
    (blank : ∀ char ∈ indent.toList, isBlank char = true) (unbroken : '\n' ∉ indent.toList) :
    wrap width indent text = wrapWith LineBreak.flags width indent text ∧
      ∀ breaks, solid (wrapWith breaks width indent text).toList = solid text.toList ∧
        ∃ written, (wrapWith breaks width indent text).toList =
            Chars.join ['\n'] written.flatten ∧
          List.Forall₂ (Laid indent.toList) (Chars.lines text.toList) written := by
  refine ⟨rfl, fun breaks => ?_⟩
  have laid : ∀ line ∈ Chars.lines text.toList, Laid indent.toList line
      (wrapLine breaks (effectiveWidth width indent.toList) indent.toList line) := fun line isLine =>
    wrapLine_laid breaks _ blank unbroken fun feed => (Chars.mem_lines isLine feed).2 rfl
  rw [wrapWith, String.toList_ofList]
  refine ⟨?_, _, congrArg _ List.flatMap_def, ?_⟩
  · rw [solid_join, linesWith, List.flatMap_assoc, ← solid_lines text.toList]
    refine List.flatMap_congr fun line isLine => ?_
    rw [← solid_flatten, (laid line isLine).solid_eq]
  · rw [List.forall₂_map_right_iff, List.forall₂_same]
    exact laid

/-- A word that is broken, a blank line, and a tab in the indent, which takes no column. -/
theorem wrapWith_conserves_narrow :
    (∀ char ∈ "\t ".toList, isBlank char = true) ∧ '\n' ∉ "\t ".toList ∧
      wrap 8 "\t " "well-known\n\nextraordinarily" =
        "\t well-known\n\n\t extraordina\n\t rily" ∧
      solid (wrap 8 "\t " "well-known\n\nextraordinarily").toList =
        "well-knownextraordinarily".toList := by
  have blank : ∀ char ∈ "\t ".toList, isBlank char = true := List.all_eq_true.mp (by decide)
  have unbroken : '\n' ∉ "\t ".toList := by decide
  rcases wrapWith_conserves 8 "\t " "well-known\n\nextraordinarily" blank unbroken with
    ⟨same, conserves⟩
  refine ⟨blank, unbroken, by decide, ?_⟩
  rw [same, (conserves LineBreak.flags).1]
  decide

end Text

end Triage
