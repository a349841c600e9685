import Triage.Proofs.Text.Layout
import Triage.Proofs.Text.Words

namespace Triage

namespace Chars

/-! ## Lines of a text -/

theorem mem_rawLines {raw chars : Chars} (isLine : raw ∈ chars.rawLines) :
    ∃ body, (raw = body ∨ raw = body ++ ['\n']) ∧ ∀ char ∈ body, char ∈ chars ∧ char ≠ '\n' := by
  induction chars generalizing raw with
  | nil => cases isLine
  | cons char rest induction =>
      have later {raw : Chars} (isLater : raw ∈ Chars.rawLines rest) :
          ∃ body, (raw = body ∨ raw = body ++ ['\n']) ∧
            ∀ other ∈ body, other ∈ char :: rest ∧ other ≠ '\n' := by
        rcases induction isLater with ⟨body, shape, drawn⟩
        exact ⟨body, shape, fun other member =>
          ⟨List.mem_cons_of_mem _ (drawn other member).1, (drawn other member).2⟩⟩
      simp only [rawLines] at isLine
      split at isLine
      · next feed =>
        rcases List.mem_cons.mp isLine with rfl | isLater
        · exact ⟨[], .inr (by simpa using feed), by simp⟩
        · exact later isLater
      · next other =>
        have plain : char ≠ '\n' := by simpa using other
        split at isLine
        · rw [List.mem_singleton.mp isLine]
          exact ⟨[char], .inl rfl, by simpa using plain⟩
        · next line more found =>
          rw [found] at later
          rcases List.mem_cons.mp isLine with rfl | isLater
          · rcases later List.mem_cons_self with ⟨body, shape, drawn⟩
            refine ⟨char :: body, shape.imp (congrArg _) (congrArg _), ?_⟩
            exact List.forall_mem_cons.mpr ⟨⟨List.mem_cons_self, plain⟩, drawn⟩
          · exact later (List.mem_cons_of_mem _ isLater)

theorem mem_dropLineEnd {body : Chars} {char : Char}
    (member : char ∈ dropLineEnd (body ++ ['\n'])) : char ∈ body := by
  unfold dropLineEnd at member
  simp only [List.reverse_append, List.reverse_singleton, List.singleton_append] at member
  split at member
  · next rest shape =>
    have same : body.reverse = '\r' :: rest := (List.cons.inj shape).2
    rw [← List.mem_reverse, same]
    exact List.mem_cons_of_mem _ (List.mem_reverse.mp member)
  · next rest _ shape =>
    rw [← (List.cons.inj shape).2] at member
    simpa using member
  · next other =>
    exact absurd rfl (other _)

theorem dropLineEnd_of_unbroken {body : Chars} (unbroken : '\n' ∉ body) :
    dropLineEnd body = body := by
  have absent : '\n' ∉ body.reverse := by simpa using unbroken
  unfold dropLineEnd
  split
  · next shape => simp [shape] at absent
  · next shape => simp [shape] at absent
  · rfl

/-- A line of a text without its line feed has none in it. -/
theorem mem_lines {line chars : Chars} (isLine : line ∈ chars.lines) {char : Char}
    (member : char ∈ line) : char ∈ chars ∧ char ≠ '\n' := by
  rcases List.mem_map.mp isLine with ⟨raw, isRaw, rfl⟩
  rcases mem_rawLines isRaw with ⟨body, rfl | rfl, drawn⟩
  · rw [dropLineEnd_of_unbroken fun feed => (drawn _ feed).2 rfl] at member
    exact drawn char member
  · exact drawn char (mem_dropLineEnd member)

end Chars

namespace Wrap

/-! ## Widths of texts without escape sequences -/

/-- Nothing in the text starts an escape sequence. -/
def Plain (chars : Chars) : Prop :=
  ∀ char ∈ chars, char ≠ '\x1b'

instance (chars : Chars) : Decidable (Plain chars) :=
  List.decidableBAll (· ≠ '\x1b') chars

theorem Plain.tail {char : Char} {rest : Chars} (plain : Plain (char :: rest)) : Plain rest :=
  fun other member => plain other (List.mem_cons_of_mem _ member)

theorem marks_plain {chars : Chars} (plain : Plain chars) :
    marks chars = chars.map fun char => (char, false) := by
  unfold marks
  induction chars with
  | nil => rfl
  | cons char rest induction =>
      simp [marksFrom, Escape.step, plain char List.mem_cons_self, induction plain.tail]

theorem visible_plain {chars : Chars} (plain : Plain chars) : visible chars = chars := by
  rw [visible, marks_plain plain, List.filter_map, List.map_map]
  exact (List.map_id'' (fun _ => rfl) _).trans (List.filter_eq_self.mpr fun _ _ => rfl)

theorem displayWidth_cons {char : Char} {rest : Chars} (plain : Plain (char :: rest)) :
    displayWidth (char :: rest) = Text.charWidth char + displayWidth rest := by
  rw [displayWidth, displayWidth, visible_plain plain, visible_plain plain.tail, List.foldr_cons]

theorem displayWidth_singleton {char : Char} (plain : char ≠ '\x1b') :
    displayWidth [char] = Text.charWidth char :=
  displayWidth_cons fun _ member => List.mem_singleton.mp member ▸ plain

theorem displayWidth_append {first second : Chars} (plain : Plain (first ++ second)) :
    displayWidth (first ++ second) = displayWidth first + displayWidth second := by
  induction first with
  | nil => exact (Nat.zero_add _).symm
  | cons char rest induction =>
      have firstPlain : Plain (char :: rest) := fun other member =>
        plain other (List.mem_append_left _ member)
      rw [List.cons_append] at plain ⊢
      rw [displayWidth_cons plain, induction plain.tail, displayWidth_cons firstPlain,
        Nat.add_assoc]

theorem displayWidth_replicate (spaces : Nat) :
    displayWidth (List.replicate spaces ' ') = spaces := by
  induction spaces with
  | zero => rfl
  | succ spaces induction =>
      have plain : Plain (List.replicate (spaces + 1) ' ') := fun char member => by
        rw [List.eq_of_mem_replicate member]
        decide
      have single : Text.charWidth ' ' = 1 := by decide
      rw [List.replicate_succ] at plain ⊢
      rw [displayWidth_cons plain, induction, single, Nat.add_comm]

theorem charWidth_le (char : Char) : Text.charWidth char ≤ 2 := by
  unfold Text.charWidth
  repeat' split
  all_goals omega

/-- A character takes no more columns than bytes. -/
theorem charWidth_le_utf8Size (char : Char) : Text.charWidth char ≤ char.utf8Size := by
  have atLeast : 1 ≤ char.utf8Size := char.utf8Size_pos
  by_cases ascii : char.toNat ≤ 127
  · have narrow : Text.charWidth char ≤ 1 := by
      unfold Text.charWidth
      split
      · split <;> omega
      · have control : Text.isControl char = true := by
          simp [Text.isControl]
          omega
        simp [control]
    omega
  · have broad : char.utf8Size ≠ 1 := fun single => ascii (Char.utf8Size_eq_one_iff.mp single)
    have narrow := charWidth_le char
    omega

theorem displayWidth_le_byteLength {chars : Chars} (plain : Plain chars) :
    displayWidth chars ≤ chars.byteLength := by
  induction chars with
  | nil => exact Nat.zero_le _
  | cons char rest induction =>
      have first := charWidth_le_utf8Size char
      have others := induction plain.tail
      rw [displayWidth_cons plain, Chars.byteLength]
      omega

/-! ## Fragments -/

/-- A fragment with characters of the line alone, that is as wide as it is said to be. -/
structure Fragment.Of (line : Chars) (fragment : Fragment) : Prop where
  drawn : ∀ char ∈ fragment.text, char ∈ line
  width_eq : fragment.width = displayWidth fragment.text

theorem mem_cutWords {positions : List Nat} {count : Nat} {afterHidden : Bool} {word found : Chars}
    {rest : List (Char × Bool)} (isWord : found ∈ cutWords positions count afterHidden word rest)
    {char : Char} (member : char ∈ found) : char ∈ word ∨ char ∈ rest.map (·.1) := by
  induction rest generalizing count afterHidden word with
  | nil =>
      unfold cutWords at isWord
      split at isWord
      · cases isWord
      · rw [List.mem_singleton.mp isWord] at member
        exact .inl member
  | cons next rest induction =>
      rcases next with ⟨next, hidden⟩
      simp only [cutWords] at isWord
      split at isWord
      · rcases List.mem_cons.mp isWord with rfl | later
        · exact .inl member
        · rcases induction later with here | there
          · rw [List.mem_singleton.mp here]
            exact .inr List.mem_cons_self
          · exact .inr (List.mem_cons_of_mem _ there)
      · rcases induction isWord with here | there
        · rcases List.mem_append.mp here with old | new
          · exact .inl old
          · rw [List.mem_singleton.mp new]
            exact .inr List.mem_cons_self
        · exact .inr (List.mem_cons_of_mem _ there)

theorem mem_hyphenPieces {previous : Option Char} {piece found chars : Chars}
    (isPiece : found ∈ hyphenPieces previous piece chars) {char : Char} (member : char ∈ found) :
    char ∈ piece ∨ char ∈ chars := by
  fun_induction hyphenPieces with
  | case1 previous piece =>
      rw [List.mem_singleton.mp isPiece] at member
      exact .inl member
  | case2 previous piece last =>
      rw [List.mem_singleton.mp isPiece] at member
      exact List.mem_append.mp member
  | case3 previous piece hyphen next rest breaks induction =>
      rcases List.mem_cons.mp isPiece with rfl | later
      · rcases List.mem_append.mp member with old | new
        · exact .inl old
        · rw [List.mem_singleton.mp new]
          exact .inr List.mem_cons_self
      · rcases induction later with here | there
        · cases here
        · exact .inr (List.mem_cons_of_mem _ there)
  | case4 previous piece first next rest whole induction =>
      rcases induction isPiece with here | there
      · rcases List.mem_append.mp here with old | new
        · exact .inl old
        · rw [List.mem_singleton.mp new]
          exact .inr List.mem_cons_self
      · exact .inr (List.mem_cons_of_mem _ there)

theorem mem_withPieces {whole fragment : Fragment} {pieces : List (Chars × Nat)}
    (member : fragment ∈ withPieces whole pieces) : (fragment.text, fragment.width) ∈ pieces := by
  fun_induction withPieces with
  | case1 => cases member
  | case2 text width =>
      rw [List.mem_singleton.mp member]
      exact List.mem_cons_self
  | case3 text width rest more induction =>
      rcases List.mem_cons.mp member with rfl | later
      · exact List.mem_cons_self
      · exact List.mem_cons_of_mem _ (induction later)

theorem chunks_fit {room width : Nat} {piece chars : Chars} (roomy : 2 ≤ room)
    (plain : Plain (piece ++ chars)) (measured : width = displayWidth piece) (fits : width ≤ room)
    {chunk : Chars × Nat}
    (isChunk : chunk ∈ chunks room piece width (chars.map fun char => (char, false))) :
    (∀ char ∈ chunk.1, char ∈ piece ++ chars) ∧ chunk.2 = displayWidth chunk.1 ∧
      chunk.2 ≤ room := by
  induction chars generalizing piece width with
  | nil =>
      simp only [List.map_nil, chunks] at isChunk
      split at isChunk
      · cases isChunk
      · rw [List.mem_singleton.mp isChunk]
        exact ⟨fun char member => List.mem_append_left _ member, measured, fits⟩
  | cons char rest induction =>
      have small := charWidth_le char
      simp only [List.map_cons, chunks, Bool.false_eq_true, if_false] at isChunk
      split at isChunk
      · rcases List.mem_cons.mp isChunk with rfl | later
        · exact ⟨fun char member => List.mem_append_left _ member, measured, fits⟩
        · have alone : Plain ([char] ++ rest) := fun other member =>
            plain other (List.mem_append_right _ member)
          rcases induction alone (displayWidth_singleton (alone char List.mem_cons_self)).symm
            (by omega) later with ⟨drawn, others⟩
          exact ⟨fun other member => List.mem_append_right _ (drawn other member), others⟩
      · next stays =>
        have together : Plain ((piece ++ [char]) ++ rest) := by simpa using plain
        have longer : width + Text.charWidth char = displayWidth (piece ++ [char]) := by
          have front : Plain (piece ++ [char]) := fun other member =>
            together other (List.mem_append_left _ member)
          rw [displayWidth_append front, measured, displayWidth_singleton (plain char (by simp))]
        have within : width + Text.charWidth char ≤ room := by
          simp only [Bool.and_eq_true, decide_eq_true_eq, not_and, Nat.not_lt] at stays
          rcases Nat.eq_zero_or_pos width with none | some
          · omega
          · exact stays some
        rcases induction together longer within isChunk with ⟨drawn, others⟩
        exact ⟨fun other member => by simpa using drawn other member, others⟩

variable {line : Chars} {fragment : Fragment}

theorem ofWord_of {word : Chars} (drawn : ∀ char ∈ word, char ∈ line) :
    (Fragment.ofWord word).Of line :=
  ⟨fun char member => drawn char ((Chars.isPrefix_dropEndWhile _ word).subset member), rfl⟩

theorem splitHyphens_of (whole : fragment.Of line) :
    ∀ piece ∈ splitHyphens fragment, piece.Of line := by
  intro piece member
  rcases List.mem_map.mp (mem_withPieces member) with ⟨text, isPiece, same⟩
  obtain ⟨rfl, width⟩ := Prod.mk.inj same
  refine ⟨fun char inPiece => whole.drawn char ?_, width.symm⟩
  exact (mem_hyphenPieces isPiece inPiece).resolve_left List.not_mem_nil

/-- Once long fragments are broken, each one fits. -/
theorem breakLong_of {room : Nat} (roomy : 2 ≤ room) (plain : Plain line)
    (whole : fragment.Of line) :
    ∀ piece ∈ breakLong room fragment, piece.Of line ∧ piece.width ≤ room := by
  intro piece member
  unfold breakLong at member
  split at member
  · have textPlain : Plain fragment.text := fun char member =>
      plain char (whole.drawn char member)
    have isChunk := mem_withPieces member
    rw [marks_plain textPlain] at isChunk
    rcases chunks_fit roomy (show Plain ([] ++ fragment.text) from textPlain) rfl
      (Nat.zero_le room) isChunk with ⟨drawn, width, fits⟩
    exact ⟨⟨fun char member => whole.drawn char (drawn char member), width⟩, fits⟩
  · next fits =>
    rw [List.mem_singleton.mp member]
    exact ⟨whole, Nat.not_lt.mp fits⟩

theorem fragments_of {room : Nat} (roomy : 2 ≤ room) (plain : Plain line)
    (breaks : Chars → List Bool) (indent : Chars) :
    ∀ piece ∈ fragments breaks room indent line, piece.Of line ∧ piece.width ≤ room := by
  have pieces : ∀ piece ∈ (((words breaks line).map Fragment.ofWord).flatMap splitHyphens).flatMap
      (breakLong room), piece.Of line ∧ piece.width ≤ room := by
    intro piece member
    rcases List.mem_flatMap.mp member with ⟨part, isPart, member⟩
    rcases List.mem_flatMap.mp isPart with ⟨fragment, isFragment, isPart⟩
    rcases List.mem_map.mp isFragment with ⟨word, isWord, rfl⟩
    have drawn : ∀ char ∈ word, char ∈ line := fun char inWord => by
      have found := (mem_cutWords isWord inWord).resolve_left List.not_mem_nil
      rw [marks_plain plain, List.map_map] at found
      simpa using found
    exact breakLong_of roomy plain (splitHyphens_of (ofWord_of drawn) part isPart) piece member
  unfold fragments
  split
  · exact pieces
  · exact List.forall_mem_cons.mpr ⟨⟨⟨by simp, rfl⟩, Nat.zero_le room⟩, pieces⟩

/-! ## Lines -/

theorem lineText_drawn {parts : List Fragment} (of : ∀ part ∈ parts, part.Of line) :
    ∀ char ∈ lineText parts, char = ' ' ∨ char ∈ line := by
  intro char member
  fun_induction lineText parts with
  | case1 => cases member
  | case2 part => exact .inr ((of part List.mem_cons_self).drawn char member)
  | case3 part rest _ induction =>
      rcases List.mem_append.mp member with front | back
      · rcases List.mem_append.mp front with text | space
        · exact .inr ((of part List.mem_cons_self).drawn char text)
        · exact .inl (List.eq_of_mem_replicate space)
      · exact induction (fun other isPart => of other (List.mem_cons_of_mem _ isPart)) back

theorem plain_lineText (plain : Plain line) {parts : List Fragment}
    (of : ∀ part ∈ parts, part.Of line) : Plain (lineText parts) := by
  intro char member
  rcases lineText_drawn of char member with rfl | drawn
  · decide
  · exact plain char drawn

/-- What is written on a line is as wide as the search took it to be. -/
theorem displayWidth_lineText (plain : Plain line) {parts : List Fragment}
    (of : ∀ part ∈ parts, part.Of line) : displayWidth (lineText parts) = lineWidth parts := by
  have written := plain_lineText plain of
  fun_induction lineText parts with
  | case1 => rfl
  | case2 part => exact (of part List.mem_cons_self).width_eq.symm
  | case3 part rest more induction =>
      have others : ∀ other ∈ rest, other.Of line := fun other isPart =>
        of other (List.mem_cons_of_mem _ isPart)
      have filled : rest ≠ [] := by
        rintro rfl
        exact more rfl
      have front : Plain (part.text ++ List.replicate part.spaces ' ') := fun char member =>
        written char (List.mem_append_left _ member)
      rw [displayWidth_append written, displayWidth_append front, displayWidth_replicate,
        induction others (plain_lineText plain others), ← (of part List.mem_cons_self).width_eq,
        ← List.singleton_append, lineWidth_append filled]
      simp [fullWidth]

/-- What is written for one line of the text: characters of the indent and of the line, and
spaces, that do not reach far beyond the width. -/
structure Written (width : Nat) (indent line written : Chars) : Prop where
  drawn : ∀ char ∈ written, char = ' ' ∨ char ∈ indent ∨ char ∈ line
  within : displayWidth written ≤ width + overrun (width - displayWidth indent)

theorem fillLine_written {width : Nat} {indent : Chars} (breaks : Chars → List Bool)
    (roomy : displayWidth indent + 2 ≤ width) (plainIndent : Plain indent) (plain : Plain line) :
    ∀ written ∈ fillLine breaks width indent line, Written width indent line written := by
  intro written member
  unfold fillLine at member
  split at member
  · next short =>
    rw [List.mem_singleton.mp member]
    rcases Chars.isPrefix_dropEndWhile (· == ' ') line with ⟨spaces, whole⟩
    have bytes := displayWidth_le_byteLength plain
    rw [Bool.and_eq_true, decide_eq_true_eq] at short
    refine ⟨fun char isText => .inr (.inr ?_), ?_⟩
    · rw [← whole]
      exact List.mem_append_left _ isText
    · have parts := displayWidth_append (whole.symm ▸ plain)
      rw [whole] at parts
      omega
  · rcases List.mem_map.mp member with ⟨parts, isLine, rfl⟩
    have broad : 2 ≤ width - displayWidth indent := by omega
    have of := fragments_of broad plain breaks indent
    rcases layout_within (by omega) (fun fragment isPart => (of fragment isPart).2) parts isLine
      with ⟨drawn, within⟩
    have partsOf : ∀ part ∈ parts, part.Of line := fun part isPart =>
      (of part (drawn part isPart)).1
    refine ⟨fun char member => ?_, ?_⟩
    · rcases List.mem_append.mp member with isIndent | isText
      · exact .inr (.inl isIndent)
      · exact (lineText_drawn partsOf char isText).imp_right .inr
    · have whole : Plain (indent ++ lineText parts) := fun char member =>
        (List.mem_append.mp member).elim (plainIndent char) (plain_lineText plain partsOf char)
      rw [displayWidth_append whole, displayWidth_lineText plain partsOf]
      omega

theorem wrapLine_written {width : Nat} {indent : Chars} (breaks : Chars → List Bool)
    (roomy : displayWidth indent + 2 ≤ width) (plainIndent : Plain indent) (plain : Plain line) :
    ∀ written ∈ wrapLine breaks width indent line, Written width indent line written := by
  unfold wrapLine
  split
  · intro written member
    rw [List.mem_singleton.mp member]
    exact ⟨by simp, Nat.zero_le _⟩
  · exact fillLine_written breaks roomy plainIndent plain

/-- Without escape sequences, no line gets wider than the width by more than the overrun; it does
not get wider at all where there is little room behind the indent. -/
theorem wrap_within (width : Nat) (indent text : String)
    (plain : Plain (indent.toList ++ text.toList)) (unbroken : '\n' ∉ indent.toList)
    (roomy : displayWidth indent.toList + 2 ≤ effectiveWidth width indent.toList) :
    ∀ line ∈ Chars.split '\n' (Text.wrap width indent text).toList,
      displayWidth line ≤ effectiveWidth width indent.toList +
        overrun (effectiveWidth width indent.toList - displayWidth indent.toList) := by
  have plainIndent : Plain indent.toList := fun char member =>
    plain char (List.mem_append_left _ member)
  have written : ∀ written ∈ linesWith LineBreak.flags width indent.toList text.toList,
      (∀ char ∈ written, (char == '\n') = false) ∧
        displayWidth written ≤ effectiveWidth width indent.toList +
          overrun (effectiveWidth width indent.toList - displayWidth indent.toList) := by
    intro written member
    rcases List.mem_flatMap.mp member with ⟨line, isLine, member⟩
    have linePlain : Plain line := fun char inLine =>
      plain char (List.mem_append_right _ (Chars.mem_lines isLine inLine).1)
    have parts := wrapLine_written LineBreak.flags roomy plainIndent linePlain written member
    refine ⟨fun char inWritten => beq_eq_false_iff_ne.mpr ?_, parts.within⟩
    rcases parts.drawn char inWritten with rfl | isIndent | inLine
    · decide
    · rintro rfl
      exact unbroken isIndent
    · exact (Chars.mem_lines isLine inLine).2
  intro line member
  rw [Text.wrap, String.toList_ofList, Chars.split] at member
  by_cases empty : linesWith LineBreak.flags width indent.toList text.toList = []
  · rw [empty] at member
    rw [List.mem_singleton.mp member]
    exact Nat.zero_le _
  · rw [Chars.splitWhere_join (by rfl) empty fun piece isPiece => (written piece isPiece).1]
      at member
    exact (written line member).2

theorem wrap_within_narrow :
    displayWidth "   ".toList + 2 ≤ effectiveWidth 24 "   ".toList ∧
      ∀ line ∈ Chars.split '\n'
          (Text.wrap 24 "   " "one two three four five six seven eight").toList,
        displayWidth line ≤ 24 := by
  have roomy : displayWidth "   ".toList + 2 ≤ effectiveWidth 24 "   ".toList := by decide
  exact ⟨roomy, wrap_within 24 "   " "one two three four five six seven eight" (by decide)
    (by decide) roomy⟩

/-- Two words of forty columns each stay together on a line of eighty: one column too many costs
less than the gap behind a word that has the line to itself. -/
theorem wrap_too_wide :
    ¬ ∀ (width : Nat) (indent text : String), '\n' ∉ indent.toList →
      ∀ line ∈ Chars.split '\n' (Text.wrap width indent text).toList,
        Text.stringWidth line ≤ max width (Text.stringWidth indent.toList + 10) := by
  intro fits
  have wide : ¬ ∀ line ∈ Chars.split '\n' (Text.wrap 80 ""
      "aaaaaaaaaaaaaaaaaaaaaaaaaaaaaaaaaaaaaaaa bbbbbbbbbbbbbbbbbbbbbbbbbbbbbbbbbbbbbbbb").toList,
      Text.stringWidth line ≤ 80 := by decide +kernel
  exact wide (fits 80 "" _ (by decide))

end Wrap

end Triage
