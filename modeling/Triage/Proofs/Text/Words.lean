import Triage.Proofs.Text.Fold
import Triage.Text.Words

namespace Triage

namespace Text

/-! ## Letters that stay as they are in lower case -/

/-- A character whose lower case is made of letters and numbers that are in lower
case for good: not capitals, and their own lower case. -/
def Steady (char : Char) : Prop :=
  isAlphanumeric char = true → ∀ image ∈ lowerChars char,
    isAlphanumeric image = true ∧ isUpper image = false ∧ lowerChars image = [image]

-- By the list of the images: characters are finitely many, but too many to go through.
instance (char : Char) : Decidable (Steady char) :=
  @instDecidableForall _ _ _ (List.decidableBAll _ _)

theorem steady_of_ascii {char : Char} (ascii : char.toNat < 0x80) : Steady char := by
  have small : ∀ code < 0x80, Steady (Char.ofNat code) := by decide
  have same := small char.toNat ascii
  rwa [Char.ofNat_toNat] at same

-- A table takes more recursion than the default depth allows.
set_option maxRecDepth 4000 in
/-- Most capitals beyond ASCII are steady too, but the dotted capital I falls apart and a
mathematical letter has no small form. -/
example : Steady 'Ä' ∧ Steady 'Σ' ∧ ¬Steady 'İ' ∧ ¬Steady '𝐀' := by decide

theorem lowerChars_ne_nil (char : Char) : lowerChars char ≠ [] := by
  unfold lowerChars
  split
  · exact List.cons_ne_nil _ _
  · split
    · exact List.cons_ne_nil _ _
    · split <;> exact List.cons_ne_nil _ _

/-- The code points of the ranges, one by one. -/
def Ranges.members : Ranges → List Nat
  | first :: last :: rest => List.range' first (last + 1 - first) ++ members rest
  | _ => []

theorem Ranges.mem_members {ranges : Ranges} {code : Nat} (held : ranges.contains code = true) :
    code ∈ ranges.members := by
  induction ranges using Ranges.members.induct with
  | case1 first last rest induction =>
      rw [contains] at held
      rw [members, List.mem_append, List.mem_range'_1]
      split at held
      · cases held
      · split at held
        · exact .inl ⟨by omega, by omega⟩
        · exact .inr (induction held)
  | case2 ranges odd =>
      rw [contains] at held
      · cases held
      · exact odd

set_option maxRecDepth 4000 in
theorem not_alphanumeric_of_blank {char : Char} (blank : isBlank char = true) :
    isAlphanumeric char = false := by
  have none_ : ∀ code ∈ blanks.members, isAlphanumeric (Char.ofNat code) = false := by
    decide
  have same := none_ char.toNat (Ranges.mem_members blank)
  rwa [Char.ofNat_toNat] at same

/-- What the groups of a table send their first code points to. -/
def Shifts.images : Shifts → List Nat
  | _ :: _ :: _ :: image :: rest => image :: images rest
  | _ => []

theorem Shifts.le_of_image? {shifts : Shifts} {code result : Nat}
    (found : shifts.image? code = some result) : ∃ image ∈ shifts.images, image ≤ result := by
  induction shifts using Shifts.images.induct with
  | case1 first last step image rest induction =>
      rw [image?] at found
      rw [images]
      split at found
      · cases found
      · split at found
        · cases found
          exact ⟨image, List.mem_cons_self, Nat.le_add_right _ _⟩
        · rcases induction found with ⟨other, member, below⟩
          exact ⟨other, List.mem_cons_of_mem _ member, below⟩
  | case2 shifts odd =>
      rw [image?] at found
      · cases found
      · exact odd

theorem toNat_ofNat_or (code : Nat) :
    (Char.ofNat code).toNat = code ∨ (Char.ofNat code).toNat = 0 := by
  by_cases valid : code.isValidChar
  · rw [Char.ofNat, dif_pos valid]
    exact .inl rfl
  · rw [Char.ofNat, dif_neg valid]
    exact .inr rfl

set_option maxRecDepth 4000 in
theorem slash_not_mem_lowerChars {char : Char} (known : isAlphanumeric char = true) :
    '/' ∉ lowerChars char := by
  unfold lowerChars
  split
  · next ascii =>
    have small : ∀ code < 0x80, isAlphanumeric (Char.ofNat code) = true →
        '/' ∉ [(Char.ofNat code).toLower] := by decide
    have same := small char.toNat ascii
    rw [Char.ofNat_toNat] at same
    exact same known
  · split
    · decide
    · split
      · next code found =>
        have above : ∀ image ∈ Table.toLower.images, 0x41 ≤ image := by decide
        rcases Shifts.le_of_image? found with ⟨image, member, below⟩
        have large := Nat.le_trans (above image member) below
        intro isSlash
        have same : (Char.ofNat code).toNat = 0x2F := by
          rw [← List.mem_singleton.mp isSlash]
          decide
        rcases toNat_ofNat_or code with whole | missing <;> omega
      · intro isSlash
        rw [← List.mem_singleton.mp isSlash] at known
        exact absurd known (by decide)

end Text

namespace Words

open Text

variable {mode : Mode} {word chars : Chars} {words : List Chars}

/-! ## The words of a text -/

theorem flatten_cut (mode : Mode) (word chars : Chars) :
    (cut mode word chars).flatten = word ++ chars := by
  induction mode, word, chars using cut.induct with
  | case1 | case2 => simp [cut]
  | case3 _ _ _ _ _ boundary induction => simp [cut, boundary, induction]
  | case4 _ _ _ _ _ boundary late induction =>
      rw [cut, if_neg boundary, if_pos late, List.flatten_cons, induction, List.singleton_append]
  | case5 _ _ _ _ _ boundary late induction =>
      rw [cut, if_neg boundary, if_neg late, induction, List.append_assoc, List.singleton_append]

/-- No word is empty: a boundary never falls before the first letter. -/
theorem ne_nil_of_mem_cut {piece : Chars} (begun : mode = .upper → word ≠ [])
    (nonempty : word ++ chars ≠ []) (member : piece ∈ cut mode word chars) : piece ≠ [] := by
  induction mode, word, chars using cut.induct with
  | case1 mode word =>
      rw [cut, List.mem_singleton] at member
      simpa [member] using nonempty
  | case2 mode word char =>
      rw [cut, List.mem_singleton] at member
      simp [member]
  | case3 mode word char next rest boundary induction =>
      rw [cut, if_pos boundary] at member
      rcases List.mem_cons.mp member with rfl | later
      · simp
      · exact induction Mode.noConfusion (by simp) later
  | case4 mode word char next rest boundary late induction =>
      rw [cut, if_neg boundary, if_pos late] at member
      rcases List.mem_cons.mp member with rfl | later
      · exact begun late.1
      · exact induction Mode.noConfusion (by simp) later
  | case5 mode word char next rest boundary late induction =>
      rw [cut, if_neg boundary, if_neg late] at member
      exact induction (fun _ => by simp) (by simp) member

/-- Without capitals there is nothing to cut. -/
theorem cut_of_no_capital (begun : mode ≠ .upper) (small : ∀ char ∈ chars, isUpper char = false) :
    cut mode word chars = [word ++ chars] := by
  induction mode, word, chars using cut.induct with
  | case1 => simp [cut]
  | case2 => rfl
  | case3 mode word char next rest boundary =>
      have nextSmall := small next (by simp)
      simp [nextSmall] at boundary
  | case4 mode word char next rest boundary late =>
      exact absurd late.1 begun
  | case5 mode word char next rest boundary late induction =>
      have charSmall := small char List.mem_cons_self
      have goesOn : mode.after char ≠ .upper := by
        unfold Mode.after
        split
        · exact Mode.noConfusion
        · simpa [charSmall] using begun
      rw [cut, if_neg boundary, if_neg late,
        induction goesOn fun other member => small other (List.mem_cons_of_mem _ member)]
      simp

theorem mem_ofChars (member : word ∈ ofChars chars) :
    word ≠ [] ∧ ∀ char ∈ word, isAlphanumeric char = true ∧ char ∈ chars := by
  rcases List.mem_flatMap.mp member with ⟨piece, isPiece, isWord⟩
  rcases List.mem_filter.mp isPiece with ⟨isSplit, nonempty⟩
  have filled : piece ≠ [] := by simpa using nonempty
  refine ⟨ne_nil_of_mem_cut Mode.noConfusion (by simpa using filled) isWord, fun char inWord => ?_⟩
  have inPiece : char ∈ piece := by
    have inFlat := List.mem_flatten.mpr ⟨word, isWord, inWord⟩
    rwa [flatten_cut] at inFlat
  have apart := Chars.separates_of_mem_splitWhere isSplit char inPiece
  exact ⟨by simpa using apart, Chars.mem_of_mem_splitWhere isSplit inPiece⟩

theorem lower_ne_nil (nonempty : chars ≠ []) : lower chars ≠ [] := by
  cases chars with
  | nil => exact absurd rfl nonempty
  | cons char rest =>
      rw [lower]
      split
      · exact List.cons_ne_nil _ _
      · exact fun empty => lowerChars_ne_nil char (List.append_eq_nil_iff.mp empty).1

theorem mem_lower {image : Char} (member : image ∈ lower chars) :
    image = 'ς' ∨ ∃ char ∈ chars, image ∈ lowerChars char := by
  induction chars with
  | nil => exact absurd member List.not_mem_nil
  | cons char rest induction =>
      rcases List.mem_append.mp member with first | later
      · split at first
        · exact .inl (List.mem_singleton.mp first)
        · exact .inr ⟨char, List.mem_cons_self, first⟩
      · rcases induction later with final | ⟨other, isOther, found⟩
        · exact .inl final
        · exact .inr ⟨other, List.mem_cons_of_mem _ isOther, found⟩

/-- A word that lower case leaves alone. -/
theorem lower_of_fixed (fixed : ∀ char ∈ chars, lowerChars char = [char]) :
    lower chars = chars := by
  induction chars with
  | nil => rfl
  | cons char rest induction =>
      have notSigma : char ≠ 'Σ' := by
        rintro rfl
        exact absurd (fixed _ List.mem_cons_self) (by decide)
      rw [lower, fixed char List.mem_cons_self,
        induction fun other member => fixed other (List.mem_cons_of_mem _ member)]
      simp [notSigma]

/-! ## Kebab case -/

/-- What a letter of a word in kebab case is like. -/
def Settled (char : Char) : Prop :=
  isAlphanumeric char = true ∧ isUpper char = false ∧ lowerChars char = [char]

theorem settled_of_steady {image : Char} (known : ∀ char ∈ word, isAlphanumeric char = true)
    (steady : ∀ char ∈ word, Steady char) (member : image ∈ lower word) : Settled image := by
  rcases mem_lower member with rfl | ⟨char, inWord, isImage⟩
  · unfold Settled
    decide
  · exact steady char inWord (known char inWord) image isImage

theorem solid_of_settled {char : Char} (settled : Settled char) : isBlank char = false := by
  cases blank : isBlank char with
  | false => rfl
  | true => exact absurd settled.1 (by simp [not_alphanumeric_of_blank blank])

theorem solid_join (settled : ∀ word ∈ words, ∀ char ∈ word, Settled char) :
    ∀ char ∈ Chars.join ['-'] words, isBlank char = false := by
  intro char member
  rcases Chars.mem_join member with hyphen | ⟨word, isWord, inWord⟩
  · rw [List.mem_singleton.mp hyphen]
    decide
  · exact solid_of_settled (settled word isWord char inWord)

theorem ofChars_join (filled : ∀ word ∈ words, word ≠ [])
    (settled : ∀ word ∈ words, ∀ char ∈ word, Settled char) :
    ofChars (Chars.join ['-'] words) = words := by
  have isPieces : pieces (Chars.join ['-'] words) = words := by
    by_cases empty : words = []
    · rw [empty]
      rfl
    · have split : Chars.splitWhere (fun char => !isAlphanumeric char)
          (Chars.join ['-'] words) = words :=
        Chars.splitWhere_join (by decide) empty fun word isWord char inWord => by
          simp [(settled word isWord char inWord).1]
      rw [pieces, split, List.filter_eq_self]
      exact fun word isWord => by simpa using filled word isWord
  have uncut : ∀ word ∈ words, cut .start [] word = [word] := fun word isWord =>
    cut_of_no_capital Mode.noConfusion fun char inWord => (settled word isWord char inWord).2.1
  rw [ofChars, isPieces, List.flatMap_congr uncut, List.flatMap_singleton']

/-- Settled words with hyphens between them are in kebab case already. -/
theorem kebab_join (filled : ∀ word ∈ words, word ≠ [])
    (settled : ∀ word ∈ words, ∀ char ∈ word, Settled char) :
    kebab (Chars.join ['-'] words) = Chars.join ['-'] words := by
  have fixed : ∀ word ∈ words, lower word = word := fun word isWord =>
    lower_of_fixed fun char inWord => (settled word isWord char inWord).2.2
  have unchanged : words.map lower = words := (List.map_congr_left fixed).trans (List.map_id' words)
  rw [kebab, Chars.trim_of_no_blank (solid_join settled), ofChars_join filled settled, unchanged]

/-- The words that a text in kebab case is joined from. -/
theorem settled_words (steady : ∀ char ∈ chars, Steady char) :
    ∀ word ∈ (ofChars chars.trim).map lower, word ≠ [] ∧ ∀ char ∈ word, Settled char := by
  intro small member
  rcases List.mem_map.mp member with ⟨word, isWord, rfl⟩
  rcases mem_ofChars isWord with ⟨filled, known⟩
  refine ⟨lower_ne_nil filled, fun image inLower => ?_⟩
  exact settled_of_steady (fun char inWord => (known char inWord).1)
    (fun char inWord => steady char ((Chars.isInfix_trim chars).subset (known char inWord).2)) inLower

theorem kebab_kebab (steady : ∀ char ∈ chars, Steady char) : kebab (kebab chars) = kebab chars :=
  kebab_join (fun word isWord => (settled_words steady word isWord).1)
    fun word isWord => (settled_words steady word isWord).2

theorem solid_kebab (steady : ∀ char ∈ chars, Steady char) :
    ∀ char ∈ kebab chars, isBlank char = false :=
  solid_join fun word isWord => (settled_words steady word isWord).2

theorem slash_not_mem_kebab (chars : Chars) : '/' ∉ kebab chars := by
  intro member
  rcases Chars.mem_join member with hyphen | ⟨small, isSmall, inSmall⟩
  · exact absurd hyphen (by decide)
  · rcases List.mem_map.mp isSmall with ⟨word, isWord, rfl⟩
    rcases mem_lower inSmall with final | ⟨char, inWord, isImage⟩
    · exact absurd final (by decide)
    · exact slash_not_mem_lowerChars ((mem_ofChars isWord).2 char inWord).1 isImage

end Words

end Triage
