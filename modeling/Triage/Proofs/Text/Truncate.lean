import Triage.Proofs.Text.Words
import Triage.Text.Width

namespace Triage

namespace Text

/-! ## Ranges that lie apart -/

/-- No code point is in both, found out in one go through the two. -/
def Ranges.apart : Nat → Ranges → Ranges → Bool
  | fuel + 1, first :: last :: rest, first' :: last' :: rest' =>
      if last < first' then apart fuel rest (first' :: last' :: rest')
      else if last' < first then apart fuel (first :: last :: rest) rest'
      else false
  | _, [], _ => true
  | _, _, [] => true
  | _, _, _ => false

theorem Ranges.not_contains_of_apart {fuel code : Nat} {ranges others : Ranges}
    (areApart : apart fuel ranges others = true) (held : ranges.contains code = true) :
    others.contains code = false := by
  fun_induction apart with
  | case1 fuel first last rest first' last' rest' before induction =>
      rw [contains] at held
      split at held
      · cases held
      · split at held
        · rw [contains, if_pos (by omega)]
        · exact induction areApart held
  | case2 fuel first last rest first' last' rest' notBefore behind induction =>
      have reached : first ≤ code := by
        rw [contains] at held
        split at held
        · cases held
        · omega
      rw [contains, if_neg (by omega : ¬code ≤ last'), induction areApart held, ite_self]
  | case3 => cases areApart
  | case4 => cases held
  | case5 => rfl
  | case6 => cases areApart

/-! ## The width of a text and of its characters -/

variable {chars kept rest : Chars} {char : Char} {width room : Nat}

def charWidths : Chars → Nat
  | [] => 0
  | char :: rest => charWidth char + charWidths rest

/-- Characters that may take a column more in a text than alone. -/
def isSurplus (char : Char) : Bool :=
  isControl char || char == '\ufe0f'

def surplus (chars : Chars) : Nat :=
  chars.countP isSurplus

/-- The characters without a column of their own. -/
def blind : Ranges :=
  0x0 :: 0x1F :: 0x7F :: 0x9F :: Table.zeroWidth

theorem blind_of_charWidth (none_ : charWidth char = 0) : blind.contains char.toNat = true := by
  unfold charWidth isControl at none_
  simp only [blind, Ranges.contains]
  grind

theorem one_le_charWidth_of_apart {ranges : Ranges}
    (areApart : Ranges.apart 1000 ranges blind = true)
    (held : ranges.contains char.toNat = true) : 1 ≤ charWidth char := by
  have seen := Ranges.not_contains_of_apart areApart held
  refine Nat.one_le_iff_ne_zero.mpr fun none_ => ?_
  rw [blind_of_charWidth none_] at seen
  cases seen

-- A table takes more recursion than the default depth allows.
set_option maxRecDepth 4000 in
theorem one_le_charWidth_of_emoji (emoji : StringWidth.isEmoji char = true) :
    1 ≤ charWidth char :=
  one_le_charWidth_of_apart (by decide) emoji

set_option maxRecDepth 4000 in
theorem one_le_charWidth_of_presentation (emoji : StringWidth.isEmojiPresentation char = true) :
    1 ≤ charWidth char :=
  one_le_charWidth_of_apart (by decide) emoji

end Text

namespace StringWidth

open Text

variable {char : Char} {right : Right}

/-- A selector that the character before it has yet to answer. -/
def pending (right : Right) : Nat :=
  if right.style = .emoji then 1 else 0

/-- How much wider a character may be in a text than alone. -/
def leeway (char : Char) : Nat :=
  if isSurplus char then 1 else 0

theorem alone_le (char : Char) (right : Right) :
    (alone char right).1 ≤ charWidth char + leeway char ∧
      pending (alone char right).2 = 0 := by
  have control (isControl : isControl char = true) : leeway char = 1 := by
    simp [leeway, isSurplus, isControl]
  unfold alone
  split
  · next feed =>
    have isFeed : isControl char = true := by
      rw [beq_iff_eq.mp feed]
      decide
    exact ⟨by rw [control isFeed]; omega, rfl⟩
  split
  · exact ⟨Nat.zero_le _, rfl⟩
  split
  · next isControl => exact ⟨by rw [control isControl]; omega, rfl⟩
  dsimp only
  repeat' split
  all_goals exact ⟨Nat.le_add_right _ _, rfl⟩

/-- A character that runs on into what follows takes no column, and any other stands alone. -/
theorem within_cases (char : Char) (right : Right) :
    within char right = alone char right ∨
      (within char right).1 = 0 ∧ pending (within char right).2 ≤ pending right := by
  unfold within
  repeat' split
  all_goals simp [pending]

theorem within_le (char : Char) (unmarked : pending right = 0) :
    (within char right).1 ≤ charWidth char + leeway char ∧
      pending (within char right).2 = 0 := by
  rcases within_cases char right with same | ⟨none_, answered⟩
  · rw [same]
    exact alone_le char right
  · omega

/-- A selector counts where it stands, so that the character before it may be wider. -/
theorem step_le (char : Char) (right : Right) :
    (step char right).1 + pending (step char right).2 ≤
      charWidth char + leeway char + pending right := by
  have follows : (within char ⟨right.following, .unmarked⟩).1 ≤ charWidth char + leeway char ∧
      pending (within char ⟨right.following, .unmarked⟩).2 = 0 := within_le char rfl
  unfold step
  split
  · next selector =>
    have one : leeway char = 1 := by
      rw [beq_iff_eq.mp selector]
      decide
    have most : pending ⟨right.following, .emoji⟩ = 1 := rfl
    dsimp only
    omega
  split
  · have none_ : pending ⟨right.following, .text⟩ = 0 := rfl
    dsimp only
    omega
  split
  · next style =>
    have one : pending right = 1 := if_pos style
    split
    · next emoji =>
      have wide := one_le_charWidth_of_emoji emoji
      have none_ : pending ⟨.emoji, .unmarked⟩ = 0 := rfl
      dsimp only
      split <;> omega
    · omega
  · split
    · next emoji =>
      have wide := one_le_charWidth_of_presentation emoji
      have none_ : pending ⟨.nothing, .unmarked⟩ = 0 := rfl
      dsimp only
      omega
    · omega
  · next style =>
    have unmarked : pending right = 0 := by simp [pending, style]
    have within_ := within_le char unmarked
    omega

theorem measure_le (chars : Chars) :
    (measure chars).1 + pending (measure chars).2 ≤ charWidths chars + surplus chars := by
  induction chars with
  | nil => exact Nat.le_refl _
  | cons char rest induction =>
      have first := step_le char (measure rest).2
      rw [leeway] at first
      rw [measure, charWidths, surplus, List.countP_cons]
      rw [surplus] at induction
      dsimp only
      omega

/-- What stands at the end is measured alone if nothing before it belongs to it. -/
theorem measure_append {last : Chars} (apart : (measure last).2 = ⟨.nothing, .unmarked⟩)
    (chars : Chars) :
    measure (chars ++ last) = ((measure chars).1 + (measure last).1, (measure chars).2) := by
  induction chars with
  | nil => rw [List.nil_append, measure, Nat.zero_add, ← apart]
  | cons char rest induction =>
      rw [List.cons_append, measure, measure, induction]
      dsimp only
      rw [Nat.add_right_comm]

end StringWidth

namespace Text

/-- A text is no wider than its characters but for control characters and emoji selectors. -/
theorem stringWidth_le (chars : Chars) : stringWidth chars ≤ charWidths chars + surplus chars :=
  Nat.le_trans (Nat.le_add_right _ _) (StringWidth.measure_le chars)

set_option maxRecDepth 4000 in
theorem stringWidth_ellipsis (chars : Chars) :
    stringWidth (chars ++ ['…']) = stringWidth chars + 1 := by
  have alone : StringWidth.measure ['…'] = (1, ⟨.nothing, .unmarked⟩) := by decide
  rw [stringWidth, StringWidth.measure_append (congrArg Prod.snd alone), alone, stringWidth]

/-! ## What is kept of a text -/

/-- The longest part at the start of a text whose characters leave a column of the width. -/
structure Keeps (width : Nat) (chars kept : Chars) : Prop where
  isPrefix : kept <+: chars
  narrow : charWidths kept < width
  longest : ∀ longer, longer <+: chars → charWidths longer < width → longer <+: kept

theorem takeWidth_keeps (roomy : 0 < width) (chars : Chars) :
    Keeps width chars (takeWidth width chars) := by
  induction chars generalizing width with
  | nil => exact ⟨List.prefix_rfl, roomy, fun longer isPrefix _ => isPrefix⟩
  | cons char rest induction =>
      rw [takeWidth]
      split
      · next fits =>
        have keeps : Keeps (width - charWidth char) rest _ := induction (by omega)
        refine ⟨(List.prefix_cons_inj char).mpr keeps.isPrefix, ?_, ?_⟩
        · have narrow := keeps.narrow
          rw [charWidths]
          omega
        · intro longer isPrefix narrow
          rcases List.prefix_cons_iff.mp isPrefix with rfl | ⟨more, rfl, begins⟩
          · exact List.nil_prefix
          · rw [charWidths] at narrow
            exact (List.prefix_cons_inj char).mpr (keeps.longest more begins (by omega))
      · next wide =>
        refine ⟨List.nil_prefix, roomy, fun longer isPrefix narrow => ?_⟩
        rcases List.prefix_cons_iff.mp isPrefix with rfl | ⟨more, rfl, -⟩
        · exact List.prefix_rfl
        · rw [charWidths] at narrow
          omega

theorem Keeps.eq_iff (keeps : Keeps width chars kept) :
    kept = chars ↔ charWidths chars < width :=
  ⟨fun same => same ▸ keeps.narrow, fun narrow =>
    keeps.isPrefix.eq_of_length_le (keeps.longest chars List.prefix_rfl narrow).length_le⟩

/-- What cutting a text to a width gives. -/
structure Truncation (width : Nat) (text result : Chars) : Prop where
  fits : stringWidth text ≤ width → result = text
  empty : width < stringWidth text → width = 0 → result = []
  cut : width < stringWidth text → 0 < width → ∃ kept, Keeps width text kept ∧
    result = kept ++ ['…'] ∧ stringWidth result = stringWidth kept + 1 ∧
    (kept = text ↔ charWidths text < width)
  /-- The result is wider only by what its characters may be wider than alone. -/
  within : stringWidth result ≤ width + surplus text
  /-- Without such characters the text comes back only if it fits, -/
  returned : surplus text = 0 → (result = text ↔ stringWidth text ≤ width)
  /-- and something is left out otherwise. -/
  proper : surplus text = 0 → width < stringWidth text → ∀ kept, result = kept ++ ['…'] →
    kept <+: text ∧ kept ≠ text

theorem stringWidth_cut (keeps : Keeps width chars kept) :
    stringWidth (kept ++ ['…']) ≤ width + surplus chars := by
  have narrow := keeps.narrow
  have least : surplus kept ≤ surplus chars := keeps.isPrefix.sublist.countP_le
  have most := stringWidth_le kept
  rw [stringWidth_ellipsis]
  omega

theorem truncateChars_of_cut (wide : width < stringWidth chars) (roomy : 0 < width) :
    truncateChars width chars = takeWidth width chars ++ ['…'] := by
  rw [truncateChars, if_neg (by omega), if_neg (by omega)]

/-- A text that fits is unchanged, and of another one so much is kept as leaves room for the
ellipsis, as far as its characters tell. -/
theorem truncateChars_truncation (width : Nat) (text : Chars) :
    Truncation width text (truncateChars width text) := by
  by_cases fits : stringWidth text ≤ width
  · have same : truncateChars width text = text := if_pos fits
    rw [same]
    exact ⟨fun _ => rfl, fun wide => absurd fits (by omega), fun wide => absurd fits (by omega),
      by omega, fun _ => iff_of_true rfl fits, fun _ wide => absurd fits (by omega)⟩
  have wide : width < stringWidth text := by omega
  have notNil : text ≠ [] := by
    rintro rfl
    exact Nat.not_lt_zero _ wide
  rcases Nat.eq_zero_or_pos width with rfl | roomy
  · have none_ : truncateChars 0 text = [] := by rw [truncateChars, if_neg fits, if_pos rfl]
    rw [none_]
    refine ⟨fun less => absurd less fits, fun _ _ => rfl, fun _ roomy => absurd roomy (by omega),
      Nat.zero_le _, fun _ => iff_of_false notNil.symm fits, fun _ _ kept same => ?_⟩
    simp at same
  · rw [truncateChars_of_cut wide roomy]
    have keeps := takeWidth_keeps roomy text
    have within := stringWidth_cut keeps
    have bound := stringWidth_le text
    refine ⟨fun less => absurd less fits, fun _ none_ => absurd none_ (by omega),
      fun _ _ => ⟨_, keeps, rfl, stringWidth_ellipsis _, keeps.eq_iff⟩, within, fun plain => ?_,
      fun plain _ kept same => ?_⟩
    · refine iff_of_false (fun same => ?_) fits
      rw [same] at within
      omega
    · obtain rfl : takeWidth width text = kept := List.append_cancel_right same
      refine ⟨keeps.isPrefix, fun whole => ?_⟩
      have narrow := keeps.eq_iff.mp whole
      omega

theorem truncate_truncation (width : Nat) (text : String) :
    Truncation width text.toList (truncate width text).toList := by
  rw [truncate, String.toList_ofList]
  exact truncateChars_truncation width text.toList

theorem mem_truncate {width : Nat} {text : String} {char : Char}
    (member : char ∈ (truncate width text).toList) : char = '…' ∨ char ∈ text.toList := by
  have truncation := truncate_truncation width text
  by_cases fits : stringWidth text.toList ≤ width
  · exact .inr (truncation.fits fits ▸ member)
  have wide : width < stringWidth text.toList := by omega
  rcases Nat.eq_zero_or_pos width with none_ | roomy
  · rw [truncation.empty wide none_] at member
    cases member
  · rcases truncation.cut wide roomy with ⟨kept, keeps, result, -, -⟩
    rw [result] at member
    exact (List.mem_append.mp member).elim (fun inKept => .inr (keeps.isPrefix.subset inKept))
      fun last => .inl (List.mem_singleton.mp last)

/-- Two tabs count as two columns when the text is measured, and as none when it is cut: all of it
is kept, with an ellipsis behind it. -/
theorem truncate_too_wide :
    ¬ ∀ (width : Nat) (text : String),
      stringWidth (truncate width text).toList ≤ width ∧
        (truncate width text = text ↔ stringWidth text.toList ≤ width) ∧
        (width < stringWidth text.toList → width = 0 → truncate width text = "") ∧
        (width < stringWidth text.toList → 0 < width → ∃ kept, kept <+: text.toList ∧
          kept ≠ text.toList ∧ (truncate width text).toList = kept ++ ['…']) := by
  intro claim
  have wide : ¬ stringWidth (truncate 1 "\t\t").toList ≤ 1 := by decide +kernel
  exact wide (claim 1 "\t\t").1

end Text

end Triage
