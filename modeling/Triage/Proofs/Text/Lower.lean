import Mathlib.Data.Nat.Bitwise
import Triage.Proofs.Text.Words
import Triage.Text.Case

namespace Triage

namespace Text

/-! ## Tables that settle at once -/

/-- All that a table moves, with what it moves it to. -/
def Shifts.moves : Shifts → List (Nat × Nat)
  | first :: last :: step :: image :: rest =>
      ((List.range ((last - first) / step + 1)).map fun index =>
        (first + step * index, image + step * index)) ++ moves rest
  | _ => []

theorem Shifts.mem_moves {shifts : Shifts} {code result : Nat}
    (found : shifts.image? code = some result) : (code, result) ∈ shifts.moves := by
  induction shifts using Shifts.moves.induct with
  | case1 first last step image rest induction =>
      rw [image?] at found
      rw [moves, List.mem_append]
      split at found
      · cases found
      · split at found
        · next least taken =>
          simp only [Bool.and_eq_true, decide_eq_true_eq, beq_iff_eq] at taken
          have parts := Nat.div_add_mod (code - first) step
          rw [taken.2, Nat.add_zero] at parts
          have short : (code - first) / step ≤ (last - first) / step :=
            Nat.div_le_div_right (by omega)
          refine .inl (List.mem_map.mpr ⟨(code - first) / step, ?_, ?_⟩)
          · exact List.mem_range.mpr (Nat.lt_succ_of_le short)
          · have isCode : first + (code - first) = code := by omega
            rw [parts, isCode, Option.some.inj found]
        · exact .inr (induction found)
  | case2 shifts odd =>
      rw [image?] at found
      · cases found
      · exact odd

/-- A set of code points, one bit for each of them. -/
def mask (codes : List Nat) : Nat :=
  codes.foldr (fun code held => held ||| 1 <<< code) 0

theorem testBit_mask {codes : List Nat} {code : Nat} (isMember : code ∈ codes) :
    (mask codes).testBit code = true := by
  induction codes with
  | nil => exact absurd isMember List.not_mem_nil
  | cons first rest induction =>
      rw [mask, List.foldr_cons, Nat.testBit_or, Bool.or_eq_true]
      rcases List.mem_cons.mp isMember with isFirst | inRest
      · right
        rw [isFirst, Nat.one_shiftLeft]
        exact Nat.testBit_two_pow_self
      · exact .inl (induction inRest)

/-! ## Lower case -/

/-- What lower case changes. -/
def capitals : List Nat :=
  List.range' 0x41 26 ++ 0x130 :: Table.toLower.moves.map (·.1)

/-- What lower case changes it to; where that is no character, the null character stands. -/
def smalls : List Nat :=
  0 :: List.range' 0x61 26 ++ 0x307 :: 0x3C2 :: 0x3C3 :: Table.toLower.moves.map (·.2)

/-- Nothing is changed again. -/
theorem capitals_apart_smalls : mask capitals &&& mask smalls = 0 := by
  decide +kernel

theorem not_capital_of_small {code : Nat} (isSmall : code ∈ smalls) : code ∉ capitals := by
  intro isCapital
  have both := congrArg (Nat.testBit · code) capitals_apart_smalls
  simp only [Nat.testBit_and, Nat.zero_testBit] at both
  rw [testBit_mask isCapital, testBit_mask isSmall] at both
  cases both

theorem toLower_of_not_isUpper {char : Char} (notUpper : ¬char.isUpper = true) :
    char.toLower = char :=
  dif_neg fun isUpper => notUpper (decide_eq_true isUpper)

theorem toLower_of_isUpper {char : Char} (isUpper : char.isUpper = true) :
    char.toLower.toNat ∈ smalls := by
  have letter : char.val ≥ 'A'.val ∧ char.val ≤ 'Z'.val := of_decide_eq_true isUpper
  have least : 0x41 ≤ char.toNat := letter.1
  have most : char.toNat ≤ 0x5A := letter.2
  have moved : char.toLower.val = char.val + 32 := congrArg Char.val (dif_pos letter)
  have small : char.val.toNat + (32 : UInt32).toNat < 2 ^ 32 := by
    show char.toNat + 32 < _
    omega
  have moved : char.toLower.toNat = char.toNat + 32 := by
    rw [Char.toNat, moved, UInt32.toNat_add, Nat.mod_eq_of_lt small]
    rfl
  simp only [moved, smalls, List.cons_append, List.mem_cons, List.mem_append, List.mem_range'_1]
  omega

theorem lowerChars_of_not_capital {char : Char} (noCapital : char.toNat ∉ capitals) :
    lowerChars char = [char] := by
  simp only [capitals, List.mem_append, List.mem_cons, List.mem_range'_1, not_or] at noCapital
  rcases noCapital with ⟨noLetter, notDotted, notMoved⟩
  have isDotted : char ≠ 'İ' := fun same => notDotted (same ▸ rfl)
  have notFound : Table.toLower.image? char.toNat = none := by
    rw [Option.eq_none_iff_forall_ne_some]
    intro result found
    exact notMoved (List.mem_map_of_mem (f := (·.1)) (Shifts.mem_moves found))
  have notUpper : ¬char.isUpper = true := by
    intro isUpper
    have letter : char.val ≥ 'A'.val ∧ char.val ≤ 'Z'.val := of_decide_eq_true isUpper
    exact noLetter ⟨letter.1, Nat.lt_succ_of_le letter.2⟩
  simp [lowerChars, isDotted, notFound, toLower_of_not_isUpper notUpper]

theorem lowerChars_of_small {char : Char} (isSmall : char.toNat ∈ smalls) :
    lowerChars char = [char] :=
  lowerChars_of_not_capital (not_capital_of_small isSmall)

/-- A character in lower case is its own lower case. -/
theorem lowerChars_image {char image : Char} (isImage : image ∈ lowerChars char) :
    lowerChars image = [image] := by
  unfold lowerChars at isImage
  split at isImage
  · next ascii =>
    by_cases isUpper : char.isUpper = true
    · rw [List.mem_singleton.mp isImage]
      exact lowerChars_of_small (toLower_of_isUpper isUpper)
    · rw [List.mem_singleton.mp isImage, toLower_of_not_isUpper isUpper]
      simp [lowerChars, ascii, toLower_of_not_isUpper isUpper]
  · next beyond =>
    split at isImage
    · simp only [List.mem_cons, List.not_mem_nil, or_false] at isImage
      apply lowerChars_of_small
      rcases isImage with isLetter | isDot
      · rw [isLetter]
        simp [smalls]
      · rw [isDot]
        simp [smalls]
    · next plain =>
      split at isImage
      · next code found =>
        have isTarget : code ∈ smalls := by
          simp only [smalls, List.cons_append, List.mem_cons, List.mem_append]
          exact .inr (.inr (.inr (.inr (.inr
            (List.mem_map_of_mem (f := (·.2)) (Shifts.mem_moves found))))))
        rw [List.mem_singleton.mp isImage]
        apply lowerChars_of_small
        rcases toNat_ofNat_or code with whole | missing
        · rwa [whole]
        · rw [missing]
          exact List.mem_cons_self
      · next none_ =>
        rw [List.mem_singleton.mp isImage]
        simp [lowerChars, beyond, plain, none_]

end Text

namespace Chars

open Text

variable {before chars : Chars} {image : Char}

theorem fixed_of_mem_lowerAfter (member : image ∈ lowerAfter before chars) :
    lowerChars image = [image] := by
  induction chars generalizing before with
  | nil => exact absurd member List.not_mem_nil
  | cons char rest induction =>
      rcases List.mem_append.mp member with first | later
      · have final : lowerChars 'ς' = ['ς'] := lowerChars_of_small (by simp [smalls])
        have inner : lowerChars 'σ' = ['σ'] := lowerChars_of_small (by simp [smalls])
        split at first
        · split at first
          · rw [List.mem_singleton.mp first, final]
          · rw [List.mem_singleton.mp first, inner]
        · exact lowerChars_image first
      · exact induction later

theorem lowerAfter_of_fixed (fixed : ∀ char ∈ chars, lowerChars char = [char]) :
    lowerAfter before chars = chars := by
  induction chars generalizing before with
  | nil => rfl
  | cons char rest induction =>
      have notSigma : char ≠ 'Σ' := by
        intro isSigma
        exact absurd (isSigma ▸ fixed char List.mem_cons_self) (by decide)
      rw [lowerAfter, fixed char List.mem_cons_self,
        induction fun other member => fixed other (List.mem_cons_of_mem _ member)]
      simp [notSigma]

end Chars

theorem Text.lower_lower (text : String) : lower (lower text) = lower text := by
  unfold lower Chars.lower
  rw [String.toList_ofList, Chars.lowerAfter_of_fixed fun char => Chars.fixed_of_mem_lowerAfter]

end Triage
