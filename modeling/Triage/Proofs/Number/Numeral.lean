import Mathlib.Algebra.Group.Int.Defs
import Triage.Proofs.Number.Decimal
import Triage.Proofs.Text.Fold

namespace Triage

/-! ## The digits of an integer

Whatever its type, a parameter may be given as a number or as the text of the number. -/

namespace Decimal

theorem ne_of_isDigit {char other : Char} (isDigit : char.isDigit = true)
    (noDigit : other.isDigit = false) : char ≠ other := by
  rintro rfl
  rw [isDigit] at noDigit
  cases noDigit

/-- Digits, behind a minus sign if the number is negative. -/
theorem numeral_toList (number : Int) :
    (toString number).toList =
      if number < 0 then '-' :: Nat.toDigits 10 number.natAbs else Nat.toDigits 10 number.natAbs := by
  rw [Int.toString_eq_repr, Int.repr_eq_if]
  by_cases negative : number < 0
  · have magnitude : (-number).toNat = number.natAbs := by omega
    have below : ¬0 ≤ number := by omega
    simp [negative, below, magnitude]
  · have magnitude : number.toNat = number.natAbs := by omega
    have atLeast : 0 ≤ number := by omega
    simp [negative, atLeast, magnitude]

/-- No two numbers have the same digits. -/
theorem numeral_inj {number other : Int} (same : toString number = toString other) :
    number = other := by
  have noSign (value : Nat) (rest : Chars) : Nat.toDigits 10 value ≠ '-' :: rest := by
    intro equal
    exact ne_of_isDigit (areDigits_toDigits value '-' (by simp [equal])) rfl rfl
  have digits {value magnitude : Nat} (equal : Nat.toDigits 10 value = Nat.toDigits 10 magnitude) :
      value = magnitude := by
    have values := congrArg (Nat.ofDigitChars 10 · 0) equal
    simpa [Nat.ofDigitChars_ten_toDigits] using values
  have chars := congrArg String.toList same
  rw [numeral_toList, numeral_toList] at chars
  split at chars <;> split at chars
  · have magnitudes := digits (List.tail_eq_of_cons_eq chars)
    omega
  · exact absurd chars.symm (noSign _ _)
  · exact absurd chars (noSign _ _)
  · have magnitudes := digits chars
    omega

/-! ## Integers that are read -/

/-- A number with the sign that its text has. -/
def signed (negative : Bool) (magnitude : Nat) : Int :=
  if negative then -magnitude else magnitude

/-- A number that fits 64 bits, or in which direction it does not. -/
def bounded (number : Int) : Except IntError Int :=
  if number < leastInt then .error .tooSmall
  else if greatestInt < number then .error .tooLarge
  else .ok number

theorem fitsInt_iff {number : Int} :
    fitsInt number = true ↔ -(2 ^ 63) ≤ number ∧ number < 2 ^ 63 := by
  have power : (twoPow 63 : Int) = 2 ^ 63 := rfl
  simp only [fitsInt, Bool.and_eq_true, decide_eq_true_eq]
  unfold leastInt greatestInt
  omega

theorem bounded_of_fits {number : Int} (fits : fitsInt number = true) :
    bounded number = .ok number := by
  simp only [fitsInt, Bool.and_eq_true, decide_eq_true_eq] at fits
  rw [bounded, if_neg (by omega), if_neg (by omega)]

theorem bounded_of_small {number : Int} (small : number < leastInt) :
    bounded number = .error .tooSmall :=
  if_pos small

theorem bounded_of_large {number : Int} (large : greatestInt < number) :
    bounded number = .error .tooLarge := by
  have least : leastInt < greatestInt := by decide
  rw [bounded, if_neg (by omega), if_pos large]

theorem toOption_bounded (number : Int) :
    (bounded number).toOption = if fitsInt number then some number else none := by
  by_cases fits : fitsInt number = true
  · rw [bounded_of_fits fits, if_pos fits]
    rfl
  · rw [if_neg fits]
    simp only [fitsInt, Bool.and_eq_true, decide_eq_true_eq, not_and_or, Int.not_le] at fits
    rcases fits with small | large
    · rw [bounded_of_small small]
      rfl
    · rw [bounded_of_large large]
      rfl

variable {digits : Chars}

theorem le_ofDigitChars (digits : Chars) (value : Nat) : value ≤ Nat.ofDigitChars 10 digits value := by
  rw [Nat.ofDigitChars_eq_ofDigitChars_zero]
  have scaled : value ≤ 10 ^ digits.length * value :=
    Nat.le_mul_of_pos_left value (Nat.pow_pos (by omega))
  omega

/-- A number leaves 64 bits at the first digit with which it does, and never comes back. -/
theorem intFrom_eq (areDigits : AreDigits digits) (negative : Bool) {value : Nat}
    (fits : fitsInt (signed negative value) = true) :
    intFrom negative (signed negative value) digits =
      bounded (signed negative (Nat.ofDigitChars 10 digits value)) := by
  induction digits generalizing value with
  | nil => exact (bounded_of_fits fits).symm
  | cons char rest ih =>
      have isDigit := areDigits char (by simp)
      have others : AreDigits rest := fun other isMember => areDigits other (by simp [isMember])
      obtain ⟨next, isNext⟩ : ∃ next, next = 10 * value + (char.toNat - '0'.toNat) := ⟨_, rfl⟩
      have pushed : (if negative then
            signed negative value * 10 - (char.toNat - '0'.toNat : Nat)
          else signed negative value * 10 + (char.toNat - '0'.toNat : Nat)) =
            signed negative next := by
        cases negative <;> simp [signed, isNext] <;> omega
      have grows := le_ofDigitChars rest next
      have range : leastInt ≤ 0 ∧ 0 ≤ greatestInt := by decide
      rw [intFrom, digitValue?_of_isDigit isDigit, Nat.ofDigitChars_cons, ← isNext]
      dsimp only
      rw [pushed]
      by_cases small : signed negative next < leastInt
      · have smaller : signed negative (Nat.ofDigitChars 10 rest next) < leastInt := by
          revert small
          cases negative <;> simp [signed] <;> omega
        rw [if_pos small, bounded_of_small smaller]
      · by_cases large : greatestInt < signed negative next
        · have larger : greatestInt < signed negative (Nat.ofDigitChars 10 rest next) := by
            revert large
            cases negative <;> simp [signed] <;> omega
          rw [if_neg small, if_pos large, bounded_of_large larger]
        · rw [if_neg small, if_neg large]
          refine ih others ?_
          simp only [fitsInt, Bool.and_eq_true, decide_eq_true_eq]
          omega

theorem int_toString (number : Int) : int (toString number).toList = bounded number := by
  have zero (negative : Bool) : fitsInt (signed negative 0) = true := by
    cases negative <;> decide
  have start (negative : Bool) : signed negative 0 = 0 := by cases negative <;> rfl
  have areDigits := areDigits_toDigits number.natAbs
  have notEmpty : Nat.toDigits 10 number.natAbs ≠ [] := Nat.toDigits_ne_nil
  have read (negative : Bool) := intFrom_eq areDigits negative (zero negative)
  simp only [start, Nat.ofDigitChars_ten_toDigits] at read
  rw [numeral_toList]
  obtain ⟨first, rest, isFirst⟩ := List.exists_cons_of_ne_nil notEmpty
  have isDigit : first.isDigit = true := areDigits first (by simp [isFirst])
  rw [isFirst] at read ⊢
  by_cases negative : number < 0
  · have value : signed true number.natAbs = number := by
      simp only [signed, if_true]
      omega
    rw [if_pos negative, int, read true, value]
    all_goals simp
  · have value : signed false number.natAbs = number := by
      simp only [signed, Bool.false_eq_true, if_false]
      omega
    have noPlus : first ≠ '+' := ne_of_isDigit isDigit rfl
    have noMinus : first ≠ '-' := ne_of_isDigit isDigit rfl
    rw [if_neg negative, int, read false, value]
    all_goals simp [noPlus, noMinus]

theorem int?_toString (number : Int) :
    int? (toString number).toList = if fitsInt number then some number else none := by
  rw [int?, int_toString, toOption_bounded]

/-! ## Fractions that are read

A text without a point is read as its digits and rounded once, like the number itself. -/

theorem unsigned?_eq (areDigits : AreDigits digits) (nonempty : digits ≠ []) (negative : Bool) :
    unsigned? negative digits = toBinary64? negative (Nat.ofDigitChars 10 digits 0) 0 := by
  have noMark : ∀ char ∈ digits, (!isExponentMark char) = true := by
    intro char isMember
    have isDigit := areDigits char isMember
    have noSmall : char ≠ 'e' := ne_of_isDigit isDigit rfl
    have noCapital : char ≠ 'E' := ne_of_isDigit isDigit rfl
    simp [isExponentMark, noSmall, noCapital]
  have noPoint : Chars.cut? '.' digits = none := by
    clear nonempty noMark
    induction digits with
    | nil => rfl
    | cons char rest ih =>
        have isDigit := areDigits char (by simp)
        have others := ih fun other isMember => areDigits other (by simp [isMember])
        have isOther : char ≠ '.' := ne_of_isDigit isDigit rfl
        simp [Chars.cut?, isOther, others]
  have mantissa : digits.takeWhile (fun char => !isExponentMark char) = digits :=
    List.takeWhile_eq_self_iff.mpr noMark
  have exponent : digits.dropWhile (fun char => !isExponentMark char) = [] :=
    List.dropWhile_eq_nil_iff.mpr noMark
  simp [unsigned?, mantissa, exponent, noPoint, nat?_eq areDigits nonempty]

/-- Numbers of 64 bits are far from the greatest one that can be held. -/
theorem isSome_ofQuotient? (negative : Bool) {magnitude : Nat} (small : magnitude < 2 ^ 64) :
    (Binary64.ofQuotient? negative magnitude 1).isSome = true := by
  by_cases isZero : magnitude = 0
  · simp [Binary64.ofQuotient?, isZero]
  · have log : magnitude.log2 < 64 := (Nat.log2_lt isZero).mpr small
    have exponent : Binary64.exponentFor magnitude 1 ≤ 11 := by
      have one : (1 : Nat).log2 = 0 := by decide
      simp only [Binary64.exponentFor, one, Binary64.leastExponent]
      split <;> omega
    simp only [Binary64.ofQuotient?, if_neg isZero, Binary64.greatestExponent]
    split <;> split <;> first | rfl | omega

theorem toBinary64?_eq (negative : Bool) {magnitude : Nat} (small : magnitude < 2 ^ 64) :
    toBinary64? negative magnitude 0 = Binary64.ofQuotient? negative magnitude 1 := by
  by_cases isZero : magnitude = 0
  · simp [toBinary64?, Binary64.ofQuotient?, isZero]
  · have digits : (Nat.toDigits 10 magnitude).length ≤ 20 :=
      (Nat.length_toDigits_le_iff (by omega) (by omega)).mpr (by omega)
    have length : (toString magnitude).length = (Nat.toDigits 10 magnitude).length := by
      simp [← String.length_toList]
    have one : tenPow 0 = 1 := rfl
    have few : ¬(400 : Int) < 0 + ((toString magnitude).length : Int) := by omega
    have some_ : ¬(0 : Int) + ((toString magnitude).length : Int) < -400 := by omega
    simp only [toBinary64?, if_neg isZero, if_neg few, if_neg some_]
    simp [one]

theorem float?_toString {number : Int} (small : number.natAbs < 2 ^ 64) :
    float? (toString number).toList = some (.ofInt number) := by
  have areDigits := areDigits_toDigits number.natAbs
  have notEmpty : Nat.toDigits 10 number.natAbs ≠ [] := Nat.toDigits_ne_nil
  have rounded (negative : Bool) : unsigned? negative (Nat.toDigits 10 number.natAbs) =
      some ((Binary64.ofQuotient? negative number.natAbs 1).getD (.zero false)) := by
    obtain ⟨nearest, isNearest⟩ := Option.isSome_iff_exists.mp (isSome_ofQuotient? negative small)
    rw [unsigned?_eq areDigits notEmpty, Nat.ofDigitChars_ten_toDigits, toBinary64?_eq negative small,
      isNearest, Option.getD_some]
  rw [numeral_toList, Binary64.ofInt]
  by_cases negative : number < 0
  · rw [if_pos negative, float?, rounded true]
    · simp [negative]
  · obtain ⟨first, rest, isFirst⟩ := List.exists_cons_of_ne_nil notEmpty
    have isDigit : first.isDigit = true := areDigits first (by simp [isFirst])
    have noPlus : first ≠ '+' := ne_of_isDigit isDigit rfl
    have noMinus : first ≠ '-' := ne_of_isDigit isDigit rfl
    rw [if_neg negative, isFirst, float?, ← isFirst, rounded false]
    all_goals simp [negative, noPlus, noMinus]

end Decimal

end Triage
