import Mathlib.Algebra.Group.Nat.Defs
import Mathlib.Data.List.TakeWhile
import Triage.Number.Decimal
import Triage.Time.Format

namespace Triage

namespace Decimal

/-! ## Reading digits -/

/-- All characters are digits. -/
def AreDigits (chars : Chars) : Prop :=
  ∀ char ∈ chars, char.isDigit = true

/-- Nothing in front is a digit. -/
def EndsDigits (rest : Chars) : Prop :=
  ∀ char, rest.head? = some char → char.isDigit = false

theorem takeWhile_of_endsDigits {rest : Chars} (ends : EndsDigits rest) :
    rest.takeWhile Char.isDigit = [] := by
  cases rest with
  | nil => rfl
  | cons char others => simp [ends char rfl]

theorem dropWhile_of_endsDigits {rest : Chars} (ends : EndsDigits rest) :
    rest.dropWhile Char.isDigit = rest := by
  cases rest with
  | nil => rfl
  | cons char others => simp [ends char rfl]

theorem areDigits_toDigits (value : Nat) : AreDigits (Nat.toDigits 10 value) :=
  fun _ isMember => Nat.isDigit_of_mem_toDigits (by omega) (by omega) isMember

theorem digitValue?_of_isDigit {char : Char} (isDigit : char.isDigit = true) :
    digitValue? char = some (char.toNat - '0'.toNat) := by
  rw [Char.isDigit_iff_toNat] at isDigit
  simp [digitValue?, Char.le_def, UInt32.le_iff_toNat_le]
  exact isDigit

theorem digitValue?_of_not_isDigit {char : Char} (noDigit : char.isDigit = false) :
    digitValue? char = none := by
  rw [← Bool.not_eq_true, Char.isDigit_iff_toNat] at noDigit
  simp only [digitValue?, Char.le_def, UInt32.le_iff_toNat_le]
  exact if_neg noDigit

theorem digitValue?_digitChar : ∀ digit < 10, digitValue? digit.digitChar = some digit := by
  decide

variable {digits : Chars}

theorem natFrom_eq (areDigits : AreDigits digits) (value : Nat) :
    natFrom value digits = some (Nat.ofDigitChars 10 digits value) := by
  induction digits generalizing value with
  | nil => rfl
  | cons char rest ih =>
      have isDigit := areDigits char (by simp)
      have others : AreDigits rest := fun other isMember => areDigits other (by simp [isMember])
      rw [natFrom, digitValue?_of_isDigit isDigit, Nat.ofDigitChars_cons, Nat.mul_comm 10]
      exact ih others _

theorem nat?_eq (areDigits : AreDigits digits) (some : digits ≠ []) :
    nat? digits = .some (Nat.ofDigitChars 10 digits 0) := by
  simp [nat?, some, natFrom_eq areDigits]

theorem ofDigitChars_lt (areDigits : AreDigits digits) :
    Nat.ofDigitChars 10 digits 0 < 10 ^ digits.length := by
  induction digits with
  | nil => simp
  | cons char rest ih =>
      have isDigit := areDigits char (by simp)
      have below := ih fun other isMember => areDigits other (by simp [isMember])
      have small : char.toNat - '0'.toNat ≤ 9 := by
        rw [Char.isDigit_iff_toNat] at isDigit
        exact Nat.sub_le_of_le_add isDigit.2
      rw [Nat.ofDigitChars_cons, Nat.ofDigitChars_eq_ofDigitChars_zero, Nat.mul_zero, Nat.zero_add]
      have atMost := Nat.mul_le_mul_left (10 ^ rest.length) small
      rw [List.length_cons, Nat.pow_succ]
      omega

theorem intFrom_of_mem {char : Char} (noDigit : char.isDigit = false) {chars : Chars}
    (isMember : char ∈ chars) (negative : Bool) (value : Int) :
    (intFrom negative value chars).toOption = none := by
  induction chars generalizing value with
  | nil => simp at isMember
  | cons first rest ih =>
      rcases List.mem_cons.mp isMember with isFirst | inRest
      · simp [intFrom, ← isFirst, digitValue?_of_not_isDigit noDigit, Except.toOption]
      · cases read : digitValue? first with
        | none => simp [intFrom, read, Except.toOption]
        | some digit =>
            rw [intFrom, read]
            dsimp only
            generalize (if negative then value * 10 - digit else value * 10 + digit : Int) = next
            split
            · rfl
            · split
              · rfl
              · exact ih inRest next

/-- An integer is written in digits, but for a sign. -/
theorem int?_of_mem {char : Char} (noDigit : char.isDigit = false) (noPlus : char ≠ '+')
    (noMinus : char ≠ '-') {chars : Chars} (isMember : char ∈ chars) : int? chars = none := by
  unfold int? int
  split
  · rfl
  · rfl
  · rfl
  · exact intFrom_of_mem noDigit (List.mem_of_ne_of_mem noPlus isMember) _ _
  · exact intFrom_of_mem noDigit (List.mem_of_ne_of_mem noMinus isMember) _ _
  · exact intFrom_of_mem noDigit isMember _ _

end Decimal

/-! ## Padded numbers -/

open Decimal

theorem padded_toList (width value : Nat) :
    (padded width value).toList =
      List.replicate (width - (Nat.toDigits 10 value).length) '0' ++ Nat.toDigits 10 value := by
  simp [padded, ← String.length_toList]

theorem areDigits_padded (width value : Nat) : AreDigits (padded width value).toList := by
  intro char isMember
  rw [padded_toList, List.mem_append, List.mem_replicate] at isMember
  rcases isMember with ⟨-, isZero⟩ | isMember
  · rw [isZero]
    rfl
  · exact areDigits_toDigits value char isMember

theorem padded_ne_nil (width value : Nat) : (padded width value).toList ≠ [] := by
  simp [padded_toList, Nat.toDigits_ne_nil]

theorem ofDigitChars_padded (width value : Nat) :
    Nat.ofDigitChars 10 (padded width value).toList 0 = value := by
  simp [padded_toList, Nat.ofDigitChars_append, Nat.ofDigitChars_replicate_zero,
    Nat.ofDigitChars_ten_toDigits]

theorem length_padded {width value : Nat} (fits : value < 10 ^ width) (positive : 0 < width) :
    (padded width value).toList.length = width := by
  have short := (Nat.length_toDigits_le_iff (by omega) positive).mpr fits
  simp only [padded_toList, List.length_append, List.length_replicate]
  omega

theorem padded_one {value : Nat} (small : value < 10) :
    (padded 1 value).toList = [value.digitChar] := by
  simp [padded_toList, Nat.toDigits_of_lt_base small]

/-- The last digit of a padded number, taken off. -/
theorem padded_succ {width : Nat} (positive : 0 < width) (value : Nat) :
    (padded (width + 1) value).toList =
      (padded width (value / 10)).toList ++ [(value % 10).digitChar] := by
  by_cases small : value < 10
  · obtain ⟨before, rfl⟩ := Nat.exists_eq_succ_of_ne_zero (by omega : width ≠ 0)
    have front : value / 10 = 0 := by omega
    have last : value % 10 = value := by omega
    simp [padded_toList, front, last, Nat.toDigits_of_lt_base small, List.replicate_succ']
  · have digits : Nat.toDigits 10 value = Nat.toDigits 10 (value / 10) ++ [(value % 10).digitChar] := by
      rw [Nat.toDigits_eq_if (by omega), if_neg small]
    rw [padded_toList, padded_toList, digits]
    simp

theorem padded_two {value : Nat} (small : value < 100) :
    (padded 2 value).toList = [(value / 10).digitChar, (value % 10).digitChar] := by
  rw [padded_succ (by omega), padded_one (by omega)]
  rfl

/-- Four digits are two pairs of them. -/
theorem padded_four {value : Nat} (small : value < 10000) :
    (padded 4 value).toList =
      [(value / 100 / 10).digitChar, (value / 100 % 10).digitChar, (value % 100 / 10).digitChar,
        (value % 100 % 10).digitChar] := by
  have hundreds : value / 10 / 10 = value / 100 := by omega
  have tens : value / 10 % 10 = value % 100 / 10 := by omega
  have ones : value % 10 = value % 100 % 10 := by omega
  rw [padded_succ (by omega), padded_succ (by omega), hundreds, padded_two (by omega), tens, ones]
  rfl

end Triage
