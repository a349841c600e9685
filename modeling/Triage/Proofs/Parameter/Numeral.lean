import Triage.Proofs.Number.Numeral
import Triage.Proofs.Parameter.Normalization
import Triage.Run.Operator

namespace Triage

open Decimal

/-! ## Numerals as texts

The digits of a number are no address, no date and no word. -/

theorem mem_numeral {number : Int} {char : Char} (isMember : char ∈ (toString number).toList) :
    char.isDigit = true ∨ char = '-' := by
  rw [numeral_toList] at isMember
  split at isMember
  · rcases List.mem_cons.mp isMember with isMinus | inDigits
    · exact .inr isMinus
    · exact .inl (areDigits_toDigits _ char inDigits)
  · exact .inl (areDigits_toDigits _ char isMember)

theorem not_mem_numeral {number : Int} {char : Char} (noDigit : char.isDigit = false)
    (noMinus : char ≠ '-') : char ∉ (toString number).toList := by
  intro isMember
  rcases mem_numeral isMember with isDigit | isMinus
  · exact ne_of_isDigit isDigit noDigit rfl
  · exact noMinus isMinus

theorem solid_numeral (number : Int) :
    ∀ char ∈ (toString number).toList, Text.isBlank char = false := by
  have minus : Text.isBlank '-' = false := by decide
  intro char isMember
  rcases mem_numeral isMember with isDigit | rfl
  · exact Instant.isBlank_of_isDigit isDigit
  · exact minus

theorem trim_numeral (number : Int) :
    Chars.trim (toString number).toList = (toString number).toList :=
  Chars.trim_of_no_blank (solid_numeral number)

theorem fold_numeral (number : Int) : Text.fold (toString number) = toString number := by
  have plain : ∀ char ∈ (toString number).toList, char.toNat < 0x80 ∧ char.toLower = char := by
    intro char isMember
    rcases mem_numeral isMember with isDigit | rfl
    · have atMost : char.toNat ≤ 57 := (Char.isDigit_iff_toNat.mp isDigit).2
      have noCapital : ¬('A' ≤ char ∧ char ≤ 'Z') := by
        rintro ⟨low, -⟩
        have atLeast : 65 ≤ char.toNat := low
        omega
      exact ⟨by omega, dif_neg noCapital⟩
    · exact ⟨by decide, rfl⟩
  apply Text.fold_of_map_toLower
  · exact fun char isMember => ⟨(plain char isMember).1, solid_numeral number char isMember⟩
  · exact (List.map_congr_left fun char isMember => (plain char isMember).2).trans (List.map_id' _)

/-- Only the two digits that stand for a flag do so. -/
theorem flag?_numeral (number : Int) :
    Text.flag? (toString number) =
      if number = 1 then some true else if number = 0 then some false else none := by
  have noWord (word : String) (letter : Char) (isLetter : letter ∈ word.toList)
      (noDigit : letter.isDigit = false) (noMinus : letter ≠ '-') : toString number ≠ word := by
    rintro rfl
    exact not_mem_numeral noDigit noMinus isLetter
  have digit (value : Int) : toString number = toString value ↔ number = value :=
    ⟨numeral_inj, congrArg toString⟩
  have yes : ["true", "yes", "y", "1"].contains (toString number) = decide (number = 1) := by
    have noTrue := noWord "true" 't' (by decide) rfl (by decide)
    have noYes := noWord "yes" 'y' (by decide) rfl (by decide)
    have noY := noWord "y" 'y' (by decide) rfl (by decide)
    have one : toString number = "1" ↔ number = 1 := digit 1
    revert noTrue noYes noY one
    generalize toString number = text
    intro noTrue noYes noY one
    simp [noTrue, noYes, noY, one]
  have no : ["false", "no", "n", "0"].contains (toString number) = decide (number = 0) := by
    have noFalse := noWord "false" 'f' (by decide) rfl (by decide)
    have noNo := noWord "no" 'n' (by decide) rfl (by decide)
    have noN := noWord "n" 'n' (by decide) rfl (by decide)
    have zero : toString number = "0" ↔ number = 0 := digit 0
    revert noFalse noNo noN zero
    generalize toString number = text
    intro noFalse noNo noN zero
    simp [noFalse, noNo, noN, zero]
  simp only [Text.flag?, fold_numeral, yes, no, decide_eq_true_eq]

namespace Address

variable {chars : Chars}

theorem expect?_of_not_mem {mark : Char} (absent : mark ∉ chars) : expect? mark chars = none := by
  rw [Option.eq_none_iff_forall_ne_some]
  intro rest isRead
  exact absent (expect?_eq_some isRead ▸ List.mem_cons_self)

/-- Groups are told apart by colons only. -/
theorem groups_of_no_mark (noDot : '.' ∉ chars) (noColon : ':' ∉ chars) :
    ∃ values rest, groups true 8 chars = (values, false, rest) ∧ values.length ≤ 1 ∧
      ':' ∉ rest := by
  have noDotted : (separated? true chars).bind dotted? = none := dotted?_of_no_dot noDot
  cases isGroup : (separated? true chars).bind group? with
  | none => exact ⟨[], chars, groups_of_none (.inr noDotted) isGroup, by simp, noColon⟩
  | some found =>
      rcases found with ⟨value, rest⟩
      obtain ⟨⟨digits, after⟩, isNumber, same⟩ := Option.map_eq_some_iff.mp isGroup
      obtain ⟨-, isRest⟩ := Prod.mk.inj same
      obtain ⟨isChars, -⟩ := number?_eq_some isNumber
      have isRest : after = rest := isRest
      rw [isRest] at isChars
      have noMore : ':' ∉ rest := fun isMember =>
        noColon (isChars ▸ List.mem_append_right _ isMember)
      have apart {α : Type} (read : Chars → Option α) : (separated? false rest).bind read = none := by
        rw [separated?, if_neg Bool.false_ne_true, expect?_of_not_mem noMore, Option.bind_none]
      refine ⟨[value], rest, ?_, by simp, noMore⟩
      rw [groups_of_group (.inr noDotted) isGroup, groups_of_none (.inr (apart _)) (apart _)]

/-- An address has a point or a colon. -/
theorem read?_of_no_mark (noDot : '.' ∉ chars) (noColon : ':' ∉ chars) : read? chars = none := by
  obtain ⟨values, rest, isRead, few, noMore⟩ := groups_of_no_mark noDot noColon
  have notAll : values.length ≠ 8 := by omega
  have noGroups : grouped? chars = none := by
    simp [grouped?, isRead, notAll, expect?_of_not_mem noMore]
  simp [read?, dotted?_of_no_dot noDot, noGroups]

end Address

namespace TimeText

variable {chars rest : Chars}

/-- The strict form has a minus sign behind the year. -/
theorem rfc3339?_of_not_mem (noMinus : '-' ∉ chars.tail) : rfc3339? chars = none := by
  rw [Option.eq_none_iff_forall_ne_some]
  intro instant isRead
  simp only [rfc3339?_eq_some, rfc3339, dateOf, except_bind_eq_ok, except_guard_eq_ok] at isRead
  obtain ⟨-, date, ⟨century, -, year, -, _, isMark, -⟩, -⟩ := isRead
  cases fourth : chars[4]? with
  | none => simp [mark, fourth] at isMark
  | some char =>
      have inTail : char ∈ chars.tail := List.mem_of_getElem? (List.getElem?_tail.trans fourth)
      have other : char ≠ '-' := fun isMinus => noMinus (isMinus ▸ inTail)
      simp [mark, fourth, other] at isMark

theorem areDigits_of_digits? {least most value : Nat} (areDigits : AreDigits chars)
    (isRead : digits? least most chars = some (value, rest)) : AreDigits rest := by
  obtain ⟨digits, rfl, -⟩ := digits?_eq_some isRead
  exact fun char isMember => areDigits char (List.mem_append_right _ isMember)

theorem expect?_of_areDigits {char : Char} (noDigit : char.isDigit = false)
    (areDigits : AreDigits chars) : expect? char chars = none := by
  cases chars with
  | nil => rfl
  | cons first rest => simp [expect?, ne_of_isDigit (areDigits first (by simp)) noDigit]

/-- A year that is all there is has nothing but digits behind it. -/
theorem areDigits_of_year? {number year : Int}
    (isRead : year? (toString number).toList = some (year, rest)) : AreDigits rest := by
  have areDigits := areDigits_toDigits number.natAbs
  have whole : Chars.trimStart (toString number).toList = (toString number).toList :=
    List.dropWhile_eq_self_iff.mpr fun _ =>
      Bool.eq_false_iff.mp (solid_numeral number _ (List.getElem_mem _))
  rw [year?, whole, numeral_toList] at isRead
  by_cases negative : number < 0
  · simp only [if_pos negative, Option.map_eq_some_iff, Prod.exists, Prod.mk.injEq] at isRead
    obtain ⟨value, after, isDigits, -, rfl⟩ := isRead
    exact areDigits_of_digits? areDigits isDigits
  · rw [if_neg negative] at isRead
    split at isRead
    · next after isMinus => exact absurd rfl (ne_of_isDigit (areDigits '-' (by simp [isMinus])) rfl)
    · next after isPlus => exact absurd rfl (ne_of_isDigit (areDigits '+' (by simp [isPlus])) rfl)
    · simp only [Option.map_eq_some_iff, Prod.exists, Prod.mk.injEq] at isRead
      obtain ⟨value, after, isDigits, -, rfl⟩ := isRead
      exact areDigits_of_digits? areDigits isDigits

theorem date?_numeral (number : Int) : date? (toString number).toList = none := by
  rw [Option.eq_none_iff_forall_ne_some]
  intro date isRead
  simp only [date?, Option.bind_eq_bind, Option.bind_eq_some_iff, Prod.exists] at isRead
  obtain ⟨year, rest, isYear, after, isMark, -⟩ := isRead
  rw [expect?_of_areDigits rfl (areDigits_of_year? isYear)] at isMark
  cases isMark

theorem rfc3339?_numeral (number : Int) : rfc3339? (toString number).toList = none := by
  have noMinus (value : Nat) : '-' ∉ Nat.toDigits 10 value := fun isMember =>
    ne_of_isDigit (areDigits_toDigits value '-' isMember) rfl rfl
  apply rfc3339?_of_not_mem
  rw [numeral_toList]
  split
  · exact noMinus _
  · exact fun isMember => noMinus _ (List.mem_of_mem_tail isMember)

end TimeText

namespace Instant

/-- The digits of a number stand for the seconds that the number does. -/
theorem ofValue?_numeral (number : Int) :
    ofValue? (.string (toString number)) = ofValue? (.integer number) := by
  show ofText? (toString number).toList = (Number.int? (.integer number)).bind ofSeconds?
  simp only [ofText?, trim_numeral, TimeText.rfc3339?_numeral, TimeText.date?_numeral, int?_toString,
    Number.int?]

end Instant

/-! ## A number or its digits -/

namespace Coercion

/-- The digits of a number are an integer if the number fits 64 bits. -/
theorem toInteger_numeral (number : Int) :
    toInteger (.string (toString number)) =
      match bounded number with
      | .ok value => .ok (.integer value)
      | .error error => .error s!"'{toString number}': {error.message}" := by
  cases isBounded : bounded number <;> simp only [toInteger, trim_numeral, int_toString, isBounded]

theorem toFloat_numeral {number : Int} (small : number.natAbs < 2 ^ 64) :
    toFloat (.string (toString number)) = toFloat (.integer number) := by
  have read : float? (Chars.trim (toString number).toList) = some (.ofInt number) := by
    rw [trim_numeral, float?_toString small]
  simp only [toFloat, read]
  rfl

theorem toFlag_numeral (number : Int) :
    (toFlag (.string (toString number))).toOption = (toFlag (.integer number)).toOption := by
  have flag : (toFlag (.string (toString number))).toOption =
      (Text.flag? (toString number)).map Value.bool := by
    simp only [toFlag]
    cases Text.flag? (toString number) <;> rfl
  have read : (toFlag (.integer number)).toOption =
      (if number = 1 then some true else if number = 0 then some false else none).map
        Value.bool := by
    have integer : (Number.integer number).int? = if fitsInt number then some number else none := rfl
    simp only [toFlag, Value.integer, integer]
    by_cases one : number = 1
    · rw [one]
      rfl
    · by_cases zero : number = 0
      · rw [zero]
        rfl
      · rw [if_neg one, if_neg zero]
        by_cases fits : fitsInt number = true
        · rw [if_pos fits]
          split
          · next isZero => exact absurd (Option.some.inj isZero) zero
          · next isOne => exact absurd (Option.some.inj isOne) one
          · rfl
        · rw [if_neg fits]
          rfl
  rw [flag, read, flag?_numeral]

theorem toDatetime_numeral (number : Int) :
    (toDatetime (.string (toString number))).toOption = (toDatetime (.integer number)).toOption := by
  simp only [toDatetime, Instant.ofValue?_numeral]
  cases Instant.ofValue? (.integer number) <;> rfl

theorem toAddress_numeral (number : Int) :
    (toAddress (.string (toString number))).toOption = (toAddress (.integer number)).toOption := by
  have noAddress : Address.read? (Chars.trim (toString number).toList) = none := by
    rw [trim_numeral]
    exact Address.read?_of_no_mark (not_mem_numeral rfl (by decide)) (not_mem_numeral rfl (by decide))
  simp only [toAddress, noAddress]
  rfl

end Coercion

namespace ParameterSpec

open Coercion

variable {spec : ParameterSpec} {name : String} {number : Int}

theorem toOption_eq_some {ε α : Type} {result : Except ε α} {value : α} :
    result.toOption = some value ↔ result = .ok value := by
  cases result <;> simp [Except.toOption]

theorem toOption_coerce (value : Value) :
    (spec.coerce name value).toOption = (spec.coerceReason value).toOption := by
  unfold coerce
  cases spec.coerceReason value <;> rfl

theorem toOption_coerce_numeral (small : number.natAbs < 2 ^ 64)
    (fits : spec.kind = .integer → fitsInt number = true) :
    (spec.coerce name (.integer number)).toOption =
      (spec.coerce name (.string (toString number))).toOption := by
  rw [toOption_coerce, toOption_coerce]
  unfold coerceReason
  cases kind : spec.kind with
  | string => rfl
  | integer =>
      rw [toInteger_numeral, bounded_of_fits (fits kind)]
      rfl
  | float => rw [toFloat_numeral small]
  | bool => rw [toFlag_numeral]
  | datetime => rw [toDatetime_numeral]
  | address => rw [toAddress_numeral]

theorem coerce_integer (isInteger : spec.kind = .integer) (name : String) (number : Int) :
    spec.coerce name (.integer number) = .ok (.integer number) := by
  simp only [coerce, coerceReason, isInteger]
  rfl

theorem coerce_numeral_tooLarge (isInteger : spec.kind = .integer) (large : 2 ^ 63 ≤ number)
    (name : String) :
    spec.coerce name (.string (toString number)) =
      .error (.invalidParameter name "integer"
        s!"'{toString number}': {IntError.tooLarge.message}") := by
  have greatest : greatestInt < number := by
    have power : (twoPow 63 : Int) = 2 ^ 63 := rfl
    unfold greatestInt
    omega
  simp only [coerce, coerceReason, isInteger, toInteger_numeral, bounded_of_large greatest]
  rfl

/-- What is accepted as an integer, and which integer it is. -/
inductive Reads : Value → Int → Prop
  | number (number : Int) : Reads (.integer number) number
  | text {text : String} {number : Int} (isRead : Decimal.int? (Chars.trim text.toList) = some number) :
      Reads (.string text) number

theorem reads_of_coerce (isInteger : spec.kind = .integer) {value result : Value}
    (accepted : spec.coerce name value = .ok result) :
    ∃ number, Reads value number ∧ result = .integer number := by
  simp only [coerce_eq_ok, coerceReason, isInteger] at accepted
  unfold toInteger at accepted
  split at accepted
  · exact ⟨_, .number _, (Except.ok.inj accepted).symm⟩
  · split at accepted
    · next number read =>
      have isRead : int? (Chars.trim _) = some number := congrArg Except.toOption read
      exact ⟨number, .text isRead, (Except.ok.inj accepted).symm⟩
    · cases accepted
  · cases accepted

theorem asInt?_integer {κ : Type} {operator : Operator κ} {key : String}
    (stored : operator.parameters.get? (Text.lower key) = some (.integer number)) :
    (operator.get? key).bind Value.asInt? = if fitsInt number then some number else none := by
  simp only [Operator.get?, Specs.valueFor?, stored]
  rfl

/-- A number and its digits come to the same, whatever the type of the parameter; but as an
integer a number is accepted that does not fit 64 bits with a sign, of which neither the digits
are accepted nor the value is ever seen by a step. -/
theorem coerce_numeral (name : String) (bounded : -(2 ^ 63) ≤ number ∧ number < 2 ^ 64) :
    ((spec.coerce name (.integer number)).toOption =
        (spec.coerce name (.string (toString number))).toOption ↔
      (spec.kind = .integer → number < 2 ^ 63)) ∧
    (spec.kind = .integer → 2 ^ 63 ≤ number →
      spec.coerce name (.integer number) = .ok (.integer number) ∧
      spec.coerce name (.string (toString number)) =
        .error (.invalidParameter name "integer"
          s!"'{toString number}': {IntError.tooLarge.message}")) ∧
    (spec.kind = .integer → ∀ value result, spec.coerce name value = .ok result →
      ∃ accepted, Reads value accepted ∧ result = .integer accepted ∧
        ∀ (κ : Type) (operator : Operator κ) (key : String),
          operator.parameters.get? (Text.lower key) = some result →
          (operator.get? key).bind Value.asInt? =
            if -(2 ^ 63) ≤ accepted ∧ accepted < 2 ^ 63 then some accepted else none) := by
  have refused (isInteger : spec.kind = .integer) (large : 2 ^ 63 ≤ number) :=
    And.intro (coerce_integer isInteger name number) (coerce_numeral_tooLarge isInteger large name)
  refine ⟨⟨fun same isInteger => ?_, fun fits => ?_⟩, refused, ?_⟩
  · by_contra large
    rw [(refused isInteger (Int.not_lt.mp large)).1, (refused isInteger (Int.not_lt.mp large)).2]
      at same
    cases same
  · exact toOption_coerce_numeral (by omega) fun isInteger =>
      fitsInt_iff.mpr ⟨bounded.1, fits isInteger⟩
  · intro isInteger value result accepted
    obtain ⟨number, reads, rfl⟩ := reads_of_coerce isInteger accepted
    refine ⟨number, reads, rfl, fun κ operator key stored => ?_⟩
    simp only [asInt?_integer stored, fitsInt_iff]

/-- An operator with one parameter. -/
def holding (number : Int) : Operator Unit :=
  ⟨⟨"run", "sample", .auto, .ofProject "project", [], []⟩, [("count", .integer number)], 0, none⟩

/-- The greatest integer with a sign, and the greatest one without. -/
theorem coerce_numeral_greatest :
    (of .integer "count").coerce "count" (.string "9223372036854775807") =
        .ok (.integer 9223372036854775807) ∧
      ((holding 9223372036854775807).get? "Count").bind Value.asInt? =
        some 9223372036854775807 ∧
      ((of .float "count").coerce "count" (.integer 18446744073709551615)).toOption =
        ((of .float "count").coerce "count" (.string "18446744073709551615")).toOption := by
  have signed : toString (9223372036854775807 : Int) = "9223372036854775807" := by decide
  have unsigned : toString (18446744073709551615 : Int) = "18446744073709551615" := by decide
  have integer := @coerce_numeral (of .integer "count") 9223372036854775807 "count" (by decide)
  have float := @coerce_numeral (of .float "count") 18446744073709551615 "count" (by decide)
  rw [signed] at integer
  rw [unsigned] at float
  have accepted : (of .integer "count").coerce "count" (.string "9223372036854775807") =
      .ok (.integer 9223372036854775807) :=
    toOption_eq_some.mp (integer.1.mpr fun _ => by decide).symm
  obtain ⟨number, -, isSame, reads⟩ := integer.2.2 rfl _ _ accepted
  cases isSame
  exact ⟨accepted, reads Unit (holding 9223372036854775807) "Count" rfl, float.1.mpr nofun⟩

/-- One more than the greatest integer with a sign. -/
theorem coerce_count_tooLarge :
    (of .integer "count").coerce "count" (.integer 9223372036854775808) =
        .ok (.integer 9223372036854775808) ∧
      ((of .integer "count").coerce "count" (.string "9223372036854775808")).toOption = none ∧
      ((holding 9223372036854775808).get? "Count").bind Value.asInt? = none := by
  exact ⟨rfl, rfl, rfl⟩

end ParameterSpec

end Triage
