import Mathlib.Algebra.Group.Nat.Defs
import Mathlib.Data.List.Induction
import Mathlib.Data.List.TakeWhile
import Triage.Address
import Triage.Proofs.Text.Words

namespace Triage

namespace Address

/-! ## Digits -/

section

variable {radix most : Nat} {char : Char} {digits rest chars : Chars}

theorem digitValue?_digitChar {digit : Nat} (radixLe : radix ≤ 16) (small : digit < radix) :
    digitValue? radix digit.digitChar = some digit := by
  have hex : ∀ digit < 16, (digitValue? 16 digit.digitChar) = some digit := by decide
  have found := hex digit (by omega)
  simp only [digitValue?, Option.filter_eq_some_iff] at found ⊢
  exact ⟨found.1, by simpa using small⟩

theorem digitValue?_lt {digit : Nat} (isDigit : digitValue? radix char = some digit) :
    digit < radix := by
  simp only [digitValue?, Option.filter_eq_some_iff] at isDigit
  simpa using isDigit.2

/-- The digits of a number are those of its radix. -/
theorem exists_digit_of_mem (above : 1 < radix) {value : Nat}
    (isMember : char ∈ Nat.toDigits radix value) : ∃ digit < radix, char = digit.digitChar := by
  induction value using Nat.strongRecOn with
  | ind value induction =>
      rw [Nat.toDigits_eq_if above] at isMember
      split at isMember
      · next small => exact ⟨value, small, List.mem_singleton.mp isMember⟩
      · next large =>
        rcases List.mem_append.mp isMember with before | last
        · exact induction _ (Nat.div_lt_self (by omega) above) before
        · exact ⟨value % radix, Nat.mod_lt _ (by omega), List.mem_singleton.mp last⟩

theorem valueOf_append (one other : Chars) :
    valueOf radix (one ++ other) =
      other.foldl (fun value char => value * radix + (digitValue? radix char).getD 0)
        (valueOf radix one) :=
  List.foldl_append

theorem valueOf_toDigits (above : 1 < radix) (radixLe : radix ≤ 16) (value : Nat) :
    valueOf radix (Nat.toDigits radix value) = value := by
  induction value using Nat.strongRecOn with
  | ind value induction =>
      rw [Nat.toDigits_eq_if above]
      split
      · next small => simp [valueOf, digitValue?_digitChar radixLe small]
      · next large =>
        rw [valueOf_append, induction _ (Nat.div_lt_self (by omega) above)]
        simp [digitValue?_digitChar radixLe (Nat.mod_lt value (by omega)),
          Nat.div_add_mod' value radix]

theorem valueOf_lt (positive : 0 < radix) (digits : Chars) :
    valueOf radix digits < radix ^ digits.length := by
  induction digits using List.reverseRecOn with
  | nil => simp [valueOf]
  | append_singleton before last induction =>
      have digitLt : (digitValue? radix last).getD 0 < radix := by
        cases isDigit : digitValue? radix last with
        | none => exact positive
        | some digit => exact digitValue?_lt isDigit
      simp only [valueOf_append, List.foldl_cons, List.foldl_nil, List.length_append,
        List.length_singleton, Nat.pow_succ]
      calc valueOf radix before * radix + (digitValue? radix last).getD 0
          < valueOf radix before * radix + radix := by omega
        _ = (valueOf radix before + 1) * radix := by rw [Nat.add_mul, Nat.one_mul]
        _ ≤ radix ^ before.length * radix := Nat.mul_le_mul_right radix induction

/-- A number is written without a leading zero. -/
theorem length_of_leading_zero (above : 1 < radix) (radixLe : radix ≤ 16) {value : Nat}
    (leading : (Nat.toDigits radix value).head? = some '0') :
    (Nat.toDigits radix value).length ≤ 1 := by
  obtain ⟨others, written⟩ := List.head?_eq_some_iff.mp leading
  cases others with
  | nil => simp [written]
  | cons next others =>
      have isZero : digitValue? radix '0' = some 0 :=
        show digitValue? radix (Nat.digitChar 0) = some 0 from
          digitValue?_digitChar radixLe (by omega)
      have small : value < radix ^ (next :: others).length := by
        calc value = valueOf radix ('0' :: next :: others) := by
              rw [← written, valueOf_toDigits above radixLe]
          _ = valueOf radix (next :: others) := by simp [valueOf, isZero]
          _ < radix ^ (next :: others).length := valueOf_lt (by omega) _
      have short := (Nat.length_toDigits_le_iff above (by simp)).mpr small
      rw [written, List.length_cons] at short
      omega

/-- A number is read to the end of its digits. -/
theorem number?_append (areDigits : ∀ char ∈ digits, (digitValue? radix char).isSome = true)
    (nonempty : digits ≠ []) (short : digits.length ≤ most)
    (ends : ∀ char ∈ rest.head?, digitValue? radix char = none) :
    number? radix most (digits ++ rest) = some (digits, rest) := by
  have stops : rest.takeWhile (fun char => (digitValue? radix char).isSome) = [] := by
    cases rest with
    | nil => rfl
    | cons char others => simp [ends char rfl]
  have stays : rest.dropWhile (fun char => (digitValue? radix char).isSome) = rest := by
    cases rest with
    | nil => rfl
    | cons char others => simp [ends char rfl]
  simp [number?, List.takeWhile_append_of_pos areDigits, List.dropWhile_append_of_pos areDigits,
    stops, stays, nonempty, short]

theorem number?_of_none (noDigit : digitValue? radix char = none) :
    number? radix most (char :: rest) = none := by
  simp only [number?, List.takeWhile_cons, noDigit, Option.isSome_none, Bool.false_eq_true,
    if_false, List.isEmpty_nil, Bool.true_or, if_true]

theorem number?_eq_some (isRead : number? radix most chars = some (digits, rest)) :
    chars = digits ++ rest ∧ digits.length ≤ most ∧
      ∀ char ∈ digits, (digitValue? radix char).isSome = true := by
  simp only [number?, Option.ite_none_left_eq_some, Option.some.injEq, Prod.mk.injEq,
    Bool.or_eq_true, decide_eq_true_eq] at isRead
  obtain ⟨accepted, isDigits, isRest⟩ := isRead
  rw [← isDigits, ← isRest]
  refine ⟨List.takeWhile_append_dropWhile.symm, by omega, fun char isMember => ?_⟩
  exact List.mem_takeWhile_imp (p := fun char => (digitValue? radix char).isSome) isMember

theorem expect?_eq_some {mark : Char} (isRead : expect? mark chars = some rest) :
    chars = mark :: rest := by
  cases chars with
  | nil => cases isRead
  | cons first others =>
      by_cases isFirst : first = mark
      · simp only [expect?, isFirst, beq_self_eq_true, if_true, Option.some.injEq] at isRead
        rw [isFirst, isRead]
      · simp [expect?, isFirst] at isRead

theorem expect?_cons (mark : Char) : expect? mark (mark :: rest) = some rest := by
  simp [expect?]

end

/-! ## Dotted addresses -/

section

variable {value : Nat} {octets : List Nat} {rest chars : Chars} {char : Char}

/-- An octet and the digits it is read from. -/
theorem octet?_eq_some (isRead : octet? chars = some (value, rest)) :
    value < 256 ∧ ∃ digits, chars = digits ++ rest ∧
      ∀ char ∈ digits, (digitValue? 10 char).isSome = true := by
  simp only [octet?, Option.bind_eq_bind, Option.bind_eq_some_iff, Prod.exists] at isRead
  obtain ⟨digits, after, isNumber, isRead⟩ := isRead
  split at isRead
  · cases isRead
  · simp only [Option.ite_none_right_eq_some, Option.some.injEq, Prod.mk.injEq] at isRead
    obtain ⟨fits, rfl, rfl⟩ := isRead
    obtain ⟨isFront, -, areDigits⟩ := number?_eq_some isNumber
    exact ⟨fits, digits, isFront, areDigits⟩

theorem octet?_append (fits : value < 256)
    (ends : ∀ char ∈ rest.head?, digitValue? 10 char = none) :
    octet? (Nat.toDigits 10 value ++ rest) = some (value, rest) := by
  have areDigits : ∀ char ∈ Nat.toDigits 10 value, (digitValue? 10 char).isSome = true := by
    intro char isMember
    rcases exists_digit_of_mem (by omega) isMember with ⟨digit, small, rfl⟩
    rw [digitValue?_digitChar (by omega) small]
    rfl
  have short : (Nat.toDigits 10 value).length ≤ 3 :=
    (Nat.length_toDigits_le_iff (by omega) (by omega)).mpr (by omega)
  have noZero : (Nat.toDigits 10 value).head? = some '0' → (Nat.toDigits 10 value).length ≤ 1 :=
    length_of_leading_zero (by omega) (by omega)
  rw [octet?, number?_append areDigits Nat.toDigits_ne_nil short ends]
  simpa [valueOf_toDigits, fits] using noZero

/-- What a dotted address takes off the front: four octets, with no colon. -/
theorem dotted?_eq_some (isRead : dotted? chars = some (octets, rest)) :
    (∃ a b c d, octets = [a, b, c, d]) ∧ (∀ octet ∈ octets, octet < 256) ∧
      ∃ front, chars = front ++ rest ∧ '.' ∈ front ∧ ':' ∉ front := by
  have noColon {digits : Chars}
      (areDigits : ∀ char ∈ digits, (digitValue? 10 char).isSome = true) : ':' ∉ digits :=
    fun isMember => absurd (areDigits ':' isMember) (by decide)
  simp only [dotted?, Option.bind_eq_bind, Option.bind_eq_some_iff, Prod.exists, pure,
    Option.some.injEq, Prod.mk.injEq] at isRead
  obtain ⟨a, _, isA, _, afterA, b, _, isB, _, afterB, c, _, isC, _, afterC, d, _, isD, rfl, rfl⟩ :=
    isRead
  obtain ⟨smallA, digitsA, rfl, areA⟩ := octet?_eq_some isA
  obtain ⟨smallB, digitsB, rfl, areB⟩ := octet?_eq_some isB
  obtain ⟨smallC, digitsC, rfl, areC⟩ := octet?_eq_some isC
  obtain ⟨smallD, digitsD, rfl, areD⟩ := octet?_eq_some isD
  rw [expect?_eq_some afterA, expect?_eq_some afterB, expect?_eq_some afterC]
  refine ⟨⟨a, b, c, d, rfl⟩, by simp [smallA, smallB, smallC, smallD],
    digitsA ++ '.' :: (digitsB ++ '.' :: (digitsC ++ '.' :: digitsD)), by simp, by simp, ?_⟩
  simp [noColon areA, noColon areB, noColon areC, noColon areD]

theorem dotted?_append {a b c d : Nat} (rest : Chars) (small : ∀ octet ∈ [a, b, c, d], octet < 256)
    (ends : ∀ char ∈ rest.head?, digitValue? 10 char = none) :
    dotted? (dottedText [a, b, c, d] ++ rest) = some ([a, b, c, d], rest) := by
  have dot (others : Chars) : ∀ char ∈ ('.' :: others).head?, digitValue? 10 char = none := by
    simp
    decide
  simp only [List.forall_mem_cons] at small
  obtain ⟨smallA, smallB, smallC, smallD, -⟩ := small
  simp only [dottedText, Chars.join, List.map, Nat.toString_eq_ofList_toDigits, String.toList_ofList,
    List.append_assoc, List.cons_append, List.nil_append, dotted?, octet?_append smallA (dot _),
    octet?_append smallB (dot _), octet?_append smallC (dot _), octet?_append smallD ends,
    expect?_cons, Option.bind_eq_bind, Option.bind_some, pure]

end

/-! ## Groups -/

section

variable {value limit : Nat} {first dotted : Bool} {values : List Nat} {rest chars : Chars}

theorem group?_lt (isRead : group? chars = some (value, rest)) : value < 65536 := by
  simp only [group?, Option.map_eq_some_iff, Prod.exists, Prod.mk.injEq] at isRead
  obtain ⟨digits, after, isNumber, rfl, rfl⟩ := isRead
  obtain ⟨-, short, -⟩ := number?_eq_some isNumber
  calc valueOf 16 digits < 16 ^ digits.length := valueOf_lt (by omega) digits
    _ ≤ 16 ^ 4 := Nat.pow_le_pow_right (by omega) short

theorem groups_of_dotted {a b c d : Nat} (several : limit ≠ 0)
    (isDotted : (separated? first chars).bind dotted? = some ([a, b, c, d], rest)) :
    groups first (limit + 1) chars = ([a * 256 + b, c * 256 + d], true, rest) := by
  simp [groups, several, isDotted]

theorem groups_of_group (noDotted : limit = 0 ∨ (separated? first chars).bind dotted? = none)
    (isGroup : (separated? first chars).bind group? = some (value, rest)) :
    groups first (limit + 1) chars =
      (value :: (groups false limit rest).1, (groups false limit rest).2) := by
  rcases noDotted with last | noDotted
  · simp [groups, last, isGroup]
  · simp [groups, noDotted, isGroup]

theorem groups_of_none (noDotted : limit = 0 ∨ (separated? first chars).bind dotted? = none)
    (noGroup : (separated? first chars).bind group? = none) :
    groups first (limit + 1) chars = ([], false, chars) := by
  rcases noDotted with last | noDotted
  · simp [groups, last, noGroup]
  · simp [groups, noDotted, noGroup]

/-- Groups are of sixteen bits, and no more of them are read than asked for. -/
theorem groups_fit (first : Bool) (limit : Nat) (chars : Chars) :
    (groups first limit chars).1.length ≤ limit ∧
      ∀ group ∈ (groups first limit chars).1, group < 65536 := by
  induction limit generalizing first chars with
  | zero => simp [groups]
  | succ limit induction =>
      by_cases noDotted : limit = 0 ∨ (separated? first chars).bind dotted? = none
      · cases isGroup : (separated? first chars).bind group? with
        | none => simp [groups_of_none noDotted isGroup]
        | some found =>
            obtain ⟨after, -, isRead⟩ := Option.bind_eq_some_iff.mp isGroup
            have others := induction false found.2
            rw [groups_of_group noDotted isGroup]
            simp only [List.length_cons, List.forall_mem_cons]
            exact ⟨by omega, group?_lt isRead, others.2⟩
      · obtain ⟨several, isSome⟩ := not_or.mp noDotted
        obtain ⟨⟨octets, rest⟩, isDotted⟩ := Option.ne_none_iff_exists'.mp isSome
        obtain ⟨after, -, isRead⟩ := Option.bind_eq_some_iff.mp isDotted
        obtain ⟨⟨a, b, c, d, rfl⟩, small, -⟩ := dotted?_eq_some isRead
        simp only [List.forall_mem_cons] at small
        rw [groups_of_dotted several isDotted]
        simp only [List.length_cons, List.length_nil, List.forall_mem_cons]
        refine ⟨by omega, by omega, by omega, by simp⟩

theorem grouped?_fit (isRead : grouped? chars = some (values, rest)) :
    values.length = 8 ∧ ∀ group ∈ values, group < 65536 := by
  have head := groups_fit true 8 chars
  simp only [grouped?] at isRead
  split at isRead
  · next full =>
    simp only [pure, Option.some.injEq, Prod.mk.injEq] at isRead
    exact isRead.1 ▸ ⟨full, head.2⟩
  · next notFull =>
    simp only [Option.bind_eq_bind] at isRead
    split at isRead
    · cases isRead
    simp only [Option.bind_eq_some_iff, pure, Option.some.injEq, Prod.mk.injEq] at isRead
    obtain ⟨_, -, after, -, isValues, -⟩ := isRead
    have tail := groups_fit true (7 - (groups true 8 chars).1.length) after
    rw [← isValues]
    simp only [List.length_append, List.length_replicate, List.mem_append, List.mem_replicate]
    refine ⟨by omega, ?_⟩
    intro group isMember
    rcases isMember with (inHead | isZero) | inTail
    · exact head.2 group inHead
    · omega
    · exact tail.2 group inTail

end

/-! ## Addresses that are read -/

/-- Four octets, or eight groups of sixteen bits. -/
def WellFormed : Address → Prop
  | .v4 octets => octets.length = 4 ∧ ∀ octet ∈ octets, octet < 256
  | .v6 groups => groups.length = 8 ∧ ∀ group ∈ groups, group < 65536

theorem wellFormed_of_read? {chars : Chars} {address : Address}
    (isRead : read? chars = some address) : address.WellFormed := by
  unfold read? at isRead
  split at isRead
  · next octets isDotted =>
    rw [← Option.some.inj isRead]
    obtain ⟨⟨a, b, c, d, rfl⟩, small, -⟩ := dotted?_eq_some isDotted
    exact ⟨rfl, small⟩
  · split at isRead
    · next groups isGrouped =>
      rw [← Option.some.inj isRead]
      exact grouped?_fit isGrouped
    · cases isRead

/-! ## Written groups -/

section

variable {value limit : Nat} {values : List Nat} {rest chars : Chars} {char : Char}

theorem dotted?_of_no_dot (noDot : '.' ∉ chars) : dotted? chars = none := by
  rw [Option.eq_none_iff_forall_ne_some]
  rintro ⟨octets, rest⟩ isRead
  obtain ⟨-, -, front, rfl, isMember, -⟩ := dotted?_eq_some isRead
  exact noDot (List.mem_append_left rest isMember)

theorem dotted?_of_none (noDigit : digitValue? 10 char = none) : dotted? (char :: rest) = none := by
  rw [dotted?, octet?, number?_of_none noDigit]
  rfl

theorem dotted?_colon : dotted? (':' :: rest) = none :=
  dotted?_of_none (by decide)

theorem group?_colon : group? (':' :: rest) = none := by
  rw [group?, number?_of_none (by decide)]
  rfl

theorem isSome_of_mem_hexText (isMember : char ∈ hexText value) :
    (digitValue? 16 char).isSome = true := by
  rcases exists_digit_of_mem (by omega) isMember with ⟨digit, small, rfl⟩
  rw [digitValue?_digitChar (by omega) small]
  rfl

theorem group?_append (rest : Chars) (fits : value < 65536)
    (ends : ∀ char ∈ rest.head?, digitValue? 16 char = none) :
    group? (hexText value ++ rest) = some (value, rest) := by
  have short : (hexText value).length ≤ 4 :=
    (Nat.length_toDigits_le_iff (by omega) (by omega)).mpr fits
  have isNumber := number?_append (fun char => isSome_of_mem_hexText) Nat.toDigits_ne_nil short ends
  have isValue : valueOf 16 (hexText value) = value := valueOf_toDigits (by omega) (by omega) value
  simp [group?, isNumber, isValue]

/-- Groups that come after others, each behind a colon. -/
def trailing (values : List Nat) : Chars :=
  values.flatMap fun value => ':' :: hexText value

theorem joined_cons (value : Nat) (values : List Nat) :
    joined (value :: values) = hexText value ++ trailing values := by
  induction values generalizing value with
  | nil => simp [joined, Chars.join, trailing]
  | cons next others induction =>
      have front : joined (value :: next :: others) =
          hexText value ++ [':'] ++ joined (next :: others) := rfl
      rw [front, induction]
      simp [trailing]

theorem no_dot_trailing (values : List Nat) : '.' ∉ trailing values := by
  intro isMember
  simp only [trailing, List.mem_flatMap, List.mem_cons] at isMember
  obtain ⟨value, -, isColon | isDigit⟩ := isMember
  · exact absurd isColon (by decide)
  · exact absurd (isSome_of_mem_hexText isDigit) (by decide)

theorem no_dot_joined (values : List Nat) : '.' ∉ joined values := by
  cases values with
  | nil => exact List.not_mem_nil
  | cons value others =>
      rw [joined_cons, List.mem_append, not_or]
      exact ⟨fun isDigit => absurd (isSome_of_mem_hexText isDigit) (by decide),
        no_dot_trailing others⟩

/-- No further group follows. -/
def Stops (rest : Chars) : Prop :=
  rest = [] ∨ ∃ after, rest = ':' :: ':' :: after

theorem ends_of_stops (stops : Stops rest) :
    ∀ char ∈ (trailing values ++ rest).head?, digitValue? 16 char = none := by
  have colon : digitValue? 16 ':' = none := by decide
  cases values with
  | nil =>
      rcases stops with rfl | ⟨after, rfl⟩
      · simp [trailing]
      · simp [trailing, colon]
  | cons value others => simp [trailing, colon]

theorem groups_trailing (small : ∀ value ∈ values, value < 65536) (room : values.length ≤ limit)
    (stops : Stops rest) (noDot : '.' ∉ rest) :
    groups false limit (trailing values ++ rest) = (values, false, rest) := by
  induction values generalizing limit with
  | nil =>
      cases limit with
      | zero => rfl
      | succ limit =>
          have noDotted : (separated? false rest).bind dotted? = none := by
            rcases stops with rfl | ⟨after, rfl⟩
            · rfl
            · exact dotted?_colon
          have noGroup : (separated? false rest).bind group? = none := by
            rcases stops with rfl | ⟨after, rfl⟩
            · rfl
            · exact group?_colon
          exact groups_of_none (.inr noDotted) noGroup
  | cons value others induction =>
      obtain ⟨before, rfl⟩ := Nat.exists_eq_succ_of_ne_zero (Nat.ne_zero_of_lt room)
      have front : separated? false (trailing (value :: others) ++ rest) =
          some (hexText value ++ (trailing others ++ rest)) := by
        simp [trailing, separated?, expect?]
      have noDotted : dotted? (hexText value ++ (trailing others ++ rest)) = none := by
        apply dotted?_of_no_dot
        have noDot := no_dot_joined (value :: others)
        rw [joined_cons] at noDot
        simp_all
      have isGroup := group?_append (trailing others ++ rest) (small value List.mem_cons_self)
        (ends_of_stops stops)
      rw [groups_of_group (.inr (by rw [front]; exact noDotted)) (by rw [front]; exact isGroup),
        induction (fun other isMember => small other (List.mem_cons_of_mem _ isMember))
          (Nat.le_of_succ_le_succ room)]

theorem groups_joined (values : List Nat) (limit : Nat) (rest : Chars)
    (small : ∀ value ∈ values, value < 65536) (room : values.length ≤ limit)
    (stops : Stops rest) (noDot : '.' ∉ rest) :
    groups true limit (joined values ++ rest) = (values, false, rest) := by
  cases limit with
  | zero =>
      rw [List.eq_nil_of_length_eq_zero (Nat.le_zero.mp room)]
      rfl
  | succ limit =>
      have noDotted : (separated? true (joined values ++ rest)).bind dotted? = none := by
        apply dotted?_of_no_dot
        have noDot' := no_dot_joined values
        simp_all
      cases values with
      | nil =>
          have noGroup : (separated? true rest).bind group? = none := by
            rcases stops with rfl | ⟨after, rfl⟩
            · rfl
            · exact group?_colon
          exact groups_of_none (.inr noDotted) noGroup
      | cons value others =>
          have isGroup := group?_append (trailing others ++ rest)
            (small value List.mem_cons_self) (ends_of_stops stops)
          rw [joined_cons, List.append_assoc] at noDotted ⊢
          rw [groups_of_group (.inr noDotted) isGroup,
            groups_trailing (fun other isMember => small other (List.mem_cons_of_mem _ isMember))
              (Nat.le_of_succ_le_succ room) stops noDot]

end

/-! ## The longest run of zeros -/

theorem exists_zeroRun (values : List Nat) :
    ∃ after, values = List.replicate (zeroRun values) 0 ++ after := by
  induction values with
  | nil => exact ⟨[], rfl⟩
  | cons value others induction =>
      cases value with
      | zero =>
          obtain ⟨after, isSplit⟩ := induction
          exact ⟨after, by simp [zeroRun, List.replicate_succ, ← isSplit]⟩
      | succ value => exact ⟨_, rfl⟩

theorem exists_longestRun (index : Nat) (values : List Nat) :
    ∃ before after, values = before ++ List.replicate (longestRun index values).2 0 ++ after ∧
      (longestRun index values).1 = index + before.length := by
  induction values generalizing index with
  | nil => exact ⟨[], [], rfl, rfl⟩
  | cons value others induction =>
      unfold longestRun
      dsimp only
      split
      · obtain ⟨after, isSplit⟩ := exists_zeroRun (value :: others)
        exact ⟨[], after, isSplit, rfl⟩
      · obtain ⟨before, after, isSplit, isStart⟩ := induction (index + 1)
        refine ⟨value :: before, after, ?_, ?_⟩
        · simpa using isSplit
        · rw [isStart, List.length_cons]
          omega

/-! ## Reading what was written -/

section

variable {values : List Nat}

theorem read?_v6 {chars : Chars} (noDotted : dotted? chars = none)
    (isGrouped : grouped? chars = some (values, [])) : read? chars = some (.v6 values) := by
  rw [read?, noDotted]
  simp [isGrouped]

theorem grouped?_joined (eight : values.length = 8) (small : ∀ value ∈ values, value < 65536) :
    grouped? (joined values) = some (values, []) := by
  have read := groups_joined values 8 [] small (Nat.le_of_eq eight) (.inl rfl) List.not_mem_nil
  rw [List.append_nil] at read
  simp [grouped?, read, eight]

theorem grouped?_shortened {before after : List Nat} {zeros : Nat} (several : 1 < zeros)
    (eight : (before ++ List.replicate zeros 0 ++ after).length = 8)
    (small : ∀ value ∈ before ++ List.replicate zeros 0 ++ after, value < 65536) :
    grouped? (joined before ++ "::".toList ++ joined after) =
      some (before ++ List.replicate zeros 0 ++ after, []) := by
  simp only [List.length_append, List.length_replicate] at eight
  simp only [List.mem_append, List.mem_replicate] at small
  have head := groups_joined before 8 (':' :: ':' :: joined after)
    (fun value isMember => small value (.inl (.inl isMember))) (by omega) (.inr ⟨_, rfl⟩)
    (by simpa using no_dot_joined after)
  have tail := groups_joined after (7 - before.length) []
    (fun value isMember => small value (.inr isMember)) (by omega) (.inl rfl) List.not_mem_nil
  have notFull : before.length ≠ 8 := by omega
  have left : 8 - before.length - after.length = zeros := by omega
  rw [List.append_nil] at tail
  simp [grouped?, head, tail, notFull, left, expect?_cons]

/-- An address of the older kind, mapped into the newer one. -/
theorem grouped?_mapped {high low : Nat} (highSmall : high < 65536) (lowSmall : low < 65536) :
    grouped? ("::ffff:".toList ++ dottedText [high / 256, high % 256, low / 256, low % 256]) =
      some ([0, 0, 0, 0, 0, 0xFFFF, high, low], []) := by
  obtain ⟨text, isText⟩ : ∃ text, text = dottedText [high / 256, high % 256, low / 256, low % 256] :=
    ⟨_, rfl⟩
  have small : ∀ octet ∈ [high / 256, high % 256, low / 256, low % 256], octet < 256 := by
    simp only [List.forall_mem_cons]
    refine ⟨by omega, by omega, by omega, by omega, by simp⟩
  have isDotted := dotted?_append [] small (by simp)
  rw [List.append_nil, ← isText] at isDotted
  have chars : "::ffff:".toList ++ text = ':' :: ':' :: (hexText 0xFFFF ++ ':' :: text) := by
    have digits : hexText 0xFFFF = ['f', 'f', 'f', 'f'] := by decide
    rw [digits]
    rfl
  have noHead : groups true 8 (':' :: ':' :: (hexText 0xFFFF ++ ':' :: text)) =
      ([], false, ':' :: ':' :: (hexText 0xFFFF ++ ':' :: text)) :=
    groups_of_none (.inr dotted?_colon) group?_colon
  have isGroup := group?_append (':' :: text) (by omega : 0xFFFF < 65536)
    (by simp; decide)
  have noDotted : (separated? true (hexText 0xFFFF ++ ':' :: text)).bind dotted? = none := by
    have digits : hexText 0xFFFF = ['f', 'f', 'f', 'f'] := by decide
    rw [digits]
    exact dotted?_of_none (by decide)
  have last : groups false 6 (':' :: text) = ([high, low], true, []) := by
    have afterColon : (separated? false (':' :: text)).bind dotted? =
        some ([high / 256, high % 256, low / 256, low % 256], []) := isDotted
    rw [groups_of_dotted (by omega) afterColon, Nat.div_add_mod', Nat.div_add_mod']
  have tail : groups true 7 (hexText 0xFFFF ++ ':' :: text) = ([0xFFFF, high, low], true, []) := by
    rw [groups_of_group (.inr noDotted) isGroup, last]
  rw [← isText, chars]
  simp [grouped?, noHead, expect?_cons, tail]

theorem read?_groupText (eight : values.length = 8) (small : ∀ value ∈ values, value < 65536) :
    read? (groupText values) = some (.v6 values) := by
  unfold groupText
  split
  · next high low =>
    simp only [List.forall_mem_cons] at small
    exact read?_v6 dotted?_colon (grouped?_mapped small.2.2.2.2.2.2.1 small.2.2.2.2.2.2.2.1)
  · dsimp only
    obtain ⟨before, after, isSplit, isStart⟩ := exists_longestRun 0 values
    rcases isRun : longestRun 0 values with ⟨start, zeros⟩
    simp only [isRun, Nat.zero_add] at isSplit isStart
    split
    · next several =>
      have head : values.take start = before := by
        rw [isSplit, isStart, List.append_assoc, List.take_left]
      have tail : values.drop (start + zeros) = after := by
        rw [isSplit, List.drop_left' (by simp [isStart])]
      have noDotted : '.' ∉ joined before ++ "::".toList ++ joined after := by
        simp [no_dot_joined]
      rw [head, tail]
      exact read?_v6 (dotted?_of_no_dot noDotted)
        (isSplit ▸ grouped?_shortened several (isSplit ▸ eight) (isSplit ▸ small))
    · exact read?_v6 (dotted?_of_no_dot (no_dot_joined values)) (grouped?_joined eight small)

end

/-- An address is read back from its text. -/
theorem read?_text {address : Address} (wellFormed : address.WellFormed) :
    read? address.text.toList = some address := by
  cases address with
  | v4 octets =>
      obtain ⟨four, small⟩ := wellFormed
      match octets, four with
      | [a, b, c, d], _ =>
          have isDotted := dotted?_append [] small (by simp)
          rw [List.append_nil] at isDotted
          simp [text, read?, isDotted]
  | v6 groups =>
      rw [text, String.toList_ofList]
      exact read?_groupText wellFormed.1 wellFormed.2

/-! ## White space -/

theorem solid_join_digits {radix : Nat} {mark : Char} (above : 1 < radix) (radixLe : radix ≤ 16)
    (solidMark : Text.isBlank mark = false) (values : List Nat) :
    ∀ char ∈ Chars.join [mark] (values.map (Nat.toDigits radix)), Text.isBlank char = false := by
  have hex : ∀ digit < 16, Text.isBlank digit.digitChar = false := by decide
  intro char isMember
  rcases Chars.mem_join isMember with isMark | ⟨piece, isPiece, inPiece⟩
  · rwa [List.mem_singleton.mp isMark]
  · obtain ⟨value, -, rfl⟩ := List.mem_map.mp isPiece
    rcases exists_digit_of_mem above inPiece with ⟨digit, small, rfl⟩
    exact hex digit (by omega)

theorem solid_joined (groups : List Nat) : ∀ char ∈ joined groups, Text.isBlank char = false :=
  solid_join_digits (by omega) (by omega) (by decide) groups

theorem solid_dottedText (octets : List Nat) :
    ∀ char ∈ dottedText octets, Text.isBlank char = false := by
  have digits : dottedText octets = Chars.join ['.'] (octets.map (Nat.toDigits 10)) := by
    simp [dottedText]
  rw [digits]
  exact solid_join_digits (by omega) (by omega) (by decide) octets

/-- Digits, points and colons, and nothing else. -/
theorem solid_text (address : Address) :
    ∀ char ∈ address.text.toList, Text.isBlank char = false := by
  have colon : Text.isBlank ':' = false := by decide
  have digit : Text.isBlank 'f' = false := by decide
  have colons : ∀ char ∈ "::".toList, Text.isBlank char = false := by simp [colon]
  have mapped : ∀ char ∈ "::ffff:".toList, Text.isBlank char = false := by simp [colon, digit]
  cases address with
  | v4 octets =>
      rw [text, String.toList_ofList]
      exact solid_dottedText octets
  | v6 groups =>
      rw [text, String.toList_ofList]
      unfold groupText
      split
      · next high low =>
        exact List.forall_mem_append.mpr ⟨mapped, solid_dottedText _⟩
      · dsimp only
        split
        · exact List.forall_mem_append.mpr
            ⟨List.forall_mem_append.mpr ⟨solid_joined _, colons⟩, solid_joined _⟩
        · exact solid_joined groups

end Address

end Triage
