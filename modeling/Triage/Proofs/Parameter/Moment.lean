import Triage.Proofs.Parameter.Numeral
import Triage.Proofs.Text.Words
import Triage.Proofs.Time.Stamp

namespace Triage

namespace Date

variable {date : Date}

/-- A year of four digits begins less than ten thousand years from 1970. -/
theorem natAbs_toDays (valid : date.isValid = true) (plain : 0 ≤ date.year ∧ date.year ≤ 9999) :
    date.toDays.natAbs < 4000000 := by
  have month := month_le valid
  have day := day_le valid
  simp only [toDays, daysBeforeMonth, daysPerEra]
  split <;> split <;> omega

end Date

namespace TimeText

/-- A date alone. -/
def dayText (year month day : Nat) : String :=
  s!"{padded 4 year}-{padded 2 month}-{padded 2 day}"

variable {year month day : Nat}

theorem date?_dayText (years : year ≤ 9999) (valid : Date.isValid ⟨year, month, day⟩ = true) :
    date? (dayText year month day).toList = some ⟨year, month, day⟩ := by
  have monthLe : month ≤ 12 := Date.month_le valid
  have dayLe : day ≤ 31 := Date.day_le valid
  have inRange : Date.inRange ⟨year, month, day⟩ = true := by
    simp [Date.inRange, Date.leastYear, Date.greatestYear]
    omega
  have isMonth := number?_padded (by omega : month < 100) ('-' :: (padded 2 day).toList)
  have isDay := number?_padded (by omega : day < 100) []
  rw [List.append_nil] at isDay
  have isText : (dayText year month day).toList =
      (padded 4 year).toList ++ '-' :: ((padded 2 month).toList ++ '-' :: (padded 2 day).toList) := by
    simp only [dayText, Instant.toString_string, String.toList_append]
    simp
  rw [date?, isText, year?_padded years]
  simp [expect?, isMonth, isDay, valid, inRange]

/-- The strict form goes on behind the date. -/
theorem rfc3339?_of_short {chars : Chars} (short : chars.length ≤ 10) : rfc3339? chars = none := by
  rw [Option.eq_none_iff_forall_ne_some]
  intro instant isRead
  simp only [rfc3339?_eq_some, rfc3339, clockOf, except_bind_eq_ok, except_guard_eq_ok] at isRead
  obtain ⟨-, date, -, clock, ⟨_, isMark, -⟩, -⟩ := isRead
  simp [mark, List.getElem?_eq_none short] at isMark

theorem length_dayText (years : year ≤ 9999) (valid : Date.isValid ⟨year, month, day⟩ = true) :
    (dayText year month day).toList.length = 10 := by
  have monthLe : month ≤ 12 := Date.month_le valid
  have dayLe : day ≤ 31 := Date.day_le valid
  simp only [dayText, Instant.toString_string, String.toList_append, List.length_append]
  rw [length_padded (show year < 10 ^ 4 by omega) (by omega),
    length_padded (show month < 10 ^ 2 by omega) (by omega),
    length_padded (show day < 10 ^ 2 by omega) (by omega)]
  rfl

theorem trim_dayText :
    Chars.trim (dayText year month day).toList = (dayText year month day).toList := by
  have minus : ∀ char ∈ "-".toList, Text.isBlank char = false := by simp; decide
  apply Chars.trim_of_no_blank
  simp only [dayText, Instant.toString_string, String.toList_append, List.forall_mem_append]
  exact ⟨⟨⟨⟨Instant.solid_padded 4 _, minus⟩, Instant.solid_padded 2 _⟩, minus⟩,
    Instant.solid_padded 2 _⟩

theorem Zone.solid_text {zone : Zone} (wellFormed : zone.WellFormed) :
    ∀ char ∈ zone.text.toList, Text.isBlank char = false := by
  cases zone with
  | utc letter =>
      simp only [WellFormed, List.mem_cons, List.not_mem_nil, or_false] at wellFormed
      have single : (Zone.utc letter).text.toList = [letter] := by simp [text]
      rw [single]
      refine List.forall_mem_singleton.mpr ?_
      rcases wellFormed with rfl | rfl <;> rfl
  | distance behind hours minutes =>
      have digits : ∀ digit < 10, Text.isBlank digit.digitChar = false := by decide
      have colon : Text.isBlank ':' = false := by decide
      have sign : Text.isBlank (if behind then '-' else '+') = false := by cases behind <;> decide
      obtain ⟨hoursLe, minutesLe⟩ := wellFormed
      rw [text_distance behind hoursLe minutesLe]
      simp only [List.forall_mem_cons, sign, colon, digits (hours / 10) (by omega),
        digits (hours % 10) (by omega), digits (minutes / 10) (by omega),
        digits (minutes % 10) (by omega), true_and]
      exact fun char isMember => absurd isMember List.not_mem_nil

namespace Stamp

variable {stamp : Stamp}

theorem trim_text (wellFormed : stamp.WellFormed) :
    Chars.trim stamp.text.toList = stamp.text.toList := by
  have digits : ∀ digit < 10, Text.isBlank digit.digitChar = false := by decide
  obtain ⟨first, isFirst, -⟩ := Zone.head?_text wellFormed.zone
  have someZone : stamp.zone.text.toList ≠ [] := by
    intro empty
    rw [empty] at isFirst
    cases isFirst
  rw [text_toList wellFormed]
  apply Chars.trim_of_ends
  · intro char isFirst
    cases isFirst
    have years := wellFormed.years
    exact digits _ (by omega)
  · intro char isLast
    rw [← List.append_assoc, List.getLast?_append_of_ne_nil _ someZone] at isLast
    exact Zone.solid_text wellFormed.zone char (List.mem_of_getLast? isLast)

end Stamp

end TimeText

namespace Instant

variable {number : Int} {nanos : Nat}

theorem natAbs_of_plain (plain : InPlainYear ⟨number, 0⟩) :
    number.natAbs < 400000000000 := by
  have small := Date.natAbs_toDays (Date.isValid_ofDays (number / secondsPerDay)) plain
  rw [Date.toDays_ofDays] at small
  unfold secondsPerDay at small
  omega

theorem ofSeconds?_of_plain (plain : InPlainYear ⟨number, 0⟩) :
    ofSeconds? number = some ⟨number, 0⟩ := by
  exact if_pos (inRange_of_plain plain)

theorem ofValue?_integer (plain : InPlainYear ⟨number, 0⟩) :
    ofValue? (.integer number) = some ⟨number, 0⟩ := by
  have small := natAbs_of_plain plain
  have fits : Decimal.fitsInt number = true := Decimal.fitsInt_iff.mpr (by omega)
  have isInt : (Number.integer number).int? = some number := if_pos fits
  show (Number.integer number).int?.bind ofSeconds? = _
  rw [isInt, Option.bind_some, ofSeconds?_of_plain plain]

theorem toSecondsText_nanos (few : nanos < 1000000000) :
    toSecondsText ⟨number, nanos⟩ = toSecondsText ⟨number, 0⟩ := by
  have noMore : second ⟨number, nanos⟩ = second ⟨number, 0⟩ := by
    simp only [second, secondOfDay, Nat.div_eq_of_lt few, Nat.zero_div]
  exact toSecondsText_congr rfl rfl rfl noMore

theorem ofText?_toSecondsText (plain : InPlainYear ⟨number, 0⟩) :
    ofText? (toSecondsText ⟨number, 0⟩).toList = some ⟨number, 0⟩ := by
  obtain ⟨instant, isInstant⟩ : ∃ instant : Instant, instant = ⟨number, 0⟩ := ⟨_, rfl⟩
  have whole : instant.nanos = 0 := by rw [isInstant]
  rw [← isInstant] at plain ⊢
  have isDate : Date.ofDays (instant.seconds / secondsPerDay) =
      ⟨instant.date.year.toNat, instant.date.month, instant.date.day⟩ := by
    rw [Int.toNat_of_nonneg plain.1]
    rfl
  have noLeap : instant.second = instant.secondOfDay % 60 := by
    rw [second, whole, Nat.zero_div, Nat.add_zero]
  have seconds : instant.second ≤ 59 := by omega
  have isRead := TimeText.rfc3339_written_utc isDate (by have := plain.2; omega) instant.hour_le
    instant.minute_le (Nat.le_succ_of_le seconds)
  rw [← toSecondsText_toList (by omega) plain, Nat.min_eq_left seconds, if_neg (by omega), noLeap,
    ← whole, ofClock_self] at isRead
  simp only [ofText?, trim_toSecondsText, TimeText.rfc3339?_eq_some.mpr isRead]

end Instant

/-! ## The spellings of a moment -/

/-- What a value says if it is read as a moment: the second since 1970 that it falls into. -/
inductive Spells : Value → Int → Prop
  | seconds (number : Int) : Spells (.integer number) number
  | digits (number : Int) : Spells (.string (toString number)) number
  | stamp {stamp : TimeText.Stamp} (wellFormed : stamp.WellFormed) :
      Spells (.string stamp.text) stamp.seconds
  | day {year month day : Nat} (years : year ≤ 9999)
      (valid : Date.isValid ⟨year, month, day⟩ = true) :
      Spells (.string (TimeText.dayText year month day))
        (Date.toDays ⟨year, month, day⟩ * secondsPerDay)

namespace Spells

variable {value : Value} {number : Int}

theorem ofValue?_eq_some (spells : Spells value number) (plain : Instant.InPlainYear ⟨number, 0⟩) :
    ∃ nanos < 1000000000, Instant.ofValue? value = some ⟨number, nanos⟩ := by
  cases spells with
  | seconds => exact ⟨0, by decide, Instant.ofValue?_integer plain⟩
  | digits =>
      refine ⟨0, by decide, ?_⟩
      rw [Instant.ofValue?_numeral, Instant.ofValue?_integer plain]
  | @stamp stamp wellFormed =>
      obtain ⟨nanos, few, isRead⟩ :=
        stamp.rfc3339_text wellFormed (@Instant.inRange_of_plain ⟨stamp.seconds, 0⟩ plain)
      refine ⟨nanos, few, ?_⟩
      rw [Instant.ofValue?_string]
      simp only [Instant.ofText?, stamp.trim_text wellFormed, TimeText.rfc3339?_eq_some.mpr isRead]
  | @day year month day years valid =>
      refine ⟨0, by decide, ?_⟩
      rw [Instant.ofValue?_string]
      simp only [Instant.ofText?, TimeText.trim_dayText, TimeText.date?_dayText years valid,
        TimeText.rfc3339?_of_short (TimeText.length_dayText years valid).le]

/-- The date of a midnight spells it. -/
theorem dateText (plain : Instant.InPlainYear ⟨number, 0⟩) (midnight : number % secondsPerDay = 0) :
    Spells (.string (Instant.dateText ⟨number, 0⟩)) number := by
  obtain ⟨instant, isInstant⟩ : ∃ instant : Instant, instant = ⟨number, 0⟩ := ⟨_, rfl⟩
  rw [← isInstant] at plain ⊢
  have isYear : (instant.date.year.toNat : Int) = instant.date.year := Int.toNat_of_nonneg plain.1
  have isDate : (⟨instant.date.year.toNat, instant.date.month, instant.date.day⟩ : Date) =
      Date.ofDays (number / secondsPerDay) := by
    rw [isYear, isInstant]
    rfl
  have years : instant.date.year.toNat ≤ 9999 := Int.toNat_le.mpr plain.2
  have spelled := day years (isDate ▸ Date.isValid_ofDays _)
  rw [isDate, Date.toDays_ofDays, Int.ediv_mul_cancel (Int.dvd_of_emod_eq_zero midnight)] at spelled
  have isText : TimeText.dayText instant.date.year.toNat instant.date.month instant.date.day =
      instant.dateText := by
    have inPlainYear : 0 ≤ instant.date.year ∧ instant.date.year ≤ 9999 := plain
    rw [TimeText.dayText, Instant.dateText, yearText, if_pos inPlainYear]
  rwa [isText] at spelled

end Spells

namespace ParameterSpec

variable {spec : ParameterSpec} {name : String} {number : Int}

/-- A moment in a year of four digits has one text as a parameter, whatever spells it; from the
text the moment is read back. -/
theorem coerce_spelled (isDatetime : spec.kind = .datetime) (name : String)
    (plain : Instant.InPlainYear ⟨number, 0⟩) :
    (∀ value, Spells value number →
      spec.coerce name value = .ok (.string (Instant.toSecondsText ⟨number, 0⟩))) ∧
    (number % secondsPerDay = 0 → Spells (.string (Instant.dateText ⟨number, 0⟩)) number) ∧
    Instant.ofValue? (.string (Instant.toSecondsText ⟨number, 0⟩)) = some ⟨number, 0⟩ ∧
    ∀ other, Instant.InPlainYear ⟨other, 0⟩ →
      Instant.toSecondsText ⟨other, 0⟩ = Instant.toSecondsText ⟨number, 0⟩ → other = number := by
  have isRead := Instant.ofText?_toSecondsText plain
  refine ⟨fun value spells => ?_, Spells.dateText plain, isRead, fun other isPlain same => ?_⟩
  · obtain ⟨nanos, few, isMoment⟩ := spells.ofValue?_eq_some plain
    rw [coerce_eq_ok, coerceReason, isDatetime, ← Instant.toSecondsText_nanos few]
    exact Coercion.toDatetime_eq_ok.mpr ⟨_, isMoment, rfl⟩
  · have isOther := Instant.ofText?_toSecondsText isPlain
    rw [same, isRead, Option.some.injEq, Instant.mk.injEq] at isOther
    exact isOther.1.symm

/-- A second in the night before a leap day, as it is written in the east and in the west of
Greenwich. -/
theorem coerce_spelled_leapDay :
    (of .datetime "moment").coerce "moment" (.integer 951782399) =
        .ok (.string "2000-02-28T23:59:59Z") ∧
      (of .datetime "moment").coerce "moment" (.string "2000-02-29t05:29:59.999+05:30") =
        .ok (.string "2000-02-28T23:59:59Z") := by
  have spelled := (@coerce_spelled (of .datetime "moment") 951782399 rfl "moment" (by decide)).1
  have isText : Instant.toSecondsText ⟨951782399, 0⟩ = "2000-02-28T23:59:59Z" := rfl
  have wellFormed : TimeText.Stamp.WellFormed
      ⟨2000, 2, 29, 't', 5, 29, 59, ['9', '9', '9'], .distance false 5 30⟩ := by
    constructor <;> simp [Decimal.AreDigits, TimeText.Zone.WellFormed, Date.isValid, Date.daysInMonth,
      Date.isLeap]
  have stamped := Spells.stamp wellFormed
  rw [isText] at spelled
  exact ⟨spelled _ (.seconds _), spelled _ stamped⟩

end ParameterSpec

end Triage
