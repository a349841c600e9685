import Triage.Parameter.Coercion
import Triage.Proofs.Address
import Triage.Proofs.Text.Lower
import Triage.Proofs.Time.Reader

namespace Triage

/-! ## Moments that are read and written -/

namespace Instant

/-- The year is written in four digits, without a sign. -/
def InPlainYear (instant : Instant) : Prop :=
  0 ≤ instant.date.year ∧ instant.date.year ≤ 9999

instance (instant : Instant) : Decidable instant.InPlainYear :=
  inferInstanceAs (Decidable (_ ∧ _))

variable {instant : Instant} {text : Chars} {value : Value}

theorem inRange_of_plain (plain : instant.InPlainYear) :
    (Date.ofDays (instant.seconds / secondsPerDay)).inRange = true := by
  obtain ⟨atLeast, atMost⟩ := plain
  have notBefore : Date.leastYear ≤ (Date.ofDays (instant.seconds / secondsPerDay)).year :=
    le_trans (by decide) atLeast
  have notAfter : (Date.ofDays (instant.seconds / secondsPerDay)).year ≤ Date.greatestYear :=
    le_trans atMost (by decide)
  simp [Date.inRange, notBefore, notAfter]

/-! No second is longer than two, whatever a moment is read from. -/

theorem nanos_of_ofSeconds? {seconds : Int} (isRead : ofSeconds? seconds = some instant) :
    instant.nanos = 0 := by
  simp only [ofSeconds?, Option.ite_none_right_eq_some, Option.some.injEq] at isRead
  rw [← isRead.2]

theorem nanos_of_ofText? (isRead : ofText? text = some instant) : instant.nanos < 2000000000 := by
  simp only [ofText?] at isRead
  split at isRead
  · next found isFound =>
    rw [← Option.some.inj isRead]
    exact TimeText.nanos_of_rfc3339 (TimeText.rfc3339?_eq_some.mp isFound)
  · split at isRead
    · rw [← Option.some.inj isRead]
      exact Nat.zero_lt_succ _
    · obtain ⟨seconds, -, isMoment⟩ := Option.bind_eq_some_iff.mp isRead
      have whole := nanos_of_ofSeconds? isMoment
      omega

theorem nanos_of_ofValue? (isRead : ofValue? value = some instant) :
    instant.nanos < 2000000000 := by
  unfold ofValue? at isRead
  split at isRead
  · obtain ⟨seconds, -, isMoment⟩ := Option.bind_eq_some_iff.mp isRead
    have whole := nanos_of_ofSeconds? isMoment
    omega
  · exact nanos_of_ofText? isRead
  · cases isRead

theorem ofValue?_string (text : String) : ofValue? (.string text) = ofText? text.toList :=
  rfl

/-! The text of a moment holds no white space, and a letter. -/

theorem solid_yearText (year : Int) :
    ∀ char ∈ (yearText year).toList, Text.isBlank char = false := by
  have minus : Text.isBlank '-' = false := by decide
  have plus : Text.isBlank '+' = false := by decide
  have signs : ∀ char ∈ (if year < 0 then "-" else "+").toList, Text.isBlank char = false := by
    split <;> simp [minus, plus]
  unfold yearText
  split
  · exact solid_padded 4 _
  · rw [String.toList_append]
    exact List.forall_mem_append.mpr ⟨signs, solid_padded 4 _⟩

theorem solid_toSecondsText (instant : Instant) :
    ∀ char ∈ instant.toSecondsText.toList, Text.isBlank char = false := by
  have minus : ∀ char ∈ "-".toList, Text.isBlank char = false := by simp; decide
  have letter : ∀ char ∈ "T".toList, Text.isBlank char = false := by simp; decide
  have colon : ∀ char ∈ ":".toList, Text.isBlank char = false := by simp; decide
  have zone : ∀ char ∈ "Z".toList, Text.isBlank char = false := by simp; decide
  simp only [toSecondsText, dateText, clockText, toString_string, String.toList_append,
    List.forall_mem_append]
  exact ⟨⟨⟨⟨⟨⟨⟨solid_yearText _, minus⟩, solid_padded 2 _⟩, minus⟩, solid_padded 2 _⟩, letter⟩,
    ⟨⟨⟨⟨solid_padded 2 _, colon⟩, solid_padded 2 _⟩, colon⟩, solid_padded 2 _⟩⟩, zone⟩

theorem letter_mem_toSecondsText (instant : Instant) : 'T' ∈ instant.toSecondsText.toList := by
  simp [toSecondsText]

theorem trim_toSecondsText (instant : Instant) :
    Chars.trim instant.toSecondsText.toList = instant.toSecondsText.toList :=
  Chars.trim_of_no_blank instant.solid_toSecondsText

/-- A moment in a year of four digits is read back as one that is written in the same way. -/
theorem ofText?_of_plain (bounded : instant.nanos < 2000000000) (plain : instant.InPlainYear) :
    ∃ again, ofText? instant.toSecondsText.toList = some again ∧
      again.toSecondsText = instant.toSecondsText := by
  have hours := instant.hour_le
  have minutes := instant.minute_le
  have seconds := second_le bounded
  have isDate : Date.ofDays (instant.seconds / secondsPerDay) =
      ⟨instant.date.year.toNat, instant.date.month, instant.date.day⟩ := by
    rw [Int.toNat_of_nonneg plain.1]
    rfl
  have isRead := TimeText.rfc3339_written_utc isDate (by have := plain.2; omega) hours minutes seconds
  rw [← toSecondsText_toList bounded plain] at isRead
  refine ⟨_, ?_, toSecondsText_ofClock bounded⟩
  simp only [ofText?, trim_toSecondsText, TimeText.rfc3339?_eq_some.mpr isRead]

theorem exists_sign {year : Int} (signed : ¬(0 ≤ year ∧ year ≤ 9999)) :
    ∃ sign rest, (yearText year).toList = sign :: rest ∧ sign.isDigit = false := by
  unfold yearText
  rw [if_neg signed]
  by_cases negative : year < 0
  · exact ⟨'-', (padded 4 year.natAbs).toList, by simp [negative], by decide⟩
  · exact ⟨'+', (padded 4 year.natAbs).toList, by simp [negative], by decide⟩

/-- The sign of another year is not understood. -/
theorem ofText?_of_not_plain (signed : ¬ instant.InPlainYear) :
    ofText? instant.toSecondsText.toList = none := by
  have isLetter := TimeText.isLetter_T
  have isMember := instant.letter_mem_toSecondsText
  have noDate := TimeText.date?_of_mem isLetter isMember
  have noNumber := Decimal.int?_of_mem isLetter.noDigit isLetter.noPlus isLetter.noMinus isMember
  have noStrict : TimeText.rfc3339? instant.toSecondsText.toList = none := by
    obtain ⟨sign, rest, isYear, noDigit⟩ := exists_sign signed
    simp only [toSecondsText, dateText, toString_string, String.toList_append, isYear,
      List.cons_append]
    exact TimeText.rfc3339?_of_not_isDigit noDigit
  simp [ofText?, trim_toSecondsText, noStrict, noDate, noNumber]

end Instant

namespace Coercion

variable {ignorecase : Bool} {value result : Value}

theorem toText_again (accepted : toText ignorecase value = .ok result) :
    toText ignorecase result = .ok result := by
  have again (text : String) : (if ignorecase then Text.lower (if ignorecase then Text.lower text
      else text) else (if ignorecase then Text.lower text else text)) =
        (if ignorecase then Text.lower text else text) := by
    cases ignorecase <;> simp [Text.lower_lower]
  cases value <;> simp only [toText, Except.ok.injEq, reduceCtorEq] at accepted <;>
    rw [← accepted] <;> simp only [toText, again]

theorem toInteger_again (accepted : toInteger value = .ok result) :
    toInteger result = .ok result := by
  unfold toInteger at accepted
  split at accepted
  · rw [← Except.ok.inj accepted]
    rfl
  · split at accepted
    · rw [← Except.ok.inj accepted]
      rfl
    · cases accepted
  · cases accepted

theorem toFloat_again (accepted : toFloat value = .ok result) : toFloat result = .ok result := by
  simp only [toFloat] at accepted
  split at accepted
  · rw [← Except.ok.inj accepted]
    rfl
  · cases accepted

theorem toFlag_again (accepted : toFlag value = .ok result) : toFlag result = .ok result := by
  unfold toFlag at accepted
  split at accepted
  · rw [← Except.ok.inj accepted]
    rfl
  · split at accepted
    · rw [← Except.ok.inj accepted]
      rfl
    · cases accepted
  · split at accepted
    · rw [← Except.ok.inj accepted]
      rfl
    · rw [← Except.ok.inj accepted]
      rfl
    · cases accepted
  · cases accepted

theorem toAddress_again (accepted : toAddress value = .ok result) :
    toAddress result = .ok result := by
  unfold toAddress at accepted
  split at accepted
  · split at accepted
    · next address isRead =>
      rw [← Except.ok.inj accepted]
      have readBack := Address.read?_text (Address.wellFormed_of_read? isRead)
      simp [toAddress, Chars.trim_of_no_blank address.solid_text, readBack]
    · cases accepted
  · cases accepted

theorem toDatetime_eq_ok : toDatetime value = .ok result ↔
    ∃ instant, Instant.ofValue? value = some instant ∧ result = .string instant.toSecondsText := by
  unfold toDatetime
  cases Instant.ofValue? value with
  | none => simp
  | some instant => simp [eq_comm]

/-- A moment stays as it is written if its year has four digits, and else is refused. -/
theorem toDatetime_again {instant : Instant} (isRead : Instant.ofValue? value = some instant) :
    toDatetime (.string instant.toSecondsText) =
      if instant.InPlainYear then .ok (.string instant.toSecondsText)
      else .error s!"{(Value.string instant.toSecondsText).text} is not RFC 3339, YYYY-MM-DD, or epoch seconds" := by
  split
  · next plain =>
    obtain ⟨again, isAgain, same⟩ := Instant.ofText?_of_plain (Instant.nanos_of_ofValue? isRead) plain
    rw [← Instant.ofValue?_string] at isAgain
    exact toDatetime_eq_ok.mpr ⟨again, isAgain, by rw [same]⟩
  · next signed =>
    have refused : Instant.ofValue? (.string instant.toSecondsText) = none := by
      rw [Instant.ofValue?_string]
      exact Instant.ofText?_of_not_plain signed
    simp only [toDatetime, refused]

end Coercion

namespace ParameterSpec

open Coercion

variable {spec : ParameterSpec} {name : String} {value result : Value}

/-- The moments that the value stands for lie in years of four digits. -/
def InPlainYear (value : Value) : Prop :=
  ∀ instant, Instant.ofValue? value = some instant → instant.InPlainYear

/-- Why a text that stands for a moment may be refused. -/
def noMoment (value : Value) : String :=
  s!"{value.text} is not RFC 3339, YYYY-MM-DD, or epoch seconds"

theorem coerceReason_again (accepted : spec.coerceReason value = .ok result)
    (plain : spec.kind = .datetime → InPlainYear value) :
    spec.coerceReason result = .ok result := by
  unfold coerceReason at accepted ⊢
  generalize spec.kind = kind at accepted plain ⊢
  cases kind with
  | string => exact toText_again accepted
  | integer => exact toInteger_again accepted
  | float => exact toFloat_again accepted
  | bool => exact toFlag_again accepted
  | address => exact toAddress_again accepted
  | datetime =>
      obtain ⟨instant, isRead, rfl⟩ := toDatetime_eq_ok.mp accepted
      exact (toDatetime_again isRead).trans (if_pos (plain rfl instant isRead))

theorem coerceReason_refuses (accepted : spec.coerceReason value = .ok result)
    (isDatetime : spec.kind = .datetime) (signed : ¬InPlainYear value) :
    spec.coerceReason result = .error (noMoment result) := by
  unfold coerceReason at accepted ⊢
  rw [isDatetime] at accepted ⊢
  obtain ⟨instant, isRead, rfl⟩ := toDatetime_eq_ok.mp accepted
  have isSigned : ¬instant.InPlainYear := by
    intro plain
    apply signed
    intro other isOther
    rw [isRead, Option.some.injEq] at isOther
    exact isOther ▸ plain
  exact (toDatetime_again isRead).trans (if_neg isSigned)

theorem coerce_eq_ok : spec.coerce name value = .ok result ↔ spec.coerceReason value = .ok result := by
  unfold coerce
  cases spec.coerceReason value <;> simp

/-- A coerced value is coerced to itself, unless it is a moment in a year that is not
written in four digits: then its text is refused. -/
theorem coerce_coerce (accepted : spec.coerce name value = .ok result) :
    (spec.coerce name result = .ok result ↔ (spec.kind = .datetime → InPlainYear value)) ∧
      (spec.kind = .datetime → ¬InPlainYear value →
        spec.coerce name result =
          .error (.invalidParameter name "datetime"
            s!"{result.text} is not RFC 3339, YYYY-MM-DD, or epoch seconds")) := by
  have isAccepted := coerce_eq_ok.mp accepted
  have refuses (isDatetime : spec.kind = .datetime) (signed : ¬InPlainYear value) :
      spec.coerce name result =
        .error (.invalidParameter name "datetime" (noMoment result)) := by
    simp only [coerce, coerceReason_refuses isAccepted isDatetime signed, isDatetime]
    rfl
  refine ⟨⟨?_, fun plain => coerce_eq_ok.mpr (coerceReason_again isAccepted plain)⟩, refuses⟩
  intro stays isDatetime
  by_contra signed
  rw [refuses isDatetime signed] at stays
  cases stays

theorem coerce_coerce_date :
    (of .datetime "day").coerce "day" (.string "2024-02-29") =
        .ok (.string "2024-02-29T00:00:00Z") ∧
      (of .datetime "day").coerce "day" (.string "2024-02-29T00:00:00Z") =
        .ok (.string "2024-02-29T00:00:00Z") := by
  have accepted : (of .datetime "day").coerce "day" (.string "2024-02-29") =
      .ok (.string "2024-02-29T00:00:00Z") := rfl
  have isRead : Instant.ofValue? (.string "2024-02-29") = some ⟨1709164800, 0⟩ := rfl
  refine ⟨accepted, (coerce_coerce accepted).1.mpr ?_⟩
  intro _ instant isOther
  rw [isRead, Option.some.injEq] at isOther
  rw [← isOther]
  decide

/-- The first second of the year 10000 is written with a sign, which nothing reads. -/
theorem coerce_year_tenThousand :
    (of .datetime "moment").coerce "moment" (.integer 253402300800) =
        .ok (.string "+10000-01-01T00:00:00Z") ∧
      (of .datetime "moment").coerce "moment" (.string "+10000-01-01T00:00:00Z") ≠
        .ok (.string "+10000-01-01T00:00:00Z") := by
  have refused : (of .datetime "moment").coerce "moment" (.string "+10000-01-01T00:00:00Z") =
      .error (.invalidParameter "moment" "datetime"
        "\"+10000-01-01T00:00:00Z\" is not RFC 3339, YYYY-MM-DD, or epoch seconds") := by
    rfl
  refine ⟨rfl, ?_⟩
  rw [refused]
  intro same
  cases same

end ParameterSpec

end Triage
