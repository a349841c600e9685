import Triage.Proofs.Number.Decimal
import Triage.Proofs.Time.Calendar
import Triage.Time.Reader

namespace Triage

/-! ## Computations that may fail -/

section

variable {ε α β : Type}

theorem except_bind_eq_ok {first : Except ε α} {next : α → Except ε β} {result : β} :
    (first >>= next) = .ok result ↔ ∃ value, first = .ok value ∧ next value = .ok result := by
  cases first <;> simp [bind, Except.bind]

theorem except_guard_eq_ok {guard : Prop} [Decidable guard] {error : ε}
    {next : PUnit → Except ε β} {result : β} :
    (if guard then (throw error : Except ε PUnit) >>= next else next ⟨⟩) = .ok result ↔
      ¬ guard ∧ next ⟨⟩ = .ok result := by
  by_cases holds : guard <;> simp [holds, bind, Except.bind, throw, throwThe, MonadExceptOf.throw]

end

namespace Chars

theorem length_le_byteLength (chars : Chars) : chars.length ≤ chars.byteLength := by
  induction chars with
  | nil => rfl
  | cons char rest ih =>
      have positive := char.utf8Size_pos
      simp only [List.length_cons, byteLength]
      omega

end Chars

/-! ## Moments of a day -/

namespace Instant

/-- The moment of a day that a clock shows. -/
def ofClock (days : Int) (hour minute second nanos : Nat) : Instant :=
  ⟨days * secondsPerDay + (hour * 3600 + minute * 60 + second : Nat), nanos⟩

variable (days : Int) {hour minute second : Nat} (nanos : Nat)

theorem day_ofClock (hours : hour ≤ 23) (minutes : minute ≤ 59) (seconds : second ≤ 59) :
    (ofClock days hour minute second nanos).seconds / secondsPerDay = days := by
  simp only [ofClock, secondsPerDay]
  omega

theorem secondOfDay_ofClock (hours : hour ≤ 23) (minutes : minute ≤ 59) (seconds : second ≤ 59) :
    (ofClock days hour minute second nanos).secondOfDay = hour * 3600 + minute * 60 + second := by
  simp only [ofClock, secondOfDay, secondsPerDay]
  omega

theorem hour_le (instant : Instant) : instant.hour ≤ 23 := by
  simp only [Instant.hour, secondOfDay, secondsPerDay]
  omega

theorem minute_le (instant : Instant) : instant.minute ≤ 59 := by
  simp only [Instant.minute]
  omega

theorem second_le {instant : Instant} (bounded : instant.nanos < 2000000000) :
    instant.second ≤ 60 := by
  simp only [Instant.second]
  omega

/-- What is written of a moment is its date and its clock. -/
theorem toSecondsText_congr {one other : Instant} (date : one.date = other.date)
    (hour : one.hour = other.hour) (minute : one.minute = other.minute)
    (second : one.second = other.second) : one.toSecondsText = other.toSecondsText := by
  simp only [toSecondsText, dateText, clockText, date, hour, minute, second]

/-- A leap second is shown as the second after the last one. -/
theorem toSecondsText_ofClock {instant : Instant} (bounded : instant.nanos < 2000000000) :
    (ofClock (instant.seconds / secondsPerDay) instant.hour instant.minute (min instant.second 59)
      (if instant.second = 60 then 1000000000 else 0)).toSecondsText = instant.toSecondsText := by
  have hours := instant.hour_le
  have minutes := instant.minute_le
  have seconds := second_le bounded
  have day := day_ofClock (instant.seconds / secondsPerDay)
    (if instant.second = 60 then 1000000000 else 0) hours minutes
    (Nat.min_le_right instant.second 59)
  have ofDay := secondOfDay_ofClock (instant.seconds / secondsPerDay)
    (if instant.second = 60 then 1000000000 else 0) hours minutes
    (Nat.min_le_right instant.second 59)
  apply toSecondsText_congr
  · rw [date, day, date]
  · rw [hour, ofDay]
    omega
  · rw [minute, ofDay]
    omega
  · rw [second, ofDay]
    simp only [ofClock]
    split <;> omega

theorem ofClock_self (instant : Instant) :
    ofClock (instant.seconds / secondsPerDay) instant.hour instant.minute
      (instant.secondOfDay % 60) instant.nanos = instant := by
  have seconds : instant.seconds / secondsPerDay * secondsPerDay +
      (instant.hour * 3600 + instant.minute * 60 + instant.secondOfDay % 60 : Nat) =
        instant.seconds := by
    simp only [hour, minute, secondOfDay, secondsPerDay]
    omega
  simp only [ofClock, seconds]

/-! Numbers hold no white space. -/

theorem isBlank_of_isDigit {char : Char} (isDigit : char.isDigit = true) :
    Text.isBlank char = false := by
  have digits : ∀ code ≤ 57, 48 ≤ code → Text.isBlank (Char.ofNat code) = false := by decide
  rw [Char.isDigit_iff_toNat] at isDigit
  have same := digits char.toNat isDigit.2 isDigit.1
  rwa [Char.ofNat_toNat] at same

theorem solid_padded (width number : Nat) :
    ∀ char ∈ (padded width number).toList, Text.isBlank char = false :=
  fun char isMember => isBlank_of_isDigit (areDigits_padded width number char isMember)

end Instant

namespace TimeText

open Decimal

/-! ## Numbers in front -/

section

variable {least most value : Nat} {chars rest : Chars}

/-- The digits that were taken off the front. -/
theorem digits?_eq_some (isRead : digits? least most chars = some (value, rest)) :
    ∃ digits, chars = digits ++ rest ∧ AreDigits digits ∧ digits.length ≤ most ∧
      value = Nat.ofDigitChars 10 digits 0 := by
  obtain ⟨digits, isDigits⟩ : ∃ digits, digits = (chars.take most).takeWhile Char.isDigit :=
    ⟨_, rfl⟩
  have front : digits <+: chars :=
    isDigits ▸ (List.takeWhile_prefix _).trans (List.take_prefix most chars)
  have areDigits : AreDigits digits := by
    intro char isMember
    rw [isDigits] at isMember
    exact List.mem_takeWhile_imp isMember
  have short : digits.length ≤ most := by
    rw [isDigits]
    exact (List.takeWhile_prefix _).length_le.trans (by simp)
  obtain ⟨after, rfl⟩ := front
  simp only [digits?, ← isDigits] at isRead
  by_cases enough : digits.length < least
  · simp [enough] at isRead
  by_cases someDigit : digits = []
  · simp [someDigit, nat?] at isRead
  rw [if_neg enough, nat?_eq areDigits someDigit] at isRead
  simp only [Option.map_some, List.drop_left, Option.some.injEq, Prod.mk.injEq] at isRead
  obtain ⟨isValue, rfl⟩ := isRead
  exact ⟨digits, rfl, areDigits, short, isValue.symm⟩

/-- Nothing but digits is taken off. -/
theorem mem_of_digits? {char : Char} (noDigit : char.isDigit = false) (isMember : char ∈ chars)
    (isRead : digits? least most chars = some (value, rest)) : char ∈ rest := by
  obtain ⟨digits, rfl, areDigits, -⟩ := digits?_eq_some isRead
  rcases List.mem_append.mp isMember with isDigit | inRest
  · simp [areDigits char isDigit] at noDigit
  · exact inRest

theorem nanos?_lt (isRead : nanos? chars = some (value, rest)) : value < 1000000000 := by
  simp only [nanos?, Option.bind_eq_bind, Option.bind_eq_some_iff] at isRead
  obtain ⟨⟨read, after⟩, isRead, isValue⟩ := isRead
  obtain ⟨digits, rfl, areDigits, short, rfl⟩ := digits?_eq_some isRead
  have below := ofDigitChars_lt areDigits
  obtain ⟨places, isPlaces⟩ : ∃ places, digits.length + places = 9 := Nat.le.dest short
  have taken : 9 - ((digits ++ after).length - after.length) = places := by
    rw [List.length_append]
    omega
  simp only [taken, pure, Option.some.injEq, Prod.mk.injEq] at isValue
  calc value = Nat.ofDigitChars 10 digits 0 * 10 ^ places := isValue.1.symm
    _ < 10 ^ digits.length * 10 ^ places := Nat.mul_lt_mul_of_pos_right below (by simp)
    _ = 1000000000 := by rw [← Nat.pow_add, isPlaces]

/-! A letter is left over by whatever reads a date. -/

/-- Neither a digit, nor a sign, nor white space. -/
structure IsLetter (char : Char) : Prop where
  noDigit : char.isDigit = false
  noPlus : char ≠ '+'
  noMinus : char ≠ '-'
  noBlank : Text.isBlank char = false

theorem isLetter_T : IsLetter 'T' := by
  constructor <;> decide

variable {letter : Char}

theorem mem_trimStart (isLetter : IsLetter letter) (isMember : letter ∈ chars) :
    letter ∈ chars.trimStart := by
  rw [← List.takeWhile_append_dropWhile (p := Text.isBlank) (l := chars)] at isMember
  rcases List.mem_append.mp isMember with isBlank | inRest
  · have blank := List.mem_takeWhile_imp isBlank
    simp [isLetter.noBlank] at blank
  · exact inRest

theorem mem_of_expect? {char : Char} (other : letter ≠ char) (isMember : letter ∈ chars)
    (isRead : expect? char chars = some rest) : letter ∈ rest := by
  cases chars with
  | nil => simp at isMember
  | cons first others =>
      by_cases isFirst : first = char
      · simp only [expect?, isFirst, beq_self_eq_true, if_true, Option.some.injEq] at isRead
        exact isRead ▸ List.mem_of_ne_of_mem (isFirst ▸ other) isMember
      · simp [expect?, isFirst] at isRead

theorem mem_of_number? (isLetter : IsLetter letter) (isMember : letter ∈ chars)
    (isRead : number? most chars = some (value, rest)) : letter ∈ rest :=
  mem_of_digits? isLetter.noDigit (mem_trimStart isLetter isMember) isRead

theorem mem_of_year? (isLetter : IsLetter letter) (isMember : letter ∈ chars) {year : Int}
    (isRead : year? chars = some (year, rest)) : letter ∈ rest := by
  have inTrimmed := mem_trimStart isLetter isMember
  unfold year? at isRead
  split at isRead
  case' h_1 trimmed after isTrimmed =>
    rw [isTrimmed] at inTrimmed
    have inAfter := List.mem_of_ne_of_mem isLetter.noMinus inTrimmed
  case' h_2 trimmed after isTrimmed =>
    rw [isTrimmed] at inTrimmed
    have inAfter := List.mem_of_ne_of_mem isLetter.noPlus inTrimmed
  all_goals
    simp only [Option.map_eq_some_iff, Prod.exists, Prod.mk.injEq] at isRead
    obtain ⟨value, other, isDigits, -, rfl⟩ := isRead
  · exact mem_of_digits? isLetter.noDigit inAfter isDigits
  · exact mem_of_digits? isLetter.noDigit inAfter isDigits
  · exact mem_of_digits? isLetter.noDigit inTrimmed isDigits

theorem date?_of_mem (isLetter : IsLetter letter) (isMember : letter ∈ chars) :
    date? chars = none := by
  rw [Option.eq_none_iff_forall_ne_some]
  intro date isRead
  simp only [date?, Option.bind_eq_bind, Option.bind_eq_some_iff, Prod.exists] at isRead
  obtain ⟨year, afterYear, isYear, beforeMonth, isMark, month, afterMonth, isMonth, beforeDay,
    isMark', day, afterDay, isDay, isEnd⟩ := isRead
  have inMonth := mem_of_expect? isLetter.noMinus (mem_of_year? isLetter isMember isYear) isMark
  have inDay := mem_of_expect? isLetter.noMinus (mem_of_number? isLetter inMonth isMonth) isMark'
  have inEnd := mem_of_number? isLetter inDay isDay
  have notEmpty : afterDay.isEmpty = false := List.isEmpty_eq_false_iff.mpr (List.ne_nil_of_mem inEnd)
  simp [notEmpty] at isEnd

end

/-! ## The strict form -/

/-- A date and a clock, each number in its own width. -/
def written (separator : Char) (year month day hour minute second : Nat) : Chars :=
  [(year / 100 / 10).digitChar, (year / 100 % 10).digitChar, (year % 100 / 10).digitChar,
    (year % 100 % 10).digitChar, '-', (month / 10).digitChar, (month % 10).digitChar, '-',
    (day / 10).digitChar, (day % 10).digitChar, separator, (hour / 10).digitChar,
    (hour % 10).digitChar, ':', (minute / 10).digitChar, (minute % 10).digitChar, ':',
    (second / 10).digitChar, (second % 10).digitChar]

theorem twoDigits_eq (place value : Nat) {chars : Chars} (small : value < 100)
    (tens : chars[place]? = some (value / 10).digitChar)
    (ones : chars[place + 1]? = some (value % 10).digitChar) :
    twoDigits place chars = .ok value := by
  have front : digit place chars = .ok (value / 10) := by
    simp [digit, tens, digitValue?_digitChar (value / 10) (by omega)]
  have last : digit (place + 1) chars = .ok (value % 10) := by
    simp [digit, ones, digitValue?_digitChar (value % 10) (by omega)]
  have whole : value / 10 * 10 + value % 10 = value := by omega
  simp [twoDigits, front, last, whole, bind, Except.bind, pure, Except.pure]

variable {days : Int} {year month day hour minute second nanos : Nat} {separator : Char}
  {rest : Chars}

theorem dateOf_written (years : year ≤ 9999) (valid : Date.isValid ⟨year, month, day⟩ = true) :
    dateOf (written separator year month day hour minute second ++ rest) =
      .ok ⟨year, month, day⟩ := by
  have monthLe : month ≤ 12 := Date.month_le valid
  have dayLe : day ≤ 31 := Date.day_le valid
  have isYear : year / 100 * 100 + year % 100 = year := by omega
  unfold dateOf
  rw [twoDigits_eq 0 (year / 100) (by omega) rfl rfl,
    twoDigits_eq 2 (year % 100) (by omega) rfl rfl,
    twoDigits_eq 5 month (by omega) rfl rfl,
    twoDigits_eq 8 day (by omega) rfl rfl]
  simp [mark, written, valid, isYear, bind, Except.bind, pure, Except.pure]

theorem clockOf_written (separates : isDateEnd separator = true) (hours : hour ≤ 23)
    (minutes : minute ≤ 59) (seconds : second ≤ 60) :
    clockOf (written separator year month day hour minute second ++ rest) =
      .ok (hour, minute, second) := by
  unfold clockOf
  rw [twoDigits_eq 11 hour (by omega) rfl rfl,
    twoDigits_eq 14 minute (by omega) rfl rfl,
    twoDigits_eq 17 second (by omega) rfl rfl]
  simp [mark, written, separates, bind, Except.bind, pure, Except.pure]

/-- A date and a clock that are in order come to the moment that `instant?` makes of them. -/
theorem rfc3339_written (years : year ≤ 9999) (valid : Date.isValid ⟨year, month, day⟩ = true)
    (separates : isDateEnd separator = true) (hours : hour ≤ 23) (minutes : minute ≤ 59)
    (seconds : second ≤ 60) {zone : Chars} {offset : Int} {instant : Instant}
    (isFraction : fractionOf rest = .ok (nanos, zone)) (isZone : offsetOf zone = .ok (offset, []))
    (inRange : offsetInRange offset = true)
    (isInstant : instant? ⟨year, month, day⟩ hour minute second nanos offset = some instant) :
    rfc3339 (written separator year month day hour minute second ++ rest) = .ok instant := by
  have bytes := Chars.length_le_byteLength (written separator year month day hour minute second ++ rest)
  have length : (written separator year month day hour minute second).length = leastBytes := rfl
  have long : ¬ (written separator year month day hour minute second ++ rest).byteLength <
      leastBytes := by
    rw [List.length_append, length] at bytes
    omega
  have behind : (written separator year month day hour minute second ++ rest).drop leastBytes =
      rest := List.drop_left' length
  simp only [rfc3339, long, if_false, dateOf_written years valid,
    clockOf_written separates hours minutes seconds, behind, isFraction]
  simp [isZone, inRange, isInstant, Nat.not_lt.mpr, hours, minutes, seconds, bind, Except.bind,
    pure, Except.pure]

/-- A day and a clock in Coordinated Universal Time are put together. -/
theorem instant?_ofDays (nanos : Nat) (inRange : (Date.ofDays days).inRange = true) (hours : hour ≤ 23)
    (minutes : minute ≤ 59) (seconds : second ≤ 60) :
    instant? (Date.ofDays days) hour minute second nanos 0 =
      some (.ofClock days hour minute (min second 59)
        (if second = 60 then nanos + 1000000000 else nanos)) := by
  have valid := Date.isValid_ofDays days
  have sameDay := Instant.day_ofClock days nanos hours minutes
    (Nat.min_le_right second 59)
  by_cases leap : second = 60
  · simp only [leap, Instant.ofClock] at sameDay
    simp_all [instant?, within?, Instant.ofClock, Date.toDays_ofDays]
  · have small : second ≤ 59 := by omega
    simp only [Nat.min_eq_left small, Instant.ofClock] at sameDay
    simp_all [instant?, within?, Instant.ofClock, Date.toDays_ofDays]

theorem rfc3339_written_utc (isDate : Date.ofDays days = ⟨year, month, day⟩) (years : year ≤ 9999)
    (hours : hour ≤ 23) (minutes : minute ≤ 59) (seconds : second ≤ 60) :
    rfc3339 (written 'T' year month day hour minute second ++ ['Z']) =
      .ok (.ofClock days hour minute (min second 59) (if second = 60 then 1000000000 else 0)) := by
  have valid : Date.isValid ⟨year, month, day⟩ = true := isDate ▸ Date.isValid_ofDays days
  have inRange : (Date.ofDays days).inRange = true := by
    rw [isDate]
    simp [Date.inRange, Date.leastYear, Date.greatestYear]
    omega
  have together := instant?_ofDays 0 inRange hours minutes seconds
  rw [isDate] at together
  rw [Nat.zero_add] at together
  exact rfc3339_written years valid rfl hours minutes seconds rfl rfl rfl together

theorem rfc3339?_eq_some {chars : Chars} {instant : Instant} :
    rfc3339? chars = some instant ↔ rfc3339 chars = .ok instant := by
  unfold rfc3339?
  cases rfc3339 chars <;> simp [Except.toOption]

/-- The strict form begins with a digit. -/
theorem rfc3339?_of_not_isDigit {first : Char} (noDigit : first.isDigit = false) :
    rfc3339? (first :: rest) = none := by
  rw [Option.eq_none_iff_forall_ne_some]
  intro instant isRead
  simp only [rfc3339?_eq_some, rfc3339, dateOf, twoDigits, except_bind_eq_ok,
    except_guard_eq_ok] at isRead
  obtain ⟨-, date, ⟨century, ⟨value, isDigit, -⟩, -⟩, -⟩ := isRead
  simp [digit, digitValue?_of_not_isDigit noDigit] at isDigit

/-! No second that is read lasts longer than two. -/

theorem nanos_of_fractionOf {chars rest : Chars} (isRead : fractionOf chars = .ok (nanos, rest)) :
    nanos < 1000000000 := by
  unfold fractionOf at isRead
  split at isRead
  · simp at isRead
  · split at isRead
    · rename_i found isFound
      rw [Except.ok.injEq] at isRead
      exact nanos?_lt (isRead ▸ isFound)
    · simp at isRead
  · simp only [Except.ok.injEq, Prod.mk.injEq] at isRead
    omega

theorem nanos_of_instant? {date : Date} {offset : Int} {instant : Instant}
    (isInstant : instant? date hour minute second nanos offset = some instant) :
    instant.nanos ≤ nanos + 1000000000 := by
  simp only [instant?, Option.bind_eq_bind, Option.bind_eq_some_iff] at isInstant
  obtain ⟨hour, -, minute, -, second, -, isInstant⟩ := isInstant
  by_cases leap : second = 60
  · simp [leap] at isInstant
    rw [← isInstant.2.2]
  · simp [leap] at isInstant
    rw [← isInstant.2.2]
    exact Nat.le_add_right ..

theorem nanos_of_rfc3339 {chars : Chars} {instant : Instant}
    (isRead : rfc3339 chars = .ok instant) : instant.nanos < 2000000000 := by
  simp only [rfc3339, except_bind_eq_ok, except_guard_eq_ok, Prod.exists] at isRead
  obtain ⟨-, date, -, hour, minute, second, -, nanos, rest, isFraction, -, offset, -, -, -, -,
    isInstant⟩ := isRead
  split at isInstant
  · rename_i found isFound
    have fraction := nanos_of_fractionOf isFraction
    have atMost := nanos_of_instant? isFound
    have same : found = instant := Except.ok.inj isInstant
    rw [← same]
    omega
  · cases isInstant

end TimeText

namespace Instant

open TimeText

theorem toString_string (text : String) : toString text = text := rfl

variable {instant : Instant}

theorem toSecondsText_toList (bounded : instant.nanos < 2000000000)
    (plain : 0 ≤ instant.date.year ∧ instant.date.year ≤ 9999) :
    instant.toSecondsText.toList =
      written 'T' instant.date.year.toNat instant.date.month instant.date.day instant.hour
        instant.minute instant.second ++ ['Z'] := by
  have valid : instant.date.isValid = true := Date.isValid_ofDays _
  have month := Date.month_le valid
  have day := Date.day_le valid
  have hours := instant.hour_le
  have minutes := instant.minute_le
  have seconds := Instant.second_le bounded
  simp only [toSecondsText, dateText, clockText, yearText, if_pos plain, toString_string,
    String.toList_append]
  rw [padded_four (by omega), padded_two (by omega : instant.date.month < 100),
    padded_two (by omega : instant.date.day < 100), padded_two (by omega : instant.hour < 100),
    padded_two (by omega : instant.minute < 100), padded_two (by omega : instant.second < 100)]
  simp [written]

end Instant

end Triage
