import Triage.Proofs.Text.Words
import Triage.Proofs.Time.Reader

namespace Triage

namespace TimeText

open Decimal

/-! ## Digits that are taken off the front -/

variable {digits rest : Chars}

/-- Digits are read to their end, or to as many as are asked for. -/
theorem digits?_append {least most : Nat} (areDigits : AreDigits digits) (positive : 0 < least)
    (enough : least ≤ digits.length) (few : digits.length ≤ most)
    (ends : digits.length = most ∨ EndsDigits rest) :
    digits? least most (digits ++ rest) = some (Nat.ofDigitChars 10 digits 0, rest) := by
  have taken : ((digits ++ rest).take most).takeWhile Char.isDigit = digits := by
    rw [List.take_append, List.take_of_length_le few, List.takeWhile_append_of_pos areDigits]
    rcases ends with full | ends
    · simp [full]
    · have front : (rest.take (most - digits.length)).takeWhile Char.isDigit = [] := by
        cases rest with
        | nil => simp
        | cons char others =>
            cases most - digits.length with
            | zero => rfl
            | succ left => simp [ends char rfl]
      rw [front, List.append_nil]
  have nonempty : digits ≠ [] := List.ne_nil_of_length_pos (by omega)
  have notFew : ¬digits.length < least := by omega
  simp [digits?, taken, notFew, nat?_eq areDigits nonempty]

theorem trimStart_padded (width value : Nat) (rest : Chars) :
    Chars.trimStart ((padded width value).toList ++ rest) = (padded width value).toList ++ rest := by
  refine Chars.dropWhile_of_head? fun char isFirst => ?_
  rw [List.head?_append_of_ne_nil _ (padded_ne_nil width value)] at isFirst
  exact Instant.solid_padded width value char (List.mem_of_mem_head? isFirst)

theorem number?_padded {value : Nat} (small : value < 100) (rest : Chars) :
    number? 2 ((padded 2 value).toList ++ rest) = some (value, rest) := by
  have length := length_padded (show value < 10 ^ 2 by omega) Nat.two_pos
  rw [number?, trimStart_padded, digits?_append (areDigits_padded 2 value) Nat.one_pos (by omega)
    length.le (.inl length), ofDigitChars_padded]

theorem year?_padded {year : Nat} (years : year ≤ 9999) (rest : Chars) :
    year? ((padded 4 year).toList ++ rest) = some ((year : Int), rest) := by
  have length := length_padded (show year < 10 ^ 4 by omega) (by omega)
  have isRead := @digits?_append _ rest _ _ (areDigits_padded 4 year) Nat.one_pos (by omega)
    length.le (.inl length)
  obtain ⟨first, others, isPadded⟩ := List.exists_cons_of_ne_nil (padded_ne_nil 4 year)
  have isDigit := areDigits_padded 4 year first (isPadded ▸ List.mem_cons_self)
  rw [ofDigitChars_padded] at isRead
  unfold year?
  rw [trimStart_padded]
  split
  · next isMinus =>
    rw [isPadded] at isMinus
    cases isMinus
    cases isDigit
  · next isPlus =>
    rw [isPadded] at isPlus
    cases isPlus
    cases isDigit
  · rw [isRead]
    rfl

/-- Of a fraction nine digits count, and the others are read. -/
theorem nanos?_append (areDigits : AreDigits digits) (nonempty : digits ≠ [])
    (ends : EndsDigits rest) : ∃ nanos, nanos? (digits ++ rest) = some (nanos, rest) := by
  have positive := List.length_pos_iff.mpr nonempty
  have front : AreDigits (digits.take 9) := fun char isMember =>
    areDigits char (List.mem_of_mem_take isMember)
  have behind : (digits.drop 9 ++ rest).dropWhile Char.isDigit = rest := by
    rw [List.dropWhile_append_of_pos fun char isMember =>
      areDigits char (List.mem_of_mem_drop isMember)]
    exact dropWhile_of_endsDigits ends
  have isRead : digits? 1 9 (digits ++ rest) =
      some (Nat.ofDigitChars 10 (digits.take 9) 0, digits.drop 9 ++ rest) := by
    have whole : digits ++ rest = digits.take 9 ++ (digits.drop 9 ++ rest) := by
      rw [← List.append_assoc, List.take_append_drop]
    rw [whole]
    refine digits?_append front (by omega) ?_ ?_ ?_
    · rw [List.length_take]
      omega
    · rw [List.length_take]
      omega
    · by_cases long : 9 ≤ digits.length
      · left
        rw [List.length_take]
        omega
      · right
        rw [List.drop_of_length_le (by omega), List.nil_append]
        exact ends
  exact ⟨_, by simp [nanos?, isRead, behind]; rfl⟩

theorem fractionOf_append (areDigits : AreDigits digits) (ends : EndsDigits rest)
    (noPoint : rest.head? ≠ some '.') :
    ∃ nanos < 1000000000,
      fractionOf ((if digits.isEmpty then [] else '.' :: digits) ++ rest) = .ok (nanos, rest) := by
  by_cases empty : digits = []
  · refine ⟨0, by omega, ?_⟩
    subst empty
    cases rest with
    | nil => rfl
    | cons first others =>
        have other : first ≠ '.' := fun isPoint => noPoint (congrArg some isPoint)
        simp [fractionOf, other]
  · obtain ⟨nanos, isRead⟩ := nanos?_append areDigits empty ends
    refine ⟨nanos, nanos?_lt isRead, ?_⟩
    have isFraction : digits.isEmpty = false := List.isEmpty_eq_false_iff.mpr empty
    rw [isFraction, if_neg Bool.false_ne_true, List.cons_append, fractionOf, isRead]
    exact List.append_ne_nil_of_left_ne_nil empty rest

/-! ## Moments as RFC 3339 writes them -/

/-- How far a clock is from Coordinated Universal Time. -/
inductive Zone where
  | utc (letter : Char)
  | distance (behind : Bool) (hours minutes : Nat)
deriving DecidableEq, Repr

namespace Zone

def text : Zone → String
  | .utc letter => String.singleton letter
  | .distance behind hours minutes =>
      let sign := if behind then "-" else "+"
      s!"{sign}{padded 2 hours}:{padded 2 minutes}"

def seconds : Zone → Int
  | .utc _ => 0
  | .distance behind hours minutes =>
      if behind then -(hours * 3600 + minutes * 60 : Nat) else (hours * 3600 + minutes * 60 : Nat)

def WellFormed : Zone → Prop
  | .utc letter => letter ∈ ['Z', 'z']
  | .distance _ hours minutes => hours ≤ 23 ∧ minutes ≤ 59

variable {zone : Zone}

theorem text_distance (behind : Bool) {hours minutes : Nat} (hoursLe : hours ≤ 23)
    (minutesLe : minutes ≤ 59) :
    (distance behind hours minutes).text.toList =
      [if behind then '-' else '+', (hours / 10).digitChar, (hours % 10).digitChar, ':',
        (minutes / 10).digitChar, (minutes % 10).digitChar] := by
  have sign : (if behind then "-" else "+").toList = [if behind then '-' else '+'] := by
    cases behind <;> simp
  simp only [text, String.toList_append, Instant.toString_string, sign]
  rw [padded_two (by omega : hours < 100), padded_two (by omega : minutes < 100)]
  simp

theorem head?_text (wellFormed : zone.WellFormed) :
    ∃ first, zone.text.toList.head? = some first ∧ first.isDigit = false ∧ first ≠ '.' := by
  cases zone with
  | utc letter =>
      simp only [WellFormed, List.mem_cons, List.not_mem_nil, or_false] at wellFormed
      refine ⟨letter, by simp [text], ?_⟩
      rcases wellFormed with rfl | rfl <;> decide
  | distance behind hours minutes =>
      refine ⟨if behind then '-' else '+', ?_, ?_⟩
      · rw [text_distance behind wellFormed.1 wellFormed.2]
        rfl
      · cases behind <;> decide

theorem pairOf_digits {value : Nat} (small : value < 100) (rest : Chars) :
    pairOf ((value / 10).digitChar :: (value % 10).digitChar :: rest) = .ok (value, rest) := by
  rw [pairOf, twoDigits_eq 0 value small rfl rfl]
  rfl

theorem offsetOf_text (wellFormed : zone.WellFormed) :
    offsetOf zone.text.toList = .ok (zone.seconds, []) := by
  cases zone with
  | utc letter =>
      simp only [WellFormed, List.mem_cons, List.not_mem_nil, or_false] at wellFormed
      rcases wellFormed with rfl | rfl <;> rfl
  | distance behind hours minutes =>
      obtain ⟨hoursLe, minutesLe⟩ := wellFormed
      have inHour : ¬60 ≤ minutes := by omega
      have isDistance : distanceOf [(hours / 10).digitChar, (hours % 10).digitChar, ':',
          (minutes / 10).digitChar, (minutes % 10).digitChar] =
            .ok (hours * 3600 + minutes * 60, []) := by
        rw [distanceOf, pairOf_digits (by omega)]
        simp [pairOf_digits (by omega : minutes < 100), inHour, bind, Except.bind, pure, Except.pure]
      rw [text_distance behind hoursLe minutesLe]
      cases behind <;> simp [offsetOf, isDistance, seconds, bind, Except.bind, pure, Except.pure]

theorem offsetInRange_seconds (wellFormed : zone.WellFormed) :
    offsetInRange zone.seconds = true := by
  cases zone with
  | utc letter => rfl
  | distance behind hours minutes =>
      obtain ⟨hoursLe, minutesLe⟩ := wellFormed
      cases behind <;> simp [offsetInRange, seconds] <;> omega

end Zone

/-- A date and a clock, a fraction of a second of any length, and the zone of the clock. -/
structure Stamp where
  year : Nat
  month : Nat
  day : Nat
  separator : Char
  hour : Nat
  minute : Nat
  second : Nat
  fraction : Chars
  zone : Zone
deriving DecidableEq, Repr

namespace Stamp

def text (stamp : Stamp) : String :=
  s!"{padded 4 stamp.year}-{padded 2 stamp.month}-{padded 2 stamp.day}{stamp.separator}" ++
    s!"{padded 2 stamp.hour}:{padded 2 stamp.minute}:{padded 2 stamp.second}" ++
    String.ofList (if stamp.fraction.isEmpty then [] else '.' :: stamp.fraction) ++ stamp.zone.text

/-- The second since 1970 that the moment falls into. -/
def seconds (stamp : Stamp) : Int :=
  Date.toDays ⟨stamp.year, stamp.month, stamp.day⟩ * secondsPerDay +
    (stamp.hour * 3600 + stamp.minute * 60 + stamp.second : Nat) - stamp.zone.seconds

/-- No leap second is shown. -/
structure WellFormed (stamp : Stamp) : Prop where
  years : stamp.year ≤ 9999
  valid : Date.isValid ⟨stamp.year, stamp.month, stamp.day⟩ = true
  separates : stamp.separator ∈ ['T', 't', ' ']
  hours : stamp.hour ≤ 23
  minutes : stamp.minute ≤ 59
  seconds : stamp.second ≤ 59
  fraction : AreDigits stamp.fraction
  zone : stamp.zone.WellFormed

variable {stamp : Stamp}

theorem text_toList (wellFormed : stamp.WellFormed) :
    stamp.text.toList =
      written stamp.separator stamp.year stamp.month stamp.day stamp.hour stamp.minute
        stamp.second ++ ((if stamp.fraction.isEmpty then [] else '.' :: stamp.fraction) ++
          stamp.zone.text.toList) := by
  have month : stamp.month ≤ 12 := Date.month_le wellFormed.valid
  have day : stamp.day ≤ 31 := Date.day_le wellFormed.valid
  have separator : (toString stamp.separator).toList = [stamp.separator] := by
    simp [toString]
  have years := wellFormed.years
  have hours := wellFormed.hours
  have minutes := wellFormed.minutes
  have seconds := wellFormed.seconds
  simp only [text, String.toList_append, Instant.toString_string, separator]
  rw [padded_four (by omega), padded_two (by omega : stamp.month < 100),
    padded_two (by omega : stamp.day < 100), padded_two (by omega : stamp.hour < 100),
    padded_two (by omega : stamp.minute < 100), padded_two (by omega : stamp.second < 100)]
  simp [written]

/-- The text is read as a moment in that second. -/
theorem rfc3339_text (wellFormed : stamp.WellFormed)
    (inRange : (Date.ofDays (stamp.seconds / secondsPerDay)).inRange = true) :
    ∃ nanos < 1000000000, rfc3339 stamp.text.toList = .ok ⟨stamp.seconds, nanos⟩ := by
  obtain ⟨first, isFirst, noDigit, noPoint⟩ := Zone.head?_text wellFormed.zone
  have ends : EndsDigits stamp.zone.text.toList := by
    intro char isChar
    rw [isFirst, Option.some.injEq] at isChar
    exact isChar ▸ noDigit
  obtain ⟨nanos, few, isFraction⟩ := fractionOf_append wellFormed.fraction ends
    (isFirst ▸ mt Option.some.inj noPoint)
  have separates : isDateEnd stamp.separator = true := by
    have member := wellFormed.separates
    simpa [isDateEnd, or_assoc] using member
  have dateInRange : Date.inRange ⟨stamp.year, stamp.month, stamp.day⟩ = true := by
    have years := wellFormed.years
    simp [Date.inRange, Date.leastYear, Date.greatestYear]
    omega
  have seconds := wellFormed.seconds
  refine ⟨nanos, few, ?_⟩
  rw [text_toList wellFormed]
  refine rfc3339_written wellFormed.years wellFormed.valid separates wellFormed.hours
    wellFormed.minutes (by omega) isFraction (Zone.offsetOf_text wellFormed.zone)
    (Zone.offsetInRange_seconds wellFormed.zone) ?_
  have noLeap : stamp.second ≠ 60 := by omega
  have atMost : stamp.second ≤ 60 := by omega
  simp only [Stamp.seconds] at inRange ⊢
  simp [instant?, within?, wellFormed.hours, wellFormed.minutes, atMost, wellFormed.valid,
    dateInRange, noLeap]
  exact inRange

end Stamp

end TimeText

end Triage
