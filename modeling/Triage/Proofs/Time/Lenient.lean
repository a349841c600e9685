import Triage.Proofs.Parameter.Normalization
import Triage.Proofs.Time.Stamp

namespace Triage

/-! ## Moments of a document

They are written to the nanosecond and read leniently. -/

namespace Instant

/-- Only the last second of a minute is lengthened, and by one second at most. -/
def WellFormed (instant : Instant) : Prop :=
  instant.nanos < 1000000000 ∨
    (instant.nanos < 2000000000 ∧ instant.secondOfDay % 60 = 59)

instance (instant : Instant) : Decidable instant.WellFormed :=
  inferInstanceAs (Decidable (_ ∨ _))

theorem WellFormed.nanos_lt {instant : Instant} (wellFormed : instant.WellFormed) :
    instant.nanos < 2000000000 := by
  rcases wellFormed with few | ⟨bounded, -⟩ <;> omega

end Instant

namespace TimeText

open Decimal

variable {rest : Chars}

/-- The digits that are missing from nine are zeros. -/
theorem nanos?_padded {width value : Nat} (positive : 0 < width) (few : width ≤ 9)
    (fits : value < 10 ^ width) (ends : EndsDigits rest) :
    nanos? ((padded width value).toList ++ rest) = some (value * 10 ^ (9 - width), rest) := by
  have length := length_padded fits positive
  have isRead := digits?_append (areDigits_padded width value) Nat.one_pos (by omega)
    (by omega : _ ≤ 9) (.inr ends)
  have taken : ((padded width value).toList ++ rest).length - rest.length = width := by
    rw [List.length_append, length]
    omega
  rw [ofDigitChars_padded] at isRead
  simp only [nanos?, isRead, Option.bind_eq_bind, Option.bind_some, taken,
    dropWhile_of_endsDigits ends]
  rfl

theorem optionalNanos?_fractionText (instant : Instant) :
    optionalNanos? (instant.fractionText.toList ++ ['Z']) = some (instant.fraction, ['Z']) := by
  have ends : EndsDigits ['Z'] := by
    intro char isFirst
    cases isFirst
    rfl
  have point : ".".toList = ['.'] := by simp
  have below : instant.fraction < 1000000000 := Nat.mod_lt _ (by omega)
  unfold Instant.fractionText
  dsimp only
  split
  · next isWhole => rw [isWhole]; rfl
  split
  · next thousandths =>
    have whole : instant.fraction / 1000000 * 10 ^ (9 - 3) = instant.fraction := by omega
    rw [String.toList_append, point, List.append_assoc, List.singleton_append, optionalNanos?,
      nanos?_padded (by omega) (by omega) (by omega) ends, whole]
  split
  · next millionths =>
    have whole : instant.fraction / 1000 * 10 ^ (9 - 6) = instant.fraction := by omega
    rw [String.toList_append, point, List.append_assoc, List.singleton_append, optionalNanos?,
      nanos?_padded (by omega) (by omega) (by omega) ends, whole]
  · have whole : instant.fraction * 10 ^ (9 - 9) = instant.fraction := by omega
    rw [String.toList_append, point, List.append_assoc, List.singleton_append, optionalNanos?,
      nanos?_padded (by omega) (by omega) (by omega) ends, whole]

variable {instant : Instant}

theorem toText_toList (plain : instant.InPlainYear) :
    instant.toText.toList =
      (padded 4 instant.date.year.toNat).toList ++ '-' :: ((padded 2 instant.date.month).toList ++
        '-' :: ((padded 2 instant.date.day).toList ++ 'T' :: ((padded 2 instant.hour).toList ++
          ':' :: ((padded 2 instant.minute).toList ++ ':' :: ((padded 2 instant.second).toList ++
            (instant.fractionText.toList ++ ['Z'])))))) := by
  have isPlain : 0 ≤ instant.date.year ∧ instant.date.year ≤ 9999 := plain
  simp only [Instant.toText, Instant.dateText, Instant.clockText, yearText,
    Instant.toString_string, String.toList_append, if_pos isPlain]
  simp

/-- The clock, the fraction and a lengthened second add up to the moment again. -/
theorem instant?_self (wellFormed : instant.WellFormed) (plain : instant.InPlainYear) :
    instant? instant.date instant.hour instant.minute instant.second instant.fraction 0 =
      some instant := by
  have bounded := wellFormed.nanos_lt
  have ofMinute : instant.secondOfDay % 60 ≤ 59 := by omega
  have second : min instant.second 59 = instant.secondOfDay % 60 := by
    unfold Instant.second
    rcases wellFormed with few | ⟨-, isLast⟩ <;> omega
  have nanos : (if instant.second = 60 then instant.fraction + 1000000000 else instant.fraction) =
      instant.nanos := by
    unfold Instant.second Instant.fraction
    rcases wellFormed with few | ⟨-, isLast⟩ <;> split <;> omega
  have together := instant?_ofDays instant.fraction (Instant.inRange_of_plain plain)
    instant.hour_le instant.minute_le (Instant.second_le bounded)
  rw [second, nanos, Instant.ofClock_self] at together
  exact together

theorem lenient?_toText (wellFormed : instant.WellFormed) (plain : instant.InPlainYear) :
    lenient? instant.toText.toList = some instant := by
  have valid : instant.date.isValid = true := Date.isValid_ofDays _
  have month := Date.month_le valid
  have day := Date.day_le valid
  have hour := instant.hour_le
  have minute := instant.minute_le
  have second : instant.second < 100 :=
    Nat.lt_of_le_of_lt (Instant.second_le wellFormed.nanos_lt) (by omega)
  have years : instant.date.year.toNat ≤ 9999 := by
    have atMost := plain.2
    omega
  have isYear : ((instant.date.year.toNat : Nat) : Int) = instant.date.year :=
    Int.toNat_of_nonneg plain.1
  have dash (rest : Chars) : expect? '-' (Chars.trimStart ('-' :: rest)) = some rest := rfl
  have colon (rest : Chars) : expect? ':' (Chars.trimStart (':' :: rest)) = some rest := rfl
  have isEnd : isDateEnd 'T' = true := rfl
  have solid : Chars.trimStart ['Z'] = ['Z'] := rfl
  have notNamed : ((['Z'].take 3).map Char.toUpper == ['U', 'T', 'C']) = false := rfl
  have isUtc : offset? (fun chars => some (chars.dropWhile isOffsetSeparator)) ['Z'] =
      some (0, []) := rfl
  have near : (!List.all [] Text.isBlank || decide (secondsPerDay ≤ (0 : Int).natAbs)) = false :=
    rfl
  -- A part reduces once the one before it is read; to open all of them at once takes too long.
  have goesOn {α β : Type} (value : α) (next : α → Option β) : (some value >>= next) = next value :=
    rfl
  rw [toText_toList plain, lenient?, year?_padded years]
  simp only [goesOn, dash, colon, number?_padded (by omega : instant.date.month < 100),
    number?_padded (by omega : instant.date.day < 100),
    number?_padded (by omega : instant.hour < 100),
    number?_padded (by omega : instant.minute < 100), number?_padded second,
    optionalNanos?_fractionText, isEnd, solid, notNamed, isUtc, isYear, near, if_true,
    Bool.false_eq_true, if_false]
  exact instant?_self wellFormed plain

end TimeText

end Triage
