import Triage.Proofs.Text.Chars
import Triage.Text.Case

namespace Triage

namespace Chars

variable {chars : Chars}

/-! ## Folding names in plain letters -/

theorem lowerAfter_of_ascii {before : Chars} (ascii : ∀ char ∈ chars, char.toNat < 0x80) :
    lowerAfter before chars = chars.map Char.toLower := by
  induction chars generalizing before with
  | nil => rfl
  | cons char rest induction =>
      have small := ascii char List.mem_cons_self
      have notSigma : char ≠ 'Σ' := by
        rintro rfl
        exact absurd small (by decide)
      rw [lowerAfter, induction fun other member => ascii other (List.mem_cons_of_mem _ member)]
      simp [notSigma, Text.lowerChars, small]

end Chars

namespace Text

variable {text : String} {separator : Char}

theorem containsChar_afterLast (separator : Char) (text : String) :
    containsChar separator (afterLast separator text) = false := by
  have pieces : split separator text ≠ [] :=
    mt List.map_eq_nil_iff.mp Chars.splitWhere_ne_nil
  have last : afterLast separator text ∈ split separator text := by
    rw [afterLast, List.getLastD_eq_getLast?, List.getLast?_eq_getLast_of_ne_nil pieces]
    exact List.getLast_mem pieces
  rcases List.mem_map.mp last with ⟨piece, member, same⟩
  have apart := Chars.separates_of_mem_splitWhere member
  rw [← same, containsChar, String.toList_ofList]
  simpa using fun inPiece => absurd (apart separator inPiece) (by simp)

theorem afterLast_of_not_containsChar (whole : containsChar separator text = false) :
    afterLast separator text = text := by
  have absent : separator ∉ text.toList := by simpa [containsChar] using whole
  have onePiece : Chars.split separator text.toList = [text.toList] :=
    Chars.splitWhere_of_none fun char member =>
      beq_false_of_ne fun same => absent (same ▸ member)
  rw [afterLast, split, onePiece]
  simp

theorem plain_of_toLower {char small : Char} (same : char.toLower = small)
    (ascii : small.toNat < 0x80) (solid : isBlank small = false) :
    char.toNat < 0x80 ∧ isBlank char = false := by
  by_cases capital : 'A' ≤ char ∧ char ≤ 'Z'
  · have low : 65 ≤ char.toNat := capital.1
    have high : char.toNat ≤ 90 := capital.2
    have solid : ∀ code, code ≤ 90 → 65 ≤ code → blanks.contains code = false := by decide
    exact ⟨by omega, solid _ high low⟩
  · have unchanged : char.toLower = char := dif_neg capital
    rw [← same, unchanged] at ascii solid
    exact ⟨ascii, solid⟩

/-- A name in small ASCII letters is also what its spellings in capitals stand for. -/
theorem fold_of_map_toLower {name : String}
    (plain : ∀ char ∈ text.toList, char.toNat < 0x80 ∧ isBlank char = false)
    (same : name.toList.map Char.toLower = text.toList) : fold name = text := by
  have chars : ∀ char ∈ name.toList, char.toNat < 0x80 ∧ isBlank char = false := by
    intro char member
    have image := plain char.toLower (same ▸ List.mem_map_of_mem member)
    exact plain_of_toLower rfl image.1 image.2
  have trimmed : Chars.trim name.toList = name.toList :=
    Chars.trim_of_no_blank fun char member => (chars char member).2
  rw [fold, trim, trimmed, lower, String.toList_ofList, Chars.lower,
    Chars.lowerAfter_of_ascii fun char member => (chars char member).1, same, String.ofList_toList]

end Text

end Triage
