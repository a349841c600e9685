import Triage.Files.Path
import Triage.Proofs.Text.Words
import Triage.Proofs.Time.Reader
import Triage.Report.File
import Triage.Run.Engine

namespace Triage

namespace Text

/-- What stands behind the last separator. -/
theorem afterLast_append {separator : Char} {text rest : String} (whole : separator ∉ rest.toList) :
    afterLast separator (text ++ String.singleton separator ++ rest) = rest := by
  have wholeRest : ∀ char ∈ rest.toList, (char == separator) = false := by
    intro char isMember
    simp only [beq_eq_false_iff_ne]
    exact fun isSeparator => whole (isSeparator ▸ isMember)
  have isText : (text ++ String.singleton separator ++ rest).toList =
      text.toList ++ separator :: rest.toList := by
    simp
  have isLast : Chars.split separator rest.toList = [rest.toList] :=
    Chars.splitWhere_of_none wholeRest
  rw [afterLast, split, isText, Chars.split_append_cons, isLast]
  simp

end Text

namespace FileName

variable {text : String} {char : Char}

theorem not_isAwkward (isMember : char ∈ (sanitize text).toList) : isAwkward char = false := by
  have underscore : isAwkward '_' = false := by decide
  simp only [sanitize, String.toList_ofList, sanitizeChars, List.mem_map] at isMember
  obtain ⟨before, -, rfl⟩ := isMember
  split
  · exact underscore
  · next plain => simpa using plain

theorem sanitize_of_plain (plain : ∀ char ∈ text.toList, isAwkward char = false) :
    sanitize text = text := by
  have solid : ∀ char ∈ text.toList, Text.isBlank char = false := by
    intro char isMember
    have isPlain := plain char isMember
    simp only [isAwkward, Bool.or_eq_false_iff] at isPlain
    exact isPlain.2
  have same : text.toList.map (fun char => if isAwkward char then '_' else char) = text.toList := by
    conv_rhs => rw [← List.map_id text.toList]
    exact List.map_congr_left fun char isMember => by simp [plain char isMember]
  rw [sanitize, sanitizeChars, Chars.trim_of_no_blank solid, same, String.ofList_toList]

end FileName

namespace Report

open FileName

/-! ## The parts of a name -/

/-- What a file name ends in: the moment, field by field, and the end of the run id. -/
def nameFields (moment : Instant) (suffix : String) : List String :=
  [yearText moment.date.year, padded 2 moment.date.month, padded 2 moment.date.day,
    padded 2 moment.hour, padded 2 moment.minute, padded 2 moment.second, "UTC", suffix ++ ".json"]

theorem length_nameFields (moment : Instant) (suffix : String) :
    (nameFields moment suffix).length = 8 := rfl

theorem getLast?_nameFields (moment : Instant) (suffix : String) :
    (nameFields moment suffix).getLast? = some (suffix ++ ".json") := rfl

theorem name_toList (runbook year month day hour minute second suffix : String) :
    let moment := Text.join "_" [year, month, day, hour, minute, second]
    (s!"runbook_report_{runbook}_{moment}_UTC_{suffix}.json").toList =
      "runbook_report_".toList ++ runbook.toList ++
        '_' :: Chars.join ['_']
          ([year, month, day, hour, minute, second, "UTC", suffix ++ ".json"].map String.toList) := by
  simp only [Text.join, Instant.toString_string, String.toList_append, String.toList_ofList,
    List.map_cons, List.map_nil, Chars.join]
  simp

theorem fileName_toList (runbook runId : String) (moment : Instant) :
    (fileName runbook runId moment).toList =
      "runbook_report_".toList ++ (sanitize runbook).toList ++
        '_' :: Chars.join ['_']
          ((nameFields moment (sanitize (Text.afterLast '-' runId))).map String.toList) :=
  name_toList ..

theorem mem_yearText {year : Int} {char : Char} (isMember : char ∈ (yearText year).toList) :
    char.isDigit = true ∨ char = '-' ∨ char = '+' := by
  unfold yearText at isMember
  split at isMember
  · exact .inl (areDigits_padded 4 _ char isMember)
  · rw [String.toList_append, List.mem_append] at isMember
    rcases isMember with isSign | isDigit
    · split at isSign <;> simp at isSign <;> simp [isSign]
    · exact .inl (areDigits_padded 4 _ char isDigit)

/-- A field is a number, or the name of the time zone, or ends the name. -/
theorem mem_nameFields {moment : Instant} {suffix : String} {field : String} {char : Char}
    (isField : field ∈ nameFields moment suffix) (isMember : char ∈ field.toList) :
    char.isDigit = true ∨ char ∈ "-+UTC.json".toList ∨ char ∈ suffix.toList := by
  have digits (width value : Nat) (isMember : char ∈ (padded width value).toList) :
      char.isDigit = true ∨ char ∈ "-+UTC.json".toList ∨ char ∈ suffix.toList :=
    .inl (areDigits_padded width value char isMember)
  simp only [nameFields, List.mem_cons, List.not_mem_nil, or_false] at isField
  rcases isField with rfl | rfl | rfl | rfl | rfl | rfl | rfl | rfl
  · rcases mem_yearText isMember with isDigit | rfl | rfl
    · exact .inl isDigit
    · exact .inr (.inl (by decide))
    · exact .inr (.inl (by decide))
  · exact digits _ _ isMember
  · exact digits _ _ isMember
  · exact digits _ _ isMember
  · exact digits _ _ isMember
  · exact digits _ _ isMember
  · have letters : "UTC".toList.Sublist "-+UTC.json".toList := by decide
    exact .inr (.inl (letters.mem isMember))
  · have letters : ".json".toList.Sublist "-+UTC.json".toList := by decide
    rw [String.toList_append, List.mem_append] at isMember
    rcases isMember with inSuffix | inEnding
    · exact .inr (.inr inSuffix)
    · exact .inr (.inl (letters.mem inEnding))

/-- No part of a name leads into another directory. -/
theorem slash_not_mem_fileName {slash : Char} (isSlash : slash = '/' ∨ slash = '\\')
    (runbook runId : String) (moment : Instant) :
    slash ∉ (fileName runbook runId moment).toList := by
  have awkward : isAwkward slash = true := by rcases isSlash with rfl | rfl <;> decide
  have noDigit : slash.isDigit = false := by rcases isSlash with rfl | rfl <;> decide
  have noStart : slash ∉ "runbook_report_".toList := by rcases isSlash with rfl | rfl <;> decide
  have noMark : slash ∉ "-+UTC.json".toList := by rcases isSlash with rfl | rfl <;> decide
  have noUnderscore : slash ≠ '_' := by rcases isSlash with rfl | rfl <;> decide
  have notSanitized (text : String) : slash ∉ (sanitize text).toList := by
    intro isMember
    rw [not_isAwkward isMember] at awkward
    cases awkward
  rw [fileName_toList]
  intro isMember
  rw [List.mem_append, List.mem_append, List.mem_cons] at isMember
  rcases isMember with (inStart | inRunbook) | isUnderscore | inFields
  · exact noStart inStart
  · exact notSanitized _ inRunbook
  · exact noUnderscore isUnderscore
  · rcases Chars.mem_join inFields with isUnderscore | ⟨field, isField, inField⟩
    · exact noUnderscore (List.mem_singleton.mp isUnderscore)
    · obtain ⟨text, isText, rfl⟩ := List.mem_map.mp isField
      rcases mem_nameFields isText inField with isDigit | isMark | inSuffix
      · rw [noDigit] at isDigit
        cases isDigit
      · exact noMark isMark
      · exact notSanitized _ inSuffix

/-! ## Names of different runs -/

/-- The end of a run id as the engine makes it: eight lower-case hexadecimal digits. -/
def IsSuffix (suffix : String) : Prop :=
  suffix.length = 8 ∧ ∀ char ∈ suffix.toList, char ∈ "0123456789abcdef".toList

variable {runbook other suffix otherSuffix : String}

theorem sanitize_afterLast (isSuffix : IsSuffix suffix) :
    sanitize (Text.afterLast '-' (Engine.runId runbook suffix)) = suffix := by
  have digits : ("0123456789abcdef".toList.all fun char => !isAwkward char) = true := by decide
  have plain : ∀ char ∈ suffix.toList, isAwkward char = false := fun char isMember => by
    simpa using List.all_eq_true.mp digits char (isSuffix.2 char isMember)
  have noMinus : '-' ∉ suffix.toList := fun isMember => by
    have isPlain := plain '-' isMember
    cases isPlain
  have isId : Engine.runId runbook suffix = sanitize runbook ++ String.singleton '-' ++ suffix := rfl
  rw [isId, Text.afterLast_append noMinus, sanitize_of_plain plain]

theorem underscore_not_mem_nameFields (isSuffix : IsSuffix suffix) (moment : Instant) :
    ∀ field ∈ (nameFields moment suffix).map String.toList, '_' ∉ field := by
  have noMark : '_' ∉ "-+UTC.json".toList := by decide
  have noHex : '_' ∉ "0123456789abcdef".toList := by decide
  intro field isField isMember
  obtain ⟨text, isText, rfl⟩ := List.mem_map.mp isField
  rcases mem_nameFields isText isMember with isDigit | isMark | inSuffix
  · cases isDigit
  · exact noMark isMark
  · exact noHex (isSuffix.2 _ inSuffix)

/-- Runs with different ids are filed under different names, whenever they are over. -/
theorem fileName_inj (isSuffix : IsSuffix suffix) (isOther : IsSuffix otherSuffix)
    {moment otherMoment : Instant}
    (same : fileName runbook (Engine.runId runbook suffix) moment =
      fileName other (Engine.runId other otherSuffix) otherMoment) :
    Engine.runId runbook suffix = Engine.runId other otherSuffix := by
  have sameText := congrArg String.toList same
  rw [fileName_toList, fileName_toList, sanitize_afterLast isSuffix, sanitize_afterLast isOther]
    at sameText
  have someField : (nameFields moment suffix).map String.toList ≠ [] := List.cons_ne_nil _ _
  have sameLength : ((nameFields moment suffix).map String.toList).length =
      ((nameFields otherMoment otherSuffix).map String.toList).length := by
    rw [List.length_map, List.length_map, length_nameFields, length_nameFields]
  obtain ⟨sameStart, sameFields⟩ := Chars.append_join_inj someField sameLength
    (underscore_not_mem_nameFields isSuffix moment)
    (underscore_not_mem_nameFields isOther otherMoment) sameText
  have sameRunbook : sanitize runbook = sanitize other :=
    String.toList_inj.mp (List.append_cancel_left sameStart)
  have sameSuffix : suffix = otherSuffix := by
    have sameEnding := congrArg List.getLast? sameFields
    rw [List.getLast?_map, List.getLast?_map, getLast?_nameFields, getLast?_nameFields] at sameEnding
    simpa [String.toList_inj] using sameEnding
  rw [Engine.runId, Engine.runId, sameRunbook, sameSuffix]

theorem join_fileName (directory runbook runId : String) (moment : Instant) :
    ∃ slash ∈ ["", "/"], Path.join directory (fileName runbook runId moment) =
      directory ++ slash ++ fileName runbook runId moment := by
  have relative : Path.isAbsolute (fileName runbook runId moment).toList = false := by
    rw [fileName_toList]
    rfl
  rw [Path.join, Path.below, if_neg (by rw [relative]; exact Bool.false_ne_true)]
  split
  · exact ⟨"", by simp, by simp⟩
  · exact ⟨"/", by simp, by simp [← String.toList_inj]⟩

/-- No two runs share a file, whenever they are over, and no file is anywhere but in the
directory for reports. -/
theorem fileName_apart :
    (∀ (runbook other suffix otherSuffix : String) (moment otherMoment : Instant),
      IsSuffix suffix → IsSuffix otherSuffix →
      Engine.runId runbook suffix ≠ Engine.runId other otherSuffix →
      fileName runbook (Engine.runId runbook suffix) moment ≠
        fileName other (Engine.runId other otherSuffix) otherMoment) ∧
    (∀ (directory runbook runId : String) (moment : Instant),
      '/' ∉ (fileName runbook runId moment).toList ∧
      '\\' ∉ (fileName runbook runId moment).toList ∧
      ∃ slash ∈ ["", "/"], Path.join directory (fileName runbook runId moment) =
        directory ++ slash ++ fileName runbook runId moment) :=
  ⟨fun _ _ _ _ _ _ isSuffix isOther apart same => apart (fileName_inj isSuffix isOther same),
    fun directory runbook runId moment => ⟨slash_not_mem_fileName (.inl rfl) runbook runId moment,
      slash_not_mem_fileName (.inr rfl) runbook runId moment,
      join_fileName directory runbook runId moment⟩⟩

/-- One runbook may be named like the moment that another one is over. -/
theorem fileName_apart_moment :
    fileName "a/b" (Engine.runId "a/b" "1a2b3c4d") ⟨0, 0⟩ ≠
      fileName "a/b-1970-01-01" (Engine.runId "a/b-1970-01-01" "1a2b3c4d") ⟨0, 0⟩ := by
  have apart : Engine.runId "a/b" "1a2b3c4d" ≠ Engine.runId "a/b-1970-01-01" "1a2b3c4d" := by
    decide
  exact fileName_apart.1 _ _ _ _ _ _ ⟨rfl, by simp⟩ ⟨rfl, by simp⟩ apart

end Report

end Triage
