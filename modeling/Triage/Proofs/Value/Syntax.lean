import Mathlib.Data.List.DropRight
import Triage.Proofs.Number.Numeral
import Triage.Value.Syntax

namespace Triage

namespace Json

/-! ## Spaces -/

variable {spaces chars rest : Chars} {fuel : Nat}

theorem skipSpace_append (areSpaces : ∀ char ∈ spaces, isSpace char = true) (chars : Chars) :
    skipSpace (spaces ++ chars) = skipSpace chars :=
  List.dropWhile_append_of_pos areSpaces

theorem skipSpace_cons {first : Char} (solid : isSpace first = false) (rest : Chars) :
    skipSpace (first :: rest) = first :: rest := by
  simp [skipSpace, solid]

theorem isSpace_newLine (level : Nat) : ∀ char ∈ newLine level, isSpace char = true := by
  intro char isMember
  rcases List.mem_cons.mp isMember with rfl | isBlank
  · rfl
  · rw [(List.mem_replicate.mp isBlank).2]
    rfl

theorem readNode_append (areSpaces : ∀ char ∈ spaces, isSpace char = true) (fuel : Nat)
    (chars : Chars) : readNode fuel (spaces ++ chars) = readNode fuel chars := by
  cases fuel with
  | zero => rfl
  | succ fuel => simp only [readNode, skipSpace_append areSpaces]

/-! ## Strings -/

theorem hexValue?_hexDigit : ∀ value < 16, hexValue? (hexDigit value) = some value := by
  decide

theorem hexUnit?_small {value : Nat} (small : value < 256) (rest : Chars) :
    hexUnit? ('0' :: '0' :: hexDigit (value / 16) :: hexDigit (value % 16) :: rest) =
      some (value, rest) := by
  have zero : hexValue? '0' = some 0 := rfl
  have whole : value / 16 * 16 + value % 16 = value := by omega
  simp [hexUnit?, zero, hexValue?_hexDigit (value / 16) (by omega),
    hexValue?_hexDigit (value % 16) (by omega), whole]

theorem readString_plain {char : Char} (noQuote : char ≠ '"') (noBackslash : char ≠ '\\')
    (visible : 0x20 ≤ char.toNat) (text : Chars) (fuel : Nat) (rest : Chars) :
    readString (some text) (fuel + 1) (char :: rest) =
      readString (some (char :: text)) fuel rest := by
  have isVisible : ¬char.toNat < 0x20 := by omega
  rw [readString.eq_def]
  simp [noBackslash, isVisible]

/-- A character is read back from what is printed for it. -/
theorem readString_escapeChar (char : Char) (text : Chars) (fuel : Nat) (rest : Chars) :
    readString (some text) (fuel + 1) (escapeChar char ++ rest) =
      readString (some (char :: text)) fuel rest := by
  unfold escapeChar
  simp only [beq_iff_eq]
  split
  · next isQuote => rw [isQuote]; rfl
  split
  · next isBackslash => rw [isBackslash]; rfl
  split
  · next isFeed => rw [isFeed]; rfl
  split
  · next isReturn => rw [isReturn]; rfl
  split
  · next isTab => rw [isTab]; rfl
  split
  · next isBackspace => rw [isBackspace]; rfl
  split
  · next isPage => rw [isPage]; rfl
  split
  · next isControl =>
    have unit := hexUnit?_small (by omega : char.toNat < 256) rest
    have noPair : ¬(0xD800 ≤ char.toNat ∧ char.toNat < 0xDC00) := by omega
    have noHalf : ¬(0xDC00 ≤ char.toNat ∧ char.toNat < 0xE000) := by omega
    simp only [List.cons_append, List.nil_append, readString, unit]
    simp [noPair, noHalf, Char.ofNat_toNat]
  · next noQuote noBackslash _ _ _ _ _ visible =>
    exact readString_plain noQuote noBackslash (by omega) text fuel rest

theorem length_escapeChar (char : Char) : 0 < (escapeChar char).length := by
  unfold escapeChar
  repeat' split
  all_goals simp

theorem readString_escaped (chars : Chars) {text : Chars} {fuel : Nat}
    (enough : (chars.flatMap escapeChar).length < fuel) :
    readString (some text) fuel (chars.flatMap escapeChar ++ '"' :: rest) =
      some (some (text.reverse ++ chars), rest) := by
  induction chars generalizing text fuel with
  | nil =>
      obtain ⟨fuel, rfl⟩ := Nat.exists_eq_succ_of_ne_zero (by omega : fuel ≠ 0)
      simp [readString]
  | cons char chars ih =>
      obtain ⟨fuel, rfl⟩ := Nat.exists_eq_succ_of_ne_zero (by omega : fuel ≠ 0)
      have positive := length_escapeChar char
      rw [List.flatMap_cons, List.length_append] at enough
      rw [List.flatMap_cons, List.append_assoc, readString_escapeChar, ih (by omega),
        List.reverse_cons, List.append_assoc, List.singleton_append]

theorem quoted_append (text : String) (rest : Chars) :
    quoted text ++ rest = '"' :: (text.toList.flatMap escapeChar ++ '"' :: rest) := by
  simp [quoted]

theorem readKey_quoted {key : String} (spaced : ∀ char ∈ spaces, isSpace char = true)
    (enough : (quoted key).length ≤ fuel) (rest : Chars) :
    readKey fuel (spaces ++ (quoted key ++ ':' :: rest)) = some (key, rest) := by
  have few : (key.toList.flatMap escapeChar).length < fuel := by
    simp only [quoted, List.length_cons, List.length_append] at enough
    omega
  rw [readKey, skipSpace_append spaced, quoted_append, skipSpace_cons rfl]
  simp [readString_escaped _ few, skipSpace_cons (rfl : isSpace ':' = false)]

/-! ## Numbers -/

/-- Nothing in front belongs to a number. -/
def EndsNumber (rest : Chars) : Prop :=
  ∀ char, rest.head? = some char → char.isDigit = false ∧ char ∉ ['.', 'e', 'E']

theorem endsNumber_nil : EndsNumber [] :=
  fun _ isFirst => nomatch isFirst

theorem endsNumber_cons {first : Char} (noDigit : first.isDigit = false)
    (noMark : first ∉ ['.', 'e', 'E']) (rest : Chars) : EndsNumber (first :: rest) := by
  intro char isFirst
  cases isFirst
  exact ⟨noDigit, noMark⟩

theorem readPart_of_endsNumber {marks : Chars} (areMarks : marks ⊆ ['.', 'e', 'E']) (signed : Bool)
    (ends : EndsNumber rest) : readPart marks signed rest = some ([], rest) := by
  cases rest with
  | nil => rfl
  | cons first others =>
      have noMark : first ∉ marks := fun isMark => (ends first rfl).2 (areMarks isMark)
      simp [readPart, noMark]

open Decimal

/-- Only zero begins with a zero. -/
theorem length_of_leading_zero {value : Nat} (leads : (Nat.toDigits 10 value).head? = some '0') :
    (Nat.toDigits 10 value).length ≤ 1 := by
  obtain ⟨others, isDigits⟩ := List.head?_eq_some_iff.mp leads
  cases others with
  | nil => simp [isDigits]
  | cons second others =>
      have areDigits := areDigits_toDigits value
      have isValue : Nat.ofDigitChars 10 (Nat.toDigits 10 value) 0 = value :=
        Nat.ofDigitChars_ten_toDigits
      rw [isDigits] at areDigits isValue
      have small := ofDigitChars_lt fun char isMember =>
        areDigits char (List.mem_cons_of_mem '0' isMember)
      rw [Nat.ofDigitChars_cons] at isValue
      have fits := (Nat.length_toDigits_le_iff (by omega) (by simp)).mpr (isValue ▸ small)
      simp only [isDigits, List.length_cons] at fits
      omega

theorem takeDigits_append {digits : Chars} (areDigits : AreDigits digits) (ends : EndsNumber rest) :
    takeDigits (digits ++ rest) = (digits, rest) := by
  have endsDigits : EndsDigits rest := fun char isFirst => (ends char isFirst).1
  rw [takeDigits, List.takeWhile_append_of_pos areDigits, List.dropWhile_append_of_pos areDigits,
    takeWhile_of_endsDigits endsDigits, dropWhile_of_endsDigits endsDigits, List.append_nil]

theorem readNumber_numeral (number : Int) (ends : EndsNumber rest) :
    readNumber ((toString number).toList ++ rest) = some ((toString number).toList, rest) := by
  have areDigits := areDigits_toDigits number.natAbs
  have taken := takeDigits_append areDigits ends
  have noFraction := @readPart_of_endsNumber rest ['.'] (by simp) false ends
  have noExponent := @readPart_of_endsNumber rest ['e', 'E'] (by simp) true ends
  have notLong : (Nat.toDigits 10 number.natAbs).head? = some '0' →
      (Nat.toDigits 10 number.natAbs).length ≤ 1 := length_of_leading_zero
  rw [numeral_toList]
  by_cases negative : number < 0
  · simp only [negative, if_true, List.cons_append, readNumber, taken]
    simp [Nat.toDigits_ne_nil, noFraction, noExponent]
    exact notLong
  · obtain ⟨first, others, isDigits⟩ := List.exists_cons_of_ne_nil
      (Nat.toDigits_ne_nil : Nat.toDigits 10 number.natAbs ≠ [])
    have noMinus : first ≠ '-' := ne_of_isDigit (areDigits first (by simp [isDigits])) rfl
    rw [isDigits] at taken notLong ⊢
    rw [List.cons_append] at taken
    simp [negative, readNumber, taken, noMinus, noFraction, noExponent]
    simpa using notLong

theorem numeral_eq_cons (number : Int) : ∃ first others,
    (toString number).toList = first :: others ∧ (first = '-' ∨ first.isDigit = true) := by
  rw [numeral_toList]
  by_cases negative : number < 0
  · exact ⟨'-', _, if_pos negative, .inl rfl⟩
  · obtain ⟨first, others, isDigits⟩ := List.exists_cons_of_ne_nil
      (Nat.toDigits_ne_nil : Nat.toDigits 10 number.natAbs ≠ [])
    refine ⟨first, others, ?_, .inr ?_⟩
    · rw [if_neg negative, isDigits]
    · exact areDigits_toDigits number.natAbs first (by simp [isDigits])

/-- A sign or a digit is no other character. -/
theorem ne_of_starts {first other : Char} (starts : first = '-' ∨ first.isDigit = true)
    (noMinus : other ≠ '-') (noDigit : other.isDigit = false) : first ≠ other := by
  rcases starts with rfl | isDigit
  · exact noMinus.symm
  · exact ne_of_isDigit isDigit noDigit

theorem isSpace_of_starts {first : Char} (starts : first = '-' ∨ first.isDigit = true) :
    isSpace first = false := by
  simp [isSpace, ne_of_starts starts]

/-! ## Trees -/

/-- The numbers of the tree are integers, and its strings are whole. -/
inductive Node.Plain : Node → Prop
  | null : Plain .null
  | bool (flag : Bool) : Plain (.bool flag)
  | number (number : Int) : Plain (.number (toString number).toList)
  | string (text : String) : Plain (.string text)
  | array {items : List Node} (items_plain : ∀ item ∈ items, Plain item) : Plain (.array items)
  | object {members : List (String × Node)} (members_plain : ∀ member ∈ members, Plain member.2) :
      Plain (.object members)

/-- What is printed begins with something that is no space and closes nothing. -/
theorem Node.Plain.pretty_eq_cons {node : Node} (plain : node.Plain) (level : Nat) :
    ∃ first others, node.pretty level = first :: others ∧ isSpace first = false ∧ first ≠ ']' := by
  cases plain with
  | null => exact ⟨_, _, rfl, rfl, by decide⟩
  | bool flag => cases flag <;> exact ⟨_, _, rfl, rfl, by decide⟩
  | number number =>
      obtain ⟨first, others, isNumeral, starts⟩ := numeral_eq_cons number
      exact ⟨first, others, isNumeral, isSpace_of_starts starts,
        ne_of_starts starts (by decide) rfl⟩
  | string text => exact ⟨_, _, rfl, rfl, by decide⟩
  | @array items _ => cases items <;> exact ⟨_, _, rfl, rfl, by decide⟩
  | @object members _ => cases members <;> exact ⟨_, _, rfl, rfl, by decide⟩

theorem endsNumber_newLine (level : Nat) (rest : Chars) : EndsNumber (newLine level ++ rest) :=
  endsNumber_cons rfl (by decide) _

/-- Items that are read one by one are read together. -/
theorem readItems_pretty {items : List Node} (level outer : Nat) {count : Nat}
    (areRead : ∀ item ∈ items, ∀ rest, EndsNumber rest →
      readNode fuel (item.pretty level ++ rest) = some (item, rest))
    (nonempty : items ≠ []) (enough : items.length ≤ count) (rest : Chars) :
    readItems (readNode fuel) count
      (prettyItems level items ++ (newLine outer ++ ']' :: rest)) = some (items, rest) := by
  induction items generalizing count with
  | nil => exact absurd rfl nonempty
  | cons item others ih =>
      obtain ⟨count, rfl⟩ := Nat.exists_eq_succ_of_ne_zero (by simp at enough; omega : count ≠ 0)
      have isItem := areRead item List.mem_cons_self
      cases others with
      | nil =>
          have ends := endsNumber_newLine outer (']' :: rest)
          have closes : isSpace ']' = false := rfl
          simp only [prettyItems, readItems, List.isEmpty_nil, if_true, List.append_nil,
            List.append_assoc, readNode_append (isSpace_newLine level), isItem _ ends]
          simp [skipSpace_append (isSpace_newLine outer), skipSpace_cons closes]
      | cons second others =>
          have tail := ih (fun item isMember => areRead item (List.mem_cons_of_mem _ isMember))
            (by simp) (by simp at enough ⊢; omega)
          have ends := @endsNumber_cons ',' rfl (by decide)
            (prettyItems level (second :: others) ++ (newLine outer ++ ']' :: rest))
          have separates : isSpace ',' = false := rfl
          rw [prettyItems, readItems]
          simp only [List.isEmpty_cons, Bool.false_eq_true, if_false,
            List.append_assoc, List.cons_append, readNode_append (isSpace_newLine level),
            isItem _ ends]
          simp [skipSpace_cons separates, tail]

/-- The count is enough for every key. -/
theorem readMembers_pretty {members : List (String × Node)} (level outer : Nat) {count : Nat}
    (areRead : ∀ member ∈ members, ∀ rest, EndsNumber rest →
      readNode fuel (member.2.pretty level ++ rest) = some (member.2, rest))
    (nonempty : members ≠ []) (enough : (prettyMembers level members).length ≤ count)
    (rest : Chars) :
    readMembers (readNode fuel) count
      (prettyMembers level members ++ (newLine outer ++ '}' :: rest)) = some (members, rest) := by
  induction members generalizing count with
  | nil => exact absurd rfl nonempty
  | cons member others ih =>
      obtain ⟨key, item⟩ := member
      have isItem := areRead (key, item) List.mem_cons_self
      simp only [prettyMembers, List.length_append, List.length_cons] at enough
      obtain ⟨count, rfl⟩ := Nat.exists_eq_succ_of_ne_zero (by omega : count ≠ 0)
      have isKey := fun rest =>
        @readKey_quoted (newLine level) (count + 1) key (isSpace_newLine level) (by omega) rest
      have isSpaced : ∀ char ∈ [' '], isSpace char = true := List.forall_mem_singleton.mpr rfl
      have skipsSpace := fun chars => readNode_append isSpaced fuel chars
      simp only [List.singleton_append] at skipsSpace
      cases others with
      | nil =>
          have ends := endsNumber_newLine outer ('}' :: rest)
          have closes : isSpace '}' = false := rfl
          simp only [prettyMembers, readMembers, List.isEmpty_nil, if_true, List.append_nil,
            List.append_assoc, List.cons_append, isKey]
          simp [skipsSpace, isItem _ ends, skipSpace_append (isSpace_newLine outer),
            skipSpace_cons closes]
      | cons second others =>
          have tail := @ih count
            (fun item isMember => areRead item (List.mem_cons_of_mem _ isMember)) (by simp)
            (by simp at enough; omega)
          have ends := @endsNumber_cons ',' rfl (by decide)
            (prettyMembers level (second :: others) ++ (newLine outer ++ '}' :: rest))
          have separates : isSpace ',' = false := rfl
          rw [prettyMembers, readMembers]
          simp only [List.isEmpty_cons, Bool.false_eq_true, if_false, List.append_assoc,
            List.cons_append, isKey]
          simp [skipsSpace, isItem _ ends, skipSpace_cons separates, tail]

theorem skipSpace_idem (chars : Chars) : skipSpace (skipSpace chars) = skipSpace chars :=
  List.dropWhile_idempotent isSpace chars

theorem readItems_skipSpace (fuel count : Nat) (chars : Chars) :
    readItems (readNode fuel) count (skipSpace chars) = readItems (readNode fuel) count chars := by
  have sameNode : readNode fuel (skipSpace chars) = readNode fuel chars := by
    cases fuel with
    | zero => rfl
    | succ fuel => simp only [readNode, skipSpace_idem]
  cases count with
  | zero => rfl
  | succ count => simp only [readItems, sameNode]

theorem readMembers_skipSpace (fuel count : Nat) (chars : Chars) :
    readMembers (readNode fuel) count (skipSpace chars) =
      readMembers (readNode fuel) count chars := by
  cases count with
  | zero => rfl
  | succ count => simp only [readMembers, readKey, skipSpace_idem]

theorem readNode_array {chars : Chars} {items : List Node}
    (isRead : readItems (readNode fuel) (fuel + 1) chars = some (items, rest))
    (goesOn : (skipSpace chars).head? ≠ some ']') :
    readNode (fuel + 1) ('[' :: chars) = some (.array items, rest) := by
  have opens : isSpace '[' = false := rfl
  rw [← readItems_skipSpace] at isRead
  simp only [readNode, skipSpace_cons opens]
  split
  · next isEnd => simp [isEnd] at goesOn
  · rw [isRead]
    rfl

theorem readNode_object {chars : Chars} {members : List (String × Node)}
    (isRead : readMembers (readNode fuel) (fuel + 1) chars = some (members, rest))
    (goesOn : (skipSpace chars).head? ≠ some '}') :
    readNode (fuel + 1) ('{' :: chars) = some (.object members, rest) := by
  have opens : isSpace '{' = false := rfl
  rw [← readMembers_skipSpace] at isRead
  simp only [readNode, skipSpace_cons opens]
  split
  · next isEnd => simp [isEnd] at goesOn
  · rw [isRead]
    rfl

theorem length_pretty_lt_of_mem {items : List Node} {item : Node} (isMember : item ∈ items)
    (level : Nat) : (item.pretty level).length < (prettyItems level items).length := by
  induction items with
  | nil => cases isMember
  | cons first others ih =>
      simp only [prettyItems, newLine, List.cons_append, List.length_cons, List.length_append]
      rcases List.mem_cons.mp isMember with rfl | inOthers
      · omega
      · have nonempty : others ≠ [] := List.ne_nil_of_mem inOthers
        have below := ih inOthers
        simp [nonempty]
        omega

theorem length_pretty_lt_of_mem_members {members : List (String × Node)} {member : String × Node}
    (isMember : member ∈ members) (level : Nat) :
    (member.2.pretty level).length < (prettyMembers level members).length := by
  induction members with
  | nil => cases isMember
  | cons first others ih =>
      simp only [prettyMembers, List.length_append, List.length_cons]
      rcases List.mem_cons.mp isMember with rfl | inOthers
      · omega
      · have nonempty : others ≠ [] := List.ne_nil_of_mem inOthers
        have below := ih inOthers
        simp [nonempty]
        omega

theorem length_le_length_prettyItems (items : List Node) (level : Nat) :
    items.length ≤ (prettyItems level items).length := by
  induction items with
  | nil => exact Nat.le_refl 0
  | cons first others ih =>
      simp only [prettyItems, newLine, List.cons_append, List.length_cons, List.length_append]
      by_cases isEmpty : others = []
      · simp [isEmpty]
      · simp [isEmpty]
        omega

/-- A tree is read back from its text, whatever follows. -/
theorem readNode_pretty {node : Node} (plain : node.Plain) (level : Nat)
    (enough : (node.pretty level).length < fuel) (ends : EndsNumber rest) :
    readNode fuel (node.pretty level ++ rest) = some (node, rest) := by
  induction plain generalizing level fuel rest with
  | null =>
      obtain ⟨fuel, rfl⟩ := Nat.exists_eq_succ_of_ne_zero (by omega : fuel ≠ 0)
      rfl
  | bool flag =>
      obtain ⟨fuel, rfl⟩ := Nat.exists_eq_succ_of_ne_zero (by omega : fuel ≠ 0)
      cases flag <;> rfl
  | number number =>
      obtain ⟨fuel, rfl⟩ := Nat.exists_eq_succ_of_ne_zero (by omega : fuel ≠ 0)
      have isRead := readNumber_numeral number ends
      obtain ⟨first, others, isNumeral, starts⟩ := numeral_eq_cons number
      rw [Node.pretty, isNumeral]
      rw [isNumeral] at isRead
      simp only [List.cons_append] at isRead ⊢
      rw [readNode, skipSpace_cons (isSpace_of_starts starts)]
      simp [ne_of_starts starts, isRead]
  | string text =>
      obtain ⟨fuel, rfl⟩ := Nat.exists_eq_succ_of_ne_zero (by omega : fuel ≠ 0)
      have few : (text.toList.flatMap escapeChar).length < fuel + 1 := by
        simp only [Node.pretty, quoted, List.length_cons, List.length_append] at enough
        omega
      rw [Node.pretty, quoted_append, readNode, skipSpace_cons rfl]
      simp [readString_escaped _ few]
  | @array items items_plain ih =>
      obtain ⟨fuel, rfl⟩ := Nat.exists_eq_succ_of_ne_zero (by omega : fuel ≠ 0)
      cases items with
      | nil => rfl
      | cons item others =>
          obtain ⟨first, shown, isPretty, solid, noEnd⟩ :=
            (items_plain item List.mem_cons_self).pretty_eq_cons (level + 1)
          simp only [Node.pretty, List.isEmpty_cons, Bool.false_eq_true, if_false,
            List.length_cons, List.length_append, List.cons_append, List.append_assoc] at enough ⊢
          have count := length_le_length_prettyItems (item :: others) (level + 1)
          have areRead : ∀ member ∈ item :: others, ∀ rest, EndsNumber rest →
              readNode fuel (member.pretty (level + 1) ++ rest) = some (member, rest) := by
            intro member isMember rest ends
            have below := length_pretty_lt_of_mem isMember (level + 1)
            exact ih member isMember (level + 1) (by omega) ends
          refine readNode_array (readItems_pretty (level + 1) level areRead (by simp)
            (by omega : (item :: others).length ≤ fuel + 1) rest) ?_
          simp [prettyItems, isPretty, skipSpace_append (isSpace_newLine _), skipSpace_cons solid,
            noEnd]
  | @object members members_plain ih =>
      obtain ⟨fuel, rfl⟩ := Nat.exists_eq_succ_of_ne_zero (by omega : fuel ≠ 0)
      cases members with
      | nil => rfl
      | cons member others =>
          simp only [Node.pretty, List.isEmpty_cons, Bool.false_eq_true, if_false,
            List.length_cons, List.length_append, List.cons_append, List.append_assoc] at enough ⊢
          have areRead : ∀ found ∈ member :: others, ∀ rest, EndsNumber rest →
              readNode fuel (found.2.pretty (level + 1) ++ rest) = some (found.2, rest) := by
            intro found isMember rest ends
            have below := length_pretty_lt_of_mem_members isMember (level + 1)
            exact ih found isMember (level + 1) (by omega) ends
          refine readNode_object (readMembers_pretty (level + 1) level areRead (by simp)
            (by omega : (prettyMembers (level + 1) (member :: others)).length ≤ fuel + 1) rest) ?_
          have quotes : isSpace '"' = false := rfl
          simp [prettyMembers, quoted_append, skipSpace_append (isSpace_newLine _),
            skipSpace_cons quotes]

/-- A whole text is read as the tree it was printed from. -/
theorem read?_pretty {node : Node} (plain : node.Plain) :
    Node.read? (node.pretty 0) = some node := by
  have isRead := readNode_pretty plain 0 (Nat.lt_succ_self _) endsNumber_nil
  rw [List.append_nil] at isRead
  rw [Node.read?, isRead]
  rfl

end Json
end Triage
