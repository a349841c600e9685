import Triage.Proofs.Entries
import Triage.Proofs.Number.Decimal
import Triage.Proofs.Text.Chars
import Triage.Value.Basic

namespace Triage

namespace Value

/-! ## Addresses -/

/-- One step down into a value. -/
inductive Turn where
  /-- Names with dots in them cannot be addressed. -/
  | field (name : String) (filled : name ≠ "") (whole : '.' ∉ name.toList)
  /-- The positions of an array are words of the machine. -/
  | item (position : UInt64)

namespace Turn

def text : Turn → String
  | .field name _ _ => name
  | .item position => toString position.toNat

theorem item_text (position : UInt64) :
    (item position).text.toList = Nat.toDigits 10 position.toNat := by
  simp [text]

theorem text_filled (turn : Turn) : turn.text ≠ "" := by
  cases turn with
  | field name filled whole => exact filled
  | item position =>
      intro empty
      have digits := item_text position
      rw [empty] at digits
      exact Nat.toDigits_ne_nil digits.symm

theorem text_whole (turn : Turn) : '.' ∉ turn.text.toList := by
  cases turn with
  | field name filled whole => exact whole
  | item position =>
      rw [item_text]
      intro member
      have isDigit := Decimal.areDigits_toDigits position.toNat '.' member
      cases isDigit

end Turn

/-- The steps with dots between them. -/
def address (turns : List Turn) : String :=
  Text.join "." (turns.map Turn.text)

/-- What stands at the end of the steps, where each of them leads to a part of the value. -/
inductive Holds : Value → List Turn → Value → Prop
  | here (value : Value) : Holds value [] value
  | field {fields : List (String × Value)} {name : String} {filled : name ≠ ""}
      {whole : '.' ∉ name.toList} {child found : Value} {turns : List Turn}
      (distinct : (Entries.keys fields).Nodup) (member : (name, child) ∈ fields)
      (below : Holds child turns found) :
      Holds (.object fields) (.field name filled whole :: turns) found
  | item {items : List Value} {position : UInt64} {child found : Value} {turns : List Turn}
      (member : items[position.toNat]? = some child) (below : Holds child turns found) :
      Holds (.array items) (.item position :: turns) found

/-! ## Paths -/

variable {value found : Value} {turns : List Turn}

theorem segments_append (first second : String) :
    segments (first ++ "." ++ second) = segments first ++ segments second := by
  have dot : ".".toList = ['.'] := rfl
  rw [segments, Text.split, String.toList_append, String.toList_append, dot, List.append_assoc,
    List.singleton_append, Chars.split_append_cons, List.map_append, List.filter_append]
  rfl

theorem segments_address (turns : List Turn) : segments (address turns) = turns.map Turn.text := by
  by_cases none_ : turns = []
  · rw [none_]
    decide
  have dot : ".".toList = ['.'] := rfl
  have whole : ∀ piece ∈ (turns.map Turn.text).map String.toList, '.' ∉ piece := by
    intro piece member
    rw [List.map_map] at member
    rcases List.mem_map.mp member with ⟨turn, -, rfl⟩
    exact turn.text_whole
  have strings : ((turns.map Turn.text).map String.toList).map String.ofList =
      turns.map Turn.text := by
    simp [Function.comp_def]
  rw [segments, Text.split, address, Text.join, String.toList_ofList, dot,
    Chars.split_join (by simpa using none_) whole, strings]
  refine List.filter_eq_self.mpr fun text member => ?_
  rcases List.mem_map.mp member with ⟨turn, -, rfl⟩
  simpa using turn.text_filled

theorem descend?_append (first second : List String) (value : Value) :
    descend? (first ++ second) value = (descend? first value).bind (descend? second) := by
  induction first generalizing value with
  | nil => rfl
  | cons segment rest induction =>
      rw [List.cons_append, descend?, descend?]
      cases value.child? segment with
      | none => rfl
      | some child => exact induction child

/-- A path leads on from where its first part leads to. -/
theorem at?_append (value : Value) (first second : String) :
    value.at? (first ++ "." ++ second) = (value.at? first).bind (·.at? second) := by
  rw [at?, segments_append, descend?_append]
  rfl

theorem position?_numeral (position : UInt64) :
    position? (toString position.toNat).toList = some position.toNat := by
  have areDigits := Decimal.areDigits_toDigits position.toNat
  have digits : (toString position.toNat).toList = Nat.toDigits 10 position.toNat :=
    Turn.item_text position
  have word : position.toNat < twoPow 64 := position.toNat_lt
  have isRead : position?.bounded (Nat.toDigits 10 position.toNat) = some position.toNat := by
    rw [position?.bounded, Decimal.nat?_eq areDigits Nat.toDigits_ne_nil,
      Nat.ofDigitChars_ten_toDigits]
    simp [word]
  rw [digits]
  unfold position?
  split
  · next rest isText =>
    have isDigit := areDigits '+' (isText ▸ List.mem_cons_self)
    cases isDigit
  · exact isRead

theorem Holds.descend? (holds : value.Holds turns found) :
    value.descend? (turns.map Turn.text) = some found := by
  induction holds with
  | here value => rfl
  | @field fields name filled whole child found turns distinct member _ induction =>
      have looked : fields.lookup name = some child := Entries.get?_of_mem distinct member
      rw [List.map_cons, Value.descend?, Turn.text, child?, looked]
      exact induction
  | @item items position child found turns member _ induction =>
      rw [List.map_cons, Value.descend?, Turn.text, child?, position?_numeral, Option.bind_some,
        member]
      exact induction

/-- An address leads to what stands there. -/
theorem Holds.at? (holds : value.Holds turns found) : value.at? (address turns) = some found := by
  rw [Value.at?, segments_address]
  exact holds.descend?

end Value

/-! ## Equality of values

Values that count as equal are equal in all parts, except that a zero may have either sign. -/

/-- A zero without its sign. -/
def Binary64.unsigned (number : Binary64) : Binary64 :=
  if number.isZero then .zero false else number

theorem Binary64.same_iff {left right : Binary64} :
    left.same right = true ↔ left.unsigned = right.unsigned := by
  have zero : (Binary64.zero false).isZero = true := rfl
  by_cases leftZero : left.isZero = true <;> by_cases rightZero : right.isZero = true
  · simp [same, unsigned, leftZero, rightZero]
  · have differs : left ≠ right := fun equal => rightZero (equal ▸ leftZero)
    have notZero : Binary64.zero false ≠ right := fun equal => rightZero (equal ▸ zero)
    simp [same, unsigned, leftZero, rightZero, differs, notZero]
  · have differs : left ≠ right := fun equal => leftZero (equal ▸ rightZero)
    have notZero : left ≠ Binary64.zero false := fun equal => leftZero (equal ▸ zero)
    simp [same, unsigned, leftZero, rightZero, differs, notZero]
  · simp [same, unsigned, leftZero, rightZero]

namespace Value

mutual
/-- The value with all its zeros without a sign. -/
def unsigned : Value → Value
  | .number (.float value) => .number (.float value.unsigned)
  | .array items => .array (unsignedItems items)
  | .object fields => .object (unsignedFields fields)
  | value => value

def unsignedItems : List Value → List Value
  | [] => []
  | item :: rest => unsigned item :: unsignedItems rest

def unsignedFields : List (String × Value) → List (String × Value)
  | [] => []
  | (key, value) :: rest => (key, unsigned value) :: unsignedFields rest
end

mutual
theorem same_iff : ∀ left right : Value, left.same right = true ↔ left.unsigned = right.unsigned
  | .null, right => by cases right with
    | number number => cases number <;> simp [same, unsigned]
    | _ => simp [same, unsigned]
  | .bool flag, right => by cases right with
    | number number => cases number <;> simp [same, unsigned]
    | _ => simp [same, unsigned]
  | .number (.integer value), right => by cases right with
    | number number => cases number <;> simp [same, unsigned, Number.same]
    | _ => simp [same, unsigned]
  | .number (.float value), right => by cases right with
    | number number =>
        cases number <;> simp [same, unsigned, Number.same, Binary64.same_iff]
    | _ => simp [same, unsigned]
  | .string text, right => by cases right with
    | number number => cases number <;> simp [same, unsigned]
    | _ => simp [same, unsigned]
  | .array items, right => by cases right with
    | array others => simp [same, unsigned, sameItems_iff items others]
    | number number => cases number <;> simp [same, unsigned]
    | _ => simp [same, unsigned]
  | .object fields, right => by cases right with
    | object others => simp [same, unsigned, sameFields_iff fields others]
    | number number => cases number <;> simp [same, unsigned]
    | _ => simp [same, unsigned]

theorem sameItems_iff : ∀ lefts rights : List Value,
    sameItems lefts rights = true ↔ unsignedItems lefts = unsignedItems rights
  | [], rights => by cases rights <;> simp [sameItems, unsignedItems]
  | left :: lefts, rights => by cases rights with
    | nil => simp [sameItems, unsignedItems]
    | cons right rights =>
        simp [sameItems, unsignedItems, same_iff left right, sameItems_iff lefts rights]

theorem sameFields_iff : ∀ lefts rights : List (String × Value),
    sameFields lefts rights = true ↔ unsignedFields lefts = unsignedFields rights
  | [], rights => by cases rights <;> simp [sameFields, unsignedFields]
  | (key, left) :: lefts, rights => by cases rights with
    | nil => simp [sameFields, unsignedFields]
    | cons entry rights =>
        rcases entry with ⟨other, right⟩
        simp [sameFields, unsignedFields, same_iff left right, sameFields_iff lefts rights,
          and_assoc]
end

end Value

end Triage
