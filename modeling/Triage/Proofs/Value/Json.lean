import Triage.Proofs.Entries
import Triage.Proofs.Value.Syntax
import Triage.Value.Json

namespace Triage

/-! ## Integers of a text -/

namespace Json

open Decimal

theorem greatestWord_eq : greatestWord = 2 ^ 64 - 1 := rfl

/-- As long as they fit, digits are only put together. -/
theorem foldl_pushWhole {digits : Chars} {value : Nat}
    (fits : Nat.ofDigitChars 10 digits value ≤ greatestWord) :
    digits.foldl Digits.pushWhole ⟨value, 0, false⟩ =
      ⟨Nat.ofDigitChars 10 digits value, 0, false⟩ := by
  induction digits generalizing value with
  | nil => rfl
  | cons char rest ih =>
      rw [Nat.ofDigitChars_cons, Nat.mul_comm] at fits ⊢
      have atLeast := le_ofDigitChars rest (value * 10 + (char.toNat - '0'.toNat))
      have small : ¬greatestWord < value * 10 + (char.toNat - '0'.toNat) := by omega
      have pushed : Digits.pushWhole ⟨value, 0, false⟩ char =
          ⟨value * 10 + (char.toNat - '0'.toNat), 0, false⟩ := by
        simp only [Digits.pushWhole, Bool.false_or, decide_eq_true_eq, if_neg small]
      rw [List.foldl_cons, pushed, ih fits]

theorem number?_numeral {number : Int} (atLeast : -2 ^ 63 ≤ number) (below : number < 2 ^ 64) :
    number? (toString number).toList = some (.integer number) := by
  obtain ⟨magnitude, isMagnitude⟩ : ∃ magnitude, magnitude = number.natAbs := ⟨_, rfl⟩
  have areDigits := areDigits_toDigits magnitude
  have taken := takeDigits_append areDigits endsNumber_nil
  rw [List.append_nil] at taken
  have pushed : (Nat.toDigits 10 magnitude).foldl Digits.pushWhole ⟨0, 0, false⟩ =
      ⟨magnitude, 0, false⟩ := by
    have isValue : Nat.ofDigitChars 10 (Nat.toDigits 10 magnitude) 0 = magnitude :=
      Nat.ofDigitChars_ten_toDigits
    rw [foldl_pushWhole, isValue]
    rw [isValue, greatestWord_eq]
    omega
  have power : twoPow 63 = 2 ^ 63 := rfl
  rw [numeral_toList, ← isMagnitude]
  by_cases negative : number < 0
  · have someDigit : magnitude ≠ 0 := by omega
    have fits : ¬twoPow 63 < magnitude := by omega
    have value : -(magnitude : Int) = number := by omega
    simp only [negative, if_true, number?, taken, pushed]
    simp [someDigit, fits, value]
  · obtain ⟨first, others, isDigits⟩ := List.exists_cons_of_ne_nil
      (Nat.toDigits_ne_nil : Nat.toDigits 10 magnitude ≠ [])
    have noMinus : first ≠ '-' := ne_of_isDigit (areDigits first (by simp [isDigits])) rfl
    have value : (magnitude : Int) = number := by omega
    rw [isDigits] at taken pushed ⊢
    rw [List.foldl_cons] at pushed
    simp [negative, number?, noMinus, taken, pushed, value]

theorem nat?_ofNat {bound value : Nat} (below : value < bound) (word : bound ≤ 2 ^ 64) :
    (Node.ofNat value).nat? bound = some value := by
  have isNumber : number? (toString value).toList = some (.integer value) :=
    @number?_numeral value (by omega) (by omega)
  rw [Node.ofNat, Node.nat?, isNumber]
  simp [below]

theorem plain_ofOption {α : Type} {encode : α → Node} (plain : ∀ value, (encode value).Plain)
    (value? : Option α) : (Node.ofOption encode value?).Plain := by
  cases value? with
  | none => exact .null
  | some value => exact plain value

end Json

namespace Value

/-! ## Values without fractions -/

/-- Integers of 64 bits are the only numbers, the fields of an object ascend, and arrays and
objects nest at most `depth` deep. -/
inductive Whole : (depth : Nat) → Value → Prop
  | null {depth : Nat} : Whole depth .null
  | bool {depth : Nat} (flag : Bool) : Whole depth (.bool flag)
  | integer {depth : Nat} {number : Int} (atLeast : -2 ^ 63 ≤ number) (below : number < 2 ^ 64) :
      Whole depth (.integer number)
  | string {depth : Nat} (text : String) : Whole depth (.string text)
  | array {depth : Nat} {items : List Value} (items_whole : ∀ item ∈ items, Whole depth item) :
      Whole (depth + 1) (.array items)
  | object {depth : Nat} {fields : List (String × Value)}
      (ascends : fields.Pairwise fun field other => field.1 < other.1)
      (fields_whole : ∀ field ∈ fields, Whole depth field.2) : Whole (depth + 1) (.object fields)

variable {depth : Nat} {value : Value}

theorem toNodes_eq_map (items : List Value) : toNodes items = items.map toNode := by
  induction items with
  | nil => rfl
  | cons item others ih => rw [toNodes, ih, List.map_cons]

theorem toMembers_eq_map (fields : List (String × Value)) :
    toMembers fields = fields.map fun (key, value) => (key, value.toNode) := by
  induction fields with
  | nil => rfl
  | cons field others ih => rw [toMembers, ih, List.map_cons]

theorem Whole.plain_toNode (whole : value.Whole depth) : value.toNode.Plain := by
  induction whole with
  | null => exact .null
  | bool flag => exact .bool flag
  | @integer _ number _ _ => exact .number number
  | string text => exact .string text
  | array _ ih =>
      rw [toNode, toNodes_eq_map]
      exact .array (List.forall_mem_map.mpr ih)
  | object _ _ ih =>
      rw [toNode, toMembers_eq_map]
      exact .object (List.forall_mem_map.mpr ih)

theorem insertField_of_last {key : String} {fields : List (String × Value)}
    (isLast : ∀ field ∈ fields, field.1 < key) :
    insertField key value fields = fields ++ [(key, value)] := by
  induction fields with
  | nil => rfl
  | cons field others ih =>
      obtain ⟨before, areBefore⟩ := List.forall_mem_cons.mp isLast
      have other : key ≠ field.1 := fun same => String.lt_irrefl key (same ▸ before)
      have notBefore : ¬key < field.1 := String.lt_asymm before
      rw [insertField, if_neg (by simpa using other), if_neg notBefore, ih areBefore,
        List.cons_append]

/-- Fields that ascend stay as they are. -/
theorem ofFields_of_ascends {fields : List (String × Value)}
    (ascends : fields.Pairwise fun field other => field.1 < other.1) :
    ofFields fields = .object fields := by
  have behind (sorted : List (String × Value))
      (before : (sorted ++ fields).Pairwise fun field other => field.1 < other.1) :
      fields.foldl (fun sorted (key, value) => insertField key value sorted) sorted =
        sorted ++ fields := by
    clear ascends
    induction fields generalizing sorted with
    | nil => exact (List.append_nil sorted).symm
    | cons field others ih =>
        have isLast : ∀ held ∈ sorted, held.1 < field.1 := fun held isHeld =>
          (List.pairwise_append.mp before).2.2 held isHeld field List.mem_cons_self
        rw [List.append_cons] at before ⊢
        rw [← ih (sorted ++ [field]) before, ← insertField_of_last isLast]
        rfl
  rw [ofFields, behind [] ascends, List.nil_append]

theorem ofNodes?_eq_some {items : List Value}
    (areRead : ∀ item ∈ items, ofNode? depth item.toNode = some item) :
    ofNodes? depth (toNodes items) = some items := by
  induction items with
  | nil => rfl
  | cons item others ih =>
      obtain ⟨isRead, others⟩ := List.forall_mem_cons.mp areRead
      simp [toNodes, ofNodes?, isRead, ih others]

theorem ofMembers?_eq_some {fields : List (String × Value)}
    (areRead : ∀ field ∈ fields, ofNode? depth field.2.toNode = some field.2) :
    ofMembers? depth (toMembers fields) = some fields := by
  induction fields with
  | nil => rfl
  | cons field others ih =>
      obtain ⟨isRead, others⟩ := List.forall_mem_cons.mp areRead
      simp [toMembers, ofMembers?, isRead, ih others]

/-- A value is read back from its tree. -/
theorem Whole.ofNode?_toNode (whole : value.Whole depth) :
    ofNode? depth value.toNode = some value := by
  induction whole with
  | null => rfl
  | bool flag => rfl
  | integer atLeast below =>
      show (Json.number? (toString _).toList).map Value.number = _
      rw [Json.number?_numeral atLeast below]
      rfl
  | string text => rfl
  | array _ ih => rw [toNode, ofNode?, ofNodes?_eq_some ih, Option.map_some]
  | object ascends _ ih =>
      rw [toNode, ofNode?, ofMembers?_eq_some ih, Option.map_some, ofFields_of_ascends ascends]

end Value

namespace Json

variable {members : List (String × Node)} {items : List Node} {names : List String}
  {name : String} {node : Node}

/-! ## Fields of a record -/

/-- What a record tells, by field. An array tells of the first fields, in their order. -/
def Node.told (names : List String) : Node → List (String × Node)
  | .object members => members
  | .array items => names.zip items
  | _ => []

/-- What a record tells of one field, if anything. -/
def Node.field? (names : List String) (name : String) (node : Node) : Option Node :=
  (node.told names).lookup name

/-- An object in which no field stands twice, or an array of no more items than there are
fields. -/
def Node.isRecord (names : List String) : Node → Bool
  | .object members => names.all fun name => (members.map (·.1)).count name ≤ 1
  | .array items => items.length ≤ names.length
  | _ => false

/-! ## Slots -/

def Slot.node? : Slot → Option Node
  | .present node => some node
  | _ => none

theorem Slot.withDefault?_eq {α : Type} (default : α) (decode : Node → Option α) (slot : Slot) :
    slot.withDefault? default decode = slot.node?.elim (some default) decode := by
  cases slot <;> rfl

theorem lookup_eq_head?_filter (members : List (String × Node)) (name : String) :
    members.lookup name = (members.filter (·.1 == name)).head?.map (·.2) := by
  induction members with
  | nil => rfl
  | cons member rest induction =>
      rcases member with ⟨other, node⟩
      rw [lookup_cons]
      by_cases same : name = other
      · simp [same]
      · rw [if_neg same, induction, List.filter_cons_of_neg (by simpa using Ne.symm same)]

theorem length_filter_eq_count (members : List (String × Node)) (name : String) :
    (members.filter (·.1 == name)).length = (members.map (·.1)).count name := by
  rw [List.count, List.countP_map, List.countP_eq_length_filter]
  rfl

theorem slotOf_eq_some (once : (members.map (·.1)).count name ≤ 1) :
    ∃ slot, slotOf members name = some slot ∧ slot.node? = members.lookup name := by
  rw [← length_filter_eq_count] at once
  rw [lookup_eq_head?_filter, slotOf]
  generalize members.filter (·.1 == name) = found at once ⊢
  rcases found with _ | ⟨⟨key, node⟩, _ | ⟨second, more⟩⟩
  · exact ⟨.missing, rfl, rfl⟩
  · exact ⟨.present node, rfl, rfl⟩
  · simp at once

theorem slotOf_eq_none (repeated : ¬(members.map (·.1)).count name ≤ 1) :
    slotOf members name = none := by
  rw [← length_filter_eq_count] at repeated
  rw [slotOf]
  generalize members.filter (·.1 == name) = found at repeated ⊢
  rcases found with _ | ⟨⟨key, node⟩, _ | ⟨second, more⟩⟩
  · simp at repeated
  · simp at repeated
  · rfl

theorem mapM_slotOf (once : ∀ name ∈ names, (members.map (·.1)).count name ≤ 1) :
    ∃ slots, names.mapM (slotOf members) = some slots ∧
      slots.map Slot.node? = names.map fun name => members.lookup name := by
  induction names with
  | nil => exact ⟨[], rfl, rfl⟩
  | cons name names induction =>
      rcases List.forall_mem_cons.mp once with ⟨first, others⟩
      rcases slotOf_eq_some first with ⟨slot, isSlot, isNode⟩
      rcases induction others with ⟨slots, areSlots, areNodes⟩
      refine ⟨slot :: slots, ?_, ?_⟩
      · rw [List.mapM_cons, isSlot, areSlots]
        rfl
      · rw [List.map_cons, List.map_cons, isNode, areNodes]

theorem mapM_slotOf_eq_none (isField : name ∈ names)
    (repeated : ¬(members.map (·.1)).count name ≤ 1) : names.mapM (slotOf members) = none := by
  induction names with
  | nil => cases isField
  | cons other names induction =>
      rw [List.mapM_cons]
      rcases List.mem_cons.mp isField with rfl | later
      · rw [slotOf_eq_none repeated]
        rfl
      · rw [induction later]
        cases slotOf members other <;> rfl

theorem slotsFromItems_eq_some (nodup : names.Nodup) (few : items.length ≤ names.length) :
    ∃ slots, slotsFromItems names items = some slots ∧
      slots.map Slot.node? = names.map fun name => (names.zip items).lookup name := by
  induction names generalizing items with
  | nil =>
      obtain rfl := List.length_eq_zero_iff.mp (Nat.le_zero.mp few)
      exact ⟨[], rfl, rfl⟩
  | cons name names induction =>
      rcases List.nodup_cons.mp nodup with ⟨absent, nodup⟩
      cases items with
      | nil =>
          have fits : ([] : List Node).length ≤ names.length := Nat.zero_le _
          rcases induction nodup fits with ⟨slots, areSlots, areNodes⟩
          refine ⟨.beyond :: slots, ?_, ?_⟩
          · rw [slotsFromItems, areSlots]
            rfl
          · rw [List.map_cons, areNodes, List.zip_nil_right, List.zip_nil_right]
            rfl
      | cons node items =>
          rcases induction nodup (Nat.le_of_succ_le_succ few) with ⟨slots, areSlots, areNodes⟩
          refine ⟨.present node :: slots, ?_, ?_⟩
          · rw [slotsFromItems, areSlots]
            rfl
          · rw [List.map_cons, areNodes, List.map_cons, List.zip_cons_cons, lookup_cons, if_pos rfl]
            refine congrArg (some node :: ·) (List.map_congr_left fun other isMember => ?_)
            have differs : other ≠ name := fun same => absent (same ▸ isMember)
            rw [lookup_cons, if_neg differs]

theorem slotsFromItems_eq_none (many : ¬items.length ≤ names.length) :
    slotsFromItems names items = none := by
  induction names generalizing items with
  | nil =>
      cases items with
      | nil => exact absurd (Nat.le_refl 0) many
      | cons node items => rfl
  | cons name names induction =>
      cases items with
      | nil => exact absurd (Nat.zero_le _) many
      | cons node items =>
          rw [slotsFromItems, induction (fun few => many (Nat.succ_le_succ few))]
          rfl

/-- The slots of a record hold what it tells of its fields. -/
theorem slots?_eq_some (nodup : names.Nodup) (isRecord : node.isRecord names = true) :
    ∃ slots, node.slots? names = some slots ∧
      slots.map Slot.node? = names.map fun name => node.field? names name := by
  cases node with
  | object members => exact mapM_slotOf (by simpa [Node.isRecord] using isRecord)
  | array items => exact slotsFromItems_eq_some nodup (by simpa [Node.isRecord] using isRecord)
  | _ => cases isRecord

theorem slots?_eq_none (noRecord : node.isRecord names = false) : node.slots? names = none := by
  cases node with
  | object members =>
      simp only [Node.isRecord, List.all_eq_false, decide_eq_true_eq] at noRecord
      rcases noRecord with ⟨name, isField, repeated⟩
      exact mapM_slotOf_eq_none isField repeated
  | array items => exact slotsFromItems_eq_none (by simpa [Node.isRecord] using noRecord)
  | _ => rfl

end Json

end Triage
