import Triage.Proofs.Entries
import Triage.Snapshot

namespace Triage

namespace Value

variable {key other : String} {value : Value}

/-! ## Fields of an object -/

theorem lookup_insertField (different : other ≠ key) (value : Value)
    (fields : List (String × Value)) :
    (insertField key value fields).lookup other = fields.lookup other := by
  induction fields with
  | nil => simp [insertField, lookup_cons, different]
  | cons field rest induction =>
      rcases field with ⟨name, held⟩
      simp only [insertField]
      split
      · next same =>
        obtain rfl : key = name := by simpa using same
        simp [lookup_cons, different]
      · split
        · rw [lookup_cons, if_neg different]
        · rw [lookup_cons, lookup_cons, induction]

/-- A path of one segment leads to the field of that name. -/
theorem at?_status (value : Value) : value.at? "status" = value.field? "status" := by
  have path : segments "status" = ["status"] := by decide
  have unnumbered : position? "status".toList = none := by decide
  rw [at?, path]
  cases value with
  | array items => simp only [descend?, child?, field?, unnumbered, Option.bind_none]
  | _ => simp [descend?, child?, field?]

theorem same_string_iff {text : String} :
    value.same (.string text) = true ↔ value = .string text := by
  cases value <;> simp [same]

end Value

namespace Snapshot

variable {snapshot : Snapshot} {project zone name id key : String} {instance_ : Value}

/-! ## What is found -/

/-- Only the link of an instance to itself is made up. -/
theorem field?_withSelfLink (different : key ≠ "selfLink") (project : String) (instance_ : Value) :
    (withSelfLink project instance_).field? key = instance_.field? key := by
  unfold withSelfLink
  split
  · exact Value.lookup_insertField different _ _
  · rfl

theorem textField?_withSelfLink (different : key ≠ "selfLink") :
    (withSelfLink project instance_).textField? key = instance_.textField? key := by
  rw [Value.textField?, Value.textField?, field?_withSelfLink different]

theorem zoneOf?_withSelfLink : zoneOf? (withSelfLink project instance_) = zoneOf? instance_ := by
  rw [zoneOf?, zoneOf?, textField?_withSelfLink (by decide)]

/-- What is found by zone and name has that zone and that name. -/
theorem names_of_instance? (found : snapshot.instance? project zone name = .ok instance_) :
    instance_.textField? "name" = some name ∧ zoneOf? instance_ = some zone := by
  unfold instance? at found
  cases looked : snapshot.projectOf project with
  | error error =>
      rw [looked] at found
      cases found
  | ok instances =>
      simp only [looked] at found
      cases first : instances.find? fun instance_ =>
          instance_.textField? "name" == some name && zoneOf? instance_ == some zone with
      | none =>
          simp only [bind, Except.bind, first] at found
          cases found
      | some held =>
          simp only [bind, Except.bind, first] at found
          cases found
          have isSuch := List.find?_some first
          simp only [Bool.and_eq_true, beq_iff_eq] at isSuch
          rw [textField?_withSelfLink (by decide), zoneOf?_withSelfLink]
          exact isSuch

end Snapshot

end Triage
