import Triage.Proofs.Runbook.Conducts
import Triage.Proofs.Snapshot

namespace Triage

namespace VmRunningState

variable {snapshot : Snapshot} {context : Context} {parameters : Parameters} {instance_ : Value}

/-! ## What is read of a published instance -/

theorem valueFor?_insert_of_ne {key other : String} {value : Value} (different : other ≠ key) :
    Specs.valueFor? (parameters.insert key value) other = Specs.valueFor? parameters other := by
  rw [Specs.valueFor?, Entries.get?_insert_of_ne different, Specs.valueFor?]

theorem textOf?_insert_of_ne {key other : String} {value : Value} (different : other ≠ key) :
    textOf? (parameters.insert key value) other = textOf? parameters other := by
  rw [textOf?, valueFor?_insert_of_ne different, textOf?]

theorem textOf?_insert_self {key text : String} :
    textOf? (parameters.insert key (.string text)) key = some text := by
  rw [textOf?, Specs.valueFor?, Entries.get?_insert_self]
  rfl

theorem isResolved_published : isResolved (published parameters instance_) = true := by
  simp only [isResolved, published, Specs.valueFor?, Entries.get?_insert_self]
  rfl

theorem zone_published : textOf? (published parameters instance_) "zone" =
    (Snapshot.zoneOf? instance_).or (textOf? parameters "zone") := by
  have named : textOf? (if nameOf instance_ = "" then parameters
      else parameters.insert "instance_name" (Value.string (nameOf instance_))) "zone" =
      textOf? parameters "zone" := by
    split
    · rfl
    · exact textOf?_insert_of_ne (by decide)
  simp only [published]
  rw [textOf?_insert_of_ne (by decide)]
  cases instance_.field? "id" with
  | none =>
      cases Snapshot.zoneOf? instance_ with
      | none => simpa using named
      | some zone => exact textOf?_insert_self
  | some id =>
      rw [textOf?_insert_of_ne (by decide)]
      cases Snapshot.zoneOf? instance_ with
      | none => simpa using named
      | some zone => exact textOf?_insert_self

theorem name_published : textOf? (published parameters instance_) "instance_name" =
    if nameOf instance_ = "" then textOf? parameters "instance_name"
    else some (nameOf instance_) := by
  have named : textOf? (if nameOf instance_ = "" then parameters
      else parameters.insert "instance_name" (Value.string (nameOf instance_))) "instance_name" =
      if nameOf instance_ = "" then textOf? parameters "instance_name"
      else some (nameOf instance_) := by
    split
    · rfl
    · exact textOf?_insert_self
  simp only [published]
  rw [textOf?_insert_of_ne (by decide), ← named]
  cases instance_.field? "id" <;> cases Snapshot.zoneOf? instance_ <;>
    simp only [textOf?_insert_of_ne (show "instance_name" ≠ "instance_id" by decide),
      textOf?_insert_of_ne (show "instance_name" ≠ "zone" by decide)]

/-! ## The instance that a run is about -/

/-- The first step finds the instance, by its name and zone or else by its id. -/
inductive Finds (snapshot : Snapshot) (context : Context) (parameters : Parameters)
    (instance_ : Value) : Prop
  | named {zone name : String} (named : textOf? parameters "instance_name" = some name)
      (zoned : textOf? parameters "zone" = some zone)
      (found : snapshot.instance? context.projectId zone name = .ok instance_) :
      Finds snapshot context parameters instance_
  | numbered {id : String} (unnamed : textOf? parameters "instance_name" = none)
      (numbered : textOf? parameters "instance_id" = some id)
      (found : snapshot.instanceById? context.projectId id = .ok instance_) :
      Finds snapshot context parameters instance_

/-- It is in the scope of the run. -/
def Admitted (context : Context) (instance_ : Value) : Prop :=
  context.admits (Snapshot.zoneOf? instance_) (labelsOf instance_) (nameOf instance_) = true

theorem judged_eq_ok_iff {found : Except ApiError Value} :
    judged context found = .ok instance_ ↔ found = .ok instance_ ∧ Admitted context instance_ := by
  cases found with
  | error error => simp [judged]
  | ok held =>
      simp only [judged, Except.ok.injEq]
      split
      · next admits =>
        constructor
        · intro same
          cases same
          exact ⟨rfl, admits⟩
        · rintro ⟨rfl, -⟩
          rfl
      · next refuses =>
        constructor
        · intro same
          cases same
        · rintro ⟨rfl, admits⟩
          exact absurd admits refuses

theorem finds_of_sought (found : sought snapshot context parameters = .ok instance_) :
    Finds snapshot context parameters instance_ ∧ Admitted context instance_ := by
  unfold sought at found
  cases named : textOf? parameters "instance_name" with
  | some name =>
      cases zoned : textOf? parameters "zone" with
      | some zone =>
          simp only [named, zoned] at found
          rcases judged_eq_ok_iff.mp found with ⟨looked, admitted⟩
          exact ⟨.named named zoned looked, admitted⟩
      | none =>
          simp only [named, zoned] at found
          cases found
  | none =>
      cases numbered : textOf? parameters "instance_id" with
      | some id =>
          simp only [named, numbered] at found
          rcases judged_eq_ok_iff.mp found with ⟨looked, admitted⟩
          exact ⟨.numbered named numbered looked, admitted⟩
      | none =>
          simp only [named, numbered] at found
          cases found

theorem sought_eq_ok_iff : sought snapshot context parameters = .ok instance_ ↔
    Finds snapshot context parameters instance_ ∧ Admitted context instance_ := by
  refine ⟨finds_of_sought, ?_⟩
  rintro ⟨finds, admitted⟩
  cases finds with
  | named named zoned found =>
      simp only [sought, named, zoned]
      exact judged_eq_ok_iff.mpr ⟨found, admitted⟩
  | numbered unnamed numbered found =>
      simp only [sought, unnamed, numbered]
      exact judged_eq_ok_iff.mpr ⟨found, admitted⟩

/-- Without such an instance the first step skips, or cannot tell. -/
theorem mark_of_sought {mark : Mark} (refused : sought snapshot context parameters = .error mark) :
    mark.1 = .skipped ∨ mark.1 = .uncertain := by
  have admits {found : Except ApiError Value} (refused : judged context found = .error mark) :
      mark.1 = .skipped ∨ mark.1 = .uncertain := by
    unfold judged at refused
    split at refused
    · split at refused
      · cases refused
      · cases refused
        exact .inl rfl
    · cases refused
      dsimp only
      split
      · exact .inl rfl
      · exact .inr rfl
  unfold sought at refused
  split at refused
  · split at refused
    · exact admits refused
    · cases refused
      exact .inl rfl
  · exact admits refused
  · cases refused
    exact .inl rfl

theorem finding_ok (looks : sought snapshot context parameters = .ok instance_) :
    (finding snapshot context).writes parameters = published parameters instance_ ∧
      (finding snapshot context).marks parameters = (· = []) := by
  simp only [finding, looks]
  trivial

theorem finding_error {mark : Mark} (looks : sought snapshot context parameters = .error mark) :
    (finding snapshot context).writes parameters = parameters ∧
      (finding snapshot context).marks parameters = (· = [mark]) := by
  simp only [finding, looks]
  trivial

/-- What the steps behind the first one look at is the first instance with the zone and the
name of the one that was found. -/
theorem Finds.fetched {zone name : String} (finds : Finds snapshot context parameters instance_)
    (zoned : Snapshot.zoneOf? instance_ = some zone)
    (named : instance_.textField? "name" = some name) :
    fetched snapshot context (published parameters instance_) =
      snapshot.instance? context.projectId zone name := by
  have isName : nameOf instance_ = name := by rw [nameOf, named, Option.getD_some]
  have isGiven : name = "" → (textOf? parameters "instance_name").getD "" = "" := by
    rintro rfl
    cases finds with
    | named given _ found =>
        have same := (Snapshot.names_of_instance? found).1
        cases named.symm.trans same
        rw [given, Option.getD_some]
    | numbered unnamed => rw [unnamed, Option.getD_none]
  have reads : (textOf? (published parameters instance_) "instance_name").getD "" = name := by
    rw [name_published, isName]
    split
    · next unnamed => rw [isGiven unnamed, unnamed]
    · rfl
  rw [VmRunningState.fetched, zone_published, zoned, reads, Option.some_or, Option.getD_some]

/-- It is the instance itself if that was found by its name. -/
theorem Finds.fetched_self (finds : Finds snapshot context parameters instance_)
    (given : textOf? parameters "instance_name" ≠ none) :
    VmRunningState.fetched snapshot context (published parameters instance_) = .ok instance_ := by
  cases finds with
  | named named zoned found =>
      rcases Snapshot.names_of_instance? found with ⟨isName, isZone⟩
      rw [Finds.fetched (.named named zoned found) isZone isName, found]
  | numbered unnamed => exact absurd unnamed given

end VmRunningState

end Triage
