import Triage.Proofs.Text.Words
import Triage.Text.Placeholder

namespace Triage.Placeholder

variable {lookup : Chars → Option Chars} {before name after rest text chars : Chars} {char : Char}

/-! ## Placeholders in a text -/

/-- A name of letters, digits and underscores that does not begin with a digit. -/
structure IsName (name : Chars) : Prop where
  starts : name.head?.any startsName = true
  continues : ∀ char ∈ name, continuesName char = true

/-- White space, a name and white space, as they stand between the braces. -/
structure Slot (before name after : Chars) : Prop where
  blankBefore : ∀ char ∈ before, Text.isBlank char = true
  isName : IsName name
  blankAfter : ∀ char ∈ after, Text.isBlank char = true

instance (before name after : Chars) : Decidable (Slot before name after) :=
  decidable_of_iff (before.all Text.isBlank = true ∧
      (name.head?.any startsName = true ∧ name.all continuesName = true) ∧
      after.all Text.isBlank = true)
    (by
      simp only [List.all_eq_true]
      exact ⟨fun ⟨blankBefore, isName, blankAfter⟩ =>
          ⟨blankBefore, ⟨isName.1, isName.2⟩, blankAfter⟩,
        fun slot =>
          ⟨slot.blankBefore, ⟨slot.isName.starts, slot.isName.continues⟩, slot.blankAfter⟩⟩)

/-- A placeholder as it is written. -/
def braced (before name after : Chars) : Chars :=
  '{' :: (before ++ name ++ after ++ ['}'])

theorem not_continuesName_of_blank (blank : Text.isBlank char = true) :
    continuesName char = false := by
  have none_ : ∀ code ∈ Text.blanks.members, continuesName (Char.ofNat code) = false := by
    decide
  have same := none_ char.toNat (Text.Ranges.mem_members blank)
  rwa [Char.ofNat_toNat] at same

theorem not_blank_of_continuesName (continues : continuesName char = true) :
    Text.isBlank char = false := by
  cases blank : Text.isBlank char with
  | false => rfl
  | true => simp [not_continuesName_of_blank blank] at continues

/-- A stretch of characters ends with the first one of another kind. -/
theorem stretch {kind : Char → Bool} (inside : ∀ char ∈ before, kind char = true)
    (ends : rest.head?.any kind = false) :
    (before ++ rest).takeWhile kind = before ∧ (before ++ rest).dropWhile kind = rest := by
  rw [List.takeWhile_append_of_pos inside, List.dropWhile_append_of_pos inside]
  cases rest with
  | nil => simp
  | cons char more =>
      rw [List.head?_cons, Option.any_some] at ends
      simp [ends]

/-- A placeholder is found where it stands at the start, whatever follows it. -/
theorem atStart?_braced (slot : Slot before name after) (rest : Chars) :
    atStart? (braced before name after ++ rest) =
      some (name, (braced before name after).length) := by
  obtain ⟨starts, continues⟩ := slot.isName
  have named : (before ++ (name ++ (after ++ '}' :: rest))).dropWhile Text.isBlank =
      name ++ (after ++ '}' :: rest) := by
    refine (stretch slot.blankBefore ?_).2
    cases name with
    | nil => cases starts
    | cons first more => exact not_blank_of_continuesName (continues first List.mem_cons_self)
  have ends : (after ++ '}' :: rest).head?.any continuesName = false := by
    cases isAfter : after with
    | nil => rfl
    | cons char more => exact not_continuesName_of_blank (slot.blankAfter char (by simp [isAfter]))
  have closed : (after ++ '}' :: rest).dropWhile Text.isBlank = '}' :: rest :=
    (stretch slot.blankAfter rfl).2
  have shape : braced before name after ++ rest =
      '{' :: (before ++ (name ++ (after ++ '}' :: rest))) := by simp [braced]
  have length : (braced before name after ++ rest).length - rest.length =
      (braced before name after).length := by simp
  rw [shape] at length ⊢
  simp only [atStart?, named, stretch continues ends, closed, starts, if_true, length]

/-- Nothing else is found. -/
theorem exists_braced_of_atStart? {length : Nat} (found : atStart? chars = some (name, length)) :
    ∃ before after rest, Slot before name after ∧ chars = braced before name after ++ rest := by
  unfold atStart? at found
  split at found
  · next inner =>
    dsimp only at found
    split at found
    · next rest closes =>
      split at found
      · next starts =>
        obtain ⟨rfl, -⟩ := Prod.mk.inj (Option.some.inj found)
        generalize isNamed : inner.dropWhile Text.isBlank = named at *
        refine ⟨inner.takeWhile Text.isBlank,
          (named.dropWhile continuesName).takeWhile Text.isBlank, rest, ?_, ?_⟩
        · exact ⟨fun char member => List.mem_takeWhile_imp member,
            ⟨starts, fun char member => List.mem_takeWhile_imp member⟩,
            fun char member => List.mem_takeWhile_imp member⟩
        · have inside := List.takeWhile_append_dropWhile (p := Text.isBlank) (l := inner)
          have behind := List.takeWhile_append_dropWhile (p := continuesName) (l := named)
          have last := List.takeWhile_append_dropWhile (p := Text.isBlank)
            (l := named.dropWhile continuesName)
          rw [isNamed] at inside
          rw [closes] at last
          calc '{' :: inner
              = '{' :: (inner.takeWhile Text.isBlank ++ named) := by rw [inside]
            _ = '{' :: (inner.takeWhile Text.isBlank ++ (named.takeWhile continuesName ++
                ((named.dropWhile continuesName).takeWhile Text.isBlank ++ '}' :: rest))) := by
                  rw [last, behind]
            _ = _ := by simp [braced]
      · cases found
    · cases found
  · cases found

/-! ## Rendering -/

theorem renderFrom_skip (skip : Nat) (chars : Chars) :
    renderFrom lookup skip chars = renderFrom lookup 0 (chars.drop skip) := by
  induction chars generalizing skip with
  | nil => cases skip <;> rfl
  | cons char rest induction =>
      cases skip with
      | zero => rfl
      | succ skip => exact induction skip

theorem renderFrom_found {length : Nat} (found : atStart? (char :: rest) = some (name, length)) :
    renderFrom lookup 0 (char :: rest) =
      (lookup name).getD ((char :: rest).take length) ++
        renderFrom lookup 0 (rest.drop (length - 1)) := by
  rw [← renderFrom_skip, renderFrom, found]

theorem renderFrom_braced (slot : Slot before name after) (rest : Chars) :
    renderFrom lookup 0 (braced before name after ++ rest) =
      (lookup name).getD (braced before name after) ++ renderFrom lookup 0 rest := by
  have found := atStart?_braced slot rest
  have taken : (braced before name after ++ rest).take (braced before name after).length =
      braced before name after := List.take_left
  have dropped : (before ++ name ++ after ++ ['}'] ++ rest).drop
      ((braced before name after).length - 1) = rest := List.drop_left
  rw [braced, List.cons_append] at found taken ⊢
  rw [renderFrom_found found, taken]
  exact congrArg _ (congrArg _ dropped)

theorem renderFrom_literal (plain : '{' ∉ text) (rest : Chars) :
    renderFrom lookup 0 (text ++ rest) = text ++ renderFrom lookup 0 rest := by
  induction text with
  | nil => rfl
  | cons char more induction =>
      have other : char ≠ '{' := fun same => plain (same ▸ List.mem_cons_self)
      have noSlot : atStart? (char :: (more ++ rest)) = none := by
        unfold atStart?
        split
        · next same => exact absurd (List.cons.inj same).1 other
        · rfl
      rw [List.cons_append, renderFrom, noSlot]
      simp only [induction fun member => plain (List.mem_cons_of_mem _ member), List.cons_append]

/-- What no look-up resolves stays as it is. -/
theorem renderFrom_none (chars : Chars) : renderFrom (fun _ => none) 0 chars = chars := by
  induction isLength : chars.length using Nat.strongRecOn generalizing chars with
  | ind length induction =>
      cases chars with
      | nil => rfl
      | cons char rest =>
          cases found : atStart? (char :: rest) with
          | none =>
              rw [renderFrom, found]
              simp only [induction rest.length (by simp [← isLength]) rest rfl]
          | some slot =>
              rcases exists_braced_of_atStart? found with ⟨before, after, rest', isSlot, whole⟩
              have shorter : rest'.length < length := by
                rw [← isLength, whole]
                simp [braced]
                omega
              rw [whole, renderFrom_braced isSlot, induction _ shorter rest' rfl]
              rfl

/-! ## Templates -/

/-- A part of a template: text, or a placeholder for what goes by a name. -/
inductive Part where
  | literal (text : String)
  | slot (before name after : String)
deriving DecidableEq, Repr

/-- A closing brace alone is text like any other. -/
def Part.Formed : Part → Prop
  | literal text => '{' ∉ text.toList
  | slot before name after => Slot before.toList name.toList after.toList

instance : (part : Part) → Decidable part.Formed
  | .literal text => inferInstanceAs (Decidable ('{' ∉ text.toList))
  | .slot before name after =>
      inferInstanceAs (Decidable (Slot before.toList name.toList after.toList))

def Part.written : Part → String
  | literal text => text
  | slot before name after => String.ofList (braced before.toList name.toList after.toList)

def Part.filled (lookup : String → Option String) : Part → String
  | literal text => text
  | slot before name after => (lookup name).getD (slot before name after).written

theorem renderFrom_part (lookup : String → Option String) {part : Part} (formed : part.Formed)
    (rest : Chars) :
    renderFrom (fun name => (lookup (String.ofList name)).map String.toList) 0
        (part.written.toList ++ rest) =
      (part.filled lookup).toList ++
        renderFrom (fun name => (lookup (String.ofList name)).map String.toList) 0 rest := by
  cases part with
  | literal text => exact renderFrom_literal formed rest
  | slot before name after =>
      rw [Part.written, String.toList_ofList, renderFrom_braced formed, String.ofList_toList,
        Part.filled, Part.written]
      cases lookup name with
      | none => rw [Option.map_none, Option.getD_none, Option.getD_none, String.toList_ofList]
      | some text => rfl

end Triage.Placeholder

namespace Triage.Text

open Placeholder

/-- Placeholders are filled one by one: a value is not looked at again, and whatever the values
are, what stands between the placeholders is unchanged. -/
theorem fillPlaceholders_join (lookup : String → Option String) {parts : List Part}
    (formed : ∀ part ∈ parts, part.Formed) :
    fillPlaceholders lookup (String.join (parts.map Part.written)) =
      String.join (parts.map (Part.filled lookup)) := by
  rw [← String.toList_inj, fillPlaceholders, String.toList_ofList, render]
  induction parts with
  | nil => rfl
  | cons part parts induction =>
      have rest := induction fun other member => formed other (List.mem_cons_of_mem _ member)
      rw [List.map_cons, List.map_cons, String.join_cons, String.join_cons, String.toList_append,
        String.toList_append, renderFrom_part lookup (formed part List.mem_cons_self), rest]

theorem fillPlaceholders_none (template : String) :
    fillPlaceholders (fun _ => none) template = template := by
  rw [fillPlaceholders, render, ← String.toList_inj, String.toList_ofList]
  exact renderFrom_none template.toList

end Triage.Text
