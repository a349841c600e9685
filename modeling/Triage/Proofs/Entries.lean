import Triage.Entries

namespace Triage

theorem lookup_cons {κ α : Type} [BEq κ] [LawfulBEq κ] [DecidableEq κ] {key other : κ}
    (held : α) (rest : List (κ × α)) :
    ((other, held) :: rest).lookup key = if key = other then some held else rest.lookup key := by
  by_cases same : key = other
  · simp [same]
  · have differs : (key == other) = false := by simpa using same
    simp [List.lookup_cons, differs, same]

namespace Entries

variable {α : Type} {entries : Entries α} {key other : String} {value : α}

/-! ## Looking up -/

@[simp] theorem get?_nil : get? key ([] : Entries α) = none := rfl

theorem get?_cons (held : α) (rest : Entries α) :
    get? key ((other, held) :: rest) = if key = other then some held else get? key rest :=
  lookup_cons held rest

theorem get?_eq_none_iff : get? key entries = none ↔ key ∉ entries.keys := by
  induction entries with
  | nil => simp [keys]
  | cons entry rest induction =>
      rcases entry with ⟨other, held⟩
      rw [get?_cons]
      by_cases equal : key = other
      · simp [keys, equal]
      · have same : key ∈ keys ((other, held) :: rest) ↔ key ∈ keys rest := by
          simp [keys, equal]
        rw [if_neg equal, induction, same]

theorem mem_keys_iff : key ∈ entries.keys ↔ ∃ value, get? key entries = some value := by
  rw [← Option.ne_none_iff_exists', Ne, get?_eq_none_iff, Decidable.not_not]

theorem mem_of_get? (held : get? key entries = some value) : (key, value) ∈ entries := by
  induction entries with
  | nil => cases held
  | cons entry rest induction =>
      rcases entry with ⟨other, found⟩
      rw [get?_cons] at held
      split at held
      · next same =>
        cases held
        exact same ▸ List.mem_cons_self
      · exact List.mem_cons_of_mem _ (induction held)

theorem get?_append (entries more : Entries α) :
    get? key (entries ++ more) = (get? key entries).or (get? key more) := by
  induction entries with
  | nil => rfl
  | cons entry rest induction =>
      rcases entry with ⟨other, held⟩
      rw [List.cons_append, get?_cons, get?_cons, induction]
      split <;> rfl

theorem get?_of_mem (nodup : entries.keys.Nodup) (member : (key, value) ∈ entries) :
    get? key entries = some value := by
  induction entries with
  | nil => cases member
  | cons entry rest induction =>
      rcases entry with ⟨other, held⟩
      rcases List.nodup_cons.mp nodup with ⟨absent, restNodup⟩
      rw [get?_cons]
      rcases List.mem_cons.mp member with same | member
      · cases same
        rw [if_pos rfl]
      · have different : key ≠ other := fun same =>
          absent (List.mem_map.mpr ⟨_, member, same⟩)
        rw [if_neg different, induction restNodup member]

/-- Where no key is there twice, the order does not matter. -/
theorem get?_perm {others : Entries α} (nodup : entries.keys.Nodup) (reordered : others.Perm entries) :
    get? key others = get? key entries := by
  have nodupToo : others.keys.Nodup := (reordered.map _).nodup_iff.mpr nodup
  apply Option.ext
  intro value
  constructor
  · exact fun held => get?_of_mem nodup (reordered.mem_iff.mp (mem_of_get? held))
  · exact fun held => get?_of_mem nodupToo (reordered.mem_iff.mpr (mem_of_get? held))

theorem contains_iff : contains key entries = true ↔ key ∈ entries.keys := by
  simp [contains, keys]

/-! ## Writing -/

@[simp] theorem insert_nil : insert key value [] = [(key, value)] := rfl

theorem insert_cons (held : α) (rest : Entries α) :
    insert key value ((other, held) :: rest) =
      if other = key then (other, value) :: rest else (other, held) :: insert key value rest := by
  by_cases equal : other = key <;> simp [insert, equal]

@[simp] theorem get?_insert_self : get? key (insert key value entries) = some value := by
  induction entries with
  | nil => simp [get?_cons]
  | cons entry rest induction =>
      rcases entry with ⟨other, held⟩
      rw [insert_cons]
      by_cases equal : other = key
      · simp [get?_cons, equal]
      · rw [if_neg equal, get?_cons, if_neg (Ne.symm equal), induction]

theorem get?_insert_of_ne (different : other ≠ key) :
    get? other (insert key value entries) = get? other entries := by
  induction entries with
  | nil => simp [get?_cons, different]
  | cons entry rest induction =>
      rcases entry with ⟨name, held⟩
      rw [insert_cons, get?_cons]
      by_cases equal : name = key
      · rw [if_pos equal, get?_cons, if_neg (equal ▸ different), if_neg (equal ▸ different)]
      · rw [if_neg equal, get?_cons, induction]

/-- What is held already is not overwritten. -/
theorem get?_insert_if_new : get? key (if contains other entries then entries
      else insert other value entries) =
    if key = other then (get? other entries).or (some value) else get? key entries := by
  cases held : get? other entries with
  | none =>
      have missing : ¬contains other entries = true := by
        rwa [contains_iff, ← get?_eq_none_iff]
      rw [if_neg missing]
      split
      · next same => rw [same, get?_insert_self, Option.none_or]
      · next differs => exact get?_insert_of_ne differs
  | some first =>
      have present : contains other entries = true := by
        rw [contains_iff, mem_keys_iff]
        exact ⟨first, held⟩
      rw [if_pos present]
      split
      · next same => rw [same, held, Option.some_or]
      · rfl

/-- A key that is written again keeps its place. -/
@[simp] theorem insert_insert {first : α} :
    insert key value (insert key first entries) = insert key value entries := by
  induction entries with
  | nil => simp [insert_cons]
  | cons entry rest induction =>
      rcases entry with ⟨other, held⟩
      by_cases equal : other = key
      · simp [insert_cons, equal]
      · simp [insert_cons, equal, induction]

/-- Writing what is held already changes nothing. -/
theorem insert_of_get? (held : get? key entries = some value) :
    insert key value entries = entries := by
  induction entries with
  | nil => cases held
  | cons entry rest induction =>
      rcases entry with ⟨other, first⟩
      rw [get?_cons] at held
      by_cases equal : key = other
      · rw [if_pos equal] at held
        cases held
        rw [insert_cons, if_pos equal.symm]
      · rw [if_neg equal] at held
        rw [insert_cons, if_neg (Ne.symm equal), induction held]

/-- A key that is in use is written where it stands. -/
theorem insert_eq_set (held : get? key entries = some value) :
    ∃ place, entries[place]? = some (key, value) ∧
      ∀ changed, insert key changed entries = entries.set place (key, changed) := by
  induction entries with
  | nil => cases held
  | cons entry rest induction =>
      rcases entry with ⟨other, first⟩
      rw [get?_cons] at held
      by_cases equal : key = other
      · rw [if_pos equal] at held
        cases held
        subst equal
        exact ⟨0, rfl, fun changed => by rw [insert_cons, if_pos rfl, List.set_cons_zero]⟩
      · rw [if_neg equal] at held
        rcases induction held with ⟨place, found, written⟩
        refine ⟨place + 1, found, fun changed => ?_⟩
        rw [insert_cons, if_neg (Ne.symm equal), written, List.set_cons_succ]

theorem map_of_not_mem (changed : α → α) (absent : key ∉ entries.keys) :
    (entries.map fun entry => (entry.1, if entry.1 = key then changed entry.2 else entry.2)) =
      entries := by
  refine (List.map_congr_left fun entry member => ?_).trans entries.map_id
  have different : entry.1 ≠ key := fun same =>
    absent (List.mem_map.mpr ⟨entry, member, same⟩)
  rw [if_neg different]
  rfl

/-- Where no key is there twice, a value is changed under its key. -/
theorem insert_eq_map (changed : α → α) (nodup : entries.keys.Nodup)
    (held : get? key entries = some value) : insert key (changed value) entries =
      entries.map fun entry => (entry.1, if entry.1 = key then changed entry.2 else entry.2) := by
  induction entries with
  | nil => cases held
  | cons entry rest induction =>
      rcases entry with ⟨other, first⟩
      rcases List.nodup_cons.mp nodup with ⟨absent, restNodup⟩
      rw [get?_cons] at held
      by_cases equal : key = other
      · rw [if_pos equal] at held
        cases held
        subst equal
        rw [insert_cons, if_pos rfl, List.map_cons, if_pos rfl, map_of_not_mem changed absent]
      · rw [if_neg equal] at held
        rw [insert_cons, if_neg (Ne.symm equal), List.map_cons, if_neg (Ne.symm equal),
          induction restNodup held]

/-- What the values add up to when one of them gets more. -/
theorem perm_flatMap_insert {β : Type} {each : α → List β} {changed : α} {more : List β}
    (held : get? key entries = some value) (gains : each changed = each value ++ more) :
    ((insert key changed entries).flatMap fun entry => each entry.2).Perm
      ((entries.flatMap fun entry => each entry.2) ++ more) := by
  induction entries with
  | nil => cases held
  | cons entry rest induction =>
      rcases entry with ⟨other, first⟩
      rw [get?_cons] at held
      by_cases equal : key = other
      · rw [if_pos equal] at held
        cases held
        rw [insert_cons, if_pos equal.symm, List.flatMap_cons, List.flatMap_cons, gains,
          List.append_assoc, List.append_assoc]
        exact List.Perm.append_left _ List.perm_append_comm
      · rw [if_neg equal] at held
        rw [insert_cons, if_neg (Ne.symm equal), List.flatMap_cons, List.flatMap_cons,
          List.append_assoc]
        exact (induction held).append_left _

theorem insert_of_not_mem (absent : key ∉ entries.keys) :
    insert key value entries = entries ++ [(key, value)] := by
  induction entries with
  | nil => rfl
  | cons entry rest induction =>
      rcases entry with ⟨other, held⟩
      simp only [keys, List.map_cons, List.mem_cons, not_or] at absent
      rw [insert_cons, if_neg (Ne.symm absent.1), induction absent.2, List.cons_append]

theorem mem_insert {entry : String × α} (member : entry ∈ insert key value entries) :
    entry.2 = value ∨ entry ∈ entries := by
  induction entries with
  | nil => exact .inl (by rw [List.mem_singleton.mp member])
  | cons first rest induction =>
      rcases first with ⟨other, held⟩
      rw [insert_cons] at member
      split at member
      · rcases List.mem_cons.mp member with rfl | member
        · exact .inl rfl
        · exact .inr (List.mem_cons_of_mem _ member)
      · rcases List.mem_cons.mp member with rfl | member
        · exact .inr List.mem_cons_self
        · exact (induction member).imp_right (List.mem_cons_of_mem _)

theorem keys_insert_of_mem (known : key ∈ entries.keys) :
    (insert key value entries).keys = entries.keys := by
  induction entries with
  | nil => cases known
  | cons entry rest induction =>
      rcases entry with ⟨other, held⟩
      rw [insert_cons]
      by_cases equal : other = key
      · simp [keys, equal]
      · have inRest : key ∈ keys rest := by simpa [keys, Ne.symm equal] using known
        rw [if_neg equal]
        exact congrArg (other :: ·) (induction inRest)

theorem keys_insert_of_not_mem (absent : key ∉ entries.keys) :
    (insert key value entries).keys = entries.keys ++ [key] := by
  rw [insert_of_not_mem absent]
  simp [keys]

theorem mem_keys_insert : other ∈ (insert key value entries).keys ↔
    other = key ∨ other ∈ entries.keys := by
  by_cases known : key ∈ entries.keys
  · rw [keys_insert_of_mem known]
    exact ⟨.inr, fun either => either.elim (fun equal => equal ▸ known) id⟩
  · rw [keys_insert_of_not_mem known, List.mem_append, List.mem_singleton, or_comm]

theorem nodup_keys_insert (nodup : entries.keys.Nodup) : (insert key value entries).keys.Nodup := by
  by_cases known : key ∈ entries.keys
  · rwa [keys_insert_of_mem known]
  · rw [keys_insert_of_not_mem known, List.nodup_append]
    refine ⟨nodup, by simp, fun other member _ isKey same => known ?_⟩
    rwa [← List.mem_singleton.mp isKey, ← same]

@[simp] theorem keys_append (entries more : Entries α) :
    keys (entries ++ more) = entries.keys ++ more.keys :=
  List.map_append

/-- What stands before is not written. -/
theorem insert_append {more : Entries α} (absent : key ∉ entries.keys) :
    insert key value (entries ++ more) = entries ++ insert key value more := by
  induction entries with
  | nil => rfl
  | cons entry rest induction =>
      rcases entry with ⟨other, held⟩
      simp only [keys, List.map_cons, List.mem_cons, not_or] at absent
      rw [List.cons_append, insert_cons, if_neg (Ne.symm absent.1), induction absent.2,
        List.cons_append]

/-- Entries under different keys stay in the order in which they were written. -/
theorem foldl_insert {σ : Type} {keyOf : σ → String} {valueOf : σ → α} {items : List σ}
    (nodup : (entries.keys ++ items.map keyOf).Nodup) :
    items.foldl (fun held item => insert (keyOf item) (valueOf item) held) entries =
      entries ++ items.map fun item => (keyOf item, valueOf item) := by
  induction items generalizing entries with
  | nil => simp
  | cons item rest induction =>
      have absent : keyOf item ∉ entries.keys := fun member =>
        (List.nodup_append.mp nodup).2.2 _ member _ List.mem_cons_self rfl
      have placed : insert (keyOf item) (valueOf item) entries =
          entries ++ [(keyOf item, valueOf item)] := insert_of_not_mem absent
      rw [List.foldl_cons, placed, induction, List.append_assoc]
      · rfl
      · simpa [keys] using nodup

/-- Of the entries under one key the last one is kept. -/
theorem get?_extend (entries more : Entries α) :
    get? key (extend entries more) = (get? key more.reverse).or (get? key entries) := by
  induction more generalizing entries with
  | nil => rfl
  | cons entry rest induction =>
      rcases entry with ⟨other, held⟩
      have extended : extend entries ((other, held) :: rest) =
          extend (insert other held entries) rest := rfl
      rw [extended, induction, List.reverse_cons, get?_append, Option.or_assoc]
      congr 1
      rw [get?_cons, get?_nil]
      by_cases equal : key = other
      · rw [if_pos equal, equal, get?_insert_self]
        rfl
      · rw [if_neg equal, get?_insert_of_ne equal]
        rfl

theorem nodup_keys_extend (more : Entries α) (nodup : entries.keys.Nodup) :
    (extend entries more).keys.Nodup := by
  induction more generalizing entries with
  | nil => exact nodup
  | cons entry rest induction => exact induction (nodup_keys_insert nodup)

theorem get?_ofList (entries : List (String × α)) :
    get? key (ofList entries) = get? key entries.reverse := by
  rw [ofList, get?_extend, get?_nil, Option.or_none]

theorem nodup_keys_ofList (entries : List (String × α)) : (ofList entries).keys.Nodup :=
  nodup_keys_extend entries List.nodup_nil

/-- Entries under different keys are kept as they are. -/
theorem extend_of_nodup {more : Entries α} (nodup : (entries.keys ++ more.keys).Nodup) :
    extend entries more = entries ++ more := by
  have placed : more.foldl (fun held item => insert item.1 item.2 held) entries =
      entries ++ more.map fun item => (item.1, item.2) := foldl_insert nodup
  simpa [extend] using placed

theorem ofList_of_nodup (nodup : entries.keys.Nodup) : ofList entries = entries :=
  extend_of_nodup nodup

/-! ## Removing -/

theorem erase_cons (held : α) (rest : Entries α) :
    erase key ((other, held) :: rest) =
      if other = key then rest else (other, held) :: erase key rest := by
  by_cases equal : other = key <;> simp [erase, equal]

theorem keys_erase : (erase key entries).keys = List.erase entries.keys key := by
  induction entries with
  | nil => rfl
  | cons entry rest induction =>
      rcases entry with ⟨other, held⟩
      rw [erase_cons]
      by_cases equal : other = key
      · simp [keys, equal]
      · have kept : keys ((other, held) :: erase key rest) = other :: (erase key rest).keys := rfl
        rw [if_neg equal, kept, induction]
        exact (List.erase_cons_tail (by simpa using equal)).symm

theorem erase_append {more : Entries α} (absent : key ∉ entries.keys) :
    erase key (entries ++ more) = entries ++ erase key more := by
  induction entries with
  | nil => rfl
  | cons entry rest induction =>
      rcases entry with ⟨other, held⟩
      simp only [keys, List.map_cons, List.mem_cons, not_or] at absent
      rw [List.cons_append, erase_cons, if_neg (Ne.symm absent.1), induction absent.2,
        List.cons_append]

theorem erase_of_not_mem (absent : key ∉ entries.keys) : erase key entries = entries := by
  induction entries with
  | nil => rfl
  | cons entry rest induction =>
      rcases entry with ⟨other, held⟩
      simp only [keys, List.map_cons, List.mem_cons, not_or] at absent
      rw [erase_cons, if_neg (Ne.symm absent.1), induction absent.2]

theorem get?_erase_self (nodup : entries.keys.Nodup) : get? key (erase key entries) = none := by
  rw [get?_eq_none_iff, keys_erase]
  exact nodup.not_mem_erase

theorem get?_erase_of_ne (different : other ≠ key) :
    get? other (erase key entries) = get? other entries := by
  induction entries with
  | nil => rfl
  | cons entry rest induction =>
      rcases entry with ⟨name, held⟩
      rw [erase_cons, get?_cons]
      by_cases equal : name = key
      · rw [if_pos equal, if_neg (equal ▸ different)]
      · rw [if_neg equal, get?_cons, induction]

theorem erase_eq_filter (nodup : entries.keys.Nodup) :
    erase key entries = entries.filter (·.1 ≠ key) := by
  induction entries with
  | nil => rfl
  | cons entry rest induction =>
      rcases entry with ⟨other, held⟩
      rcases List.nodup_cons.mp nodup with ⟨absent, restNodup⟩
      rw [erase_cons]
      by_cases equal : other = key
      · have kept : rest.filter (·.1 ≠ key) = rest := by
          refine List.filter_eq_self.mpr fun found member => decide_eq_true fun same => absent ?_
          exact List.mem_map.mpr ⟨found, member, same.trans equal.symm⟩
        rw [if_pos equal, List.filter_cons_of_neg (by simpa using equal), kept]
      · rw [if_neg equal, List.filter_cons_of_pos (by simpa using equal), induction restNodup]

/-- Leaving out some keys leaves the values of the others. -/
theorem get?_filter (keep : String → Bool) :
    get? key (entries.filter fun entry => keep entry.1) =
      if keep key then get? key entries else none := by
  induction entries with
  | nil => simp
  | cons entry rest induction =>
      rcases entry with ⟨other, held⟩
      rw [List.filter_cons]
      split
      · next kept =>
        rw [get?_cons, get?_cons, induction]
        split
        · next same => rw [if_pos (same ▸ kept)]
        · rfl
      · next dropped =>
        rw [induction, get?_cons]
        split
        · next keeps => rw [if_neg fun same : key = other => dropped (same ▸ keeps)]
        · rfl

end Entries

end Triage
