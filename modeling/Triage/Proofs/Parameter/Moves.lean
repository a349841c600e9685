import Mathlib.Data.List.Nodup
import Mathlib.Logic.Relation
import Triage.Parameter.Resolution
import Triage.Proofs.Entries

namespace Triage

/-! ## What was given under a name -/

namespace Parameters

variable {given others : Parameters} {name : String}

/-- The value that was given last under a name, in whatever spelling. -/
def lastGiven? (given : Parameters) (name : String) : Option Value :=
  (given.reverse.find? fun entry => Text.fold entry.1 == name).map (·.2)

/-- The names that something was given under. -/
def supplied (given : Parameters) : List String :=
  given.map fun entry => Text.fold entry.1

theorem supplied_eq_map_keys (given : Parameters) :
    given.supplied = given.keys.map Text.fold := by
  simp [supplied, Entries.keys, Function.comp_def]

theorem nodup_keys_of_supplied (distinct : given.supplied.Nodup) : given.keys.Nodup :=
  List.Nodup.of_map Text.fold (given.supplied_eq_map_keys ▸ distinct)

theorem folded_append (given : Parameters) (name : String) (value : Value) :
    folded (given ++ [(name, value)]) = given.folded.insert (Text.fold name) value := by
  simp [folded, Entries.ofList, Entries.extend]

theorem get?_folded (given : Parameters) (name : String) :
    given.folded.get? name = given.lastGiven? name := by
  have found (entries : Parameters) :
      Entries.get? name (entries.map fun entry => (Text.fold entry.1, entry.2)) =
        (entries.find? fun entry => Text.fold entry.1 == name).map (·.2) := by
    induction entries with
    | nil => rfl
    | cons entry rest induction =>
        rw [List.map_cons, Entries.get?_cons, induction, List.find?_cons]
        by_cases same : name = Text.fold entry.1
        · simp [same]
        · have differs : (Text.fold entry.1 == name) = false := by simpa using Ne.symm same
          simp [same, differs]
  rw [folded, Entries.get?_ofList, ← List.map_reverse]
  exact found given.reverse

theorem nodup_keys_folded (given : Parameters) : given.folded.keys.Nodup :=
  Entries.nodup_keys_ofList _

theorem lastGiven?_isSome : (∃ value, given.lastGiven? name = some value) ↔
    name ∈ given.supplied := by
  simp only [lastGiven?, supplied, Option.map_eq_some_iff, List.mem_map]
  constructor
  · rintro ⟨value, entry, found, -⟩
    exact ⟨entry, List.mem_reverse.mp (List.mem_of_find?_eq_some found),
      by simpa using List.find?_some found⟩
  · rintro ⟨entry, member, same⟩
    have some_ : (given.reverse.find? fun entry => Text.fold entry.1 == name).isSome = true := by
      rw [List.find?_isSome]
      exact ⟨entry, List.mem_reverse.mpr member, by simpa using same⟩
    rcases Option.isSome_iff_exists.mp some_ with ⟨found, isFound⟩
    exact ⟨found.2, found, isFound, rfl⟩

theorem mem_keys_folded : name ∈ given.folded.keys ↔ name ∈ given.supplied := by
  rw [Entries.mem_keys_iff, ← lastGiven?_isSome]
  simp only [get?_folded]

/-- Where no name is given twice, the order does not matter. -/
theorem lastGiven?_perm (reordered : others.Perm given) (distinct : given.supplied.Nodup)
    (name : String) : others.lastGiven? name = given.lastGiven? name := by
  have keys (entries : Parameters) :
      Entries.keys (entries.map fun entry => (Text.fold entry.1, entry.2)) = entries.supplied := by
    simp [Entries.keys, supplied, Function.comp_def]
  have distinctOthers : others.supplied.Nodup := (reordered.map _).nodup_iff.mpr distinct
  rw [← get?_folded, ← get?_folded, folded, folded, Entries.ofList_of_nodup (by rwa [keys]),
    Entries.ofList_of_nodup (by rwa [keys])]
  exact Entries.get?_perm (by rwa [keys]) (reordered.map _)

end Parameters

namespace Specs

variable {given : Parameters} {specs rest : Specs} {name key target : String}
  {spec : ParameterSpec}

theorem nodup_keys_folded (specs : Specs) : specs.folded.keys.Nodup :=
  Entries.nodup_keys_ofList _

/-! ## The move of one old name -/

theorem moveAlias_of_live (live : spec.movesTo? = none) : moveAlias given name spec = given := by
  simp [moveAlias, live]

theorem moveAlias_of_not_given (absent : given.get? name = none) :
    moveAlias given name spec = given := by
  unfold moveAlias
  rw [absent]
  cases spec.movesTo? <;> rfl

theorem nodup_keys_moveAlias (nodup : given.keys.Nodup) :
    (moveAlias given name spec).keys.Nodup := by
  have erased : (given.erase name).keys.Nodup := by
    rw [Entries.keys_erase]
    exact nodup.erase name
  unfold moveAlias
  split
  · dsimp only
    split
    · exact erased
    · exact Entries.nodup_keys_insert erased
  · exact nodup

theorem get?_moveAlias (nodup : given.keys.Nodup) (moves : spec.movesTo? = some target)
    (different : target ≠ name) :
    (moveAlias given name spec).get? key =
      if key = target then (given.get? target).or (given.get? name)
      else if key = name then none else given.get? key := by
  cases held : given.get? name with
  | none =>
      rw [moveAlias_of_not_given held, Option.or_none]
      split
      · next same => rw [same]
      · split
        · next same => rw [same, held]
        · rfl
  | some value =>
      simp only [moveAlias, moves, held]
      rw [Entries.get?_insert_if_new, Entries.get?_erase_of_ne different]
      congr 1
      split
      · next same => exact same ▸ Entries.get?_erase_self nodup
      · next differs => exact Entries.get?_erase_of_ne differs

/-- A name that is its own replacement keeps its value. -/
theorem get?_moveAlias_self (nodup : given.keys.Nodup) (moves : spec.movesTo? = some name) :
    (moveAlias given name spec).get? key = given.get? key := by
  cases held : given.get? name with
  | none => rw [moveAlias_of_not_given held]
  | some value =>
      simp only [moveAlias, moves, held]
      rw [Entries.get?_insert_if_new, Entries.get?_erase_self nodup, Option.none_or]
      split
      · next same => rw [same, held]
      · next differs => exact Entries.get?_erase_of_ne differs

/-! ## One pass over the old names -/

/-- The name that takes the value of an old one. -/
def target? (specs : Specs) (name : String) : Option String :=
  (specs.get? name).bind ParameterSpec.movesTo?

theorem target?_cons : target? ((key, spec) :: rest) name =
    if name = key then spec.movesTo? else target? rest name := by
  rw [target?, Entries.get?_cons]
  split <;> rfl

theorem target?_of_mem (nodup : specs.keys.Nodup) (member : (name, spec) ∈ specs) :
    specs.target? name = spec.movesTo? := by
  rw [target?, Entries.get?_of_mem nodup member, Option.bind_some]

theorem target?_of_not_mem (absent : name ∉ specs.keys) : specs.target? name = none := by
  rw [target?, Entries.get?_eq_none_iff.mpr absent, Option.bind_none]

theorem mem_of_target? (moves : specs.target? name = some target) :
    ∃ spec, (name, spec) ∈ specs ∧ spec.movesTo? = some target := by
  rcases Option.bind_eq_some_iff.mp moves with ⟨spec, found, moves⟩
  exact ⟨spec, Entries.mem_of_get? found, moves⟩

theorem nodup_keys_moveAliases (specs : Specs) (nodup : given.keys.Nodup) :
    (specs.moveAliases given).keys.Nodup := by
  induction specs generalizing given with
  | nil => exact nodup
  | cons entry rest induction => exact induction (nodup_keys_moveAlias nodup)

/-- Where the value of a name is once an old name was dealt with. -/
def carried (old : String) (spec : ParameterSpec) (name : String) : String :=
  if name = old then spec.movesTo?.getD old else name

/-- Where the value of a name is in the end. -/
def landing : Specs → String → String
  | [], name => name
  | (old, spec) :: rest, name => landing rest (carried old spec name)

theorem carried_of_live (live : spec.movesTo? = none) : carried key spec name = name := by
  rw [carried, live]
  split
  · next same => exact same.symm
  · rfl

theorem carried_old (moves : spec.movesTo? = some target) : carried name spec name = target := by
  rw [carried, if_pos rfl, moves, Option.getD_some]

theorem carried_of_ne (different : name ≠ key) : carried key spec name = name :=
  if_neg different

theorem mem_keys_moveAlias (nodup : given.keys.Nodup) :
    key ∈ (moveAlias given name spec).keys ↔
      ∃ other ∈ given.keys, carried name spec other = key := by
  cases moves : spec.movesTo? with
  | none => simp [moveAlias_of_live moves, carried_of_live moves]
  | some target =>
      by_cases same : target = name
      · subst same
        have stays (other : String) : carried target spec other = other := by
          by_cases old : other = target
          · rw [old, carried_old moves]
          · exact carried_of_ne old
        simp only [Entries.mem_keys_iff, get?_moveAlias_self nodup moves, stays]
        simp
      · rw [Entries.mem_keys_iff, get?_moveAlias nodup moves same]
        constructor
        · rintro ⟨value, held⟩
          split at held
          · next isTarget =>
            rcases Option.or_eq_some_iff.mp held with first | ⟨-, second⟩
            · exact ⟨target, Entries.mem_keys_iff.mpr ⟨value, first⟩,
                by rw [carried_of_ne same, isTarget]⟩
            · exact ⟨name, Entries.mem_keys_iff.mpr ⟨value, second⟩,
                by rw [carried_old moves, isTarget]⟩
          · split at held
            · cases held
            · next different =>
              exact ⟨key, Entries.mem_keys_iff.mpr ⟨value, held⟩, carried_of_ne different⟩
        · rintro ⟨other, member, rfl⟩
          rcases Entries.mem_keys_iff.mp member with ⟨value, held⟩
          by_cases old : other = name
          · subst old
            rw [carried_old moves, if_pos rfl, held]
            cases given.get? target <;> simp
          · rw [carried_of_ne old, if_neg old]
            split
            · next isTarget =>
              rw [← isTarget, held]
              simp
            · exact ⟨value, held⟩

/-- A value that no other one meets is moved on. -/
theorem get?_moveAlias_alone {value : Value} (nodup : given.keys.Nodup)
    (held : given.get? key = some value)
    (alone : ∀ other ∈ given.keys, carried name spec other = carried name spec key →
      other = key) :
    (moveAlias given name spec).get? (carried name spec key) = some value := by
  cases moves : spec.movesTo? with
  | none => rwa [moveAlias_of_live moves, carried_of_live moves]
  | some target =>
      by_cases old : key = name
      · subst old
        rw [carried_old moves] at alone ⊢
        by_cases same : target = key
        · rw [same] at moves ⊢
          rwa [get?_moveAlias_self nodup moves]
        · have vacant : given.get? target = none := by
            rw [Entries.get?_eq_none_iff]
            exact fun member => same (alone target member (carried_of_ne same))
          rw [get?_moveAlias nodup moves same, if_pos rfl, vacant, Option.none_or, held]
      · rw [carried_of_ne old]
        by_cases same : target = name
        · rwa [get?_moveAlias_self nodup (same ▸ moves)]
        · rw [get?_moveAlias nodup moves same, if_neg old]
          split
          · next isTarget => rw [← isTarget, held, Option.some_or]
          · exact held

theorem mem_keys_moveAliases (specs : Specs) (nodup : given.keys.Nodup) :
    key ∈ (specs.moveAliases given).keys ↔ ∃ name ∈ given.keys, specs.landing name = key := by
  induction specs generalizing given with
  | nil => simp [moveAliases, landing]
  | cons entry rest induction =>
      rcases entry with ⟨old, spec⟩
      rw [moveAliases, induction (nodup_keys_moveAlias nodup)]
      simp only [mem_keys_moveAlias nodup, landing]
      constructor
      · rintro ⟨middle, ⟨name, member, rfl⟩, lands⟩
        exact ⟨name, member, lands⟩
      · rintro ⟨name, member, lands⟩
        exact ⟨_, ⟨name, member, rfl⟩, lands⟩

theorem get?_moveAliases_alone {value : Value} (specs : Specs) (nodup : given.keys.Nodup)
    (held : given.get? name = some value)
    (alone : ∀ other ∈ given.keys, specs.landing other = specs.landing name → other = name) :
    (specs.moveAliases given).get? (specs.landing name) = some value := by
  induction specs generalizing given name with
  | nil => exact held
  | cons entry rest induction =>
      rcases entry with ⟨old, spec⟩
      rw [moveAliases, landing]
      refine induction (nodup_keys_moveAlias nodup) (get?_moveAlias_alone nodup held ?_) ?_
      · exact fun other member meets => alone other member (congrArg (landing rest) meets)
      · intro other member meets
        rcases (mem_keys_moveAlias nodup).mp member with ⟨first, isGiven, rfl⟩
        rw [alone first isGiven meets]

end Specs

end Triage
