import Mathlib.Data.List.Induction
import Triage.Proofs.Parameter.Declared

namespace Triage

namespace Entries

variable {α : Type} {key : String} {value : α} {entries : Entries α}

/-- Writing under a key and leaving out keys go in either order. -/
theorem filter_insert (keep : String → Bool) :
    (insert key value entries).filter (fun entry => keep entry.1) =
      if keep key then insert key value (entries.filter fun entry => keep entry.1)
      else entries.filter fun entry => keep entry.1 := by
  induction entries with
  | nil => by_cases kept : keep key <;> simp [insert, kept]
  | cons entry rest induction =>
      rcases entry with ⟨other, held⟩
      rw [insert_cons]
      by_cases same : other = key
      · subst same
        by_cases kept : keep other <;> simp [kept, insert_cons]
      · by_cases kept : keep other <;> by_cases keptToo : keep key <;>
          simp [kept, keptToo, same, insert_cons] at induction ⊢ <;> exact induction

theorem filter_ofList (keep : String → Bool) (given : List (String × α)) :
    (ofList given).filter (fun entry => keep entry.1) =
      ofList (given.filter fun entry => keep entry.1) := by
  have last (before : List (String × α)) (entry : String × α) :
      ofList (before ++ [entry]) = (ofList before).insert entry.1 entry.2 := by
    simp [ofList, extend]
  induction given using List.reverseRecOn with
  | nil => rfl
  | append_singleton before entry induction =>
      rw [last, filter_insert, List.filter_append]
      by_cases kept : keep entry.1 <;> simp [kept, last, induction]

end Entries

namespace Specs

variable {pending rest : Specs} {given kept : Parameters} {declared live : List String}
  {old name target : String} {spec : ParameterSpec}

/-! ## One mapping with nulls and one without them -/

/-- A null is given where the other mapping has something else, or nothing. -/
def hides (given kept : Parameters) (name : String) : Bool :=
  (given.get? name).any Value.isNull && !(kept.get? name).any Value.isNull

/-- Nothing will move to or from the name, and the mappings agree about it. -/
def visible (live : List String) (pending : Specs) (given kept : Parameters) (name : String) :
    Bool :=
  name ∉ live && name ∉ pending.keys && !hides given kept name

theorem visible_cons_of_ne (other : name ≠ old) :
    visible live ((old, spec) :: pending) given kept name = visible live pending given kept name := by
  have pendingToo : name ∉ Entries.keys ((old, spec) :: pending) ↔ name ∉ pending.keys := by
    simp [Entries.keys, other]
  simp only [visible, pendingToo]

/-- How two mappings compare of which one lacks the nulls of the other under declared names,
when the old names of `pending` are still to be dealt with. -/
structure Overshadows (declared live : List String) (pending : Specs)
    (given kept : Parameters) : Prop where
  nodup : given.keys.Nodup
  keptNodup : kept.keys.Nodup
  agree : ∀ name, given.get? name = kept.get? name ∨ given.get? name = some .null
  noNull : ∀ name ∈ declared, kept.get? name ≠ some .null
  order : given.filter (fun entry => visible live pending given kept entry.1) =
    kept.filter fun entry => visible live pending given kept entry.1

theorem hides_eq_false_iff (agree : given.get? name = kept.get? name ∨ given.get? name = some .null) :
    hides given kept name = false ↔ given.get? name = kept.get? name := by
  rw [hides]
  cases held : kept.get? name with
  | none => rcases agree with same | isNull <;> simp_all [Value.isNull]
  | some value =>
      rcases agree with same | isNull
      · simp_all
      · cases value <;> simp [isNull, Value.isNull]

/-- What a move adds at the end. -/
def arrival (given : Parameters) (old target : String) : Parameters :=
  if target ∈ (given.erase old).keys then []
  else ((given.get? old).map fun value => (target, value)).toList

theorem moveAlias_eq_append (moves : spec.movesTo? = some target) :
    moveAlias given old spec = given.erase old ++ arrival given old target := by
  unfold arrival
  cases held : given.get? old with
  | none =>
      rw [moveAlias_of_not_given held, Entries.erase_of_not_mem (Entries.get?_eq_none_iff.mp held)]
      simp
  | some value =>
      simp only [moveAlias, moves, held]
      split
      · next present =>
        rw [if_pos (Entries.contains_iff.mp present), List.append_nil]
      · next missing =>
        rw [Entries.contains_iff] at missing
        rw [if_neg missing, Entries.insert_of_not_mem missing]
        rfl

theorem arrival_of_held (held : given.get? target ≠ none) (other : target ≠ old) :
    arrival given old target = [] := by
  rw [arrival, if_pos]
  rwa [← Entries.get?_erase_of_ne other, ne_eq, Entries.get?_eq_none_iff, not_not] at held

theorem arrival_of_absent (nodup : given.keys.Nodup) (absent : given.get? target = none ∨ target = old) :
    arrival given old target = ((given.get? old).map fun value => (target, value)).toList := by
  rw [arrival, if_neg]
  rw [← Entries.get?_eq_none_iff]
  by_cases same : target = old
  · rw [same]
    exact Entries.get?_erase_self nodup
  · rw [Entries.get?_erase_of_ne same]
    exact absent.resolve_right same

theorem filter_arrival_of_hidden {keep : String → Bool} (hidden : keep target = false) :
    (arrival given old target).filter (fun entry => keep entry.1) = [] := by
  rw [List.filter_eq_nil_iff]
  intro entry isMember
  unfold arrival at isMember
  split at isMember
  · cases isMember
  · obtain ⟨value, -, rfl⟩ := Option.map_eq_some_iff.mp (Option.mem_toList.mp isMember)
    simp [hidden]

/-- What is held under a name once an old name was dealt with. -/
theorem get?_moveAlias_or (nodup : given.keys.Nodup) (moves : spec.movesTo? = some target) :
    (moveAlias given old spec).get? name =
      if name = target then (given.get? target).or (given.get? old)
      else if name = old then none else given.get? name := by
  by_cases same : target = old
  · rw [get?_moveAlias_self nodup (same ▸ moves), same, Option.or_self]
    split
    · next isOld => rw [isOld]
    · rfl
  · exact get?_moveAlias nodup moves same

namespace Overshadows

variable (before : Overshadows declared live ((old, spec) :: pending) given kept)
  (isDeclared : old ∈ declared) (moves : spec.movesTo? = some target)
include before isDeclared moves

theorem agree_moveAlias (name : String) :
    (moveAlias given old spec).get? name = (moveAlias kept old spec).get? name ∨
      (moveAlias given old spec).get? name = some .null := by
  have keptOld := before.noNull old isDeclared
  rw [get?_moveAlias_or before.nodup moves, get?_moveAlias_or before.keptNodup moves]
  split
  · rcases before.agree target with same | isNull
    · rcases before.agree old with sameOld | isNull
      · exact .inl (by rw [same, sameOld])
      · cases held : kept.get? target <;> simp_all
    · simp [isNull]
  · split
    · exact .inl rfl
    · exact before.agree name

theorem noNull_moveAlias (isDeclaredToo : name ∈ declared) :
    (moveAlias kept old spec).get? name ≠ some .null := by
  have keptOld := before.noNull old isDeclared
  have keptName := before.noNull name isDeclaredToo
  rw [get?_moveAlias_or before.keptNodup moves]
  split
  · next isTarget =>
    rw [isTarget] at keptName
    cases held : kept.get? target <;> simp_all
  · split
    · exact fun none_ => absurd none_ (by simp)
    · exact keptName

/-- A name that has a value keeps it, and so it stays hidden or not. -/
theorem hides_moveAlias (other : name ≠ old) (present : given.get? name ≠ none) :
    hides (moveAlias given old spec) (moveAlias kept old spec) name = hides given kept name := by
  have keptOld := before.noNull old isDeclared
  rw [hides, hides, get?_moveAlias_or before.nodup moves, get?_moveAlias_or before.keptNodup moves]
  by_cases isTarget : name = target
  · rw [if_pos isTarget, if_pos isTarget, ← isTarget]
    obtain ⟨value, held⟩ := Option.ne_none_iff_exists'.mp present
    rw [held, Option.some_or]
    cases keptHeld : kept.get? name with
    | some value => rw [Option.some_or]
    | none =>
        rw [Option.none_or]
        cases oldHeld : kept.get? old with
        | none => rfl
        | some value => 
            rw [oldHeld] at keptOld
            cases value <;> simp_all [Value.isNull]
  · rw [if_neg isTarget, if_neg isTarget, if_neg other, if_neg other]

theorem visible_moveAlias (other : name ≠ old) (present : given.get? name ≠ none) :
    visible live pending (moveAlias given old spec) (moveAlias kept old spec) name =
      visible live ((old, spec) :: pending) given kept name := by
  rw [visible_cons_of_ne other, visible, visible,
    before.hides_moveAlias isDeclared moves other present]

theorem filter_erase {entries : Parameters} (nodup : entries.keys.Nodup)
    (present : ∀ entry ∈ entries, given.get? entry.1 ≠ none) :
    (entries.erase old).filter (fun entry => visible live pending (moveAlias given old spec)
        (moveAlias kept old spec) entry.1) =
      entries.filter fun entry => visible live ((old, spec) :: pending) given kept entry.1 := by
  rw [Entries.erase_eq_filter nodup, List.filter_filter]
  apply List.filter_congr
  intro entry isMember
  by_cases isOld : entry.1 = old
  · simp [isOld, visible, Entries.keys]
  · simp [isOld, before.visible_moveAlias isDeclared moves isOld (present entry isMember)]

theorem filter_arrival :
    (arrival given old target).filter (fun entry => visible live pending
        (moveAlias given old spec) (moveAlias kept old spec) entry.1) =
      (arrival kept old target).filter (fun entry => visible live pending
        (moveAlias given old spec) (moveAlias kept old spec) entry.1) := by
  by_cases isVisible : visible live pending (moveAlias given old spec)
      (moveAlias kept old spec) target = true
  · have keptOld := before.noNull old isDeclared
    simp only [visible, Bool.and_eq_true, Bool.not_eq_true'] at isVisible
    have same := (hides_eq_false_iff (before.agree_moveAlias isDeclared moves target)).mp isVisible.2
    rw [get?_moveAlias_or before.nodup moves, get?_moveAlias_or before.keptNodup moves, if_pos rfl, if_pos rfl] at same
    by_cases isOld : target = old
    · rw [isOld, Option.or_self, Option.or_self] at same
      rw [arrival_of_absent before.nodup (.inr isOld), arrival_of_absent before.keptNodup (.inr isOld), same]
    · by_cases absent : given.get? target = none
      · have keptAbsent : kept.get? target = none := by
          rcases before.agree target with agrees | isNull
          · rw [← agrees, absent]
          · simp [absent] at isNull
        rw [absent, keptAbsent, Option.none_or, Option.none_or] at same
        rw [arrival_of_absent before.nodup (.inl absent), arrival_of_absent before.keptNodup (.inl keptAbsent), same]
      · have keptHeld : kept.get? target ≠ none := by
          intro keptAbsent
          rcases before.agree target with agrees | isNull
          · exact absent (agrees.trans keptAbsent)
          · rw [isNull, keptAbsent, Option.some_or, Option.none_or] at same
            exact keptOld same.symm
        rw [arrival_of_held absent isOld, arrival_of_held keptHeld isOld]
  · have hidden := Bool.eq_false_iff.mpr isVisible
    rw [filter_arrival_of_hidden hidden, filter_arrival_of_hidden hidden]

/-- A move keeps what is left visible of either mapping in the same order. -/
theorem step :
    Overshadows declared live pending (moveAlias given old spec) (moveAlias kept old spec) := by
  refine ⟨nodup_keys_moveAlias before.nodup, nodup_keys_moveAlias before.keptNodup,
    before.agree_moveAlias isDeclared moves,
    fun name isDeclaredToo => before.noNull_moveAlias isDeclared moves isDeclaredToo, ?_⟩
  have present : ∀ entry ∈ given, given.get? entry.1 ≠ none := fun entry isMember => by
    rw [Entries.get?_of_mem before.nodup isMember]
    simp
  have keptPresent : ∀ entry ∈ kept, given.get? entry.1 ≠ none := fun entry isMember => by
    rcases before.agree entry.1 with same | isNull
    · rw [same, Entries.get?_of_mem before.keptNodup isMember]
      simp
    · simp [isNull]
  calc (moveAlias given old spec).filter (fun entry => visible live pending
        (moveAlias given old spec) (moveAlias kept old spec) entry.1)
      = (given.erase old ++ arrival given old target).filter fun entry => visible live pending
          (moveAlias given old spec) (moveAlias kept old spec) entry.1 := by
        rw [← moveAlias_eq_append moves]
    _ = (kept.erase old ++ arrival kept old target).filter fun entry => visible live pending
          (moveAlias given old spec) (moveAlias kept old spec) entry.1 := by
        rw [List.filter_append, List.filter_append,
          before.filter_erase isDeclared moves before.nodup present,
          before.filter_erase isDeclared moves before.keptNodup keptPresent, before.order,
          before.filter_arrival isDeclared moves]
    _ = (moveAlias kept old spec).filter fun entry => visible live pending
          (moveAlias given old spec) (moveAlias kept old spec) entry.1 := by
        rw [← moveAlias_eq_append moves]

omit before isDeclared moves

theorem step_of_live (before : Overshadows declared live ((old, spec) :: pending) given kept)
    (isLive : old ∈ live) : Overshadows declared live pending given kept := by
  refine ⟨before.nodup, before.keptNodup, before.agree, before.noNull, ?_⟩
  have same (name : String) : visible live ((old, spec) :: pending) given kept name =
      visible live pending given kept name := by
    by_cases isOld : name = old
    · simp [visible, isOld, isLive]
    · exact visible_cons_of_ne isOld
  simpa only [same] using before.order

/-- A whole pass keeps it as well. -/
theorem run (before : Overshadows declared live pending given kept)
    (known : ∀ entry ∈ pending, entry.1 ∈ declared)
    (inUse : ∀ entry ∈ pending, entry.2.movesTo? = none → entry.1 ∈ live) :
    Overshadows declared live [] (pending.moveAliases given) (pending.moveAliases kept) := by
  induction pending generalizing given kept with
  | nil => exact before
  | cons entry rest induction =>
      rcases entry with ⟨old, spec⟩
      apply induction _ (fun entry isMember => known entry (List.mem_cons_of_mem _ isMember))
        (fun entry isMember => inUse entry (List.mem_cons_of_mem _ isMember))
      cases moves : spec.movesTo? with
      | none =>
          rw [moveAlias_of_live moves, moveAlias_of_live moves]
          exact before.step_of_live (inUse _ List.mem_cons_self moves)
      | some target => exact before.step (known _ List.mem_cons_self) moves

end Overshadows

/-! ## What was given, with nulls and without them -/

/-- What was given without the nulls under declared names. -/
def withoutNulls (specs : Specs) (given : Parameters) : Parameters :=
  given.filter fun entry => !(entry.2.isNull && Text.fold entry.1 ∈ specs.folded.keys)

variable {specs : Specs} {raw : Parameters}

/-- The entry that counts is still the last one, unless it is a null that was left out. -/
theorem lastGiven?_withoutNulls
    (counts : raw.lastGiven? name ≠ some .null ∨ name ∉ specs.folded.keys) :
    (specs.withoutNulls raw).lastGiven? name = raw.lastGiven? name := by
  unfold Parameters.lastGiven? withoutNulls at *
  rw [← List.filter_reverse]
  generalize raw.reverse = entries at *
  induction entries with
  | nil => rfl
  | cons entry rest induction =>
      by_cases same : Text.fold entry.1 = name
      · have isKept : (!(entry.2.isNull && Text.fold entry.1 ∈ specs.folded.keys)) = true := by
          rcases counts with present | undeclared
          · cases isValue : entry.2 <;> simp_all [Value.isNull]
          · simp [same, undeclared]
        rw [List.filter_cons, if_pos isKept]
        simp [same]
      · have differs : (Text.fold entry.1 == name) = false := by simpa using same
        rw [List.find?_cons, differs] at counts ⊢
        rw [← induction counts, List.filter_cons]
        split
        · rw [List.find?_cons, differs]
        · rfl

theorem lastGiven?_withoutNulls_ne_null (isDeclared : name ∈ specs.folded.keys) :
    (specs.withoutNulls raw).lastGiven? name ≠ some .null := by
  intro isNull
  obtain ⟨entry, isFound, isNull⟩ := Option.map_eq_some_iff.mp isNull
  have same : Text.fold entry.1 = name := by simpa using List.find?_some isFound
  have isKept := List.mem_reverse.mp (List.mem_of_find?_eq_some isFound)
  have counts := (List.mem_filter.mp isKept).2
  rw [isNull, same] at counts
  simp [Value.isNull, isDeclared] at counts

theorem filter_folded_withoutNulls (specs : Specs) (raw : Parameters) :
    (specs.withoutNulls raw).folded.filter (fun entry => entry.1 ∉ specs.folded.keys) =
      raw.folded.filter fun entry => entry.1 ∉ specs.folded.keys := by
  unfold Parameters.folded withoutNulls
  rw [Entries.filter_ofList fun name => decide (name ∉ specs.folded.keys),
    Entries.filter_ofList fun name => decide (name ∉ specs.folded.keys), List.filter_map,
    List.filter_map, List.filter_filter]
  congr 2
  apply List.filter_congr
  intro entry _
  by_cases isDeclared : Text.fold entry.1 ∈ specs.folded.keys <;> simp [isDeclared]

theorem overshadows_folded (specs : Specs) (raw : Parameters) :
    Overshadows specs.folded.keys specs.folded.live.keys specs.folded raw.folded
      (specs.withoutNulls raw).folded where
  nodup := raw.nodup_keys_folded
  keptNodup := Parameters.nodup_keys_folded _
  agree name := by
    simp only [Parameters.get?_folded]
    by_cases isNull : raw.lastGiven? name = some .null
    · exact .inr isNull
    · exact .inl (lastGiven?_withoutNulls (.inl isNull)).symm
  noNull name isDeclared := by
    rw [Parameters.get?_folded]
    exact lastGiven?_withoutNulls_ne_null isDeclared
  order := by
    have undeclared (entries : Parameters) :
        entries.filter (fun entry => visible specs.folded.live.keys specs.folded raw.folded
          (specs.withoutNulls raw).folded entry.1) =
        (entries.filter fun entry => entry.1 ∉ specs.folded.keys).filter fun entry =>
          visible specs.folded.live.keys specs.folded raw.folded
            (specs.withoutNulls raw).folded entry.1 := by
      rw [List.filter_filter]
      apply List.filter_congr
      intro entry _
      by_cases isDeclared : entry.1 ∈ specs.folded.keys <;> simp [visible, isDeclared]
    rw [undeclared raw.folded, undeclared (specs.withoutNulls raw).folded,
      filter_folded_withoutNulls]

theorem overshadows_moved (specs : Specs) (raw : Parameters) :
    Overshadows specs.folded.keys specs.folded.live.keys [] (specs.moved raw)
      (specs.moved (specs.withoutNulls raw)) := by
  apply (overshadows_folded specs raw).run
  · exact fun entry isMember => List.mem_map_of_mem isMember
  · exact fun entry isMember isLive => List.mem_map_of_mem (mem_live.mpr ⟨isMember, isLive⟩)

/-! ## What nulls do -/

/-- A null came to the name, where else a value would have come; or the name is not in use,
so that the null is passed on. -/
def NullInWay (specs : Specs) (raw : Parameters) (name : String) : Prop :=
  (specs.moved raw).get? name = some .null ∧
    (specs.moved (specs.withoutNulls raw)).get? name ≠ some .null ∧
      (name ∈ specs.folded.live.keys →
        (specs.moved (specs.withoutNulls raw)).get? name ≠ none)

theorem get?_moved_or_null (specs : Specs) (raw : Parameters) (name : String) :
    (specs.moved raw).get? name = (specs.moved (specs.withoutNulls raw)).get? name ∨
      (specs.moved raw).get? name = some .null :=
  (overshadows_moved specs raw).agree name

/-- A null that is in no way leaves a parameter what it would get. -/
theorem candidate?_withoutNulls {entry : String × ParameterSpec}
    (clear : ¬specs.NullInWay raw entry.1) :
    candidate? (specs.moved raw) entry =
      candidate? (specs.moved (specs.withoutNulls raw)) entry := by
  rcases get?_moved_or_null specs raw entry.1 with same | isNull
  · rw [candidate?, candidate?, valueFor?, valueFor?, same]
  · have noValue : valueFor? (specs.moved (specs.withoutNulls raw)) entry.1 = none := by
      by_cases keptNull : (specs.moved (specs.withoutNulls raw)).get? entry.1 = some .null
      · simp [valueFor?, keptNull, Value.isNull]
      · by_cases absent : (specs.moved (specs.withoutNulls raw)).get? entry.1 = none
        · simp [valueFor?, absent]
        · exact absurd ⟨isNull, keptNull, fun _ => absent⟩ clear
    have noValueToo : valueFor? (specs.moved raw) entry.1 = none := by
      simp [valueFor?, isNull, Value.isNull]
    rw [candidate?, candidate?, noValue, noValueToo]

theorem filter_moved_withoutNulls (clear : ∀ name, ¬specs.NullInWay raw name) :
    (specs.moved raw).filter (·.1 ∉ specs.folded.live.keys) =
      (specs.moved (specs.withoutNulls raw)).filter (·.1 ∉ specs.folded.live.keys) := by
  have after := overshadows_moved specs raw
  have same (name : String) : visible specs.folded.live.keys [] (specs.moved raw)
      (specs.moved (specs.withoutNulls raw)) name = decide (name ∉ specs.folded.live.keys) := by
    by_cases isLive : name ∈ specs.folded.live.keys
    · simp [visible, isLive]
    · have agrees : (specs.moved raw).get? name =
          (specs.moved (specs.withoutNulls raw)).get? name := by
        by_contra differs
        have isNull := (after.agree name).resolve_left differs
        exact clear name ⟨isNull, fun keptNull => differs (isNull.trans keptNull.symm),
          fun inUse => absurd inUse isLive⟩
      have shown := (hides_eq_false_iff (after.agree name)).mpr agrees
      simp [visible, shown, Entries.keys]
  simpa only [same] using after.order

theorem resolve_of_clear (clear : ∀ name, ¬specs.NullInWay raw name) :
    specs.resolve raw = specs.resolve (specs.withoutNulls raw) := by
  have same : ∀ entry ∈ specs.folded.live, candidate? (specs.moved raw) entry =
      candidate? (specs.moved (specs.withoutNulls raw)) entry := fun entry isMember =>
    candidate?_withoutNulls (clear entry.1)
  rcases resolve_cases specs (specs.withoutNulls raw) with
    ⟨error, failed, refusal⟩ | ⟨resolved, accepts⟩
  · rw [failed, resolve_eq_error_iff]
    exact refusal.congr fun entry isMember => (same entry isMember).symm
  · rw [resolved, resolve_eq_ok_iff]
    refine ⟨accepts.congr fun entry isMember => (same entry isMember).symm, ?_⟩
    rw [settled, settled, bound_congr same, filter_moved_withoutNulls clear]

/-- A parameter that a null is in the way of takes its default in place of a value. -/
theorem candidate?_of_nullInWay (inWay : specs.NullInWay raw name)
    (inUse : name ∈ specs.folded.live.keys) (spec : ParameterSpec) :
    candidate? (specs.moved raw) (name, spec) = spec.default ∧
      ∃ value, value.isNull = false ∧
        candidate? (specs.moved (specs.withoutNulls raw)) (name, spec) = some value := by
  obtain ⟨isNull, keptNotNull, held⟩ := inWay
  obtain ⟨value, isValue⟩ := Option.ne_none_iff_exists'.mp (held inUse)
  have notNull : value.isNull = false := by
    cases value <;> simp_all [Value.isNull]
  have noValue : valueFor? (specs.moved raw) name = none := by
    simp [valueFor?, isNull, Value.isNull]
  refine ⟨by rw [candidate?, noValue, Option.none_or], value, notNull, ?_⟩
  simp [candidate?, valueFor?, isValue, notNull]

/-- Under a name that is not in use a null is passed on. -/
theorem get?_of_nullInWay (inWay : specs.NullInWay raw name)
    (notInUse : name ∉ specs.folded.live.keys) :
    (specs.settled raw).get? name = some .null ∧
      (specs.settled (specs.withoutNulls raw)).get? name ≠ some .null := by
  have undeclared := Entries.get?_eq_none_iff.mpr notInUse
  rw [get?_settled, get?_settled, undeclared]
  exact ⟨inWay.1, inWay.2.1⟩

/-- Leaving out the nulls under declared names changes what is given for a name only where a
null would have been in its place. The outcome is the same if no null is in the way. Where
one is, a parameter takes its default though a value was given for it, and a name that is not
in use holds the null. -/
theorem resolve_withoutNulls (specs : Specs) (raw : Parameters) :
    (∀ name, (specs.moved raw).get? name = (specs.moved (specs.withoutNulls raw)).get? name ∨
      (specs.moved raw).get? name = some .null) ∧
    ((∀ name, ¬specs.NullInWay raw name) →
      specs.resolve raw = specs.resolve (specs.withoutNulls raw)) ∧
    ∀ name, specs.NullInWay raw name →
      (name ∈ specs.folded.live.keys → ∀ spec,
        candidate? (specs.moved raw) (name, spec) = spec.default ∧
          ∃ value, value.isNull = false ∧
            candidate? (specs.moved (specs.withoutNulls raw)) (name, spec) = some value) ∧
      (name ∉ specs.folded.live.keys → ∀ result, specs.resolve raw = .ok result →
        result.get? name = some .null ∧ specs.resolve (specs.withoutNulls raw) ≠ .ok result) := by
  refine ⟨get?_moved_or_null specs raw, resolve_of_clear, fun name inWay =>
    ⟨candidate?_of_nullInWay inWay, ?_⟩⟩
  intro notInUse result resolved
  obtain ⟨passed, other⟩ := get?_of_nullInWay inWay notInUse
  rw [(resolve_eq_ok_iff.mp resolved).2]
  refine ⟨passed, fun same => other ?_⟩
  rw [← (resolve_eq_ok_iff.mp same).2, passed]

namespace Sample

/-- An instance, which had another name in the past. -/
def formerName : Specs :=
  [("name", (ParameterSpec.of .string "the instance").deprecatedFor "instance_name"),
    ("instance_name", { ParameterSpec.of .string "the instance" with required := true })]

end Sample

open Specs.Sample

/-- A null under the old name is harmless. -/
theorem resolve_withoutNulls_renamed :
    formerName.resolve [("name", .null), ("Instance_Name", .string "vm-1")] =
      formerName.resolve [("Instance_Name", .string "vm-1")] := by
  apply (resolve_withoutNulls formerName [("name", .null), ("Instance_Name", .string "vm-1")]).2.1
  intro name inWay
  have moved : formerName.moved [("name", .null), ("Instance_Name", .string "vm-1")] =
      [("instance_name", .string "vm-1")] := rfl
  have isNull := inWay.1
  rw [moved, Entries.get?_cons] at isNull
  split at isNull <;> simp at isNull

/-- A null under the new name keeps the value of the old name out. -/
theorem resolve_shut_out :
    formerName.resolve [("instance_name", .null), ("name", .string "vm-1")] ≠
      formerName.resolve
        (formerName.withoutNulls [("instance_name", .null), ("name", .string "vm-1")]) := by
  have missing : formerName.resolve [("instance_name", .null), ("name", .string "vm-1")] =
      .error (.missingParameter "instance_name" "the instance") := rfl
  have found : formerName.resolve
      (formerName.withoutNulls [("instance_name", .null), ("name", .string "vm-1")]) =
        .ok [("instance_name", .string "vm-1")] := rfl
  rw [missing, found]
  intro same
  cases same

end Specs

end Triage
