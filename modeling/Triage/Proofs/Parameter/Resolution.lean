import Mathlib.Data.List.Nodup
import Triage.Proofs.Parameter.Declared

namespace Triage

namespace Parameters

/-- Every entry gives something. -/
def NoNull (raw : Parameters) : Prop :=
  ∀ entry ∈ raw, entry.2.isNull = false

theorem NoNull.lastGiven? {raw : Parameters} {name : String} {value : Value}
    (noNull : raw.NoNull) (gives : raw.lastGiven? name = some value) : value.isNull = false := by
  rcases Option.map_eq_some_iff.mp gives with ⟨entry, found, rfl⟩
  exact noNull entry (List.mem_reverse.mp (List.mem_of_find?_eq_some found))

end Parameters

namespace Specs

variable {specs rest : Specs} {given raw others : Parameters} {name key target old : String}
  {spec : ParameterSpec} {value : Value}

/-! ## Tables in which no value moves twice -/

/-- The contract under lower-case names. -/
def lowered (specs : Specs) : Specs :=
  specs.map fun entry => (Text.lower entry.1, entry.2)

/-- No old name has an old name as its replacement. -/
def Direct (specs : Specs) : Prop :=
  ∀ entry ∈ specs, ∀ target ∈ entry.2.movesTo?, specs.target? target = none

/-- The value under the first old name whose replacement is `name`. -/
def firstAlias? (held? : String → Option Value) (specs : Specs) (name : String) : Option Value :=
  specs.findSome? fun entry => if entry.2.movesTo? = some name then held? entry.1 else none

theorem folded_eq_lowered (distinct : specs.lowered.keys.Nodup) : specs.folded = specs.lowered :=
  Entries.ofList_of_nodup distinct

theorem Direct.stops (direct : Direct specs) (moves : specs.target? name = some target) :
    specs.target? target = none := by
  rcases mem_of_target? moves with ⟨spec, member, moves⟩
  exact direct _ member target moves

theorem Direct.tail (direct : Direct ((old, spec) :: rest)) (absent : old ∉ Entries.keys rest) :
    Direct rest := by
  intro entry member target moves
  have stops := direct entry (List.mem_cons_of_mem _ member) target moves
  rw [target?_cons] at stops
  split at stops
  · next same => rw [same, target?_of_not_mem absent]
  · exact stops

theorem firstAlias?_cons {held? : String → Option Value} :
    firstAlias? held? ((old, spec) :: rest) name =
      (if spec.movesTo? = some name then held? old else none).or (firstAlias? held? rest name) := by
  rw [firstAlias?, List.findSome?_cons]
  split
  · next found => rw [found, Option.some_or]
  · next none_ =>
    rw [none_, Option.none_or]
    rfl

theorem firstAlias?_congr {held? other? : String → Option Value}
    (same : ∀ entry ∈ specs, entry.2.movesTo? = some name → held? entry.1 = other? entry.1) :
    firstAlias? held? specs name = firstAlias? other? specs name := by
  induction specs with
  | nil => rfl
  | cons entry rest induction =>
      rcases entry with ⟨old, spec⟩
      rw [firstAlias?_cons, firstAlias?_cons,
        induction fun entry member => same entry (List.mem_cons_of_mem _ member)]
      congr 1
      split
      · next moves => exact same _ List.mem_cons_self moves
      · rfl

theorem firstAlias?_of_target {held? : String → Option Value} (nodup : specs.keys.Nodup)
    (direct : Direct specs) (moves : specs.target? name = some target) :
    firstAlias? held? specs name = none := by
  refine List.findSome?_eq_none_iff.mpr fun entry member => if_neg fun arrives => ?_
  have stops := direct.stops ((target?_of_mem nodup member).trans arrives)
  rw [stops] at moves
  cases moves

/-- A name keeps its own value before it takes that of an old one. -/
theorem get?_moveAliases (nodup : specs.keys.Nodup) (direct : Direct specs)
    (givenNodup : given.keys.Nodup) :
    (specs.moveAliases given).get? key =
      if (specs.target? key).isSome then none
      else (given.get? key).or (specs.firstAlias? (given.get? ·) key) := by
  induction specs generalizing given with
  | nil => simp [moveAliases, target?, firstAlias?]
  | cons entry rest induction =>
      rcases entry with ⟨old, spec⟩
      rcases List.nodup_cons.mp nodup with ⟨absent, restNodup⟩
      have restDirect := direct.tail absent
      rw [moveAliases, induction restNodup restDirect (nodup_keys_moveAlias givenNodup),
        target?_cons, firstAlias?_cons]
      cases moves : spec.movesTo? with
      | none =>
          rw [moveAlias_of_live moves, if_neg (Option.some_ne_none key).symm, Option.none_or]
          by_cases same : key = old
          · rw [if_pos same, same, target?_of_not_mem absent]
          · rw [if_neg same]
      | some target =>
          have oldMoves : target? ((old, spec) :: rest) old = some target := by
            rwa [target?_cons, if_pos rfl]
          have targetStays := direct.stops oldMoves
          have different : target ≠ old := by
            rintro rfl
            rw [oldMoves] at targetStays
            cases targetStays
          have elsewhere : ∀ entry ∈ rest, entry.2.movesTo? = some key →
              (moveAlias given old spec).get? entry.1 = given.get? entry.1 := by
            intro entry member arrives
            have entryMoves : target? ((old, spec) :: rest) entry.1 = some key :=
              (target?_of_mem nodup (List.mem_cons_of_mem _ member)).trans arrives
            have notTarget : entry.1 ≠ target := by
              intro same
              rw [same, targetStays] at entryMoves
              cases entryMoves
            have notOld : entry.1 ≠ old := fun same =>
              absent (List.mem_map.mpr ⟨entry, member, same⟩)
            rw [get?_moveAlias givenNodup moves different, if_neg notTarget, if_neg notOld]
          have aliases : firstAlias? ((moveAlias given old spec).get? ·) rest key =
              firstAlias? (given.get? ·) rest key := firstAlias?_congr elsewhere
          rw [aliases, get?_moveAlias givenNodup moves different]
          by_cases isOld : key = old
          · subst isOld
            have noAlias : firstAlias? (given.get? ·) ((key, spec) :: rest) key = none :=
              firstAlias?_of_target nodup direct oldMoves
            rw [firstAlias?_cons, Option.or_eq_none_iff] at noAlias
            rw [target?_of_not_mem absent, noAlias.2, if_neg (Ne.symm different), if_pos rfl,
              if_pos rfl]
            rfl
          · rw [if_neg isOld, if_neg isOld, ← Option.or_assoc]
            congr 2
            by_cases isTarget : key = target
            · rw [if_pos isTarget, if_pos (congrArg some isTarget.symm), isTarget]
            · have notTarget : some target ≠ some key := fun same =>
                isTarget (Option.some.inj same).symm
              rw [if_neg isTarget, if_neg notTarget, Option.or_none]

/-! ## What each parameter gets -/

/-- What was given for a name: its own value, or else that of the first old name for it. -/
def given? (specs : Specs) (raw : Parameters) (name : String) : Option Value :=
  (raw.lastGiven? name).or (specs.lowered.firstAlias? raw.lastGiven? name)

/-- What was given for a parameter, or else its default. -/
def gets? (specs : Specs) (raw : Parameters) (entry : String × ParameterSpec) : Option Value :=
  (specs.given? raw entry.1).or entry.2.default

theorem get?_moved (distinct : specs.lowered.keys.Nodup) (direct : specs.lowered.Direct) :
    (specs.moved raw).get? key =
      if (specs.lowered.target? key).isSome then none else specs.given? raw key := by
  have held : (raw.folded.get? ·) = raw.lastGiven? := funext raw.get?_folded
  rw [moved, folded_eq_lowered distinct,
    get?_moveAliases distinct direct raw.nodup_keys_folded, held, Parameters.get?_folded, given?]

theorem given?_congr (same : ∀ name, others.lastGiven? name = raw.lastGiven? name) :
    specs.given? others = specs.given? raw := by
  have same : others.lastGiven? = raw.lastGiven? := funext same
  funext name
  rw [given?, given?, same]

theorem isNull_of_given? (noNull : raw.NoNull) (gives : specs.given? raw name = some value) :
    value.isNull = false := by
  rcases Option.or_eq_some_iff.mp gives with own | ⟨-, another⟩
  · exact noNull.lastGiven? own
  · rcases List.exists_of_findSome?_eq_some another with ⟨entry, -, found⟩
    split at found
    · exact noNull.lastGiven? found
    · cases found

theorem candidate?_moved (distinct : specs.lowered.keys.Nodup) (direct : specs.lowered.Direct)
    (noNull : raw.NoNull) :
    ∀ entry ∈ specs.lowered.live, candidate? (specs.moved raw) entry = specs.gets? raw entry := by
  intro entry member
  rcases mem_live.mp member with ⟨declared, isLive⟩
  have stays : specs.lowered.target? entry.1 = none :=
    (target?_of_mem distinct declared).trans isLive
  have present : (specs.given? raw entry.1).filter (!·.isNull) = specs.given? raw entry.1 := by
    cases gives : specs.given? raw entry.1 with
    | none => rfl
    | some value => exact Option.filter_some_pos (by simp [isNull_of_given? noNull gives])
  rw [candidate?, valueFor?, get?_moved distinct direct, stays, gets?, if_neg (by simp), present]

/-- What the contract does not mention: neither a parameter in use nor an old name. -/
def undeclared (specs : Specs) (raw : Parameters) : Parameters :=
  (specs.moved raw).filter (·.1 ∉ specs.lowered.live.keys)

theorem nodup_keys_undeclared (specs : Specs) (raw : Parameters) :
    (specs.undeclared raw).keys.Nodup :=
  (nodup_keys_moved specs raw).sublist (List.filter_sublist.map _)

theorem mem_undeclared (distinct : specs.lowered.keys.Nodup) (direct : specs.lowered.Direct) :
    (name, value) ∈ specs.undeclared raw ↔
      name ∉ specs.lowered.keys ∧ specs.given? raw name = some value := by
  have held : (name, value) ∈ specs.moved raw ↔ (specs.moved raw).get? name = some value :=
    ⟨Entries.get?_of_mem (nodup_keys_moved specs raw), Entries.mem_of_get?⟩
  simp only [undeclared, List.mem_filter, decide_eq_true_eq, held, get?_moved distinct direct,
    mem_keys_live distinct]
  cases moves : specs.lowered.target? name with
  | none => simp [and_comm]
  | some target =>
      rcases mem_of_target? moves with ⟨spec, member, -⟩
      have declared : name ∈ specs.lowered.keys := List.mem_map.mpr ⟨_, member, rfl⟩
      simp [declared]

/-! ## What resolving comes to -/

theorem exists_firstRefusal_iff {value? : String × ParameterSpec → Option Value} :
    (∃ error, FirstRefusal value? specs error) ↔
      ∃ entry ∈ specs, ∃ error, entry.2.Refuses entry.1 (value? entry) error := by
  constructor
  · rintro ⟨error, refusal⟩
    by_contra none_
    refine Accepts.not_firstRefusal (fun entry member error refuses => none_ ?_) refusal
    exact ⟨entry, member, error, refuses⟩
  · rintro ⟨entry, member, refused⟩
    induction specs with
    | nil => cases member
    | cons first rest induction =>
        by_cases firstRefused : ∃ error, first.2.Refuses first.1 (value? first) error
        · rcases firstRefused with ⟨error, refuses⟩
          exact ⟨error, .here refuses⟩
        · rcases List.mem_cons.mp member with rfl | member
          · exact absurd refused firstRefused
          · rcases induction member with ⟨error, later⟩
            exact ⟨error, .later (not_exists.mp firstRefused) later⟩

/-- The parameters that get something, in the order of their declaration, each in its type. -/
def Binds (value? : String × ParameterSpec → Option Value) (specs : Specs)
    (declared : Parameters) : Prop :=
  List.Forall₂ (fun entry binding => binding.1 = entry.1 ∧
      ∃ value, value? entry = some value ∧ entry.2.coerce entry.1 value = .ok binding.2)
    (specs.filter fun entry => (value? entry).isSome) declared

theorem Accepts.binds {value? : String × ParameterSpec → Option Value}
    (accepts : Accepts value? specs) : Binds value? specs (bound value? specs) := by
  induction specs with
  | nil => exact .nil
  | cons entry rest induction =>
      rcases entry with ⟨name, spec⟩
      have restBinds := induction fun entry member => accepts entry (List.mem_cons_of_mem _ member)
      cases gets : value? (name, spec) with
      | none =>
          rw [Binds, List.filter_cons_of_neg (by simp [gets]), bound_cons_of_none gets]
          exact restBinds
      | some value =>
          cases coercion : spec.coerce name value with
          | error error =>
              have refuses := ParameterSpec.refuses_some_iff.mpr coercion
              exact absurd (gets ▸ refuses) (accepts _ List.mem_cons_self error)
          | ok coerced =>
              rw [Binds, List.filter_cons_of_pos (by simp [gets]), bound_cons_of_ok gets coercion]
              exact .cons ⟨rfl, value, gets, coercion⟩ restBinds

/-- The result when nothing is refused: first what is declared, then what is not mentioned. -/
structure Settles (specs : Specs) (raw declared passed : Parameters) : Prop where
  binds : Binds (specs.gets? raw) specs.lowered.live declared
  distinct : passed.keys.Nodup
  passes : ∀ name value, (name, value) ∈ passed ↔
    name ∉ specs.lowered.keys ∧ specs.given? raw name = some value

section

variable (distinct : specs.lowered.keys.Nodup) (direct : specs.lowered.Direct)
include distinct direct

theorem settles (accepts : Accepts (specs.gets? raw) specs.lowered.live) :
    specs.Settles raw (bound (specs.gets? raw) specs.lowered.live) (specs.undeclared raw) where
  binds := accepts.binds
  distinct := nodup_keys_undeclared specs raw
  passes _ _ := mem_undeclared distinct direct

variable (noNull : raw.NoNull) {error : RunError} {result : Parameters}
include noNull

theorem resolve_eq_error_iff_given : specs.resolve raw = .error error ↔
    FirstRefusal (specs.gets? raw) specs.lowered.live error := by
  rw [resolve_eq_error_iff, folded_eq_lowered distinct]
  have same := candidate?_moved distinct direct noNull
  exact ⟨.congr same, .congr fun entry member => (same entry member).symm⟩

theorem resolve_eq_ok_iff_given : specs.resolve raw = .ok result ↔
    Accepts (specs.gets? raw) specs.lowered.live ∧
      result = bound (specs.gets? raw) specs.lowered.live ++ specs.undeclared raw := by
  rw [resolve_eq_ok_iff, settled, folded_eq_lowered distinct, ← undeclared]
  have same := candidate?_moved distinct direct noNull
  rw [bound_congr same]
  exact and_congr_left' ⟨.congr same, .congr fun entry member => (same entry member).symm⟩

end

/-- A contract whose old names are replaced by names that are in use decides about these alone,
in the order of their declaration. Nothing depends on the order of what was given but which
value of a name is its last, and the order of what is passed through. -/
theorem resolve_of_direct (distinct : specs.lowered.keys.Nodup) (direct : specs.lowered.Direct)
    (noNull : raw.NoNull) :
    ((∃ error, specs.resolve raw = .error error) ↔ ∃ entry ∈ specs.lowered.live,
        ∃ error, entry.2.Refuses entry.1 (specs.gets? raw entry) error) ∧
      (∀ error, specs.resolve raw = .error error ↔
        FirstRefusal (specs.gets? raw) specs.lowered.live error) ∧
      (∀ result, specs.resolve raw = .ok result → ∃ declared passed,
        result = declared ++ passed ∧ specs.Settles raw declared passed) ∧
      ∀ others : Parameters, others.NoNull →
        (∀ name, others.lastGiven? name = raw.lastGiven? name) →
          (∀ error, specs.resolve others = .error error ↔ specs.resolve raw = .error error) ∧
            ∀ result, specs.resolve raw = .ok result → ∃ declared passed passedToo,
              result = declared ++ passed ∧ specs.Settles raw declared passed ∧
                specs.resolve others = .ok (declared ++ passedToo) ∧ passedToo.Perm passed := by
  have failsIff (error : RunError) : specs.resolve raw = .error error ↔
      FirstRefusal (specs.gets? raw) specs.lowered.live error :=
    resolve_eq_error_iff_given distinct direct noNull
  refine ⟨?_, failsIff, ?_, ?_⟩
  · simp only [failsIff]
    exact exists_firstRefusal_iff
  · intro result resolved
    rcases (resolve_eq_ok_iff_given distinct direct noNull).mp resolved with ⟨accepts, rfl⟩
    exact ⟨_, _, rfl, settles distinct direct accepts⟩
  · intro others noNullOthers same
    have gets : specs.gets? others = specs.gets? raw := by
      funext entry
      rw [gets?, gets?, given?_congr same]
    refine ⟨fun error => ?_, ?_⟩
    · rw [failsIff, resolve_eq_error_iff_given distinct direct noNullOthers, gets]
    · intro result resolved
      rcases (resolve_eq_ok_iff_given distinct direct noNull).mp resolved with ⟨accepts, rfl⟩
      refine ⟨_, _, _, rfl, settles distinct direct accepts,
        (resolve_eq_ok_iff_given distinct direct noNullOthers).mpr ⟨gets ▸ accepts, by rw [gets]⟩, ?_⟩
      have nodup (given : Parameters) : (specs.undeclared given).Nodup :=
        List.Nodup.of_map _ (nodup_keys_undeclared specs given)
      refine (List.perm_ext_iff_of_nodup (nodup others) (nodup raw)).mpr fun entry => ?_
      rw [mem_undeclared distinct direct, mem_undeclared distinct direct, given?_congr same]

namespace Sample

/-- A contract with an old name, an optional parameter and one that has to be given. -/
def placement : Specs :=
  [("Location", (ParameterSpec.of .string "the zone").deprecatedFor "ZONE"),
    ("zone", { ParameterSpec.of .string "the zone" with required := true }),
    ("count", { ParameterSpec.of .integer "how many" with default := some (.integer 3) })]

def spelled : Parameters :=
  [("Extra", .bool true), (" LOCATION ", .string "here")]

end Sample

open Specs.Sample in
theorem resolve_placement :
    placement.lowered.keys.Nodup ∧ placement.lowered.Direct ∧ spelled.NoNull ∧
      ∃ declared passed passedToo,
        [("zone", .string "here"), ("count", .integer 3), ("extra", .bool true)] =
          declared ++ passed ∧ placement.Settles spelled declared passed ∧
            placement.resolve spelled.reverse = .ok (declared ++ passedToo) ∧
              passedToo.Perm passed := by
  have distinct : placement.lowered.keys.Nodup := by decide
  have direct : placement.lowered.Direct := by
    unfold Direct
    decide
  have noNull : spelled.NoNull := by
    unfold Parameters.NoNull
    decide
  have noNullToo : Parameters.NoNull spelled.reverse := by
    unfold Parameters.NoNull
    decide
  have same := Parameters.lastGiven?_perm spelled.reverse_perm (by decide)
  refine ⟨distinct, direct, noNull, ?_⟩
  exact ((resolve_of_direct distinct direct noNull).2.2.2 spelled.reverse noNullToo same).2 _ rfl

end Specs

end Triage
