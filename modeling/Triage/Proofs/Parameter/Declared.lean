import Mathlib.Data.List.Basic
import Triage.Proofs.Parameter.Moves

namespace Triage

/-! ## What a contract says about one parameter -/

/-- Why a parameter cannot take what it would get. -/
inductive ParameterSpec.Refuses (spec : ParameterSpec) (name : String) :
    Option Value → RunError → Prop
  | missing (required : spec.required = true) :
      Refuses spec name none (.missingParameter name spec.help)
  | invalid {value : Value} {reason : String} (rejected : spec.coerceReason value = .error reason) :
      Refuses spec name (some value) (.invalidParameter name spec.kind.name reason)

namespace ParameterSpec

variable {spec : ParameterSpec} {name : String} {value : Value} {error : RunError}

theorem refuses_none_iff : spec.Refuses name none error ↔
    spec.required = true ∧ error = .missingParameter name spec.help := by
  constructor
  · intro refuses
    cases refuses with
    | missing required => exact ⟨required, rfl⟩
  · rintro ⟨required, rfl⟩
    exact .missing required

theorem refuses_some_iff :
    spec.Refuses name (some value) error ↔ spec.coerce name value = .error error := by
  rw [coerce]
  constructor
  · intro refuses
    cases refuses with
    | invalid rejected => rw [rejected]
  · intro failed
    cases reading : spec.coerceReason value with
    | ok coerced =>
        rw [reading] at failed
        cases failed
    | error reason =>
        rw [reading] at failed
        cases failed
        exact .invalid reading

theorem Refuses.unique {value? : Option Value} {other : RunError}
    (first : spec.Refuses name value? error) (second : spec.Refuses name value? other) :
    other = error := by
  cases value? with
  | none =>
      rw [(refuses_none_iff.mp first).2, (refuses_none_iff.mp second).2]
  | some value =>
      have same := (refuses_some_iff.mp first).symm.trans (refuses_some_iff.mp second)
      cases same
      rfl

end ParameterSpec

namespace Specs

/-! ## What it says about all of them -/

variable {specs rest : Specs} {given resolved : Parameters} {name key : String}
  {spec : ParameterSpec} {error other : RunError} {value : Value}
  {value? others? : String × ParameterSpec → Option Value}

/-- The parameters that are in use. -/
def live (specs : Specs) : Specs :=
  specs.filter fun entry => entry.2.movesTo?.isNone

/-- Every parameter can take what it would get. -/
def Accepts (value? : String × ParameterSpec → Option Value) (specs : Specs) : Prop :=
  ∀ entry ∈ specs, ∀ error, ¬entry.2.Refuses entry.1 (value? entry) error

/-- The first parameter that cannot take what it would get fails with this error. -/
inductive FirstRefusal (value? : String × ParameterSpec → Option Value) :
    Specs → RunError → Prop
  | here {name : String} {spec : ParameterSpec} {rest : Specs} {error : RunError}
      (refuses : spec.Refuses name (value? (name, spec)) error) :
      FirstRefusal value? ((name, spec) :: rest) error
  | later {name : String} {spec : ParameterSpec} {rest : Specs} {error : RunError}
      (accepts : ∀ other, ¬spec.Refuses name (value? (name, spec)) other)
      (later : FirstRefusal value? rest error) :
      FirstRefusal value? ((name, spec) :: rest) error

/-- The parameters that get something, each in its type. -/
def bound (value? : String × ParameterSpec → Option Value) (specs : Specs) : Parameters :=
  specs.filterMap fun entry => (value? entry).bind fun value =>
    (entry.2.coerce entry.1 value).toOption.map fun coerced => (entry.1, coerced)

theorem FirstRefusal.unique (first : FirstRefusal value? specs error)
    (second : FirstRefusal value? specs other) : other = error := by
  induction first with
  | here refuses =>
      cases second with
      | here refusesToo => exact refuses.unique refusesToo
      | later accepts _ => exact absurd refuses (accepts _)
  | later accepts _ induction =>
      cases second with
      | here refuses => exact absurd refuses (accepts _)
      | later _ rest => exact induction rest

theorem Accepts.not_firstRefusal (accepts : Accepts value? specs) :
    ¬FirstRefusal value? specs error := by
  intro refusal
  induction refusal with
  | here refuses => exact accepts _ List.mem_cons_self _ refuses
  | later _ _ induction =>
      exact induction fun entry member => accepts entry (List.mem_cons_of_mem _ member)

theorem FirstRefusal.congr (same : ∀ entry ∈ specs, value? entry = others? entry)
    (refusal : FirstRefusal value? specs error) : FirstRefusal others? specs error := by
  induction refusal with
  | here refuses => exact .here (same _ List.mem_cons_self ▸ refuses)
  | later accepts _ induction =>
      exact .later (same _ List.mem_cons_self ▸ accepts)
        (induction fun entry member => same entry (List.mem_cons_of_mem _ member))

theorem Accepts.congr (same : ∀ entry ∈ specs, value? entry = others? entry)
    (accepts : Accepts value? specs) : Accepts others? specs :=
  fun entry member error => same entry member ▸ accepts entry member error

theorem bound_congr (same : ∀ entry ∈ specs, value? entry = others? entry) :
    bound value? specs = bound others? specs :=
  List.filterMap_congr fun entry member => by rw [same entry member]

theorem bound_cons_of_none (gets : value? (name, spec) = none) :
    bound value? ((name, spec) :: rest) = bound value? rest := by
  simp [bound, gets]

theorem bound_cons_of_ok {coerced : Value} (gets : value? (name, spec) = some value)
    (coercion : spec.coerce name value = .ok coerced) :
    bound value? ((name, spec) :: rest) = (name, coerced) :: bound value? rest := by
  simp [bound, gets, coercion, Except.toOption]

theorem mem_bound {entry : String × Value} : entry ∈ bound value? specs ↔
    ∃ spec value, (entry.1, spec) ∈ specs ∧ value? (entry.1, spec) = some value ∧
      spec.coerce entry.1 value = .ok entry.2 := by
  rcases entry with ⟨name, coerced⟩
  simp only [bound, List.mem_filterMap, Option.bind_eq_some_iff, Option.map_eq_some_iff]
  constructor
  · rintro ⟨⟨found, spec⟩, member, value, gets, last, taken, same⟩
    cases same
    refine ⟨spec, value, member, gets, ?_⟩
    cases coercion : spec.coerce found value with
    | ok result =>
        rw [coercion] at taken
        cases taken
        rfl
    | error error =>
        rw [coercion] at taken
        cases taken
  · rintro ⟨spec, value, member, gets, coercion⟩
    exact ⟨(name, spec), member, value, gets, coerced, by rw [coercion]; rfl, rfl⟩

theorem keys_bound_sublist : (bound value? specs).keys.Sublist specs.keys := by
  induction specs with
  | nil => exact .slnil
  | cons entry rest induction =>
      unfold bound
      rw [List.filterMap_cons]
      split
      · exact induction.cons _
      · next found taken =>
        have same : found.1 = entry.1 := by
          rcases Option.bind_eq_some_iff.mp taken with ⟨value, -, taken⟩
          rcases Option.map_eq_some_iff.mp taken with ⟨coerced, -, rfl⟩
          rfl
        have head : Entries.keys (found :: bound value? rest) =
            entry.1 :: (bound value? rest).keys := congrArg (· :: _) same
        exact head ▸ induction.cons_cons _

/-! ## Taking what is declared -/

/-- What a parameter would get. -/
def candidate? (given : Parameters) (entry : String × ParameterSpec) : Option Value :=
  (valueFor? given entry.1).or entry.2.default

theorem orElse_default : ((valueFor? given name).orElse fun _ => spec.default) =
    candidate? given (name, spec) := by
  rw [candidate?]
  cases valueFor? given name <;> rfl

theorem candidate?_erase {entry : String × ParameterSpec} (different : entry.1 ≠ name) :
    candidate? (given.erase name) entry = candidate? given entry := by
  rw [candidate?, candidate?, valueFor?, valueFor?, Entries.get?_erase_of_ne different]

theorem live_cons_of_old {target : String} (moves : spec.movesTo? = some target) :
    live ((name, spec) :: rest) = live rest :=
  List.filter_cons_of_neg (by simp [moves])

theorem live_cons_of_live (isLive : spec.movesTo? = none) :
    live ((name, spec) :: rest) = (name, spec) :: live rest :=
  List.filter_cons_of_pos (by simp [isLive])

theorem nodup_keys_live (nodup : specs.keys.Nodup) : specs.live.keys.Nodup :=
  nodup.sublist (List.filter_sublist.map _)

theorem mem_live {entry : String × ParameterSpec} :
    entry ∈ specs.live ↔ entry ∈ specs ∧ entry.2.movesTo? = none := by
  simp [live]

theorem mem_keys_live (nodup : specs.keys.Nodup) :
    name ∈ specs.live.keys ↔ name ∈ specs.keys ∧ specs.target? name = none := by
  simp only [Entries.keys, List.mem_map, mem_live]
  constructor
  · rintro ⟨⟨found, spec⟩, ⟨member, isLive⟩, rfl⟩
    exact ⟨⟨_, member, rfl⟩, (target?_of_mem nodup member).trans isLive⟩
  · rintro ⟨⟨⟨found, spec⟩, member, rfl⟩, isLive⟩
    exact ⟨_, ⟨member, (target?_of_mem nodup member).symm.trans isLive⟩, rfl⟩

/-! The three things that a parameter in use can come to. -/

theorem takeDeclared_of_refuses (isLive : spec.movesTo? = none)
    (refuses : spec.Refuses name (candidate? given (name, spec)) error) :
    takeDeclared given resolved ((name, spec) :: rest) = .error error := by
  simp only [takeDeclared, isLive, Option.isSome_none, Bool.false_eq_true, if_false,
    orElse_default]
  cases candidate : candidate? given (name, spec) with
  | none =>
      rw [candidate, ParameterSpec.refuses_none_iff] at refuses
      simp only [refuses.1, if_true, refuses.2]
  | some value =>
      rw [candidate, ParameterSpec.refuses_some_iff] at refuses
      simp only [refuses]

theorem takeDeclared_of_accepts (isLive : spec.movesTo? = none)
    (accepts : ∀ error, ¬spec.Refuses name (candidate? given (name, spec)) error) :
    takeDeclared given resolved ((name, spec) :: rest) =
      takeDeclared (given.erase name)
        (resolved.extend (bound (candidate? given) [(name, spec)])) rest := by
  simp only [takeDeclared, isLive, Option.isSome_none, Bool.false_eq_true, if_false,
    orElse_default]
  cases candidate : candidate? given (name, spec) with
  | none =>
      have optional : ¬spec.required = true := by
        intro required
        have refuses : spec.Refuses name none (.missingParameter name spec.help) :=
          .missing required
        exact accepts _ (candidate ▸ refuses)
      simp [bound, candidate, optional, Entries.extend]
  | some value =>
      cases coercion : spec.coerce name value with
      | ok coerced => simp [bound, candidate, coercion, Except.toOption, Entries.extend]
      | error error =>
          exact absurd (candidate ▸ ParameterSpec.refuses_some_iff.mpr coercion) (accepts error)

/-- What taking the declared parameters comes to: the first that refuses what it would get
ends it; else all are bound that get anything, and the contract does not mention the rest. -/
def Taken (given resolved : Parameters) (specs : Specs) :
    Except RunError (Parameters × Parameters) → Prop
  | .error error => FirstRefusal (candidate? given) specs.live error
  | .ok (left, settled) => Accepts (candidate? given) specs.live ∧
      settled = resolved ++ bound (candidate? given) specs.live ∧
      left = given.filter (·.1 ∉ specs.live.keys)

theorem Taken.cons_of_old {result : Except RunError (Parameters × Parameters)} {target : String}
    (moves : spec.movesTo? = some target) (taken : Taken given resolved rest result) :
    Taken given resolved ((name, spec) :: rest) result := by
  unfold Taken at taken ⊢
  rwa [live_cons_of_old moves]

/-- A parameter that takes what it would get leaves the others what they would get. -/
theorem Taken.cons_of_accepts {result : Except RunError (Parameters × Parameters)}
    (isLive : spec.movesTo? = none) (absent : name ∉ Entries.keys rest)
    (givenNodup : given.keys.Nodup)
    (accepts : ∀ error, ¬spec.Refuses name (candidate? given (name, spec)) error)
    (taken : Taken (given.erase name) (resolved ++ bound (candidate? given) [(name, spec)])
      rest result) :
    Taken given resolved ((name, spec) :: rest) result := by
  have same : ∀ entry ∈ live rest,
      candidate? (given.erase name) entry = candidate? given entry := by
    intro entry member
    refine candidate?_erase fun same => absent ?_
    exact List.mem_map.mpr ⟨entry, (mem_live.mp member).1, same⟩
  rw [Taken.eq_def, live_cons_of_live isLive]
  cases result with
  | error error => exact .later accepts (FirstRefusal.congr same taken)
  | ok both =>
      rcases both with ⟨left, settled⟩
      rcases taken with ⟨acceptsRest, isSettled, isLeft⟩
      refine ⟨?_, ?_, ?_⟩
      · intro entry member
        rcases List.mem_cons.mp member with rfl | member
        · exact accepts
        · exact acceptsRest.congr same entry member
      · have heads : bound (candidate? given) ((name, spec) :: live rest) =
            bound (candidate? given) [(name, spec)] ++ bound (candidate? given) (live rest) :=
          List.filterMap_append (l := [(name, spec)])
        rw [isSettled, heads, bound_congr same, List.append_assoc]
      · rw [isLeft, Entries.erase_eq_filter givenNodup, List.filter_filter]
        refine List.filter_congr fun entry _ => Bool.eq_iff_iff.mpr ?_
        simp only [Bool.and_eq_true, decide_eq_true_eq]
        simp [Entries.keys, and_comm]

theorem takeDeclared_taken (nodup : specs.keys.Nodup) (givenNodup : given.keys.Nodup)
    (apart : (resolved.keys ++ specs.keys).Nodup) :
    Taken given resolved specs (specs.takeDeclared given resolved) := by
  induction specs generalizing given resolved with
  | nil =>
      have all : given.filter (fun _ => true) = given := List.filter_eq_self.mpr fun _ _ => rfl
      simp [takeDeclared, Taken, live, Accepts, bound, Entries.keys, all]
  | cons entry rest induction =>
      rcases entry with ⟨name, spec⟩
      rcases List.nodup_cons.mp nodup with ⟨absent, restNodup⟩
      cases moves : spec.movesTo? with
      | some target =>
          have skipped : takeDeclared given resolved ((name, spec) :: rest) =
              takeDeclared given resolved rest := by simp [takeDeclared, moves]
          have restApart : (resolved.keys ++ Entries.keys rest).Nodup :=
            apart.sublist (List.Sublist.append_left (List.sublist_cons_self ..) _)
          exact skipped ▸ (induction restNodup givenNodup restApart).cons_of_old moves
      | none =>
          by_cases refused : ∃ error, spec.Refuses name (candidate? given (name, spec)) error
          · rcases refused with ⟨error, refuses⟩
            rw [takeDeclared_of_refuses moves refuses, Taken.eq_def, live_cons_of_live moves]
            exact .here refuses
          · have accepts := not_exists.mp refused
            let head := bound (candidate? given) [(name, spec)]
            have headKeys : head.keys.Sublist [name] := keys_bound_sublist
            have whole : ((resolved ++ head).keys ++ Entries.keys rest).Nodup := by
              rw [Entries.keys_append, List.append_assoc]
              exact apart.sublist ((headKeys.append (.refl _)).append_left _)
            have extended : resolved.extend head = resolved ++ head := by
              refine Entries.extend_of_nodup (whole.sublist ?_)
              rw [← Entries.keys_append]
              exact List.sublist_append_left _ _
            have leftNodup : (given.erase name).keys.Nodup := by
              rw [Entries.keys_erase]
              exact givenNodup.erase name
            rw [takeDeclared_of_accepts moves accepts, extended]
            exact (induction restNodup leftNodup whole).cons_of_accepts moves absent givenNodup
              accepts

/-! ## What a contract makes of what was given -/

/-- What was given, with the values of old names under the new ones. -/
def moved (specs : Specs) (given : Parameters) : Parameters :=
  specs.folded.moveAliases given.folded

theorem nodup_keys_moved (specs : Specs) (given : Parameters) : (specs.moved given).keys.Nodup :=
  nodup_keys_moveAliases _ (Parameters.nodup_keys_folded given)

/-- The declared parameters, and then what the contract does not mention. -/
def settled (specs : Specs) (given : Parameters) : Parameters :=
  bound (candidate? (specs.moved given)) specs.folded.live ++
    (specs.moved given).filter (·.1 ∉ specs.folded.live.keys)

theorem nodup_keys_settled (specs : Specs) (given : Parameters) :
    (specs.settled given).keys.Nodup := by
  rw [settled, Entries.keys_append]
  refine List.nodup_append.mpr ⟨?_, ?_, ?_⟩
  · exact (nodup_keys_live (nodup_keys_folded specs)).sublist keys_bound_sublist
  · exact (nodup_keys_moved specs given).sublist (List.filter_sublist.map _)
  · intro name isBound other passed same
    rcases List.mem_map.mp passed with ⟨entry, member, rfl⟩
    have undeclared := (List.mem_filter.mp member).2
    exact of_decide_eq_true undeclared (same ▸ keys_bound_sublist.mem isBound)

theorem resolve_of_takeDeclared_error
    (failed : specs.folded.takeDeclared (specs.moved given) [] = .error error) :
    specs.resolve given = .error error := by
  rw [moved] at failed
  simp only [resolve, failed]

theorem resolve_of_takeDeclared_ok {left bindings : Parameters}
    (taken : specs.folded.takeDeclared (specs.moved given) [] = .ok (left, bindings)) :
    specs.resolve given = .ok (bindings.extend left) := by
  rw [moved] at taken
  simp only [resolve, taken]

theorem resolve_cases (specs : Specs) (given : Parameters) :
    (∃ error, specs.resolve given = .error error ∧
        FirstRefusal (candidate? (specs.moved given)) specs.folded.live error) ∨
      specs.resolve given = .ok (specs.settled given) ∧
        Accepts (candidate? (specs.moved given)) specs.folded.live := by
  have taken : Taken (specs.moved given) [] specs.folded
      (specs.folded.takeDeclared (specs.moved given) []) :=
    takeDeclared_taken (nodup_keys_folded specs) (nodup_keys_moved specs given)
      (nodup_keys_folded specs)
  cases result : specs.folded.takeDeclared (specs.moved given) [] with
  | error error =>
      rw [result] at taken
      exact .inl ⟨error, resolve_of_takeDeclared_error result, taken⟩
  | ok both =>
      rcases both with ⟨left, bindings⟩
      rw [result] at taken
      rcases taken with ⟨accepts, rfl, rfl⟩
      refine .inr ⟨(resolve_of_takeDeclared_ok result).trans (congrArg Except.ok ?_), accepts⟩
      refine Entries.extend_of_nodup ?_
      rw [← Entries.keys_append]
      exact nodup_keys_settled specs given

theorem resolve_eq_error_iff : specs.resolve given = .error error ↔
    FirstRefusal (candidate? (specs.moved given)) specs.folded.live error := by
  rcases resolve_cases specs given with ⟨found, failed, refusal⟩ | ⟨resolved, accepts⟩
  · rw [failed]
    constructor
    · rintro same
      cases same
      exact refusal
    · exact fun other => congrArg Except.error (other.unique refusal)
  · rw [resolved]
    constructor
    · intro same
      cases same
    · exact fun refusal => absurd refusal accepts.not_firstRefusal

theorem resolve_eq_ok_iff {result : Parameters} : specs.resolve given = .ok result ↔
    Accepts (candidate? (specs.moved given)) specs.folded.live ∧
      result = specs.settled given := by
  rcases resolve_cases specs given with ⟨found, failed, refusal⟩ | ⟨resolved, accepts⟩
  · rw [failed]
    constructor
    · intro same
      cases same
    · rintro ⟨accepts, -⟩
      exact absurd refusal accepts.not_firstRefusal
  · rw [resolved]
    constructor
    · intro same
      cases same
      exact ⟨accepts, rfl⟩
    · rintro ⟨-, rfl⟩
      rfl

theorem get?_bound (nodup : specs.keys.Nodup) : (bound value? specs).get? name =
    (specs.get? name).bind fun spec => (value? (name, spec)).bind fun value =>
      (spec.coerce name value).toOption := by
  apply Option.ext
  intro coerced
  have boundNodup : (bound value? specs).keys.Nodup := nodup.sublist keys_bound_sublist
  have isMember : (bound value? specs).get? name = some coerced ↔
      (name, coerced) ∈ bound value? specs :=
    ⟨Entries.mem_of_get?, Entries.get?_of_mem boundNodup⟩
  simp only [isMember, mem_bound, Option.bind_eq_some_iff]
  constructor
  · rintro ⟨spec, value, member, gets, coercion⟩
    exact ⟨spec, Entries.get?_of_mem nodup member, value, gets, by rw [coercion]; rfl⟩
  · rintro ⟨spec, found, value, gets, taken⟩
    refine ⟨spec, value, Entries.mem_of_get? found, gets, ?_⟩
    cases coercion : spec.coerce name value with
    | ok result =>
        rw [coercion] at taken
        cases taken
        rfl
    | error error =>
        rw [coercion] at taken
        cases taken

/-- A parameter in use is bound in its type; any other name keeps what was given. -/
theorem get?_settled : (specs.settled given).get? name =
    match specs.folded.live.get? name with
    | some spec => (candidate? (specs.moved given) (name, spec)).bind fun value =>
        (spec.coerce name value).toOption
    | none => (specs.moved given).get? name := by
  have liveNodup := nodup_keys_live (nodup_keys_folded specs)
  rw [settled, Entries.get?_append, get?_bound liveNodup,
    Entries.get?_filter fun key => decide (key ∉ specs.folded.live.keys)]
  cases declared : specs.folded.live.get? name with
  | none =>
      have undeclared : name ∉ specs.folded.live.keys := Entries.get?_eq_none_iff.mp declared
      rw [Option.bind_none, Option.none_or, if_pos (decide_eq_true undeclared)]
  | some spec =>
      have isDeclared : name ∈ specs.folded.live.keys := Entries.mem_keys_iff.mpr ⟨spec, declared⟩
      rw [Option.bind_some, if_neg (by simpa using isDeclared), Option.or_none]

end Specs

end Triage
