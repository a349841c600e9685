import Triage.Proofs.Parameter.Numeral
import Triage.Proofs.Parameter.Resolution
import Triage.Proofs.Run.Operator
import Triage.Proofs.Run.Parameters
import Triage.Proofs.Text.Lower

namespace Triage

variable {κ : Type} {specs : Specs} {given resolved : Parameters} {name key : String}
  {spec : ParameterSpec} {calls rest : List Call} {call : Call}

/-! ## The default of a parameter

The contract is held twice: the look-ups of a step fall back to the table as it was written, and
the parameters of a run are settled by one under lower-case names, in which each value has its
type. -/

namespace ParameterSpec

open Coercion in
theorem isNull_of_coerce {value result : Value} (accepted : spec.coerce name value = .ok result) :
    result.isNull = false := by
  rw [coerce_eq_ok, coerceReason] at accepted
  cases result with
  | null =>
      generalize spec.kind = kind at accepted
      cases kind with
      | string => cases toText_again accepted
      | integer => cases toInteger_again accepted
      | float => cases toFloat_again accepted
      | bool => cases toFlag_again accepted
      | address => cases toAddress_again accepted
      | datetime =>
          obtain ⟨instant, -, same⟩ := toDatetime_eq_ok.mp accepted
          cases same
  | _ => rfl

end ParameterSpec

namespace Specs

/-- The default under a name as it is written in the table. -/
def written? (specs : Specs) (name : String) : Option Value :=
  (specs.get? name).bind (·.default)

/-- The default under a name in the form in which a run is given it. -/
def stored? (specs : Specs) (name : String) : Option Value :=
  (specs.folded.get? name).bind fun spec =>
    spec.default.bind fun value => (spec.coerce name value).toOption

/-- No other entry has this name in another spelling. -/
def Unrivalled (specs : Specs) (entry : String × ParameterSpec) : Prop :=
  ∀ other ∈ specs, Text.lower other.1 = Text.lower entry.1 → other = entry

theorem get?_folded_eq_some (declared : (name, spec) ∈ specs)
    (unrivalled : specs.Unrivalled (name, spec)) :
    specs.folded.get? (Text.lower name) = some spec := by
  have isKey : Text.lower name ∈ specs.folded.keys := by
    rw [folded, ← not_not (a := _ ∈ _), ← Entries.get?_eq_none_iff, Entries.get?_ofList,
      Entries.get?_eq_none_iff, not_not]
    refine List.mem_map.mpr ⟨(Text.lower name, spec), List.mem_reverse.mpr ?_, rfl⟩
    exact List.mem_map.mpr ⟨_, declared, rfl⟩
  rcases Entries.mem_keys_iff.mp isKey with ⟨found, isFound⟩
  have isEntry : (Text.lower name, found) ∈
      specs.map fun entry => (Text.lower entry.1, entry.2) := by
    rw [folded, Entries.get?_ofList] at isFound
    exact List.mem_reverse.mp (Entries.mem_of_get? isFound)
  rcases List.mem_map.mp isEntry with ⟨other, member, same⟩
  rcases Prod.mk.inj same with ⟨spelled, rfl⟩
  rw [isFound, unrivalled other member spelled]

theorem stored?_eq (declared : (name, spec) ∈ specs) (unrivalled : specs.Unrivalled (name, spec)) :
    specs.stored? (Text.lower name) =
      spec.default.bind fun value => (spec.coerce (Text.lower name) value).toOption := by
  rw [stored?, get?_folded_eq_some declared unrivalled, Option.bind_some]

/-- A default is found only under a name that is declared in lower case. -/
theorem written?_eq (declared : (name, spec) ∈ specs)
    (unrivalled : specs.Unrivalled (name, spec)) :
    specs.written? (Text.lower name) = if Text.lower name = name then spec.default else none := by
  have isOnly {found : ParameterSpec} (isFound : specs.get? (Text.lower name) = some found) :
      Text.lower name = name ∧ found = spec := by
    have member := Entries.mem_of_get? isFound
    exact Prod.mk.inj (unrivalled _ member (Text.lower_lower name))
  rw [written?]
  cases isFound : specs.get? (Text.lower name) with
  | some found =>
      rcases isOnly isFound with ⟨isLower, rfl⟩
      rw [Option.bind_some, if_pos isLower]
  | none =>
      have notLower : Text.lower name ≠ name := by
        intro isLower
        rw [isLower, Entries.get?_eq_none_iff] at isFound
        exact isFound (List.mem_map.mpr ⟨_, declared, rfl⟩)
      rw [Option.bind_none, if_neg notLower]

/-- A name that is not declared in any spelling has no default. -/
theorem defaults_eq_none (undeclared : ∀ entry ∈ specs, Text.lower entry.1 ≠ Text.lower key) :
    specs.written? (Text.lower key) = none ∧ specs.stored? (Text.lower key) = none := by
  have notWritten : specs.get? (Text.lower key) = none := by
    rw [Entries.get?_eq_none_iff]
    intro isKey
    rcases List.mem_map.mp isKey with ⟨entry, member, same⟩
    exact undeclared entry member (by rw [same, Text.lower_lower])
  have notStored : specs.folded.get? (Text.lower key) = none := by
    rw [folded, Entries.get?_ofList, Entries.get?_eq_none_iff]
    intro isKey
    rcases List.mem_map.mp isKey with ⟨entry, member, same⟩
    rcases List.mem_map.mp (List.mem_reverse.mp member) with ⟨source, declared, rfl⟩
    exact undeclared source declared same
  rw [written?, stored?, notWritten, notStored]
  exact ⟨rfl, rfl⟩

/-- A parameter in use has no default if nothing was settled for it. -/
theorem default_of_unset (resolves : specs.resolve given = .ok resolved)
    (declared : specs.folded.get? name = some spec) (isLive : spec.movesTo? = none)
    (unset : valueFor? resolved name = none) : spec.default = none := by
  rcases resolve_eq_ok_iff.mp resolves with ⟨accepts, rfl⟩
  have member : (name, spec) ∈ specs.folded.live :=
    mem_live.mpr ⟨Entries.mem_of_get? declared, isLive⟩
  have found : specs.folded.live.get? name = some spec :=
    Entries.get?_of_mem (nodup_keys_live (nodup_keys_folded specs)) member
  cases default : spec.default with
  | none => rfl
  | some value =>
      have gets : ∃ value, candidate? (specs.moved given) (name, spec) = some value := by
        rw [candidate?, default]
        cases valueFor? (specs.moved given) name <;> exact ⟨_, rfl⟩
      rcases gets with ⟨value, gets⟩
      have taken := accepts _ member
      cases coercion : spec.coerce name value with
      | error error =>
          exact absurd (gets ▸ ParameterSpec.refuses_some_iff.mpr coercion) (taken error)
      | ok coerced =>
          have isSet : (specs.settled given).get? name = some coerced := by
            rw [get?_settled, found]
            simp [gets, coercion, Except.toOption]
          simp [valueFor?, isSet, ParameterSpec.isNull_of_coerce coercion] at unset

end Specs

/-! ## Calls one after the other -/

/-- The value that a call puts under a name, however its key is spelled. -/
def Call.puts? (name : String) : Call → Option Value
  | .put key value => if Text.lower key = name then some value else none
  | _ => none

theorem Call.get?_written_eq (call : Call) (held : Parameters) :
    (call.written held).get? name = (call.puts? name).or (held.get? name) := by
  cases call with
  | put key value =>
      simp only [written, puts?]
      split
      · next same => rw [same, Entries.get?_insert_self, Option.some_or]
      · next different => rw [Entries.get?_insert_of_ne (Ne.symm different), Option.none_or]
  | _ => rfl

/-- What a name stands for: the value of the last put under it, or else what was settled. -/
def Parameters.current? (settled : Parameters) (calls : List Call) (name : String) :
    Option Value :=
  (calls.filterMap (Call.puts? name)).getLast?.or (settled.get? name)

theorem Parameters.current?_cons (settled : Parameters) :
    settled.current? (call :: rest) name = (call.written settled).current? rest name := by
  rw [current?, current?, Call.get?_written_eq, List.filterMap_cons, ← Option.or_assoc]
  cases call.puts? name with
  | none => rw [Option.or_none]
  | some value =>
      rw [List.getLast?_cons]
      cases (rest.filterMap (Call.puts? name)).getLast? <;> rfl

namespace Operator

/-- The operator after calls that are made one after the other. -/
def serve (profileOf : κ → Profile) : List Call → Operator κ → Job (Operator κ)
  | [], operator => return operator
  | call :: rest, operator => do
      let (operator, _) ← operator.call profileOf call
      serve profileOf rest operator

/-- What a look-up is answered after other calls. -/
def lookUp (profileOf : κ → Profile) (operator : Operator κ) (calls : List Call) (key : String) :
    Job (Except RunError (Option Value)) := do
  let operator ← operator.serve profileOf calls
  let (_, reply) ← operator.call profileOf (.get key)
  return reply

theorem call_keeps (profileOf : κ → Profile) (operator : Operator κ) (call : Call) :
    (operator.call profileOf call).Meets (fun _ => True) fun answer =>
      answer.1.setting = operator.setting ∧
        answer.1.parameters = call.written operator.parameters := by
  have follows := (operator.call_meets profileOf call).and (operator.call_writes profileOf call)
  exact (follows.imp fun _ both => ⟨both.1.setting, both.2⟩).mono fun _ _ => trivial

/-- Whatever the calls are and whatever comes back from outside, a name stands for the value
that was put last. -/
theorem serve_writes (profileOf : κ → Profile) (calls : List Call) (operator : Operator κ) :
    (operator.serve profileOf calls).Meets (fun _ => True) fun later =>
      later.setting = operator.setting ∧
        ∀ name, later.parameters.get? name = operator.parameters.current? calls name := by
  induction calls generalizing operator with
  | nil => exact Job.meets_pure ⟨rfl, fun _ => rfl⟩
  | cons call rest induction =>
      refine (operator.call_keeps profileOf call).bind fun answer keeps => ?_
      refine (induction answer.1).imp fun later after => ⟨after.1.trans keeps.1, fun name => ?_⟩
      rw [after.2, Parameters.current?_cons, keeps.2]

theorem get?_eq (operator : Operator κ) (key : String) :
    operator.get? key = (Specs.valueFor? operator.parameters (Text.lower key)).or
      (operator.setting.specs.written? (Text.lower key)) := by
  rw [get?]
  cases Specs.valueFor? operator.parameters (Text.lower key) <;> rfl

end Operator

/-! ## Look-ups against what was settled -/

/-- The value that a name stands for unless that is null, or else a default. -/
def Parameters.lookedUp (settled : Parameters) (calls : List Call) (name : String)
    (default? : Option Value) : Option Value :=
  ((settled.current? calls name).filter (!·.isNull)).or default?

namespace Specs

/-- What is looked up falls back to a default as it is written, and not as it is stored. -/
def Agrees (specs : Specs) (settled : Parameters) (calls : List Call) (name : String) : Prop :=
  settled.lookedUp calls name (specs.written? name) =
    settled.lookedUp calls name (specs.stored? name)

theorem agrees_of_value {value : Value} (current : resolved.current? calls name = some value)
    (isValue : value.isNull = false) : specs.Agrees resolved calls name := by
  have kept : (resolved.current? calls name).filter (!·.isNull) = some value := by
    rw [current, Option.filter_some_pos (by simp [isValue])]
  rw [Agrees, Parameters.lookedUp, kept, Parameters.lookedUp, kept, Option.some_or, Option.some_or]

theorem agrees_iff_of_unset (unset : (resolved.current? calls name).all Value.isNull) :
    specs.Agrees resolved calls name ↔ specs.written? name = specs.stored? name := by
  have dropped : (resolved.current? calls name).filter (!·.isNull) = none := by
    cases current : resolved.current? calls name with
    | none => rfl
    | some value =>
        rw [current] at unset
        exact Option.filter_some_neg (by simpa using unset)
  rw [Agrees, Parameters.lookedUp, dropped, Parameters.lookedUp, dropped, Option.none_or,
    Option.none_or]

/-- When look-ups agree with the defaults that are stored for a run, after some calls. -/
structure Agreement (specs : Specs) (settled : Parameters) (calls : List Call) (key : String) :
    Prop where
  /-- They do under a name that stands for a value, -/
  present : ∀ value, settled.current? calls (Text.lower key) = some value →
    value.isNull = false → specs.Agrees settled calls (Text.lower key)
  /-- under a name that is not declared, -/
  undeclared : (∀ entry ∈ specs, Text.lower entry.1 ≠ Text.lower key) →
    specs.Agrees settled calls (Text.lower key)
  /-- and under that of a parameter in use as long as no null was put there. -/
  unset : ∀ entry ∈ specs, specs.Unrivalled entry → Text.lower entry.1 = Text.lower key →
    entry.2.movesTo? = none → settled.current? calls (Text.lower key) ≠ some .null →
    specs.Agrees settled calls (Text.lower key)
  /-- After that it depends on how the default is declared. -/
  fallen : ∀ entry ∈ specs, specs.Unrivalled entry → Text.lower entry.1 = Text.lower key →
    (settled.current? calls (Text.lower key)).all Value.isNull →
    (specs.Agrees settled calls (Text.lower key) ↔
      (if Text.lower key = entry.1 then entry.2.default else none) =
        entry.2.default.bind fun value => (entry.2.coerce (Text.lower key) value).toOption)

theorem agreement (resolves : specs.resolve given = .ok resolved) (calls : List Call)
    (key : String) : specs.Agreement resolved calls key where
  present _ current isValue := agrees_of_value current isValue
  undeclared absent := by
    rw [Agrees, (defaults_eq_none absent).1, (defaults_eq_none absent).2]
  unset entry member unrivalled spelled isLive notNull := by
    cases current : resolved.current? calls (Text.lower key) with
    | some value =>
        refine agrees_of_value current ?_
        cases value with
        | null => exact absurd current notNull
        | _ => rfl
    | none =>
        rw [← spelled] at current ⊢
        have absent : valueFor? resolved (Text.lower entry.1) = none := by
          rw [valueFor?, (Option.or_eq_none_iff.mp current).2, Option.filter_none]
        have noDefault := default_of_unset resolves (get?_folded_eq_some member unrivalled) isLive
          absent
        rw [Agrees, written?_eq member unrivalled, stored?_eq member unrivalled, noDefault,
          Option.bind_none, ite_self]
  fallen entry member unrivalled spelled isUnset := by
    rw [← spelled] at isUnset ⊢
    rw [agrees_iff_of_unset isUnset, written?_eq member unrivalled, stored?_eq member unrivalled]

/-- Where names are declared in lower case, and defaults in their type, they always agree. -/
theorem agrees_of_stored (lower : ∀ entry ∈ specs, Text.lower entry.1 = entry.1)
    (distinct : specs.keys.Nodup)
    (typed : ∀ entry ∈ specs, ∀ value ∈ entry.2.default, entry.2.coerce entry.1 value = .ok value) :
    specs.Agrees resolved calls name := by
  have same : specs.lowered = specs := by
    refine (List.map_congr_left fun entry member => ?_).trans (List.map_id _)
    exact Prod.ext (lower entry member) rfl
  have isFolded : specs.folded = specs :=
    (folded_eq_lowered (same.symm ▸ distinct)).trans same
  have defaults : specs.written? name = specs.stored? name := by
    rw [written?, stored?, isFolded]
    refine Option.bind_congr fun spec declared => ?_
    have typed := typed _ (Entries.mem_of_get? declared)
    cases default : spec.default with
    | none => rfl
    | some value => rw [Option.bind_some, typed value default, Except.toOption]
  rw [Agrees, defaults]

end Specs

/-- The look-ups of a run after any calls: they fall back to defaults as these are written, and
the contract tells when that is what was stored. -/
theorem Operator.lookUp_opened (profileOf : κ → Profile) {setting : Setting}
    (resolves : setting.specs.resolve given = .ok setting.context.parameters) (calls : List Call)
    (key : String) :
    ((opened setting).lookUp profileOf calls key).Meets (fun _ => True) (fun reply =>
        reply = .ok (setting.context.parameters.lookedUp calls (Text.lower key)
          (setting.specs.written? (Text.lower key)))) ∧
      setting.specs.Agreement setting.context.parameters calls key := by
  refine ⟨?_, Specs.agreement resolves calls key⟩
  refine (serve_writes profileOf calls (opened setting)).bind fun operator served => ?_
  refine Job.meets_pure (congrArg Except.ok ?_)
  rw [get?_eq, served.1, Specs.valueFor?, served.2]
  rfl

namespace Sample

/-- A contract whose defaults are not declared as they are stored. -/
def lodgings : Specs :=
  [("Zone", { ParameterSpec.of .string "the zone" with default := some (.string "us") }),
    ("count", { ParameterSpec.of .integer "how many" with default := some (.string "5") })]

def lodging : Setting where
  runId := "run"
  runbook := "sample"
  mode := .auto
  context :=
    { Context.ofProject "project" with
      parameters := [("zone", .string "us"), ("count", .integer 5)] }
  specs := lodgings
  catalog := []

end Sample

open Sample

theorem Operator.lookUp_lodging_put :
    lodgings.resolve [] = .ok lodging.context.parameters ∧
      ((opened lodging : Operator Profile).lookUp id [.put "ZONE" (.string "eu")] "Zone").Meets
        (fun _ => True) (· = .ok (some (.string "eu"))) ∧
      lodgings.Agrees lodging.context.parameters [.put "ZONE" (.string "eu")] "zone" := by
  have resolves : lodging.specs.resolve [] = .ok lodging.context.parameters := rfl
  have opens := lookUp_opened (id : Profile → Profile) resolves [.put "ZONE" (.string "eu")] "Zone"
  exact ⟨resolves, opens.1, opens.2.present (.string "eu") rfl rfl⟩

/-- A default is not found if its name is declared with a capital, and is found as a text where
the contract stores a number. -/
theorem Operator.lookUp_lodging_null :
    lodgings.resolve [] = .ok lodging.context.parameters ∧
      (opened lodging : Operator Profile).lookUp id [.put "ZONE" .null] "Zone" = pure (.ok none) ∧
      lodging.context.parameters.lookedUp [.put "ZONE" .null] "zone" (lodgings.stored? "zone") =
        some (.string "us") ∧
      (opened lodging : Operator Profile).lookUp id [.put "count" .null] "count" =
        pure (.ok (some (.string "5"))) ∧
      lodging.context.parameters.lookedUp [.put "count" .null] "count"
        (lodgings.stored? "count") = some (.integer 5) :=
  ⟨rfl, rfl, rfl, rfl, rfl⟩

end Triage
