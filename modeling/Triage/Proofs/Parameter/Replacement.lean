import Mathlib.Data.List.Nodup
import Triage.Proofs.Parameter.Declared

namespace Triage

namespace Specs

open Relation (ReflTransGen)

variable {specs others before rest : Specs} {given raw : Parameters}
  {name key next target last old middle : String} {spec : ParameterSpec} {value : Value}

/-! ## Chains of old names -/

/-- An old name and its replacement. -/
def Link (specs : Specs) (name next : String) : Prop :=
  specs.target? name = some next

/-- The chain of a name leads to one that nothing replaces. -/
def Ends (specs : Specs) (name last : String) : Prop :=
  ReflTransGen specs.Link name last ∧ specs.target? last = none

/-- On the chain of a name each old name is declared before the old name that replaces it. -/
def InOrder (specs : Specs) (name : String) : Prop :=
  ∀ middle next, ReflTransGen specs.Link name middle → specs.Link middle next →
    specs.target? next ≠ none → specs.keys.idxOf middle < specs.keys.idxOf next

/-- No two of the names have chains with the same end. -/
def Apart (specs : Specs) (names : List String) : Prop :=
  ∀ name ∈ names, ∀ other ∈ names, ∀ last,
    specs.Ends name last → specs.Ends other last → other = name

theorem Link.mem_keys (link : specs.Link name next) : name ∈ specs.keys := by
  rcases mem_of_target? link with ⟨spec, member, -⟩
  exact List.mem_map.mpr ⟨_, member, rfl⟩

theorem reaches_of_live (stays : specs.target? name = none)
    (reaches : ReflTransGen specs.Link name next) : next = name := by
  rcases reaches.cases_head with same | ⟨middle, link, -⟩
  · exact same.symm
  · rw [Link, stays] at link
    cases link

theorem Ends.unique (first : specs.Ends name last) (second : specs.Ends name key) : last = key := by
  rcases first with ⟨reaches, stays⟩
  induction reaches using ReflTransGen.head_induction_on with
  | refl => exact (reaches_of_live stays second.1).symm
  | head link reaches induction =>
      rcases second.1.cases_head with rfl | ⟨middle, linkToo, others⟩
      · rw [Link, second.2] at link
        cases link
      · rw [Link, link] at linkToo
        cases linkToo
        exact induction ⟨others, second.2⟩

theorem InOrder.of_live (stays : specs.target? name = none) : specs.InOrder name := by
  intro middle next reaches link
  rw [reaches_of_live stays reaches, Link, stays] at link
  cases link

theorem inOrder_of_link (link : specs.Link name next) : specs.InOrder name ↔
    specs.InOrder next ∧ (specs.target? next ≠ none →
      specs.keys.idxOf name < specs.keys.idxOf next) := by
  constructor
  · exact fun inOrder => ⟨fun middle target reaches => inOrder middle target (.head link reaches),
      inOrder name next .refl link⟩
  · rintro ⟨inOrder, first⟩ middle target reaches linkToo
    rcases reaches.cases_head with rfl | ⟨second, head, tail⟩
    · rw [Link, link] at linkToo
      cases linkToo
      exact first
    · rw [Link, link] at head
      cases head
      exact inOrder middle target tail linkToo

/-! ## Where one pass leaves a value -/

theorem reaches_carried (nodup : specs.keys.Nodup) (member : (old, spec) ∈ specs) :
    ReflTransGen specs.Link name (carried old spec name) := by
  by_cases same : name = old
  · subst same
    cases moves : spec.movesTo? with
    | none =>
        rw [carried_of_live moves]
    | some target =>
        rw [carried_old moves]
        exact .single ((target?_of_mem nodup member).trans moves)
  · rw [carried_of_ne same]

theorem reaches_landing_of_suffix (nodup : specs.keys.Nodup) (suffix : rest <:+ specs) :
    ReflTransGen specs.Link name (rest.landing name) := by
  induction rest generalizing name with
  | nil => exact .refl
  | cons entry rest induction =>
      have member : entry ∈ specs := suffix.subset List.mem_cons_self
      exact (reaches_carried nodup member).trans
        (induction ((List.suffix_cons entry rest).trans suffix))

theorem reaches_landing (nodup : specs.keys.Nodup) :
    ReflTransGen specs.Link name (specs.landing name) :=
  reaches_landing_of_suffix nodup List.suffix_rfl

theorem idxOf_lt_iff (nodup : (before ++ (old, spec) :: rest).keys.Nodup)
    (member : key ∈ Entries.keys (before ++ (old, spec) :: rest)) :
    (Entries.keys (before ++ (old, spec) :: rest)).idxOf old <
      (Entries.keys (before ++ (old, spec) :: rest)).idxOf key ↔ key ∈ Entries.keys rest := by
  have split : Entries.keys (before ++ (old, spec) :: rest) =
      before.keys ++ old :: Entries.keys rest := Entries.keys_append ..
  rw [split] at nodup member ⊢
  rcases List.nodup_append.mp nodup with ⟨-, restNodup, apart⟩
  have absent : old ∉ Entries.keys before := fun earlier =>
    apart _ earlier _ List.mem_cons_self rfl
  rw [List.idxOf_append_of_notMem absent, List.idxOf_cons_self]
  by_cases earlier : key ∈ Entries.keys before
  · have notLater : key ∉ Entries.keys rest := fun later =>
      apart _ earlier _ (List.mem_cons_of_mem _ later) rfl
    have placed := List.idxOf_lt_length_of_mem earlier
    rw [List.idxOf_append_of_mem earlier]
    exact iff_of_false (by omega) notLater
  · rw [List.idxOf_append_of_notMem earlier]
    rcases List.mem_cons.mp ((List.mem_append.mp member).resolve_left earlier) with rfl | later
    · exact iff_of_false (by simp) (List.nodup_cons.mp restNodup).1
    · have different : old ≠ key := fun same => (List.nodup_cons.mp restNodup).1 (same ▸ later)
      rw [List.idxOf_cons_ne _ different]
      exact iff_of_true (by omega) later

/-- What is left of a pass carries a value to a name in use if the chain is in order and no
name of it has been passed by. -/
theorem target?_landing_of_suffix (nodup : specs.keys.Nodup) (whole : specs = before ++ rest) :
    specs.target? (rest.landing name) = none ↔
      specs.InOrder name ∧ (specs.target? name ≠ none → name ∈ rest.keys) := by
  induction rest generalizing name before with
  | nil =>
      rw [landing]
      constructor
      · exact fun stays => ⟨.of_live stays, fun moves => absurd stays moves⟩
      · rintro ⟨-, noneLeft⟩
        by_contra moves
        cases noneLeft moves
  | cons entry rest induction =>
      rcases entry with ⟨old, spec⟩
      have moves : specs.target? old = spec.movesTo? :=
        target?_of_mem nodup (by simp [whole])
      have split : specs = (before ++ [(old, spec)]) ++ rest := by simp [whole]
      rw [landing, induction split]
      by_cases isOld : name = old
      · subst isOld
        cases target : spec.movesTo? with
        | none =>
            rw [carried_of_live target]
            simp [moves, target]
        | some next =>
            have link : specs.Link name next := moves.trans target
            have isFirst : name ∈ Entries.keys ((name, spec) :: rest) := List.mem_cons_self
            have later : (specs.target? next ≠ none → next ∈ Entries.keys rest) ↔
                (specs.target? next ≠ none → specs.keys.idxOf name < specs.keys.idxOf next) := by
              refine imp_congr_right fun moves => ?_
              rcases Option.ne_none_iff_exists'.mp moves with ⟨target, linkToo⟩
              have member := Link.mem_keys linkToo
              subst whole
              exact (idxOf_lt_iff nodup member).symm
            rw [carried_old target, inOrder_of_link link, later]
            exact (and_iff_left fun _ => isFirst).symm
      · have sameLeft : name ∈ Entries.keys ((old, spec) :: rest) ↔ name ∈ Entries.keys rest := by
          simp [Entries.keys, isOld]
        rw [carried_of_ne isOld, sameLeft]

theorem target?_landing (nodup : specs.keys.Nodup) :
    specs.target? (specs.landing name) = none ↔ specs.InOrder name := by
  rw [target?_landing_of_suffix nodup (List.nil_append specs).symm, and_iff_left_iff_imp]
  intro _ moves
  rcases Option.ne_none_iff_exists'.mp moves with ⟨target, link⟩
  exact Link.mem_keys link

theorem landing_eq_iff (nodup : specs.keys.Nodup) :
    specs.landing name = last ∧ specs.target? last = none ↔
      specs.InOrder name ∧ specs.Ends name last := by
  constructor
  · rintro ⟨rfl, stays⟩
    exact ⟨(target?_landing nodup).mp stays, reaches_landing nodup, stays⟩
  · rintro ⟨inOrder, ends⟩
    have lands : specs.Ends name (specs.landing name) :=
      ⟨reaches_landing nodup, (target?_landing nodup).mpr inOrder⟩
    exact ⟨lands.unique ends, ends.2⟩

/-! ## What resolving makes of old names -/

theorem get?_live (nodup : specs.keys.Nodup) (stays : specs.target? name = none) :
    specs.live.get? name = specs.get? name := by
  apply Option.ext
  intro spec
  constructor
  · intro found
    exact Entries.get?_of_mem nodup (mem_live.mp (Entries.mem_of_get? found)).1
  · intro found
    have member := Entries.mem_of_get? found
    have isLive : spec.movesTo? = none := (target?_of_mem nodup member).symm.trans stays
    exact Entries.get?_of_mem (nodup_keys_live nodup) (mem_live.mpr ⟨member, isLive⟩)

theorem mem_keys_moved : key ∈ (specs.moved raw).keys ↔
    ∃ name ∈ raw.supplied, specs.folded.landing name = key := by
  rw [moved, mem_keys_moveAliases _ raw.nodup_keys_folded]
  simp only [Parameters.mem_keys_folded]

theorem mem_keys_settled : name ∈ (specs.settled raw).keys ↔
    name ∈ (bound (candidate? (specs.moved raw)) specs.folded.live).keys ∨
      name ∈ (specs.moved raw).keys ∧ name ∉ specs.folded.live.keys := by
  rw [settled, Entries.keys_append, List.mem_append]
  refine or_congr_right ?_
  simp only [Entries.keys, List.mem_map, List.mem_filter, decide_eq_true_eq]
  constructor
  · rintro ⟨entry, ⟨member, undeclared⟩, rfl⟩
    exact ⟨⟨entry, member, rfl⟩, undeclared⟩
  · rintro ⟨⟨entry, member, rfl⟩, undeclared⟩
    exact ⟨entry, ⟨member, undeclared⟩, rfl⟩

/-- No old name is left exactly if all chains that start from what was given are in order. -/
theorem settled_has_no_old_iff :
    (∀ name ∈ (specs.settled raw).keys, specs.folded.target? name = none) ↔
      ∀ name ∈ raw.supplied, specs.folded.InOrder name := by
  have nodup := nodup_keys_folded specs
  simp only [← target?_landing nodup]
  constructor
  · intro noneOld name isGiven
    by_cases isLive : specs.folded.landing name ∈ specs.folded.live.keys
    · exact ((mem_keys_live nodup).mp isLive).2
    · exact noneOld _ (mem_keys_settled.mpr
        (.inr ⟨mem_keys_moved.mpr ⟨name, isGiven, rfl⟩, isLive⟩))
  · intro lands name member
    rcases mem_keys_settled.mp member with isBound | ⟨passed, -⟩
    · exact ((mem_keys_live nodup).mp (keys_bound_sublist.mem isBound)).2
    · rcases mem_keys_moved.mp passed with ⟨first, isGiven, rfl⟩
      exact lands first isGiven

/-- A value that no other one meets comes to the end of its chain. -/
theorem get?_moved_of_alone (gives : raw.lastGiven? name = some value)
    (inOrder : specs.folded.InOrder name) (ends : specs.folded.Ends name last)
    (alone : ∀ other ∈ raw.supplied, specs.folded.Ends other last → other = name) :
    (specs.moved raw).get? last = some value := by
  have nodup := nodup_keys_folded specs
  have lands := (landing_eq_iff nodup).mpr ⟨inOrder, ends⟩
  have held : raw.folded.get? name = some value := (raw.get?_folded name).trans gives
  have moves := get?_moveAliases_alone specs.folded raw.nodup_keys_folded held
    fun other isGiven meets => alone other (Parameters.mem_keys_folded.mp isGiven)
      ((landing_eq_iff nodup).mp ⟨meets.trans lands.1, lands.2⟩).2
  rwa [lands.1] at moves

/-- What a value comes to under a name that nothing replaces: it is brought to the declared
type, a null gives way to the default, and what is not declared stays as it is. -/
def Takes (specs : Specs) (result : Parameters) (last : String) (value : Value) : Prop :=
  match specs.get? last with
  | none => result.get? last = some value
  | some spec =>
      if value.isNull then result.get? last =
        spec.default.bind fun fallback => (spec.coerce last fallback).toOption
      else ∃ coerced, spec.coerce last value = .ok coerced ∧ result.get? last = some coerced

theorem takes_of_moved {result : Parameters} (resolved : specs.resolve raw = .ok result)
    (held : (specs.moved raw).get? last = some value) (stays : specs.folded.target? last = none) :
    specs.folded.Takes result last value := by
  rcases resolve_eq_ok_iff.mp resolved with ⟨accepts, rfl⟩
  have found := get?_live (nodup_keys_folded specs) stays
  unfold Takes
  rw [get?_settled, found]
  cases declared : specs.folded.get? last with
  | none => exact held
  | some spec =>
      have candidate : candidate? (specs.moved raw) (last, spec) =
          if value.isNull then spec.default else some value := by
        cases isNull : value.isNull <;>
          simp [candidate?, valueFor?, held, Option.filter, isNull]
      dsimp only
      rw [candidate]
      split
      · rfl
      · next present =>
        have member := Entries.mem_of_get? (found.trans declared)
        rw [if_neg present] at candidate
        cases coercion : spec.coerce last value with
        | error error =>
            have refuses := ParameterSpec.refuses_some_iff.mpr coercion
            exact absurd (candidate ▸ refuses) (accepts _ member error)
        | ok coerced =>
            refine ⟨coerced, rfl, ?_⟩
            rw [Option.bind_some, coercion]
            rfl

/-! ## Another order of declaration -/

section

variable (reordered : others.folded.Perm specs.folded)
include reordered

theorem get?_folded_perm : others.folded.get? name = specs.folded.get? name :=
  Entries.get?_perm (nodup_keys_folded specs) reordered

theorem link_perm : others.folded.Link = specs.folded.Link := by
  funext name next
  rw [Link, Link, target?, target?, get?_folded_perm reordered]

theorem ends_perm : others.folded.Ends name last ↔ specs.folded.Ends name last := by
  rw [Ends, Ends, link_perm reordered, target?, target?, get?_folded_perm reordered]

theorem moved_of_moved (inOrder : ∀ name ∈ raw.supplied, specs.folded.InOrder name)
    (inOrderToo : ∀ name ∈ raw.supplied, others.folded.InOrder name)
    (apart : specs.folded.Apart raw.supplied)
    (held : (specs.moved raw).get? key = some value) : (others.moved raw).get? key = some value := by
  have isMoved : key ∈ (specs.moved raw).keys := Entries.mem_keys_iff.mpr ⟨value, held⟩
  rcases mem_keys_moved.mp isMoved with ⟨name, isGiven, rfl⟩
  have nodup := nodup_keys_folded specs
  have stays := (target?_landing nodup).mpr (inOrder name isGiven)
  have ends := ((landing_eq_iff nodup).mp ⟨rfl, stays⟩).2
  rcases Parameters.lastGiven?_isSome.mpr isGiven with ⟨given, gives⟩
  have alone : ∀ other ∈ raw.supplied,
      specs.folded.Ends other (specs.folded.landing name) → other = name :=
    fun other otherGiven meets => apart name isGiven other otherGiven _ ends meets
  have same := get?_moved_of_alone gives (inOrder name isGiven) ends alone
  rw [held] at same
  cases same
  exact get?_moved_of_alone gives (inOrderToo name isGiven) ((ends_perm reordered).mpr ends)
    fun other otherGiven meets => alone other otherGiven ((ends_perm reordered).mp meets)

end

theorem get?_moved_perm (reordered : others.folded.Perm specs.folded)
    (inOrder : ∀ name ∈ raw.supplied, specs.folded.InOrder name)
    (inOrderToo : ∀ name ∈ raw.supplied, others.folded.InOrder name)
    (apart : specs.folded.Apart raw.supplied) :
    (others.moved raw).get? key = (specs.moved raw).get? key := by
  have apartToo : others.folded.Apart raw.supplied := by
    intro name isGiven other otherGiven last
    rw [ends_perm reordered, ends_perm reordered]
    exact apart name isGiven other otherGiven last
  apply Option.ext
  exact fun value => ⟨moved_of_moved reordered.symm inOrderToo inOrder apartToo,
    moved_of_moved reordered inOrder inOrderToo apart⟩

/-- What was moved decides about the parameters in use, in whatever order they are declared. -/
theorem resolve_perm (reordered : others.folded.Perm specs.folded)
    (same : ∀ name, (others.moved raw).get? name = (specs.moved raw).get? name) :
    ((∃ result, others.resolve raw = .ok result) ↔ ∃ result, specs.resolve raw = .ok result) ∧
      ∀ name, (others.settled raw).get? name = (specs.settled raw).get? name := by
  have candidates : candidate? (others.moved raw) = candidate? (specs.moved raw) := by
    funext entry
    rw [candidate?, candidate?, valueFor?, valueFor?, same]
  have lives : others.folded.live.Perm specs.folded.live := reordered.filter _
  constructor
  · simp only [resolve_eq_ok_iff, exists_and_left, exists_eq, and_true, candidates, Accepts,
      lives.mem_iff]
  · intro name
    rw [get?_settled, get?_settled, candidates, same,
      Entries.get?_perm (nodup_keys_live (nodup_keys_folded specs)) lives]

/-- One pass over the contract replaces the old names whose chains are declared in their own
order, and only these. Such a value comes to the end of its chain unless it meets another one
there, and then no other order of declaration that keeps the chains changes anything. -/
theorem resolve_replaces (specs : Specs) (raw : Parameters) :
    (∀ result, specs.resolve raw = .ok result →
        ((∀ name ∈ result.keys, specs.folded.target? name = none) ↔
            ∀ name ∈ raw.supplied, specs.folded.InOrder name) ∧
          ∀ name value last, raw.lastGiven? name = some value → specs.folded.InOrder name →
            specs.folded.Ends name last →
            (∀ other ∈ raw.supplied, specs.folded.Ends other last → other = name) →
              specs.folded.Takes result last value) ∧
      ∀ others : Specs, others.folded.Perm specs.folded → specs.folded.Apart raw.supplied →
        (∀ name ∈ raw.supplied, specs.folded.InOrder name) →
        (∀ name ∈ raw.supplied, others.folded.InOrder name) →
          ((∃ result, others.resolve raw = .ok result) ↔
              ∃ result, specs.resolve raw = .ok result) ∧
            ∀ result resultToo, specs.resolve raw = .ok result →
              others.resolve raw = .ok resultToo →
                ∀ name, resultToo.get? name = result.get? name := by
  refine ⟨fun result resolved => ⟨?_, ?_⟩, ?_⟩
  · rw [(resolve_eq_ok_iff.mp resolved).2]
    exact settled_has_no_old_iff
  · intro name value last gives inOrder ends alone
    exact takes_of_moved resolved (get?_moved_of_alone gives inOrder ends alone) ends.2
  · intro others reordered apart inOrder inOrderToo
    rcases resolve_perm reordered fun name =>
      get?_moved_perm reordered inOrder inOrderToo apart with ⟨succeeds, same⟩
    refine ⟨succeeds, fun result resultToo resolved resolvedToo => ?_⟩
    rw [(resolve_eq_ok_iff.mp resolved).2, (resolve_eq_ok_iff.mp resolvedToo).2]
    exact same

namespace Sample

def oldest : String × ParameterSpec :=
  ("vm", (ParameterSpec.of .string "the instance").deprecatedFor "name")

def older : String × ParameterSpec :=
  ("name", (ParameterSpec.of .string "the instance").deprecatedFor "Instance")

def current : String × ParameterSpec :=
  ("instance", { ParameterSpec.of .string "the instance" with ignorecase := true })

/-- Each old name is declared before its replacement. -/
def renamed : Specs :=
  [oldest, older, current]

/-- So it is here. -/
def rotated : Specs :=
  [current, oldest, older]

/-- The two old names are declared the other way round. -/
def shuffled : Specs :=
  [older, oldest, current]

def dated : Parameters :=
  [(" VM", .string "Web-1")]

theorem eq_of_mem_dated (member : name ∈ dated.supplied) : name = "vm" := by
  have names : dated.supplied = ["vm"] := rfl
  rw [names] at member
  exact List.mem_singleton.mp member

end Sample

open Specs.Sample in
theorem resolve_renamed :
    rotated.folded.Perm renamed.folded ∧ renamed.folded.Apart dated.supplied ∧
      (∀ name ∈ dated.supplied, renamed.folded.InOrder name) ∧
      (∀ name ∈ dated.supplied, rotated.folded.InOrder name) ∧
      renamed.folded.Takes [("instance", .string "web-1")] "instance" (.string "Web-1") ∧
      ∃ result, rotated.resolve dated = .ok result := by
  have resolved : renamed.resolve dated = .ok [("instance", .string "web-1")] := rfl
  have swapped : ([current] ++ [oldest, older]).Perm ([oldest, older] ++ [current]) :=
    List.perm_append_comm
  have reordered : rotated.folded.Perm renamed.folded := swapped
  have apart : renamed.folded.Apart dated.supplied := by
    intro name member other otherMember last _ _
    rw [eq_of_mem_dated member, eq_of_mem_dated otherMember]
  have lands : renamed.folded.InOrder "vm" ∧ renamed.folded.Ends "vm" "instance" :=
    (landing_eq_iff (nodup_keys_folded renamed)).mp ⟨rfl, rfl⟩
  have landsToo : rotated.folded.InOrder "vm" :=
    (target?_landing (nodup_keys_folded rotated)).mp rfl
  have inOrder : ∀ name ∈ dated.supplied, renamed.folded.InOrder name :=
    fun name member => eq_of_mem_dated member ▸ lands.1
  have inOrderToo : ∀ name ∈ dated.supplied, rotated.folded.InOrder name :=
    fun name member => eq_of_mem_dated member ▸ landsToo
  rcases resolve_replaces renamed dated with ⟨resolves, reorders⟩
  refine ⟨reordered, apart, inOrder, inOrderToo, ?_, ?_⟩
  · exact (resolves _ resolved).2 "vm" _ "instance" rfl lands.1 lands.2
      fun other member _ => eq_of_mem_dated member
  · exact (reorders rotated reordered apart inOrder inOrderToo).1.mpr ⟨_, resolved⟩

open Specs.Sample in
/-- In another order of declaration the value stays under a name that is out of use. -/
theorem shuffled_binds_old :
    (∀ name next, shuffled.folded.Link name next ↔
        name = "vm" ∧ next = "name" ∨ name = "name" ∧ next = "instance") ∧
      shuffled.folded.Perm renamed.folded ∧
      shuffled.resolve dated = .ok [("name", .string "Web-1")] ∧
      renamed.resolve dated = .ok [("instance", .string "web-1")] := by
  refine ⟨fun name next => ?_, .swap oldest older [current], rfl, rfl⟩
  have table : shuffled.folded = [older, oldest, current] := rfl
  have moves : older.2.movesTo? = some "instance" ∧ oldest.2.movesTo? = some "name" ∧
      current.2.movesTo? = none := ⟨rfl, rfl, rfl⟩
  rw [table, Link, target?_cons, target?_cons, target?_cons, moves.1, moves.2.1, moves.2.2]
  by_cases isOlder : name = "name"
  · simp [isOlder, older, eq_comm]
  · by_cases isOldest : name = "vm"
    · simp [isOldest, older, oldest, eq_comm]
    · simp [isOlder, isOldest, older, oldest, target?]

end Specs

end Triage
