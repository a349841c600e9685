import Mathlib.Data.List.Induction
import Mathlib.Data.List.Nodup
import Triage.Proofs.Entries
import Triage.Proofs.Text.Words
import Triage.Registry.Basic

namespace Triage

namespace RunbookId

open Text (Steady isBlank)

open Words

variable {chars segment product name : Chars} {parts : List Chars}

/-! ## Normal forms -/

theorem isInfix_trimSlashes (chars : Chars) : trimSlashes chars <:+: chars :=
  (Chars.isPrefix_dropEndWhile _ _).isInfix.trans (List.dropWhile_suffix _).isInfix

theorem head?_trimSlashes : (trimSlashes chars).head? ≠ some '/' :=
  fun isSlash => absurd (Chars.not_drop_of_head? isSlash) (by decide)

theorem getLast?_trimSlashes : (trimSlashes chars).getLast? ≠ some '/' :=
  fun isSlash => absurd (Chars.not_drop_of_getLast? isSlash) (by decide)

theorem trimSlashes_of_ends (starts : chars.head? ≠ some '/') (ends : chars.getLast? ≠ some '/') :
    trimSlashes chars = chars := by
  have first : chars.dropWhile (· == '/') = chars :=
    Chars.dropWhile_of_head? fun char isFirst =>
      beq_false_of_ne fun isSlash => starts (isSlash ▸ isFirst)
  rw [trimSlashes, first]
  exact Chars.dropEndWhile_of_getLast? fun char isLast =>
    beq_false_of_ne fun isSlash => ends (isSlash ▸ isLast)

theorem mem_of_mem_segments {char : Char} (isSegment : segment ∈ segments chars)
    (member : char ∈ segment) : char ∈ chars := by
  have isSplit := (List.mem_filter.mp isSegment).1
  have inTrimmed := Chars.mem_of_mem_splitWhere isSplit member
  exact (Chars.isInfix_trim chars).subset ((isInfix_trimSlashes _).subset inTrimmed)

/-- What the parts of an id are like in its normal form. -/
structure IsPart (part : Chars) : Prop where
  filled : part ≠ []
  solid : ∀ char ∈ part, isBlank char = false
  noSlash : '/' ∉ part
  isKebab : kebab part = part

/-- Parts with slashes between them are in normal form already. -/
theorem normalizeChars_join (isParts : ∀ part ∈ parts, IsPart part) :
    normalizeChars (Chars.join ['/'] parts) = Chars.join ['/'] parts := by
  by_cases empty : parts = []
  · rw [empty]
    decide
  have solid : ∀ char ∈ Chars.join ['/'] parts, isBlank char = false := by
    intro char member
    rcases Chars.mem_join member with slash | ⟨part, isPart, inPart⟩
    · rw [List.mem_singleton.mp slash]
      decide
    · exact (isParts part isPart).solid char inPart
  have filled : ∀ part ∈ parts, part ≠ [] := fun part isPart => (isParts part isPart).filled
  have noSlash : ∀ part ∈ parts, '/' ∉ part := fun part isPart => (isParts part isPart).noSlash
  have untrimmed : trimSlashes (Chars.join ['/'] parts) = Chars.join ['/'] parts := by
    apply trimSlashes_of_ends
    · intro first
      rcases Chars.head?_join filled first with ⟨part, isPart, inPart⟩
      exact noSlash part isPart inPart
    · intro last
      rcases Chars.getLast?_join filled last with ⟨part, isPart, inPart⟩
      exact noSlash part isPart inPart
  have isSplit : Chars.split '/' (Chars.join ['/'] parts) = parts :=
    Chars.splitWhere_join (by decide) empty fun part isPart char inPart =>
      beq_false_of_ne fun isSlash => noSlash part isPart (isSlash ▸ inPart)
  have isSegments : segments (Chars.join ['/'] parts) = parts := by
    rw [segments, Chars.trim_of_no_blank solid, untrimmed, isSplit, List.filter_eq_self]
    intro part isPart
    simpa [Chars.trim_of_no_blank (isParts part isPart).solid] using filled part isPart
  have isKebab : ∀ part ∈ parts, kebab part = part := fun part isPart =>
    (isParts part isPart).isKebab
  rw [normalizeChars, isSegments, (List.map_congr_left isKebab).trans (List.map_id' parts)]

theorem isPart_kebab (steady : ∀ char ∈ chars, Steady char) (isSegment : segment ∈ segments chars)
    (filled : kebab segment ≠ []) : IsPart (kebab segment) := by
  have segmentSteady : ∀ char ∈ segment, Steady char := fun char member =>
    steady char (mem_of_mem_segments isSegment member)
  exact ⟨filled, solid_kebab segmentSteady, slash_not_mem_kebab segment, kebab_kebab segmentSteady⟩

/-- An id whose segments all leave something is normal once it is normalized. -/
theorem normalizeChars_normalizeChars (steady : ∀ char ∈ chars, Steady char)
    (filled : ∀ segment ∈ segments chars, kebab segment ≠ []) :
    normalizeChars (normalizeChars chars) = normalizeChars chars := by
  apply normalizeChars_join
  intro part member
  rcases List.mem_map.mp member with ⟨segment, isSegment, rfl⟩
  exact isPart_kebab steady isSegment (filled segment isSegment)

/-- The parts around the slash of a normal form are what the segments leave. -/
theorem kebab_segments (normal : normalizeChars chars = product ++ '/' :: name)
    (productApart : '/' ∉ product) (nameApart : '/' ∉ name) :
    (segments chars).map kebab = [product, name] := by
  have apart {part : Chars} (noSlash : '/' ∉ part) :
      ∀ char ∈ part, (char == '/') = false := fun char member =>
    beq_false_of_ne fun isSlash => noSlash (isSlash ▸ member)
  have nonempty : (segments chars).map kebab ≠ [] := by
    intro empty
    rw [normalizeChars, empty] at normal
    exact absurd normal.symm (by simp [Chars.join])
  have isSplit : Chars.split '/' (normalizeChars chars) = (segments chars).map kebab := by
    refine Chars.splitWhere_join (by decide) nonempty fun part member => ?_
    rcases List.mem_map.mp member with ⟨segment, _, rfl⟩
    exact apart (slash_not_mem_kebab segment)
  rw [← isSplit, normal, Chars.split,
    Chars.splitWhere_append (apart productApart) (by decide),
    Chars.splitWhere_of_none (apart nameApart)]

theorem normal_of_filled (steady : ∀ char ∈ chars, Steady char)
    (normal : normalizeChars chars = product ++ '/' :: name)
    (productApart : '/' ∉ product) (nameApart : '/' ∉ name)
    (productFilled : product ≠ []) (nameFilled : name ≠ []) :
    normalizeChars (normalizeChars chars) = normalizeChars chars := by
  refine normalizeChars_normalizeChars steady fun segment isSegment => ?_
  have isPart := List.mem_map_of_mem (f := kebab) isSegment
  rw [kebab_segments normal productApart nameApart] at isPart
  rcases List.mem_cons.mp isPart with same | later
  · rwa [same]
  · rwa [List.mem_singleton.mp later]

/-- A normal form that is its own has something on both sides of its slash. -/
theorem filled_of_normal (normal : normalizeChars (product ++ '/' :: name) = product ++ '/' :: name)
    (productApart : '/' ∉ product) (nameApart : '/' ∉ name) : product ≠ [] ∧ name ≠ [] := by
  let trimmed := trimSlashes (product ++ '/' :: name).trim
  have hasSlash : '/' ∈ trimmed := by
    apply Decidable.byContradiction
    intro noSlash
    have whole : Chars.split '/' trimmed = [trimmed] :=
      Chars.splitWhere_of_none fun char member =>
        beq_false_of_ne fun isSlash => noSlash (isSlash ▸ member)
    have few : (segments (product ++ '/' :: name)).length ≤ 1 := by
      rw [segments, show Chars.split '/' _ = [trimmed] from whole]
      exact List.length_filter_le _ _
    have two := congrArg List.length (kebab_segments normal productApart nameApart)
    rw [List.length_map] at two
    simp only [List.length_cons, List.length_nil] at two
    omega
  rcases List.eq_append_cons_of_mem hasSlash with ⟨front, back, isTrimmed, _⟩
  rcases (isInfix_trimSlashes _).trans (Chars.isInfix_trim (product ++ '/' :: name)) with
    ⟨before, after, whole⟩
  have parts : product ++ '/' :: name = (before ++ front) ++ '/' :: (back ++ after) := by
    rw [← whole, show trimSlashes _ = front ++ '/' :: back from isTrimmed]
    simp
  rcases (List.append_cons_inj_of_notMem productApart nameApart).mp parts with
    ⟨isProduct, _, isName⟩
  constructor
  · intro empty
    have frontEmpty : front = [] := (List.append_eq_nil_iff.mp (isProduct ▸ empty)).2
    exact head?_trimSlashes (show trimmed.head? = some '/' by rw [isTrimmed, frontEmpty]; rfl)
  · intro empty
    have backEmpty : back = [] := (List.append_eq_nil_iff.mp (isName ▸ empty)).1
    exact getLast?_trimSlashes (show trimmed.getLast? = some '/' by simp [isTrimmed, backEmpty])

end RunbookId

namespace Registry

variable {registry : Registry} {call : String × Tree} {id name : String}
  {registered : Registered}

/-! ## Registering one tree after the other -/

/-- What the registry is after a call that registers a tree and may be refused. -/
def enlist (registry : Registry) (call : String × Tree) : Registry :=
  match registry.register call.1 call.2 with
  | .ok next => next
  | .error _ => registry

def enlistAll (registry : Registry) (calls : List (String × Tree)) : Registry :=
  calls.foldl enlist registry

/-- A call that was not refused, and the entry it made. -/
structure Accepted (registry : Registry) (call : String × Tree) (id : String)
    (registered : Registered) : Prop where
  accepted : registry.register call.1 call.2 = .ok (registry ++ [(id, registered)])
  normal : RunbookId.normalize call.1 = id
  sameTree : registered.tree = call.2
  isNew : id ∉ registry.keys

/-- A product and a name around the only slash of an id. -/
structure Shaped (id product name : String) : Prop where
  parts : id.toList = product.toList ++ '/' :: name.toList
  productApart : '/' ∉ product.toList
  nameApart : '/' ∉ name.toList

theorem shaped_of_cut? {product : String} (found : Text.cut? '/' id = some (product, name))
    (oneSlash : Text.containsChar '/' name = false) : Shaped id product name := by
  rcases Option.map_eq_some_iff.mp found with ⟨⟨before, after⟩, isCut, same⟩
  cases same
  rcases Chars.cut?_eq_some isCut with ⟨parts, apart⟩
  have nameApart : '/' ∉ after := by simpa [Text.containsChar] using oneSlash
  exact ⟨by simpa using parts, by simpa using apart, by simpa using nameApart⟩

/-- Nothing can be registered under the id: it is not a product and a name, or it is taken. -/
def Barred (registry : Registry) (id : String) : Prop :=
  (∀ product name, ¬Shaped id product name) ∨ id ∈ registry.keys

theorem not_shaped_of_more {product name : String} (parts : Text.cut? '/' id = some (product, name))
    (more : Text.containsChar '/' name = true) (other rest : String) : ¬Shaped id other rest := by
  intro shaped
  rcases Option.map_eq_some_iff.mp parts with ⟨⟨before, after⟩, isCut, same⟩
  cases same
  have isSame := (Chars.cut?_eq_some isCut).1
  rw [shaped.parts] at isSame
  rcases (List.append_cons_inj_of_notMem shaped.productApart shaped.nameApart).mp isSame with
    ⟨_, _, rfl⟩
  exact shaped.nameApart (by simpa [Text.containsChar] using more)

/-- A call is refused, or it adds one entry at the end. -/
theorem register_cases (registry : Registry) (call : String × Tree) :
    (∃ error, registry.register call.1 call.2 = .error error) ∧
        Barred registry (RunbookId.normalize call.1) ∨
      ∃ id registered name, Accepted registry call id registered ∧
        Shaped id registered.product name := by
  rcases call with ⟨spelled, tree⟩
  cases isCut : Text.cut? '/' (RunbookId.normalize spelled) with
  | none =>
      refine .inl ⟨⟨_, by rw [register, isCut]⟩, .inl fun product name shaped => ?_⟩
      have noSlash := Chars.not_mem_of_cut?_eq_none (Option.map_eq_none_iff.mp isCut)
      rw [shaped.parts] at noSlash
      exact noSlash (by simp)
  | some parts =>
      rcases parts with ⟨product, name⟩
      cases more : Text.containsChar '/' name with
      | true =>
          refine .inl ⟨⟨_, by rw [register, isCut]; exact if_pos more⟩, .inl ?_⟩
          exact not_shaped_of_more isCut more
      | false =>
          have oneSlash : ¬Text.containsChar '/' name = true := by simp [more]
          by_cases taken : registry.contains (RunbookId.normalize spelled) = true
          · have refused : registry.register spelled tree = .error (.invalidTree
                (RunbookId.normalize spelled) "a tree is already registered under this id") := by
              rw [register, isCut]
              exact (if_neg oneSlash).trans (if_pos taken)
            exact .inl ⟨⟨_, refused⟩, .inr (Entries.contains_iff.mp taken)⟩
          · refine .inr ⟨_, ⟨product, tree⟩, name, ⟨?_, rfl, rfl, ?_⟩, shaped_of_cut? isCut more⟩
            · rw [register, isCut]
              exact (if_neg oneSlash).trans (if_neg taken)
            · rwa [Entries.contains_iff] at taken

theorem enlist_of_error {error : RunError}
    (refused : registry.register call.1 call.2 = .error error) :
    registry.enlist call = registry := by
  rw [enlist, refused]

theorem Accepted.enlist_eq (accepted : Accepted registry call id registered) :
    registry.enlist call = registry ++ [(id, registered)] := by
  rw [enlist, accepted.accepted]

theorem enlistAll_concat (calls : List (String × Tree)) (call : String × Tree) :
    registry.enlistAll (calls ++ [call]) = (registry.enlistAll calls).enlist call := by
  simp [enlistAll]

/-- What the calls so far have made of an empty registry. -/
structure Listed (calls : List (String × Tree)) (registry : Registry) : Prop where
  nodup : registry.keys.Nodup
  inOrder : registry.keys.Sublist (calls.map fun call => RunbookId.normalize call.1)
  stems : ∀ id registered, (id, registered) ∈ registry →
    ∃ before call after name, calls = before ++ call :: after ∧
      Accepted (enlistAll [] before) call id registered ∧ Shaped id registered.product name

theorem Listed.enlist {calls : List (String × Tree)} (listed : Listed calls (enlistAll [] calls))
    (call : String × Tree) :
    Listed (calls ++ [call]) ((enlistAll [] calls).enlist call) := by
  have stemsToo : ∀ id registered, (id, registered) ∈ enlistAll [] calls →
      ∃ before earlier after name, calls ++ [call] = before ++ earlier :: after ∧
        Accepted (enlistAll [] before) earlier id registered ∧
        Shaped id registered.product name := by
    intro id registered member
    rcases listed.stems id registered member with
      ⟨before, earlier, after, name, split, accepted, shaped⟩
    exact ⟨before, earlier, after ++ [call], name, by simp [split], accepted, shaped⟩
  rcases register_cases (enlistAll [] calls) call with
    ⟨⟨error, refused⟩, _⟩ | ⟨id, registered, name, accepted, shaped⟩
  · rw [enlist_of_error refused]
    refine ⟨listed.nodup, ?_, stemsToo⟩
    rw [List.map_append]
    exact listed.inOrder.trans (List.sublist_append_left _ _)
  · rw [accepted.enlist_eq]
    have keys : Entries.keys (enlistAll [] calls ++ [(id, registered)]) =
        (enlistAll [] calls).keys ++ [id] := by
      simp [Entries.keys]
    refine ⟨?_, ?_, ?_⟩
    · rw [keys, List.nodup_append]
      refine ⟨listed.nodup, List.nodup_singleton id, fun held member new isNew same => ?_⟩
      rw [List.mem_singleton.mp isNew] at same
      exact accepted.isNew (same ▸ member)
    · rw [keys, List.map_append]
      refine listed.inOrder.append ?_
      simp [accepted.normal]
    · intro other held member
      rcases List.mem_append.mp member with earlier | new
      · exact stemsToo other held earlier
      · cases List.mem_singleton.mp new
        exact ⟨calls, call, [], name, rfl, accepted, shaped⟩

theorem enlistAll_listed (calls : List (String × Tree)) : Listed calls (enlistAll [] calls) := by
  induction calls using List.reverseRecOn with
  | nil =>
      exact ⟨List.nodup_nil, List.Sublist.slnil,
        fun _ _ member => absurd member List.not_mem_nil⟩
  | append_singleton calls call induction =>
      rw [enlistAll_concat]
      exact induction.enlist call

/-! ## Looking up under any spelling -/

theorem find_eq_ok_iff {spelled : String} (nodup : registry.keys.Nodup) :
    registry.find spelled = .ok (id, registered) ↔
      (id, registered) ∈ registry ∧ RunbookId.normalize spelled = id := by
  cases held : registry.get? (RunbookId.normalize spelled) with
  | none =>
      have refused : registry.find spelled =
          .error (.treeNotFound spelled (registry.guidance (RunbookId.normalize spelled))) := by
        rw [find, held]
      rw [refused]
      constructor
      · exact fun failed => by cases failed
      · rintro ⟨member, rfl⟩
        rw [Entries.get?_of_mem nodup member] at held
        cases held
  | some found =>
      have reached : registry.find spelled = .ok (RunbookId.normalize spelled, found) := by
        rw [find, held]
      rw [reached, Except.ok.injEq, Prod.mk.injEq]
      constructor
      · rintro ⟨rfl, rfl⟩
        exact ⟨Entries.mem_of_get? held, rfl⟩
      · rintro ⟨member, rfl⟩
        rw [Entries.get?_of_mem nodup member] at held
        exact ⟨rfl, (Option.some.inj held).symm⟩

theorem Shaped.filled_of_normal {product : String} (shaped : Shaped id product name)
    (normal : RunbookId.normalize id = id) : product ≠ "" ∧ name ≠ "" := by
  have chars := congrArg String.toList normal
  rw [RunbookId.normalize, String.toList_ofList, shaped.parts] at chars
  rcases RunbookId.filled_of_normal chars shaped.productApart shaped.nameApart with
    ⟨productFilled, nameFilled⟩
  exact ⟨fun empty => productFilled (by simp [empty]), fun empty => nameFilled (by simp [empty])⟩

theorem Shaped.normal_of_filled {product spelled : String} (shaped : Shaped id product name)
    (normal : RunbookId.normalize spelled = id)
    (steady : ∀ char ∈ spelled.toList, Text.Steady char)
    (productFilled : product ≠ "") (nameFilled : name ≠ "") : RunbookId.normalize id = id := by
  have chars : RunbookId.normalizeChars spelled.toList = product.toList ++ '/' :: name.toList := by
    rw [← shaped.parts, ← normal, RunbookId.normalize, String.toList_ofList]
  have again := RunbookId.normal_of_filled steady chars shaped.productApart shaped.nameApart
    (by simpa using productFilled) (by simpa using nameFilled)
  rw [← normal, RunbookId.normalize, RunbookId.normalize, String.toList_ofList, again]

/-- However trees are registered: what is refused changes nothing, the ids are apart and in the
order of the calls, and a look-up gives an entry for exactly the spellings with its id as normal
form. An entry is found under its own id if that id is its own normal form, which takes a product
and a name that are not empty, and for ids that were spelled in steady letters nothing else. -/
theorem enlistAll_reachable (calls : List (String × Tree)) :
    (∀ before call after, calls = before ++ call :: after →
      (∃ error, (enlistAll [] before).register call.1 call.2 = .error error) ∧
          Barred (enlistAll [] before) (RunbookId.normalize call.1) ∧
          enlistAll [] (before ++ [call]) = enlistAll [] before ∨
      ∃ id registered, Accepted (enlistAll [] before) call id registered ∧
        enlistAll [] (before ++ [call]) = enlistAll [] before ++ [(id, registered)]) ∧
    (enlistAll [] calls).keys.Nodup ∧
    (enlistAll [] calls).keys.Sublist (calls.map fun call => RunbookId.normalize call.1) ∧
    (∀ spelled id registered, (enlistAll [] calls).find spelled = .ok (id, registered) ↔
      (id, registered) ∈ enlistAll [] calls ∧ RunbookId.normalize spelled = id) ∧
    ∀ id registered, (id, registered) ∈ enlistAll [] calls →
      ∃ before call after name, calls = before ++ call :: after ∧
        Accepted (enlistAll [] before) call id registered ∧
        Shaped id registered.product name ∧
        ((enlistAll [] calls).find id = .ok (id, registered) ↔ RunbookId.normalize id = id) ∧
        (RunbookId.normalize id = id → registered.product ≠ "" ∧ name ≠ "") ∧
        ((∀ char ∈ call.1.toList, Text.Steady char) → registered.product ≠ "" → name ≠ "" →
          RunbookId.normalize id = id) := by
  have listed := enlistAll_listed calls
  refine ⟨fun before call after _ => ?_, listed.nodup, listed.inOrder,
    fun spelled id registered => find_eq_ok_iff listed.nodup, fun id registered member => ?_⟩
  · rw [enlistAll_concat]
    rcases register_cases (enlistAll [] before) call with
      ⟨⟨error, refused⟩, barred⟩ | ⟨id, registered, _, accepted, _⟩
    · exact .inl ⟨⟨error, refused⟩, barred, enlist_of_error refused⟩
    · exact .inr ⟨id, registered, accepted, accepted.enlist_eq⟩
  · rcases listed.stems id registered member with
      ⟨before, call, after, name, split, accepted, shaped⟩
    refine ⟨before, call, after, name, split, accepted, shaped, ?_, shaped.filled_of_normal,
      shaped.normal_of_filled accepted.normal⟩
    rw [find_eq_ok_iff listed.nodup]
    exact and_iff_right member

namespace Sample

def tree : Tree :=
  ⟨"Checks nothing.", [], [], .ok, .done⟩

end Sample

/-- A name of hyphens only is registered as an empty one, which no look-up finds. -/
theorem enlistAll_nameless :
    (enlistAll [] [("gce/--", Sample.tree)]).keys = ["gce/"] ∧
      RunbookId.normalize "gce/" = "gce" ∧
      ¬∃ found, (enlistAll [] [("gce/--", Sample.tree)]).find "gce/" = .ok found := by
  have missing : ((enlistAll [] [("gce/--", Sample.tree)]).find "gce/").isOk = false := by
    decide
  refine ⟨by decide, by decide, fun ⟨found, reached⟩ => ?_⟩
  rw [reached] at missing
  cases missing

end Registry

end Triage
