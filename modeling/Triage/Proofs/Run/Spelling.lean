import Triage.Proofs.Parameter.Moves
import Triage.Proofs.Run.DepthFirst
import Triage.Proofs.Text.Fold
import Triage.Run.Engine
import Triage.Runbook.Shipped

namespace Triage

namespace Parameters

/-- The same values under other spellings of their names. -/
def respelled (spell : String → String) (raw : Parameters) : Parameters :=
  raw.map fun entry => (spell entry.1, entry.2)

end Parameters

/-! ## What a run depends on -/

namespace Specs

variable {specs : Specs} {given others : Parameters}

theorem resolve_congr (same : others.folded = given.folded) :
    specs.resolve others = specs.resolve given := by
  unfold resolve
  rw [same]

theorem remarks_congr (same : others.folded = given.folded) :
    specs.remarks others = specs.remarks given := by
  unfold remarks
  rw [same]

end Specs

namespace Engine

variable {engine : Engine} {mode : Mode} {request : Request} {id : String}
  {registered : Registered} {given others givenToo : Parameters}

/-- A run depends on no more of its parameters than what the contract gets to see. -/
theorem runIn_congr (found : engine.registry.find request.runbook = .ok (id, registered))
    (adapted : registered.tree.adapt request.parameters = .ok given)
    (adaptedToo : registered.tree.adapt others = .ok givenToo)
    (same : (withProject request.context givenToo).folded =
      (withProject request.context given).folded) :
    engine.runIn mode { request with parameters := others } = engine.runIn mode request := by
  have resolves : resolve registered.tree.specs (withProject request.context givenToo) =
      resolve registered.tree.specs (withProject request.context given) := by
    rw [resolve, resolve, Specs.remarks_congr same, Specs.resolve_congr same]
  unfold runIn
  simp only [found, adapted, adaptedToo]
  unfold runTree
  simp only [resolves]

end Engine

namespace VmRunningState

open Engine (withProject sameName projectKey)

variable {raw : Parameters} {context : Context} {spell : String → String}

/-! ## What the contract gets to see -/

/-- A path gives way to its last part. -/
def shorten : Value → Value
  | .string zone => .string (Text.afterLast '/' zone)
  | other => other

/-- An entry as the contract sees it. -/
def sent (entry : String × Value) : String × Value :=
  (Text.fold entry.1, if entry.1 = "zone" then shorten entry.2 else entry.2)

/-- All parameters as the contract sees them. -/
def received (context : Context) (raw : Parameters) : Parameters :=
  (withProject context (adapt raw)).folded

theorem adapt_eq_insert (raw : Parameters) : adapt raw =
    match raw.get? "zone" with
    | some zone => raw.insert "zone" (shorten zone)
    | none => raw := by
  unfold adapt
  cases held : raw.get? "zone" with
  | none => rfl
  | some zone =>
      cases zone with
      | string text => rfl
      | _ => exact (Entries.insert_of_get? held).symm

theorem adapt_eq_map (nodup : raw.keys.Nodup) : adapt raw =
    raw.map fun entry => (entry.1, if entry.1 = "zone" then shorten entry.2 else entry.2) := by
  rw [adapt_eq_insert]
  cases held : raw.get? "zone" with
  | none => exact (Entries.map_of_not_mem shorten (Entries.get?_eq_none_iff.mp held)).symm
  | some zone => exact Entries.insert_eq_map shorten nodup held

theorem keys_map_sent (raw : Parameters) : Entries.keys (raw.map sent) = raw.supplied := by
  simp [Entries.keys, Parameters.supplied, sent, Function.comp_def]

theorem folded_adapt (distinct : raw.supplied.Nodup) : (adapt raw).folded = raw.map sent := by
  have sends : (adapt raw).map (fun entry => (Text.fold entry.1, entry.2)) = raw.map sent := by
    rw [adapt_eq_map (Parameters.nodup_keys_of_supplied distinct), List.map_map]
    rfl
  rw [Parameters.folded, sends]
  exact Entries.ofList_of_nodup (keys_map_sent raw ▸ distinct)

theorem any_adapt (distinct : raw.supplied.Nodup) (wanted : String → Bool) :
    (adapt raw).any (fun entry => wanted entry.1) = raw.any fun entry => wanted entry.1 := by
  rw [adapt_eq_map (Parameters.nodup_keys_of_supplied distinct), List.any_map]
  rfl

theorem received_eq (distinct : raw.supplied.Nodup) : received context raw =
    if context.projectId = "" ∨ raw.any (fun entry => sameName entry.1 projectKey) = true then
      raw.map sent
    else Entries.insert projectKey (.string context.projectId) (raw.map sent) := by
  have named := any_adapt distinct (sameName · projectKey)
  have given : withProject context (adapt raw) =
      if context.projectId = "" ∨ raw.any (fun entry => sameName entry.1 projectKey) = true then
        adapt raw
      else (adapt raw).insert projectKey (.string context.projectId) := by
    rw [withProject, ← named]
    simp only [Bool.or_eq_true, beq_iff_eq]
  rw [received, given]
  split
  · exact folded_adapt distinct
  · next without =>
    have absent : projectKey ∉ (adapt raw).keys := by
      intro member
      rcases List.mem_map.mp member with ⟨entry, isThere, same⟩
      have itself : sameName projectKey projectKey = true := by decide
      have found : (adapt raw).any (fun entry => sameName entry.1 projectKey) = true :=
        List.any_eq_true.mpr ⟨entry, isThere, by rwa [same]⟩
      exact without (.inr (named ▸ found))
    have folds : Text.fold projectKey = projectKey := by decide
    rw [Entries.insert_of_not_mem absent, Parameters.folded_append, folds, folded_adapt distinct]

theorem fold_of_sameName {name : String} (same : sameName name projectKey = true) :
    Text.fold name = projectKey := by
  -- Decided for the list: to decide it for all characters would try each one there is.
  have checked : projectKey.toList.all (fun char => char.toNat < 0x80 && !Text.isBlank char) =
      true := by decide
  have plain : ∀ char ∈ projectKey.toList, char.toNat < 0x80 ∧ Text.isBlank char = false :=
    fun char member => by simpa using List.all_eq_true.mp checked char member
  have lowers : projectKey.toList.map Char.toLower = projectKey.toList := by decide
  exact Text.fold_of_map_toLower plain ((beq_iff_eq.mp same).trans lowers)

section

variable {entry : String × Value} (distinct : raw.supplied.Nodup)
include distinct

theorem get?_sent (member : entry ∈ raw) :
    Entries.get? (Text.fold entry.1) (raw.map sent) = some (sent entry).2 :=
  Entries.get?_of_mem (keys_map_sent raw ▸ distinct) (List.mem_map_of_mem member)

theorem received_of_no_context (unnamed : context.projectId = "") :
    received context raw = raw.map sent := by
  rw [received_eq distinct, if_pos (.inl unnamed)]

/-- A project that is given counts if it is recognized before the names are folded. -/
theorem received_of_project (named : context.projectId ≠ "") (member : entry ∈ raw)
    (isProject : Text.fold entry.1 = projectKey) : received context raw =
      Entries.insert projectKey
        (if sameName entry.1 projectKey then entry.2 else .string context.projectId)
        (raw.map sent) := by
  rw [received_eq distinct]
  by_cases recognized : sameName entry.1 projectKey = true
  · have found : raw.any (fun entry => sameName entry.1 projectKey) = true :=
      List.any_eq_true.mpr ⟨entry, member, recognized⟩
    have notZone : entry.1 ≠ "zone" := by
      intro isZone
      rw [isZone] at isProject
      exact absurd isProject (by decide)
    have held := get?_sent distinct member
    rw [isProject, sent, if_neg notZone] at held
    rw [if_pos (.inr found), if_pos recognized, Entries.insert_of_get? held]
  · have missing : ¬raw.any (fun entry => sameName entry.1 projectKey) = true := by
      intro found
      rcases List.any_eq_true.mp found with ⟨other, otherMember, recognizedToo⟩
      have meets : Text.fold other.1 = Text.fold entry.1 :=
        (fold_of_sameName recognizedToo).trans isProject.symm
      have same : other = entry := List.inj_on_of_nodup_map distinct otherMember member meets
      exact recognized (same ▸ recognizedToo)
    rw [if_neg (not_or.mpr ⟨named, missing⟩), if_neg recognized]

theorem received_of_no_project (named : context.projectId ≠ "")
    (none_ : ∀ entry ∈ raw, Text.fold entry.1 ≠ projectKey) : received context raw =
      Entries.insert projectKey (.string context.projectId) (raw.map sent) := by
  have missing : ¬raw.any (fun entry => sameName entry.1 projectKey) = true := by
    intro found
    rcases List.any_eq_true.mp found with ⟨other, member, recognized⟩
    exact none_ other member (fold_of_sameName recognized)
  rw [received_eq distinct, if_neg (not_or.mpr ⟨named, missing⟩)]

theorem get?_received_zone (member : entry ∈ raw) (isZone : Text.fold entry.1 = "zone") :
    (received context raw).get? "zone" = some (sent entry).2 := by
  have held := get?_sent distinct member
  rw [isZone] at held
  rw [received_eq distinct]
  split
  · exact held
  · rwa [Entries.get?_insert_of_ne (by decide)]

end

/-! ## Spellings that make no difference -/

/-- Whatever looks at a name before it is folded finds the same in both spellings, or is not
interested in the value. -/
structure Alike (context : Context) (spell : String → String) (entry : String × Value) : Prop where
  zone : ∀ path, entry.2 = .string path → Text.containsChar '/' path = true →
    (spell entry.1 = "zone" ↔ entry.1 = "zone")
  project : context.projectId ≠ "" → entry.2 ≠ .string context.projectId →
    sameName (spell entry.1) projectKey = sameName entry.1 projectKey

theorem supplied_respelled (same : ∀ name ∈ raw.keys, Text.fold (spell name) = Text.fold name) :
    (raw.respelled spell).supplied = raw.supplied := by
  rw [Parameters.supplied, Parameters.respelled, List.map_map]
  exact List.map_congr_left fun entry member => same _ (List.mem_map_of_mem member)

theorem nodup_supplied_respelled (distinct : raw.supplied.Nodup)
    (same : ∀ name ∈ raw.keys, Text.fold (spell name) = Text.fold name) :
    (raw.respelled spell).supplied.Nodup := by
  rwa [supplied_respelled same]

section

variable (same : ∀ name ∈ raw.keys, Text.fold (spell name) = Text.fold name)
include same

theorem map_sent_respelled (alike : ∀ entry ∈ raw, Alike context spell entry) :
    (raw.respelled spell).map sent = raw.map sent := by
  rw [Parameters.respelled, List.map_map]
  refine List.map_congr_left fun entry member => Prod.ext (same _ (List.mem_map_of_mem member)) ?_
  have zone := (alike entry member).zone
  rcases entry with ⟨name, value⟩
  have shortened : (spell name = "zone" ↔ name = "zone") ∨ shorten value = value := by
    cases value with
    | string path =>
        cases slash : Text.containsChar '/' path with
        | true => exact .inl (zone path rfl slash)
        | false =>
            exact .inr (congrArg Value.string (Text.afterLast_of_not_containsChar slash))
    | _ => exact .inr rfl
  rcases shortened with spelled | whole
  · simp only [Function.comp_apply, sent, spelled]
  · simp only [Function.comp_apply, sent, whole, ite_self]

theorem received_of_alike (distinct : raw.supplied.Nodup)
    (alike : ∀ entry ∈ raw, Alike context spell entry) :
    received context (raw.respelled spell) = received context raw := by
  have distinctToo := nodup_supplied_respelled distinct same
  have sends := map_sent_respelled same alike
  by_cases named : context.projectId = ""
  · rw [received_of_no_context distinctToo named, received_of_no_context distinct named, sends]
  by_cases given : ∃ entry ∈ raw, Text.fold entry.1 = projectKey
  · rcases given with ⟨entry, member, isProject⟩
    have respelled : (spell entry.1, entry.2) ∈ raw.respelled spell := List.mem_map_of_mem member
    have isProjectToo : Text.fold (spell entry.1) = projectKey :=
      (same _ (List.mem_map_of_mem member)).trans isProject
    rw [received_of_project distinctToo named respelled isProjectToo,
      received_of_project distinct named member isProject, sends]
    by_cases own : entry.2 = .string context.projectId
    · rw [own, ite_self, ite_self]
    · rw [(alike entry member).project named own]
  · have none_ : ∀ entry ∈ raw, Text.fold entry.1 ≠ projectKey :=
      fun entry member isProject => given ⟨entry, member, isProject⟩
    have noneToo : ∀ entry ∈ raw.respelled spell, Text.fold entry.1 ≠ projectKey := by
      intro entry member
      rcases List.mem_map.mp member with ⟨first, firstMember, rfl⟩
      rw [same _ (List.mem_map_of_mem firstMember)]
      exact none_ first firstMember
    rw [received_of_no_project distinctToo named noneToo,
      received_of_no_project distinct named none_, sends]

theorem alike_zone (distinct : raw.supplied.Nodup)
    (receives : received context (raw.respelled spell) = received context raw)
    {name path : String} (member : (name, .string path) ∈ raw)
    (slash : Text.containsChar '/' path = true) : spell name = "zone" ↔ name = "zone" := by
  have folds : Text.fold (spell name) = Text.fold name := same _ (List.mem_map_of_mem member)
  by_cases isZone : Text.fold name = "zone"
  · have distinctToo := nodup_supplied_respelled distinct same
    have respelled : (spell name, .string path) ∈ raw.respelled spell := List.mem_map_of_mem member
    have shorter : shorten (.string path) ≠ .string path := by
      intro whole
      have ends := Text.containsChar_afterLast '/' path
      rw [Value.string.inj whole, slash] at ends
      cases ends
    have values : some (sent (spell name, .string path)).2 = some (sent (name, .string path)).2 := by
      rw [← get?_received_zone distinctToo respelled (folds.trans isZone), receives,
        get?_received_zone distinct member isZone]
    have written : (if spell name = "zone" then shorten (.string path) else .string path) =
        if name = "zone" then shorten (.string path) else .string path := Option.some.inj values
    split at written <;> split at written
    · next one two => exact iff_of_true one two
    · exact absurd written shorter
    · exact absurd written.symm shorter
    · next one two => exact iff_of_false one two
  · have plain : Text.fold "zone" = "zone" := by decide
    refine iff_of_false (fun spelled => ?_) fun spelled => ?_
    · rw [← folds, spelled] at isZone
      exact isZone plain
    · rw [spelled] at isZone
      exact isZone plain

theorem alike_project (distinct : raw.supplied.Nodup)
    (receives : received context (raw.respelled spell) = received context raw)
    {entry : String × Value} (member : entry ∈ raw) (named : context.projectId ≠ "")
    (other : entry.2 ≠ .string context.projectId) :
    sameName (spell entry.1) projectKey = sameName entry.1 projectKey := by
  have folds : Text.fold (spell entry.1) = Text.fold entry.1 := same _ (List.mem_map_of_mem member)
  by_cases isProject : Text.fold entry.1 = projectKey
  · have distinctToo := nodup_supplied_respelled distinct same
    have respelled : (spell entry.1, entry.2) ∈ raw.respelled spell := List.mem_map_of_mem member
    rw [received_of_project distinctToo named respelled (folds.trans isProject),
      received_of_project distinct named member isProject] at receives
    have values := congrArg (Entries.get? projectKey) receives
    rw [Entries.get?_insert_self, Entries.get?_insert_self] at values
    have written := Option.some.inj values
    refine Bool.eq_iff_iff.mpr ?_
    split at written <;> split at written
    · next one two => exact iff_of_true one two
    · exact absurd written other
    · exact absurd written.symm other
    · next one two => exact iff_of_false one two
  · have unseen : sameName entry.1 projectKey = false :=
      Bool.eq_false_iff.mpr fun seen => isProject (fold_of_sameName seen)
    have unseenToo : sameName (spell entry.1) projectKey = false :=
      Bool.eq_false_iff.mpr fun seen => isProject (folds.symm.trans (fold_of_sameName seen))
    rw [unseen, unseenToo]

end

/-- Spelling matters where a name is looked at before it is folded: for a zone that is given by
its path, and for a project that is not that of the context. Else all spellings run alike. -/
theorem runIn_respelled {snapshot : Snapshot} {engine : Engine} {request : Request} {id : String}
    {registered : Registered} (found : engine.registry.find request.runbook = .ok (id, registered))
    (isTree : registered.tree = tree snapshot) (distinct : request.parameters.supplied.Nodup)
    (same : ∀ name ∈ request.parameters.keys, Text.fold (spell name) = Text.fold name) :
    ((∀ entry ∈ request.parameters, Alike request.context spell entry) ↔
        received request.context (request.parameters.respelled spell) =
          received request.context request.parameters) ∧
      ((∀ entry ∈ request.parameters, Alike request.context spell entry) → ∀ mode,
        engine.runIn mode { request with parameters := request.parameters.respelled spell } =
          engine.runIn mode request) := by
  have adapts (given : Parameters) : registered.tree.adapt given = .ok (adapt given) := by
    rw [isTree]
    rfl
  refine ⟨⟨received_of_alike same distinct, fun receives entry member => ⟨?_, ?_⟩⟩,
    fun alike mode => ?_⟩
  · rcases entry with ⟨name, value⟩
    rintro path rfl slash
    exact alike_zone same distinct receives member slash
  · exact alike_project same distinct receives member
  · exact Engine.runIn_congr found (adapts _) (adapts _) (received_of_alike same distinct alike)

namespace Sample

def snapshot : Snapshot :=
  [("demo", [.object [("name", .string "web-1"), ("status", .string "RUNNING"),
    ("zone", .string "us-central1-a")]])]

def shipped : Engine :=
  { Triage.Sample.engine with
    registry := [("gce/vm-running-state", ⟨"gce", tree snapshot⟩)] }

def request : Request :=
  ⟨"gce/vm-running-state", .ofProject "demo",
    [("instance_name", .string "web-1"), ("zone", .string "projects/demo/zones/us-central1-a")]⟩

/-- A spelling of the name of the instance only. -/
def titled (name : String) : String :=
  if name = "instance_name" then " Instance_Name" else name

/-- A spelling of the name of the zone only. -/
def shouted (name : String) : String :=
  if name = "zone" then "ZONE" else name

theorem normalized : RunbookId.normalize "gce/vm-running-state" = "gce/vm-running-state" := by
  decide +kernel

theorem registered : Shipped.registry snapshot = .ok shipped.registry := by
  rw [Shipped.registry, Registry.register, normalized]
  rfl

theorem found : shipped.registry.find request.runbook =
    .ok ("gce/vm-running-state", ⟨"gce", tree snapshot⟩) := by
  have named : request.runbook = "gce/vm-running-state" := rfl
  rw [named, Registry.find, normalized]
  rfl

theorem distinct : request.parameters.supplied.Nodup := by
  decide

def totals (parameters : Parameters) : Option Totals :=
  let runs := shipped.runIn .auto { request with parameters := parameters }
  match (Triage.Sample.surroundings.exec runs).1 with
  | .completed run => some run.report.totals
  | _ => none

end Sample

open VmRunningState.Sample in
theorem runIn_titled :
    Shipped.registry snapshot = .ok shipped.registry ∧ request.parameters.supplied.Nodup ∧
      (∀ name ∈ request.parameters.keys, Text.fold (titled name) = Text.fold name) ∧
      (∀ entry ∈ request.parameters, Alike request.context titled entry) ∧
      shipped.runIn .auto { request with parameters := request.parameters.respelled titled } =
        shipped.runIn .auto request := by
  have same : ∀ name ∈ request.parameters.keys, Text.fold (titled name) = Text.fold name := by
    decide +kernel
  have alike : ∀ entry ∈ request.parameters, Alike request.context titled entry := by
    intro entry member
    rcases List.mem_cons.mp member with rfl | member
    · refine ⟨fun path isPath slash => ?_, fun _ _ => by decide⟩
      cases isPath
      exact absurd slash (by decide)
    · rw [List.mem_singleton.mp member]
      exact ⟨fun _ _ _ => by decide, fun _ _ => by decide⟩
  exact ⟨registered, distinct, same, alike, (runIn_respelled found rfl distinct same).2 alike .auto⟩

open VmRunningState.Sample in
/-- A zone that is given by its path is not found if its name is spelled in capitals. -/
theorem runIn_shouted :
    Shipped.registry snapshot = .ok shipped.registry ∧ request.parameters.supplied.Nodup ∧
      (∀ name ∈ request.parameters.keys, Text.fold (shouted name) = Text.fold name) ∧
      totals request.parameters = some [(.ok, 1)] ∧
      totals (request.parameters.respelled shouted) = some [(.skipped, 1)] := by
  exact ⟨registered, distinct, by decide +kernel, by decide +kernel, by decide +kernel⟩

end VmRunningState

end Triage
