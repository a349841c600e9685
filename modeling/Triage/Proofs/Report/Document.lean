import Triage.Proofs.Batch.Filing
import Triage.Proofs.Parameter.Declared
import Triage.Proofs.Run.Project
import Triage.Proofs.Time.Lenient
import Triage.Proofs.Value.Json

namespace Triage

/-! ## Parts of a document -/

namespace Status

theorem ofName?_name (status : Status) : ofName? status.name = some status := by
  cases status <;> rfl

end Status

namespace Mode

theorem ofName?_name (mode : Mode) : ofName? mode.name = some mode := by
  cases mode <;> rfl

end Mode

theorem mapM_map_eq_some {α β : Type} {decode : β → Option α} {encode : α → β} {items : List α}
    (areRead : ∀ item ∈ items, decode (encode item) = some item) :
    (items.map encode).mapM decode = some items := by
  induction items with
  | nil => rfl
  | cons item others ih =>
      obtain ⟨isRead, others⟩ := List.forall_mem_cons.mp areRead
      rw [List.map_cons, List.mapM_cons, isRead, ih others]
      rfl

namespace Json

theorem optional?_ofOption {α : Type} {decode : Node → Option α} {encode : α → Node}
    (notNull : ∀ value, encode value ≠ .null) {value? : Option α}
    (isRead : ∀ value, value? = some value → decode (encode value) = some value) :
    (Slot.present (.ofOption encode value?)).optional? decode = some value? := by
  cases value? with
  | none => rfl
  | some value =>
      rw [Node.ofOption, Slot.optional?, isRead value rfl]
      · rfl
      · exact notNull value

end Json

namespace Totals

variable {totals : Totals} {order : List Status}

theorem lookup_eq_some_iff (nodup : (totals.map (·.1)).Nodup) {status : Status} {count : Nat} :
    totals.lookup status = some count ↔ (status, count) ∈ totals := by
  induction totals with
  | nil => simp
  | cons total rest ih =>
      obtain ⟨other, held⟩ := total
      obtain ⟨absent, nodup⟩ := List.nodup_cons.mp nodup
      rw [lookup_cons, List.mem_cons, Prod.mk.injEq]
      by_cases same : status = other
      · have notBehind : (other, count) ∉ rest := fun isMember =>
          absent (@List.mem_map_of_mem _ _ _ _ (·.1) isMember)
        simp [same, notBehind, eq_comm]
      · simp [same, ih nodup]

/-- Without repetition the last count of a status is the first. -/
theorem lookup_reverse (nodup : (totals.map (·.1)).Nodup) (status : Status) :
    totals.reverse.lookup status = totals.lookup status := by
  have nodupReverse : (totals.reverse.map (·.1)).Nodup := by
    rwa [List.map_reverse, List.nodup_reverse]
  refine Option.ext fun count => ?_
  rw [lookup_eq_some_iff nodup, lookup_eq_some_iff nodupReverse, List.mem_reverse]

/-- Counts that stand in the order already are put into it as they are. -/
theorem filterMap_lookup (nodup : order.Nodup) (ordered : (totals.map (·.1)).Sublist order) :
    order.filterMap (fun status => (totals.lookup status).map fun count => (status, count)) =
      totals := by
  induction order generalizing totals with
  | nil =>
      have empty : totals = [] := by simpa using ordered
      rw [empty]
      rfl
  | cons status others ih =>
      obtain ⟨absent, nodupOthers⟩ := List.nodup_cons.mp nodup
      rcases List.sublist_cons_iff.mp ordered with behind | ⟨keys, isKeys, behind⟩
      · have unseen : totals.lookup status = none := by
          rw [List.lookup_eq_none_iff]
          intro total isMember
          have other : status ≠ total.1 := fun same =>
            absent (same ▸ behind.mem (List.mem_map_of_mem isMember))
          simpa using other
        rw [List.filterMap_cons, unseen]
        exact ih nodupOthers behind
      · obtain ⟨⟨first, count⟩, rest, rfl, rfl, rfl⟩ := List.map_eq_cons_iff.mp isKeys
        have goesOn : others.filterMap (fun status =>
            (((first, count) :: rest : Totals).lookup status).map fun count => (status, count)) =
              rest := by
          rw [← ih nodupOthers behind]
          refine List.filterMap_congr fun status isMember => ?_
          have other : status ≠ first := fun same => absent (same ▸ isMember)
          rw [lookup_cons, if_neg other, ih nodupOthers behind]
        rw [List.filterMap_cons, goesOn, lookup_cons, if_pos rfl]
        rfl

theorem keys_ofStatuses_sublist (statuses : List Status) :
    ((ofStatuses statuses).map (·.1)).Sublist Status.all := by
  rw [ofStatuses_eq]
  exact List.filter_sublist.map _

theorem count_le_of_mem_ofStatuses {statuses : List Status} {total : Status × Nat}
    (isMember : total ∈ ofStatuses statuses) : total.2 ≤ statuses.length := by
  rw [(mem_ofStatuses.mp isMember).1]
  exact List.count_le_length

end Totals

namespace Instant

/-- The moment has a year of four digits. -/
structure Plain (instant : Instant) : Prop where
  wellFormed : instant.WellFormed
  inPlainYear : instant.InPlainYear

end Instant

namespace Document

open Json

/-- A document as its types allow it: no parameter has a second value, and the counts are words
in reporting order. -/
structure WellFormed (document : Document) : Prop where
  parameters_nodup : document.parameters.keys.Nodup
  totals_ordered : (document.totals.map (·.1)).Sublist Status.all
  totals_words : ∀ total ∈ document.totals, total.2 < 2 ^ 64

/-- Years have four digits, and parameters have no fractions and nest no deeper than a text may,
less the two levels that stand around them. -/
structure Plain (document : Document) : Prop where
  parameters : ∀ parameter ∈ document.parameters, parameter.2.Whole (depthLimit - 2)
  started : ∀ entry ∈ document.entries, entry.startedAt.Plain
  ended : ∀ entry ∈ document.entries, ∀ moment, entry.endedAt = some moment → moment.Plain

variable {document : Document} {entry : DocumentEntry} {parameters : Parameters} {totals : Totals}

theorem instant?_instantNode {instant : Instant} (plain : instant.Plain) :
    instant? (instantNode instant) = some instant := by
  rw [instantNode, instant?, Node.string?, Option.bind_some,
    TimeText.lenient?_toText plain.wellFormed plain.inPlainYear]

theorem entry?_entryNode (started : entry.startedAt.Plain)
    (ended : ∀ moment, entry.endedAt = some moment → moment.Plain) :
    entry? (entryNode entry) = some entry := by
  have slots : (entryNode entry).slots? entryFields = some [.present (.string entry.step),
      .present (.ofOption .string entry.resource), .present (.string entry.status.name),
      .present (.string entry.reason), .present (.ofOption .string entry.remediation),
      .present (.bool entry.remediationSkipped), .present (instantNode entry.startedAt),
      .present (.ofOption instantNode entry.endedAt)] := rfl
  have texts (text? : Option String) :
      (Slot.present (.ofOption .string text?)).optional? Node.string? = some text? :=
    optional?_ofOption (by simp) fun _ _ => rfl
  have isStatus : statusOf? (.string entry.status.name) = some entry.status :=
    Status.ofName?_name entry.status
  have isStart := instant?_instantNode started
  have isEnd : (Slot.present (.ofOption instantNode entry.endedAt)).optional? instant? =
      some entry.endedAt :=
    optional?_ofOption (by simp [instantNode]) fun moment isMoment =>
      instant?_instantNode (ended moment isMoment)
  unfold entry?
  rw [slots]
  simp [Slot.required?, Node.string?, Node.bool?, texts, isStatus, isStart, isEnd]

theorem totals?_totalsNode (ordered : (totals.map (·.1)).Sublist Status.all)
    (words : ∀ total ∈ totals, total.2 < 2 ^ 64) :
    totals? (totalsNode totals) = some totals := by
  have nodup : Status.all.Nodup := by decide
  rw [totalsNode, totals?, mapM_map_eq_some]
  · simp only [Option.bind_eq_bind, Option.bind_some, Totals.lookup_reverse (nodup.sublist ordered),
      Totals.filterMap_lookup nodup ordered]
    rfl
  · intro total isMember
    have isCount : (Node.ofNat total.2).nat? (twoPow 64) = some total.2 :=
      nat?_ofNat (words total isMember) (Nat.le_refl _)
    simp [Status.ofName?_name, isCount]

theorem parameters?_parametersNode (nodup : parameters.keys.Nodup)
    (whole : ∀ parameter ∈ parameters, parameter.2.Whole (depthLimit - 2)) :
    parameters? (parametersNode parameters) = some parameters := by
  rw [parametersNode, parameters?, mapM_map_eq_some]
  · exact congrArg some (Entries.ofList_of_nodup nodup)
  · intro parameter isMember
    simp [(whole parameter isMember).ofNode?_toNode]

theorem ofNode?_toNode (wellFormed : document.WellFormed) (plain : document.Plain) :
    ofNode? document.toNode = some document := by
  have slots : document.toNode.slots? fields = some [.present (.string document.runbook),
      .present (.string document.runId), .present (parametersNode document.parameters),
      .present (totalsNode document.totals), .present (.string document.mode.name),
      .present (.array (document.entries.map entryNode))] := rfl
  have isParameters := parameters?_parametersNode wellFormed.parameters_nodup plain.parameters
  have isTotals := totals?_totalsNode wellFormed.totals_ordered wellFormed.totals_words
  have isMode : (Node.string document.mode.name).choice?.bind Mode.ofName? = some document.mode :=
    Mode.ofName?_name document.mode
  have areEntries : (document.entries.map entryNode).mapM entry? = some document.entries :=
    mapM_map_eq_some fun entry isMember =>
      entry?_entryNode (plain.started entry isMember) (plain.ended entry isMember)
  rw [ofNode?, slots]
  simp [Slot.required?, Slot.withDefault?, Node.string?, items?, isParameters, isTotals, isMode,
    areEntries]

theorem plain_entryNode (entry : DocumentEntry) : (entryNode entry).Plain := by
  refine .object ?_
  simp only [List.forall_mem_cons]
  exact ⟨.string _, plain_ofOption .string _, .string _, .string _, plain_ofOption .string _,
    .bool _, .string _, plain_ofOption (fun _ => .string _) _, nofun⟩

theorem plain_toNode (plain : document.Plain) : document.toNode.Plain := by
  refine .object ?_
  simp only [List.forall_mem_cons]
  refine ⟨.string _, .string _, .object ?_, .object ?_, .string _, .array ?_, nofun⟩
  · exact List.forall_mem_map.mpr fun parameter isMember =>
      (plain.parameters parameter isMember).plain_toNode
  · exact List.forall_mem_map.mpr fun total _ => .number total.2
  · exact List.forall_mem_map.mpr fun entry _ => plain_entryNode entry

theorem read?_of_plain (wellFormed : document.WellFormed) (plain : document.Plain) :
    read? document.text = some document := by
  rw [read?, text, String.toList_ofList, read?_pretty (plain_toNode plain), Option.bind_some,
    ofNode?_toNode wellFormed plain]

theorem wellFormed_ofReport {report : Report} (nodup : report.parameters.keys.Nodup)
    (few : report.statuses.length < 2 ^ 64) : (ofReport report).WellFormed where
  parameters_nodup := nodup
  totals_ordered := Totals.keys_ofStatuses_sublist report.statuses
  totals_words := fun _ isMember =>
    Nat.lt_of_le_of_lt (Totals.count_le_of_mem_ofStatuses isMember) few

end Document

namespace Engine

variable {ρ : Type} [Renderer ρ] {engine : Engine} {mode : Mode} {request : Request}
  {surroundings after : Surroundings ρ} {run : Completed}

/-- No parameter of a report has a second value. -/
theorem nodup_parameters
    (runs : surroundings.exec (engine.runIn mode request) = (.completed run, after)) :
    run.report.parameters.keys.Nodup := by
  cases engine.admission mode request surroundings with
  | refused _ refused _ =>
      rw [refused] at runs
      cases runs
  | crashed crashed _ =>
      rw [crashed] at runs
      cases runs
  | admitted admits _ _ =>
      obtain ⟨given, parameters, adapted, resolved, -⟩ := admits.resolved
      rw [runIn_parameters admits.found adapted resolved runs,
        (Specs.resolve_eq_ok_iff.mp resolved).2]
      exact Specs.nodup_keys_settled _ _

/-- What is held by the file of a run, whichever calls failed. -/
theorem read_file {faults : Faults} {report : Report} {path : String} {before after : Hampered ρ}
    (ran : (engine.runIn mode request).exec (Hampered.handle faults) before =
      (.completed ⟨report, some path⟩, after)) :
    after.disk.read path = .ok report.text ∧ report.parameters.keys.Nodup := by
  have files := engine.runIn_filesLast mode request
  have nothing : before.calls = before.calls ++ [] := (List.append_nil _).symm
  obtain ⟨made, -, residue, filing⟩ := files.calls.exec nothing (.nil rfl rfl) faults
  have same := files.unfiled faults before
  rw [ran] at residue filing same
  refine ⟨(filing.held residue).1, ?_⟩
  rcases alone : before.surroundings.exec (engine.runIn mode request) with ⟨result, past⟩
  rw [alone] at same
  cases result with
  | completed run =>
      have nodup := nodup_parameters alone
      cases same
      exact nodup
  | failed error => cases same
  | crashed message => cases same

end Engine

namespace Document

/-- A document is read back from its text as it was. So the file that a run leaves tells the
totals of its report. -/
theorem reads_back :
    (∀ document : Document, document.WellFormed → document.Plain →
      read? document.text = some document) ∧
    ∀ (ρ : Type) [Renderer ρ] (engine : Engine) (faults : Faults) {mode : Mode}
      {request : Request} {report : Report} {path : String} {before after : Hampered ρ},
      (engine.runIn mode request).exec (Hampered.handle faults) before =
        (.completed ⟨report, some path⟩, after) →
      (ofReport report).Plain → report.statuses.length < 2 ^ 64 →
      ∃ text document, after.disk.read path = .ok text ∧ read? text = some document ∧
        document.totals = report.totals := by
  refine ⟨fun document wellFormed plain => read?_of_plain wellFormed plain, ?_⟩
  intro ρ _ engine faults mode request report path before after ran plain few
  obtain ⟨isRead, nodup⟩ := engine.read_file ran
  exact ⟨report.text, ofReport report, isRead,
    read?_of_plain (wellFormed_ofReport nodup few) plain, rfl⟩

end Document

namespace Sample

/-- A text that has to be escaped, the greatest and the least number, and a leap second. -/
def document : Document where
  runbook := "sample/pair"
  runId := "sample-1"
  parameters := [("note", .string "a \"b\" \\ \n\x01 ü"), ("limits",
    .object [("least", .array [.integer (-2 ^ 63), .null]), ("most", .integer (2 ^ 64 - 1))])]
  totals := [(.failed, 1), (.skipped, 0)]
  mode := .auto
  entries := [⟨"sample/pair/first#1", none, .failed, "full", some "clean up", true,
    ⟨1483228799, 1500000000⟩, some ⟨1483228800, 1⟩⟩]

theorem wellFormed_document : document.WellFormed where
  parameters_nodup := by decide
  totals_ordered := by decide
  totals_words := by decide

theorem plain_document : document.Plain where
  parameters := by
    refine List.forall_mem_cons.mpr ⟨.string _, List.forall_mem_singleton.mpr ?_⟩
    refine .object (by decide) ?_
    refine List.forall_mem_cons.mpr ⟨.array ?_, List.forall_mem_singleton.mpr ?_⟩
    · refine List.forall_mem_cons.mpr ⟨.integer (by decide) (by decide), ?_⟩
      exact List.forall_mem_singleton.mpr .null
    · exact .integer (by decide) (by decide)
  started := List.forall_mem_singleton.mpr ⟨by decide, by decide⟩
  ended := by
    refine List.forall_mem_singleton.mpr fun moment isMoment => ?_
    cases isMoment
    exact ⟨by decide, by decide⟩

/-- A report whose parameters are texts and whose steps began and ended in the first second. -/
def isShort (report : Report) : Bool :=
  report.statuses.length < 10 &&
    report.parameters.all (fun parameter => parameter.2.string?.isSome) &&
    (Document.ofReport report).entries.all fun entry =>
      entry.startedAt == ⟨0, 0⟩ && entry.endedAt == some ⟨0, 0⟩

theorem plain_of_isShort {report : Report} (short : isShort report = true) :
    (Document.ofReport report).Plain ∧ report.statuses.length < 2 ^ 64 := by
  have first : Instant.Plain ⟨0, 0⟩ := ⟨by decide, by decide⟩
  simp only [isShort, Bool.and_eq_true, decide_eq_true_eq, List.all_eq_true, beq_iff_eq] at short
  obtain ⟨⟨few, texts⟩, moments⟩ := short
  refine ⟨⟨fun parameter isMember => ?_, fun entry isMember => ?_,
    fun entry isMember moment isEnd => ?_⟩, by omega⟩
  · have isText := texts parameter isMember
    cases value : parameter.2 with
    | string text => exact .string text
    | _ => simp [value, Value.string?] at isText
  · exact (moments entry isMember).1 ▸ first
  · have ended := (moments entry isMember).2
    rw [isEnd, Option.some.injEq] at ended
    exact ended ▸ first

/-- The file of a run with a short report. -/
def filedAlone (ended : RunResult × Hampered EventLog) : Option (Report × String) :=
  match ended.1 with
  | .completed ⟨report, some path⟩ => if isShort report then some (report, path) else none
  | _ => none

end Sample

namespace Document

open Sample in
/-- A document with what is awkward about documents, and the file of a run. -/
theorem reads_back_escaped :
    read? document.text = some document ∧
    ∃ report path after text read,
      (filing.runIn .auto request).exec (Hampered.handle fun _ => none) unhampered =
        (.completed ⟨report, some path⟩, after) ∧
      after.disk.read path = .ok text ∧ read? text = some read ∧ read.totals = report.totals := by
  have check : (filedAlone ((filing.runIn .auto request).exec (Hampered.handle fun _ => none)
      unhampered)).isSome = true := by
    decide +kernel
  rcases ran : (filing.runIn .auto request).exec (Hampered.handle fun _ => none) unhampered with
    ⟨result, after⟩
  rw [ran] at check
  obtain ⟨⟨report, path⟩, isFiled⟩ := Option.isSome_iff_exists.mp check
  unfold filedAlone at isFiled
  split at isFiled
  · next report path isResult =>
    simp only [Option.ite_none_right_eq_some] at isFiled
    cases isResult
    obtain ⟨plain, few⟩ := plain_of_isShort isFiled.1
    refine ⟨reads_back.1 document wellFormed_document plain_document, report, path, after, ?_⟩
    obtain ⟨text, read, isRead, isDocument, totals⟩ :=
      reads_back.2 EventLog filing (fun _ => none) ran plain few
    exact ⟨text, read, rfl, isRead, isDocument, totals⟩
  · cases isFiled

end Document

end Triage
