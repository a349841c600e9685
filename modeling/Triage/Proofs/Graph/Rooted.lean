import Triage.Proofs.Graph.Listing
import Triage.Step.Builtin

namespace Triage

namespace Graph

variable {σ : Type} {graph later : Graph σ}

/-! ## Start and end -/

def kind? (graph : Graph σ) (id : NodeId) : Option StepKind :=
  graph.nodes[id]?.map (·.kind)

theorem kind?_attach (graph : Graph σ) (parent : Nat) (kind : StepKind) (step : σ) (id : Nat) :
    (graph.attach parent kind step).1.kind? id =
      if id = graph.size then some kind else graph.kind? id := by
  by_cases atEnd : id = graph.size
  · simp [kind?, getElem?_nodes_attach, atEnd]
  · by_cases atParent : id = parent
    · subst id
      cases found : graph.nodes[parent]? <;>
        simp [kind?, getElem?_nodes_attach, atEnd, found, withChild]
    · simp [kind?, getElem?_nodes_attach, atParent, atEnd]

@[simp] theorem kind?_map {τ : Type} (transform : σ → τ) (graph : Graph σ) (id : NodeId) :
    (graph.map transform).kind? id = graph.kind? id := by
  cases found : graph.nodes[id]? <;> simp [map, kind?, found]

/-- The start and the end of a tree are the steps of these kinds. -/
structure Marked (graph : Graph σ) : Prop where
  start_iff : ∀ {id : Nat}, graph.kind? id = some .start ↔ graph.start = some id
  end_iff : ∀ {id : Nat}, graph.kind? id = some .end ↔ graph.end_ = some id

namespace Marked

theorem empty : (empty : Graph σ).Marked := by
  constructor <;> simp [kind?, Graph.empty]

theorem map {τ : Type} (transform : σ → τ) (marked : graph.Marked) :
    (graph.map transform).Marked := by
  constructor
  · intro id
    rw [kind?_map]
    exact marked.start_iff
  · intro id
    rw [kind?_map]
    exact marked.end_iff

/-- What is attached is another kind of step. -/
theorem attach (marked : graph.Marked) (forest : graph.Forest) (parent : Nat) {kind : StepKind}
    (loose : kind.isFixed = false) (step : σ) : (graph.attach parent kind step).1.Marked := by
  constructor
  · intro id
    rw [kind?_attach, start_attach]
    split
    · next atEnd =>
      have notStart : kind ≠ .start := by
        rintro rfl
        cases loose
      have unknown : graph.start ≠ some id := fun started =>
        Nat.lt_irrefl _ (atEnd ▸ (forest.start_iff.mp started).1)
      simp [notStart, unknown]
    · exact marked.start_iff
  · intro id
    show _ ↔ graph.end_ = some id
    rw [kind?_attach]
    split
    · next atEnd =>
      have notEnd : kind ≠ .end := by
        rintro rfl
        cases loose
      have unknown : graph.end_ ≠ some id := fun known =>
        Nat.lt_irrefl _ (atEnd ▸ forest.end_lt known)
      simp [notEnd, unknown]
    · exact marked.end_iff

variable {graph grown : Graph Step} {id : NodeId}

theorem addStart {step : Step} (forest : graph.Forest)
    (added : graph.addStart step = .ok (grown, id)) : grown.Marked := by
  rcases addStart_cases added with ⟨unstarted, -, -, rfl⟩
  have empty : graph.nodes = [] := by
    simpa [size] using forest.size_eq_zero unstarted
  have unended : graph.end_ = none := by
    cases known : graph.end_ with
    | none => rfl
    | some last => exact absurd (forest.end_lt known) (by simp [size, empty])
  constructor
  · intro id
    cases id <;> simp [kind?, size, empty]
  · intro id
    cases id <;> simp [kind?, empty, unended]

theorem addEnd {step : Step} (marked : graph.Marked) (forest : graph.Forest)
    (added : graph.addEnd step = .ok (grown, id)) : grown.Marked := by
  rcases addEnd_cases added with ⟨start, started, unended, kind, rfl, rfl⟩
  have kinds (id : Nat) : (graph.attach start step.profile.kind step).1.kind? id =
      if id = graph.size then some .end else graph.kind? id := by
    rw [kind?_attach, kind]
  constructor
  · intro id
    show (graph.attach start step.profile.kind step).1.kind? id = some .start ↔ _
    rw [kinds]
    split
    · next atEnd =>
      have unknown : graph.start ≠ some id := fun known =>
        Nat.lt_irrefl _ (atEnd ▸ (forest.start_iff.mp known).1)
      simp [unknown]
    · exact marked.start_iff
  · intro id
    show (graph.attach start step.profile.kind step).1.kind? id = some .end ↔ _
    rw [kinds]
    split
    · next atEnd => simp [atEnd]
    · next elsewhere =>
      rw [marked.end_iff, unended]
      simp [Ne.symm elsewhere]

theorem add {addition : Addition} (marked : graph.Marked) (forest : graph.Forest)
    (added : graph.add addition = .ok (grown, id)) : grown.Marked := by
  cases addition with
  | start step => exact addStart forest added
  | step parent step =>
      rcases addStep_cases added with ⟨-, loose, result⟩
      cases result
      exact marked.attach forest parent loose step
  | «end» step => exact marked.addEnd forest added

end Marked

/-! ## Trees with one root -/

/-- A tree as it may be at any time, while it is built and while it grows in a run. -/
structure WellFormed (graph : Graph σ) : Prop where
  /-- Every step but the start is below one step, which was added before it, and is
  listed there once and nowhere else. -/
  parent : ∀ id : Nat, id < graph.size → graph.start ≠ some id →
    ∃ parent : Nat, graph.parent? id = some parent ∧ parent < id ∧
      (graph.children parent).count id = 1 ∧ ∀ other, other ≠ parent → id ∉ graph.children other
  /-- Only the start is below no step. -/
  orphan : ∀ id : Nat, id < graph.size → (graph.parent? id = none ↔ graph.start = some id)
  /-- The start is listed nowhere, nor is anything that is no step of the tree. -/
  listed : ∀ id child : Nat, child ∈ graph.children id →
    child < graph.size ∧ graph.start ≠ some child
  start_kind : ∀ id : Nat, graph.kind? id = some .start ↔ graph.start = some id
  end_unique : ∀ id other : Nat, graph.kind? id = some .end → graph.kind? other = some .end →
    id = other
  /-- The end step is the last child of the start. -/
  end_last : ∀ id : Nat, graph.kind? id = some .end →
    ∃ start before, graph.start = some start ∧ graph.children start = before ++ [id]

theorem Forest.wellFormed (forest : graph.Forest) (placed : graph.EndLast)
    (marked : graph.Marked) : graph.WellFormed where
  parent id inside notStart := by
    cases known : graph.parent? id with
    | none => exact absurd (forest.start_iff.mpr ⟨inside, known⟩) notStart
    | some parent =>
        have member := forest.mem_children_iff.mpr known
        refine ⟨parent, rfl, forest.parent_lt known,
          List.count_eq_one_of_mem (forest.children_nodup parent) member, ?_⟩
        intro other different listed
        rw [forest.mem_children_iff.mp listed] at known
        cases known
        exact different rfl
  orphan id inside := by
    rw [forest.start_iff]
    simp [inside]
  listed id child member := by
    refine ⟨forest.child_lt_size member, fun started => ?_⟩
    have orphan := (forest.start_iff.mp started).2
    rw [forest.mem_children_iff.mp member] at orphan
    cases orphan
  start_kind id := marked.start_iff
  end_unique id other isEnd isOther := by
    have known := marked.end_iff.mp isEnd
    rw [marked.end_iff.mp isOther] at known
    cases known
    rfl
  end_last id isEnd := placed id (marked.end_iff.mp isEnd)

/-- From the one root everything is reached once. The search for it comes to an end:
however long it may go on, it finds nothing more. -/
def Rooted (graph : Graph σ) : Prop :=
  ∃ start, graph.start = some start ∧ graph.roots = [start] ∧
    graph.reachable.Perm graph.ids ∧
    ∀ fuel, graph.size ≤ fuel → graph.visitFrom fuel graph.start.toList = graph.reachable

theorem Forest.rooted (forest : graph.Forest) {start : NodeId}
    (started : graph.start = some start) : graph.Rooted := by
  have nodupIds : graph.ids.Nodup := List.nodup_range
  have sole (id : NodeId) : id ∈ graph.roots ↔ id ∈ [start] := by
    have isStart : id ∈ graph.roots ↔ graph.start = some id := by
      simp [roots, ids, forest.start_iff]
    rw [isStart, started, List.mem_singleton, Option.some_inj, eq_comm]
  have roots : graph.roots = [start] := List.perm_singleton.mp
    ((List.perm_ext_iff_of_nodup (nodupIds.filter _) (List.nodup_singleton start)).mpr sole)
  have once : graph.reachable.Perm graph.ids := by
    refine (List.perm_ext_iff_of_nodup (forest.reachable_nodup started) nodupIds).mpr fun id => ?_
    rw [ids, List.mem_range]
    exact ⟨forest.lt_size_of_mem_reachable started, forest.mem_reachable started⟩
  refine ⟨start, started, roots, once, fun fuel enough => ?_⟩
  have whole := forest.whole_reachable started
  rw [started, Option.toList_some]
  refine whole.visitFrom_eq ?_
  rw [once.length_eq, ids, List.length_range]
  exact enough

/-! ## Growing -/

/-- Steps that are attached one after the other, each below a step that is there. None
of them is a start or an end step. -/
inductive Attachments (graph : Graph σ) : Graph σ → Prop
  | none : Attachments graph graph
  | attach {later : Graph σ} {parent : Nat} {kind : StepKind} (earlier : Attachments graph later)
      (inside : parent < later.size) (loose : kind.isFixed = false) (step : σ) :
      Attachments graph (later.attach parent kind step).1

theorem Attachments.keeps {Kept : Graph σ → Prop} (attached : graph.Attachments later)
    (attach : ∀ {graph : Graph σ} {parent : Nat} {kind : StepKind}, Kept graph →
      parent < graph.size → kind.isFixed = false →
      ∀ step : σ, Kept (graph.attach parent kind step).1)
    (kept : Kept graph) : Kept later := by
  induction attached with
  | none => exact kept
  | attach _ inside loose step induction => exact attach induction inside loose step

/-- What is kept while a tree is built and while it grows. -/
structure Sound (graph : Graph σ) : Prop where
  forest : graph.Forest
  endLast : graph.EndLast
  marked : graph.Marked

namespace Sound

theorem empty : (empty : Graph σ).Sound where
  forest := .empty
  endLast last known := by cases known
  marked := .empty

theorem attach {parent : Nat} {kind : StepKind} (sound : graph.Sound) (inside : parent < graph.size)
    (loose : kind.isFixed = false) (step : σ) : (graph.attach parent kind step).1.Sound where
  forest := sound.forest.attach inside kind step
  endLast := sound.endLast.attach sound.forest inside kind step
  marked := sound.marked.attach sound.forest parent loose step

theorem add {graph grown : Graph Step} {addition : Addition} {id : NodeId} (sound : graph.Sound)
    (added : graph.add addition = .ok (grown, id)) : grown.Sound where
  forest := sound.forest.add added
  endLast := sound.endLast.add sound.forest added
  marked := sound.marked.add sound.forest added

theorem map {τ : Type} (transform : σ → τ) (sound : graph.Sound) : (graph.map transform).Sound :=
  ⟨sound.forest.map transform, sound.endLast.map transform, sound.marked.map transform⟩

theorem wellFormed (sound : graph.Sound) : graph.WellFormed :=
  sound.forest.wellFormed sound.endLast sound.marked

end Sound

end Graph

namespace Blueprint

variable {blueprint : Blueprint} {notes : List Json.Node} {graph finished : Graph Step}
  {later : Graph Profile}

theorem start_of_complete (complete : graph.complete = .ok finished) :
    finished = graph ∧ ∃ start, graph.start = some start := by
  unfold Graph.complete at complete
  split at complete
  · cases complete
  · next started =>
    cases complete
    exact ⟨rfl, Option.isSome_iff_exists.mp (by simpa [Option.isSome_iff_ne_none] using started)⟩

/-- Whatever is added, in any order and with refused additions among them, and whatever
a run attaches to it then: a tree is well-formed at any time, and once it has been
completed it has one root, from which every step is reached once. A refused addition
leaves it as it was. -/
theorem follow_wellFormed (followed : blueprint.follow .empty = (notes, .graph graph))
    (attached : graph.outline.Attachments later) :
    graph.WellFormed ∧ later.WellFormed ∧
      (∀ addition error, graph.add addition = .error error →
        ∀ next, (Blueprint.add addition next).follow graph = (next (.error error)).follow graph) ∧
      ∀ finished, graph.complete = .ok finished → finished.Rooted ∧ later.Rooted := by
  have sound : graph.Sound := follow_induction Graph.Sound.add blueprint .empty followed
  have laterSound : later.Sound := attached.keeps Graph.Sound.attach (sound.map Step.profile)
  refine ⟨sound.wellFormed, laterSound.wellFormed, fun addition error refused next => ?_,
    fun finished complete => ?_⟩
  · simp only [follow, refused]
  · rcases start_of_complete complete with ⟨rfl, start, started⟩
    have keeps {graph : Graph Profile} {parent : Nat} {kind : StepKind}
        (kept : graph.start = some start) (_ : parent < graph.size) (_ : kind.isFixed = false)
        (step : Profile) : (graph.attach parent kind step).1.start = some start := kept
    have startedLater : later.start = some start := attached.keeps keeps started
    exact ⟨sound.forest.rooted started, laterSound.forest.rooted startedLater⟩

namespace Stubborn

def look : Step :=
  HumanTask.step ⟨"Look", "Look at it.", none⟩

/-- A construction in which five of the additions are refused. -/
def additions : Blueprint :=
  .add (.end .endMark) fun _ => .add (.start .startMark) fun _ => .add (.start .startMark) fun _ =>
    .add (.end .endMark) fun _ => .add (.step 1 look) fun _ => .add (.end .endMark) fun _ =>
      .add (.step 7 look) fun _ => .add (.step 0 .startMark) fun _ => .add (.step 0 look) fun _ =>
        .done

def tree : Graph Step where
  nodes :=
    [⟨.startMark, .start, none, [3, 1]⟩, ⟨.endMark, .end, some 0, [2]⟩,
      ⟨look, .step, some 1, []⟩, ⟨look, .step, some 0, []⟩]
  start := some 0
  end_ := some 1

end Stubborn

open Stubborn in
theorem follow_wellFormed_stubborn :
    additions.follow .empty = ([], .graph tree) ∧
      ∃ later, tree.outline.Attachments later ∧ later.reachable = [0, 3, 4, 1, 2] ∧
        tree.WellFormed ∧ later.WellFormed ∧ tree.Rooted ∧ later.Rooted := by
  have followed : additions.follow .empty = ([], .graph tree) := rfl
  have attached := Graph.Attachments.none.attach (show 0 < tree.outline.size by decide)
    (show StepKind.gateway.isFixed = false from rfl) look.profile
  rcases follow_wellFormed followed attached with ⟨wellFormed, grows, -, finished⟩
  rcases finished tree rfl with ⟨root, rootLater⟩
  exact ⟨followed, _, attached, by decide, wellFormed, grows, root, rootLater⟩

end Blueprint

end Triage
