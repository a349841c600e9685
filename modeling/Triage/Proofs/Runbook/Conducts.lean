import Triage.Proofs.Run.AttributeCheck
import Triage.Proofs.Runbook.Calls

namespace Triage

open Walk

variable {ρ : Type} [Renderer ρ] {setting : Setting} {retests : Nat} {conduct : Conduct}
  {draft : Draft} {outcome : Outcome} {parameters : Parameters}

/-- What outcomes are about that are not about one resource. -/
def Context.project (context : Context) : Resource :=
  .ofProject context.projectId

/-! ## Steps that end with one outcome -/

/-- Nothing was recorded, queued or answered yet. -/
structure Draft.IsBlank (draft : Draft) : Prop extends draft.frame.IsFresh where
  evaluations : draft.evaluations = []

namespace Conduct

variable {response : Option PromptResponse} {skipped : Bool}

theorem met_of_blank (blank : draft.IsBlank) (writes : draft.parameters = conduct.writes parameters)
    (marks : conduct.marks parameters []) (childless : conduct.queues parameters = []) :
    conduct.Met setting retests parameters draft where
  parameters := writes
  marks := by rwa [blank.evaluations]
  children := by rw [blank.children, childless, List.map_nil]
  repeats again := by rw [blank.retestRequested] at again; cases again

theorem met_of_recorded (blank : draft.IsBlank)
    (silent : setting.mode.isAuto = true → response = none)
    (marks : conduct.marks draft.parameters [(outcome.status, outcome.resource)])
    (writes : conduct.writes draft.parameters = draft.parameters)
    (childless : conduct.queues draft.parameters = []) :
    conduct.Met setting retests draft.parameters (draft.recorded outcome response skipped) where
  parameters := writes.symm
  marks := by
    rw [Draft.recorded, blank.evaluations]
    exact marks
  children := by
    rw [childless, List.map_nil, ← blank.children]
    cases response <;> rfl
  repeats again := by
    refine ⟨?_, writes⟩
    cases auto : setting.mode.isAuto with
    | false => rfl
    | true =>
        rw [silent auto] at again
        cases blank.retestRequested.symm.trans again

end Conduct

theorem Body.conducts_conclude (blank : draft.IsBlank)
    (marks : conduct.marks draft.parameters [(outcome.status, outcome.resource)])
    (writes : conduct.writes draft.parameters = draft.parameters)
    (childless : conduct.queues draft.parameters = []) :
    (Body.conclude outcome).Yields ρ setting retests draft
      (conduct.Met setting retests draft.parameters) :=
  yields_conclude fun _ _ silent => Conduct.met_of_recorded blank silent marks writes childless

namespace VmRunningState

variable {snapshot : Snapshot} {key : String}

/-! ## What the parameters say -/

def textOf? (parameters : Parameters) (key : String) : Option String :=
  (Specs.valueFor? parameters key).bind Value.asText?

/-- Whether the parameters say that the instance was resolved. -/
def isResolved (parameters : Parameters) : Bool :=
  (Specs.valueFor? parameters "instance_resolved").bind Value.asFlag? == some true

/-- No default takes the place of what the steps read. -/
theorem value?_eq (declares : setting.specs = specs) (isRead : key ∈ publishedKeys)
    (draft : Draft) :
    draft.value? setting key = Specs.valueFor? draft.parameters key := by
  have lower : ∀ key ∈ publishedKeys, Text.lower key = key := by decide
  have undefaulted : ∀ key ∈ publishedKeys, ((specs.get? key).bind (·.default)).isNone = true := by
    decide
  have noDefault := Option.isNone_iff_eq_none.mp (undefaulted key isRead)
  simp only [Draft.value?, Operator.get?, Draft.operator, lower key isRead, declares, noDefault]
  cases Specs.valueFor? draft.parameters key <;> rfl

/-- What outcomes about an instance are about. -/
def subjectOf (context : Context) (instance_ : Value) : Resource :=
  (Resource.ofObject? instance_).getD context.project

/-- What comes of an instance that was looked up: it is looked at further, or one
outcome is recorded. -/
def judged (context : Context) : Except ApiError Value → Except Mark Value
  | .ok instance_ =>
      if context.admits (Snapshot.zoneOf? instance_) (labelsOf instance_)
        (nameOf instance_) then .ok instance_
      else .error (.skipped, some (subjectOf context instance_))
  | .error error =>
      .error (if error.isNotFound then .skipped else .uncertain, some context.project)

/-- What the first step finds, or what it records. -/
def sought (snapshot : Snapshot) (context : Context) (parameters : Parameters) :
    Except Mark Value :=
  match textOf? parameters "instance_name", textOf? parameters "instance_id" with
  | some name, _ =>
      match textOf? parameters "zone" with
      | some zone => judged context (snapshot.instance? context.projectId zone name)
      | none => .error (.skipped, some context.project)
  | none, some id => judged context (snapshot.instanceById? context.projectId id)
  | none, none => .error (.skipped, some context.project)

/-- The parameters once an instance is published. -/
def published (parameters : Parameters) (instance_ : Value) : Parameters :=
  let name := nameOf instance_
  let named :=
    if name = "" then parameters else parameters.insert "instance_name" (Value.string name)
  let zoned :=
    match Snapshot.zoneOf? instance_ with
    | some zone => named.insert "zone" (Value.string zone)
    | none => named
  let numbered :=
    match instance_.field? "id" with
    | some id => zoned.insert "instance_id" id
    | none => zoned
  numbered.insert "instance_resolved" (Value.bool true)

/-- What the steps behind the first one look at. -/
def fetched (snapshot : Snapshot) (context : Context) (parameters : Parameters) :
    Except ApiError Value :=
  snapshot.instance? context.projectId ((textOf? parameters "zone").getD "")
    ((textOf? parameters "instance_name").getD "")

/-- The outcome about a status, if there is one, and the checks that fit it. -/
def chosen (snapshot : Snapshot) (zone name : String) (subject : Resource) (status : String) :
    List Mark × List Step :=
  if status = "RUNNING" then ([], [runningCheck snapshot])
  else if isStopped status then
    ([], [runningCheck snapshot, startTask zone name subject])
  else ([(.uncertain, some subject)], [])

/-- What comes of the gateway. -/
def choice (snapshot : Snapshot) (context : Context) (parameters : Parameters) :
    List Mark × List Step :=
  if isResolved parameters then
    match fetched snapshot context parameters with
    | .error _ => ([(.skipped, some context.project)], [])
    | .ok instance_ =>
        chosen snapshot ((textOf? parameters "zone").getD "")
          ((textOf? parameters "instance_name").getD "") (subjectOf context instance_)
          ((instance_.textField? "status").getD "UNKNOWN")
  else ([], [])

/-- What the check records. -/
def verdict (context : Context) : Except ApiError Value → Mark
  | .ok instance_ =>
      (if ((instance_.at? "status").getD .null).same (.string "RUNNING") then .ok else .failed,
        some (subjectOf context instance_))
  | .error error => (if error.isNotFound then .skipped else .uncertain, some context.project)

/-! ## What each step does -/

def finding (snapshot : Snapshot) (context : Context) : Conduct where
  writes parameters :=
    match sought snapshot context parameters with
    | .ok instance_ => published parameters instance_
    | .error _ => parameters
  marks parameters marks :=
    marks = match sought snapshot context parameters with
      | .ok _ => []
      | .error mark => [mark]
  queues _ := []

def choosing (snapshot : Snapshot) (context : Context) : Conduct where
  writes parameters := parameters
  marks parameters marks := marks = (choice snapshot context parameters).1
  queues parameters := (choice snapshot context parameters).2

def checking (snapshot : Snapshot) (context : Context) : Conduct where
  writes parameters := parameters
  marks parameters marks := marks = [verdict context (fetched snapshot context parameters)]
  queues _ := []

/-- A person who asks for another execution leaves nothing in this one. -/
def starting (mode : Mode) (subject : Resource) : Conduct where
  writes parameters := parameters
  marks _ marks := marks = [(.skipped, some subject)] ∨
    mode.isAuto = false ∧ (marks = [(.ok, some subject)] ∨ marks = [])
  queues _ := []

def parting : Conduct where
  writes parameters := parameters
  marks _ marks := marks = []
  queues _ := []

section

variable (declares : setting.specs = specs)
include declares

theorem yields_getText {next : Option String → Body} {post : Draft → Prop}
    (isRead : key ∈ publishedKeys)
    (rest : (next (textOf? draft.parameters key)).Yields ρ setting retests draft post) :
    (getText key next).Yields ρ setting retests draft post := by
  refine Body.yields_get ?_
  rw [value?_eq declares isRead]
  exact rest

theorem yields_current {next : String → String → Except ApiError Value → Body}
    {post : Draft → Prop}
    (rest : (next ((textOf? draft.parameters "zone").getD "")
      ((textOf? draft.parameters "instance_name").getD "")
      (fetched snapshot setting.context draft.parameters)).Yields ρ setting retests draft post) :
    (current snapshot next).Yields ρ setting retests draft post := by
  refine yields_getText declares (by decide) (yields_getText declares (by decide) ?_)
  exact Body.yields_setting rest

end

theorem yields_putIf {value : Option Value} {next : Body} {post : Draft → Prop}
    (rest : next.Yields ρ setting retests
      (match value with
        | some value => draft.put key value
        | none => draft) post) :
    (putIf key value next).Yields ρ setting retests draft post := by
  cases value with
  | none => exact rest
  | some value => exact Body.yields_put rest

theorem yields_publish (blank : draft.IsBlank) (instance_ : Value) :
    (publish instance_).Yields ρ setting retests draft fun last =>
      last.IsBlank ∧ last.parameters = published draft.parameters instance_ := by
  refine yields_putIf (yields_putIf (yields_putIf (Body.yields_put (Body.yields_done ?_))))
  have lower : ∀ key ∈ publishedKeys, Text.lower key = key := by decide
  have named := lower "instance_name" (by decide)
  have zoned := lower "zone" (by decide)
  have numbered := lower "instance_id" (by decide)
  have resolved := lower "instance_resolved" (by decide)
  by_cases unnamed : nameOf instance_ = "" <;> cases zone : Snapshot.zoneOf? instance_ <;>
    cases id : instance_.field? "id" <;>
    simp [unnamed, published, Draft.put, named, zoned, numbered, resolved, zone, id] <;>
    exact ⟨blank.toIsFresh, blank.evaluations⟩

theorem choose_yields {zone name status : String} {subject : Resource} (blank : draft.IsBlank)
    (writes : conduct.writes draft.parameters = draft.parameters)
    (marks : conduct.marks draft.parameters (chosen snapshot zone name subject status).1)
    (queues : conduct.queues draft.parameters = (chosen snapshot zone name subject status).2) :
    (choose snapshot zone name subject status).Yields ρ setting retests draft
      (conduct.Met setting retests draft.parameters) := by
  have unasked (again : draft.frame.retestRequested = true) :
      setting.mode.isAuto = false ∧ conduct.writes draft.parameters = draft.parameters := by
    cases blank.retestRequested.symm.trans again
  unfold chosen at marks queues
  unfold choose
  by_cases running : status = "RUNNING"
  · rw [if_pos (beq_iff_eq.mpr running)]
    rw [if_pos running] at marks queues
    refine Body.yields_enqueue blank.recorded rfl (Body.yields_done ⟨writes.symm, ?_, ?_, unasked⟩)
    · simpa [Draft.queued, blank.evaluations] using marks
    · simp [Draft.queued, blank.children, queues]
  rw [if_neg (beq_iff_eq.not.mpr running)]
  rw [if_neg running] at marks queues
  cases stopped : isStopped status with
  | true =>
      simp only [stopped, if_true] at marks queues ⊢
      refine Body.yields_enqueue blank.recorded rfl (Body.yields_enqueue blank.recorded rfl
        (Body.yields_done ⟨writes.symm, ?_, ?_, unasked⟩))
      · simpa [Draft.queued, blank.evaluations] using marks
      · simp [Draft.queued, blank.children, queues]
  | false =>
      simp only [stopped, Bool.false_eq_true, if_false] at marks queues ⊢
      refine Body.yields_phrase fun reason => Body.yields_phrase fun remediation => ?_
      exact Body.conducts_conclude blank marks writes queues

/-- Why nothing is looked at further is recorded. -/
theorem conclude_yields (blank : draft.IsBlank)
    (isSought : sought snapshot setting.context draft.parameters =
      .error (outcome.status, outcome.resource)) :
    (Body.conclude outcome).Yields ρ setting retests draft
      ((finding snapshot setting.context).Met setting retests draft.parameters) := by
  refine Body.conducts_conclude blank ?_ ?_ rfl
  · show _ = _
    rw [isSought]
  · show _ = draft.parameters
    simp only [finding, isSought]

theorem settle_yields {found : Except ApiError Value} (blank : draft.IsBlank)
    (isSought : sought snapshot setting.context draft.parameters = judged setting.context found) :
    (settle setting found).Yields ρ setting retests draft
      ((finding snapshot setting.context).Met setting retests draft.parameters) := by
  cases found with
  | ok instance_ =>
      simp only [settle]
      split
      · next admits =>
        rw [judged, if_pos admits] at isSought
        refine (yields_publish blank instance_).imp fun last ends => ?_
        refine Conduct.met_of_blank ends.1 ?_ ?_ rfl
        · simp only [finding, isSought, ends.2]
        · simp only [finding, isSought]
      · next refuses =>
        rw [judged, if_neg refuses] at isSought
        exact conclude_yields blank isSought
  | error error =>
      simp only [settle]
      rw [judged] at isSought
      split
      · next missing => exact conclude_yields blank (by rw [isSought, if_pos missing]; rfl)
      · next present => exact conclude_yields blank (by rw [isSought, if_neg present]; rfl)

section

variable (declares : setting.specs = specs)
include declares

theorem find_conducts (snapshot : Snapshot) :
    (find snapshot).Conducts ρ setting retests (finding snapshot setting.context) := by
  intro draft evaluations fresh
  have blank : draft.IsBlank := ⟨fresh, evaluations⟩
  refine Body.yields_setting (yields_getText declares (by decide) (yields_getText declares
    (by decide) ?_))
  cases named : textOf? draft.parameters "instance_name" with
  | some name =>
      refine yields_getText declares (by decide) ?_
      cases zoned : textOf? draft.parameters "zone" with
      | some zone => exact settle_yields blank (by simp only [sought, named, zoned])
      | none => exact conclude_yields blank (by simp only [sought, named, zoned]; rfl)
  | none =>
      cases numbered : textOf? draft.parameters "instance_id" with
      | some id => exact settle_yields blank (by simp only [sought, named, numbered])
      | none => exact conclude_yields blank (by simp only [sought, named, numbered]; rfl)

theorem gateway_conducts (snapshot : Snapshot) :
    (gateway snapshot).Conducts ρ setting retests (choosing snapshot setting.context) := by
  intro draft evaluations fresh
  have blank : draft.IsBlank := ⟨fresh, evaluations⟩
  refine Body.yields_get ?_
  rw [value?_eq declares (by decide)]
  split
  · next resolved =>
    have isChosen : isResolved draft.parameters = true := resolved
    refine yields_current declares ?_
    cases looked : fetched snapshot setting.context draft.parameters with
    | error error =>
        have comes : choice snapshot setting.context draft.parameters =
            ([(.skipped, some setting.context.project)], []) := by
          simp only [choice, isChosen, if_true, looked]
        refine Body.yields_phrase fun reason => Body.yields_setting ?_
        exact Body.conducts_conclude blank (congrArg Prod.fst comes).symm rfl
          (congrArg Prod.snd comes)
    | ok instance_ =>
        refine Body.yields_setting (choose_yields blank rfl ?_ ?_)
        · simp only [choosing, choice, isChosen, if_true, looked]
          rfl
        · simp only [choosing, choice, isChosen, if_true, looked]
          rfl
  · next unresolved =>
    have notResolved : isResolved draft.parameters = false := by simpa [isResolved] using unresolved
    have comes : choice snapshot setting.context draft.parameters = ([], []) := by
      simp only [choice, notResolved, Bool.false_eq_true, if_false]
    exact Body.yields_done (Conduct.met_of_blank blank rfl (congrArg Prod.fst comes).symm
      (congrArg Prod.snd comes))

theorem runningCheck_conducts (snapshot : Snapshot) (index : Nat) :
    ((runningCheck snapshot).executions index).Conducts ρ setting retests
      (checking snapshot setting.context) := by
  intro draft evaluations fresh
  have blank : draft.IsBlank := ⟨fresh, evaluations⟩
  have comesBack (next : Except ApiError Value → Body) (post : Draft → Prop)
      (rest : (next (fetched snapshot setting.context draft.parameters)).Yields ρ setting retests
        draft post) :
      (current snapshot fun _ _ => next).Yields ρ setting retests draft post :=
    yields_current declares rest
  refine AttributeCheck.body_yields comesBack fun outcome response skipped marks silent => ?_
  refine Conduct.met_of_recorded blank silent ?_ rfl rfl
  rw [marks]
  cases looked : fetched snapshot setting.context draft.parameters <;>
    simp only [checking, looked] <;> rfl

end

theorem startTask_conducts (zone name : String) (subject : Resource) (index : Nat) :
    ((startTask zone name subject).executions index).Conducts ρ setting retests
      (starting setting.mode subject) := by
  intro draft evaluations fresh
  have blank : draft.IsBlank := ⟨fresh, evaluations⟩
  refine Body.yields_setting ?_
  cases auto : setting.mode.isAuto with
  | true => exact Body.conducts_conclude blank (.inl rfl) rfl rfl
  | false =>
      refine Body.yields_ask fun response _ => ?_
      have concludes {outcome : Outcome}
          (marks : (starting setting.mode subject).marks draft.parameters
            [(outcome.status, outcome.resource)]) :
          (Body.conclude outcome).Yields ρ setting retests (draft.noted response)
            ((starting setting.mode subject).Met setting retests draft.parameters) := by
        refine Body.yields_conclude fun answer skipped _ => ⟨rfl, ?_, ?_, fun _ => ⟨auto, rfl⟩⟩
        · simp only [Draft.recorded, Draft.noted, evaluations]
          exact marks
        · cases answer <;> exact fresh.children
      show (HumanTask.conclude _ subject response).Yields ρ setting retests _ _
      unfold HumanTask.conclude
      split
      · exact concludes (.inr ⟨auto, .inl rfl⟩)
      · exact concludes (.inr ⟨auto, .inl rfl⟩)
      · refine Body.yields_isFinalAttempt ?_
        split
        · exact concludes (.inl rfl)
        · refine Body.yields_done ⟨rfl, .inr ⟨auto, .inr ?_⟩, fresh.children, fun _ => ⟨auto, rfl⟩⟩
          exact congrArg (List.map Evaluation.mark) evaluations
      · exact concludes (.inl rfl)

theorem farewell_conducts : Step.farewell.Conducts ρ setting retests parting := by
  intro draft evaluations fresh
  have blank : draft.IsBlank := ⟨fresh, evaluations⟩
  refine Body.yields_setting ?_
  cases auto : setting.mode.isAuto with
  | true => exact Body.yields_done (Conduct.met_of_blank blank rfl rfl rfl)
  | false =>
      refine Body.yields_ask fun response _ => ?_
      have met : parting.Met setting retests draft.parameters (draft.noted response) :=
        ⟨rfl, congrArg (List.map Evaluation.mark) evaluations, fresh.children,
          fun _ => ⟨auto, rfl⟩⟩
      split
      · exact Body.yields_inform (Body.yields_done met)
      · exact Body.yields_done met

end VmRunningState

end Triage
