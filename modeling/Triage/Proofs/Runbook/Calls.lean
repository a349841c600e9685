import Triage.Proofs.Tree.Uses
import Triage.Runbook.VmRunningState

namespace Triage

variable {calls : Call → Prop}

namespace Body

variable {block fallback : String} {arguments : List (String × String)} {outcome : Outcome}

theorem conclude_uses (records : calls (.record outcome)) : (Body.conclude outcome).Uses calls :=
  invoke_uses records fun _ => trivial

theorem phrase_uses {next : String → Body} (phrases : calls (.phrase block arguments))
    (rest : ∀ text, (next text).Uses calls) :
    (Body.phrase block arguments fallback next).Uses calls := by
  refine ⟨phrases, fun reply => ?_⟩
  cases reply with
  | ok text => exact rest text
  | error error => exact rest fallback

end Body

/-! ## What the steps of the runbook call -/

namespace VmRunningState

variable {snapshot : Snapshot} {key zone name status : String} {value : Option Value}
  {next : Body} {subject : Resource} {setting : Setting} {fetched : Except ApiError Value}

/-- The names under which an instance is published. -/
def publishedKeys : List String :=
  ["instance_name", "zone", "instance_id", "instance_resolved"]

/-- Everything that the steps of the runbook call. -/
structure Permits (calls : Call → Prop) : Prop where
  setting : calls .setting
  get : ∀ key, calls (.get key)
  put : ∀ key ∈ publishedKeys, ∀ value, calls (.put key value)
  isFinalAttempt : calls .isFinalAttempt
  phrase : ∀ block arguments, calls (.phrase block arguments)
  record : ∀ outcome, calls (.record outcome)
  ask : ∀ request, calls (.ask request)
  inform : ∀ message, calls (.inform message)

variable (permits : Permits calls)
include permits

theorem getText_uses {next : Option String → Body} (rest : ∀ text?, (next text?).Uses calls) :
    (getText key next).Uses calls :=
  Body.invoke_uses (permits.get key) fun _ => rest _

theorem putIf_uses (published : key ∈ publishedKeys) (rest : next.Uses calls) :
    (putIf key value next).Uses calls := by
  cases value with
  | none => exact rest
  | some value => exact Body.invoke_uses (permits.put key published value) fun _ => rest

theorem publish_uses (instance_ : Value) : (publish instance_).Uses calls := by
  refine putIf_uses permits (by decide) (putIf_uses permits (by decide) ?_)
  refine putIf_uses permits (by decide) ?_
  exact Body.invoke_uses (permits.put _ (by decide) _) fun _ => trivial

theorem settle_uses (setting : Setting) : ∀ fetched, (settle setting fetched).Uses calls
  | .ok instance_ => by
      simp only [settle]
      split
      · exact publish_uses permits instance_
      · exact Body.conclude_uses (permits.record _)
  | .error error => by
      simp only [settle]
      split <;> exact Body.conclude_uses (permits.record _)

theorem find_uses (snapshot : Snapshot) : (find snapshot).Uses calls := by
  refine Body.invoke_uses permits.setting fun setting => ?_
  refine getText_uses permits fun name? => getText_uses permits fun id? => ?_
  split
  · refine getText_uses permits fun zone? => ?_
    split
    · exact settle_uses permits setting _
    · exact Body.conclude_uses (permits.record _)
  · exact settle_uses permits setting _
  · exact Body.conclude_uses (permits.record _)

theorem current_uses {next : String → String → Except ApiError Value → Body}
    (rest : ∀ zone name fetched, (next zone name fetched).Uses calls) :
    (current snapshot next).Uses calls := by
  refine getText_uses permits fun zone? => getText_uses permits fun name? => ?_
  exact Body.invoke_uses permits.setting fun _ => rest _ _ _

theorem compare_uses (check : AttributeCheck) (setting : Setting) (resource : Value) :
    (check.compare setting resource).Uses calls := by
  unfold AttributeCheck.compare
  dsimp only
  split
  · exact Body.phrase_uses (permits.phrase _ _) fun _ => Body.conclude_uses (permits.record _)
  · refine Body.phrase_uses (permits.phrase _ _) fun _ => ?_
    exact Body.phrase_uses (permits.phrase _ _) fun _ => Body.conclude_uses (permits.record _)

theorem runningCheck_uses (snapshot : Snapshot) : (runningCheck snapshot).Uses calls := by
  intro index
  simp only [AttributeCheck.body]
  refine current_uses permits fun zone name fetched => ?_
  refine Body.invoke_uses permits.setting fun setting => ?_
  cases fetched with
  | ok resource => exact compare_uses permits _ setting resource
  | error error =>
      dsimp only
      split <;> exact Body.conclude_uses (permits.record _)

theorem startTask_uses (zone name : String) (subject : Resource) :
    (startTask zone name subject).Uses calls := by
  intro index
  refine Body.invoke_uses permits.setting fun setting => ?_
  dsimp only
  split
  · exact Body.conclude_uses (permits.record _)
  · refine Body.invoke_uses (permits.ask _) fun answer => ?_
    unfold HumanTask.conclude
    split
    · exact Body.conclude_uses (permits.record _)
    · exact Body.conclude_uses (permits.record _)
    · refine Body.invoke_uses permits.isFinalAttempt fun final => ?_
      split
      · exact Body.conclude_uses (permits.record _)
      · trivial
    · exact Body.conclude_uses (permits.record _)

theorem choose_uses : (choose snapshot zone name subject status).Uses calls := by
  unfold choose
  split
  · exact Body.enqueue_uses (runningCheck_uses permits snapshot) trivial
  · split
    · exact Body.enqueue_uses (runningCheck_uses permits snapshot)
        (Body.enqueue_uses (startTask_uses permits zone name subject) trivial)
    · refine Body.phrase_uses (permits.phrase _ _) fun _ => ?_
      exact Body.phrase_uses (permits.phrase _ _) fun _ => Body.conclude_uses (permits.record _)

theorem inspect_uses : (inspect snapshot zone name fetched).Uses calls := by
  cases fetched with
  | ok instance_ => exact Body.invoke_uses permits.setting fun _ => choose_uses permits
  | error error =>
      refine Body.phrase_uses (permits.phrase _ _) fun _ => ?_
      exact Body.invoke_uses permits.setting fun _ => Body.conclude_uses (permits.record _)

theorem gateway_uses (snapshot : Snapshot) : (gateway snapshot).Uses calls := by
  refine Body.invoke_uses (permits.get _) fun resolved => ?_
  split
  · exact current_uses permits fun _ _ _ => inspect_uses permits
  · trivial

theorem farewell_uses : Step.farewell.Uses calls := by
  refine Body.invoke_uses permits.setting fun setting => ?_
  split
  · trivial
  · refine Body.invoke_uses (permits.ask _) fun answer => ?_
    split
    · exact Body.invoke_uses (permits.inform _) fun _ => trivial
    · trivial

theorem blueprint_uses (snapshot : Snapshot) : (blueprint snapshot).Uses calls := by
  refine Blueprint.place_uses (fun _ => find_uses permits snapshot) fun start => ?_
  refine Blueprint.place_uses (fun _ => gateway_uses permits snapshot) fun _ => ?_
  exact Blueprint.place_uses (fun _ => farewell_uses permits) fun _ => trivial

end VmRunningState

end Triage
