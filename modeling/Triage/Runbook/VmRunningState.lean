import Triage.Registry.Basic
import Triage.Snapshot
import Triage.Step.Builtin
import Triage.Parameter.Coercion

namespace Triage.VmRunningState

/-! The runbook that finds out why a virtual machine is not running. Its start
step finds the instance and publishes where it is; a gateway chooses checks by
the status of the instance. -/

def runningTemplate : String := "gce::vm_running"

def statusTemplate : String := "gce::vm_status"

def messages : Catalog :=
  [(runningTemplate,
    [(Block.stepName, "Verify that the VM is running"),
      (Block.successReason, "The instance \x7binstance_name\x7d is \x7bactual\x7d."),
      (Block.failureReason,
        "The instance \x7binstance_name\x7d is \x7bactual\x7d; " ++
          "it is expected to be \x7bexpected\x7d."),
      (Block.failureRemediation,
        "Start the instance with `gcloud compute instances start \x7binstance_name\x7d " ++
          "--zone \x7bzone\x7d --project \x7bproject_id\x7d` and retest.")]),
    (statusTemplate,
      [(Block.stepName, "Check the VM lifecycle state"),
        (Block.uncertainReason,
          "The instance \x7binstance_name\x7d is in the transitional state \x7bstatus\x7d."),
        (Block.uncertainRemediation,
          "Wait for the pending operation on the instance to finish, then retest."),
        (Block.skippedReason, "The instance could not be inspected: \x7berror\x7d")])]

/-! Parameters. -/

def specs : Specs :=
  [("project_id",
      { ParameterSpec.of .string "Project hosting the instance" with required := true }),
    ("zone",
      { ParameterSpec.of .string "Zone of the instance; required with instance_name" with
        ignorecase := true }),
    ("instance_name", .of .string "Name of the instance"),
    ("instance_id", .of .string "Numeric id of the instance"),
    ("name", (ParameterSpec.of .string "Name of the instance").deprecatedFor "instance_name")]

/-- A zone may be given as a path that ends in its name. -/
def adapt (given : Parameters) : Parameters :=
  match given.get? "zone" with
  | some (.string zone) => given.insert "zone" (.string (Text.afterLast '/' zone))
  | _ => given

/-! Finding the instance. -/

def getText (key : String) (next : Option String → Body) : Body :=
  .invoke (.get key) fun (value : Option Value) => next (value.bind Value.asText?)

def nameOf (instance_ : Value) : String :=
  (instance_.textField? "name").getD ""

def labelsOf (instance_ : Value) : Entries String :=
  match instance_.field? "labels" with
  | some (.object labels) =>
      labels.filterMap fun (key, value) => value.string?.map (key, ·)
  | _ => []

def putIf (key : String) (value : Option Value) (next : Body) : Body :=
  match value with
  | some value => .invoke (.put key value) fun () => next
  | none => next

/-- Publishes an instance that the run is about. -/
def publish (instance_ : Value) : Body :=
  let name := nameOf instance_
  putIf "instance_name" (if name == "" then none else some (.string name)) <|
    putIf "zone" ((Snapshot.zoneOf? instance_).map .string) <|
      putIf "instance_id" (instance_.field? "id") <|
        .invoke (.put "instance_resolved" (.bool true)) fun () => .done

def lookupHint : String :=
  "Check that the Compute Engine API is enabled and that you can read instances in the project."

/-- What follows from a look-up. An instance outside of the scope is not looked at
any further. -/
def settle (setting : Setting) : Except ApiError Value → Body
  | .ok instance_ =>
      let name := nameOf instance_
      let zone? := Snapshot.zoneOf? instance_
      if setting.context.admits zone? (labelsOf instance_) name then publish instance_
      else
        let subject := (Resource.ofObject? instance_).getD setting.project
        let zone := zone?.getD "an unknown zone"
        .conclude (.skipped subject
          s!"The instance {name} in {zone} is outside the requested locations or labels.")
  | .error error =>
      if error.isNotFound then
        .conclude (.skipped setting.project s!"The instance does not exist: {error.message}")
      else
        .conclude (.uncertain setting.project
          s!"The instance could not be looked up: {error.text}" lookupHint)

def find (snapshot : Snapshot) : Body :=
  .invoke .setting fun setting =>
    let project := setting.context.projectId
    getText "instance_name" fun name? =>
      getText "instance_id" fun id? =>
        match name?, id? with
        | some name, _ =>
            getText "zone" fun
              | some zone => settle setting (snapshot.instance? project zone name)
              | none =>
                  .conclude (.skipped setting.project
                    "instance_name was given without a zone; pass -p zone=<zone>.")
        | none, some id => settle setting (snapshot.instanceById? project id)
        | none, none =>
            .conclude (.skipped setting.project "Neither instance_name nor instance_id was given.")

def findStep (snapshot : Snapshot) : Step :=
  .steady
    { typePath := "gcpdiag::runbooks::gce::ResolveInstance"
      kind := .start
      label := some "Resolve the instance"
      template := none }
    (find snapshot)

/-! Choosing checks. -/

/-- The instance that was published, as it is now. -/
def current (snapshot : Snapshot) (next : String → String → Except ApiError Value → Body) : Body :=
  getText "zone" fun zone? =>
    getText "instance_name" fun name? =>
      .invoke .setting fun setting =>
        let zone := zone?.getD ""
        let name := name?.getD ""
        next zone name (snapshot.instance? setting.context.projectId zone name)

def runningCheck (snapshot : Snapshot) : Step :=
  AttributeCheck.step
    { query := fun next => current snapshot fun _ _ fetched => next fetched
      path := "status"
      expected := .string "RUNNING"
      label := none
      template := some runningTemplate }

def startTask (zone name : String) (subject : Resource) : Step :=
  HumanTask.step
    { label := "Start the VM"
      instructions := s!"Start {name} in {zone}, wait until it reports RUNNING, then continue."
      resource := some subject }

def isStopped (status : String) : Bool :=
  status == "TERMINATED" || status == "STOPPED" || status == "SUSPENDED"

/-- The checks that fit a status. -/
def choose (snapshot : Snapshot) (zone name : String) (subject : Resource) (status : String) :
    Body :=
  if status == "RUNNING" then .enqueue (runningCheck snapshot) .done
  else if isStopped status then
    .enqueue (runningCheck snapshot) (.enqueue (startTask zone name subject) .done)
  else
    let arguments := [("status", status)]
    .phrase Block.uncertainReason arguments
      s!"The instance is in the transitional state {status}." fun reason =>
      .phrase Block.uncertainRemediation arguments
        "Wait for the pending operation to finish, then retest." fun remediation =>
        .conclude (.uncertain subject reason remediation)

def inspect (snapshot : Snapshot) (zone name : String) : Except ApiError Value → Body
  | .error error =>
      .phrase Block.skippedReason [("error", error.text)]
        s!"The instance could not be inspected: {error.text}" fun reason =>
        .invoke .setting fun setting => .conclude (.skipped setting.project reason)
  | .ok instance_ =>
      .invoke .setting fun setting =>
        choose snapshot zone name ((Resource.ofObject? instance_).getD setting.project)
          ((instance_.textField? "status").getD "UNKNOWN")

/-- Without an instance there is nothing to check. -/
def gateway (snapshot : Snapshot) : Body :=
  .invoke (.get "instance_resolved") fun (resolved : Option Value) =>
    if resolved.bind Value.asFlag? == some true then current snapshot (inspect snapshot)
    else .done

def gatewayStep (snapshot : Snapshot) : Step :=
  .steady
    { typePath := "gcpdiag::runbooks::gce::VmStatusGateway"
      kind := .gateway
      label := none
      template := some statusTemplate }
    (gateway snapshot)

/-! The tree. -/

def blueprint (snapshot : Snapshot) : Blueprint :=
  .place (.start (findStep snapshot)) fun start =>
    .place (.step start (gatewayStep snapshot)) fun _ =>
      .place (.end Step.endMark) fun _ => .done

def description : String :=
  "Diagnoses why a Compute Engine VM is not running.\n\n" ++
    "Resolves the instance from its name or id, reads its lifecycle state, " ++
    "and checks that it is RUNNING. A stopped instance gets a manual start task."

def tree (snapshot : Snapshot) : Tree where
  description := description
  keywords := ["gce", "vm", "instance", "status"]
  specs := specs
  adapt given := .ok (adapt given)
  blueprint := blueprint snapshot

end Triage.VmRunningState
