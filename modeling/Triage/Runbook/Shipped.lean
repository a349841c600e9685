import Triage.Runbook.VmRunningState

namespace Triage.Shipped

/-! The runbooks that come with the program, and what they say. -/

def registry (snapshot : Snapshot) : Except RunError Registry :=
  Registry.register [] "gce/vm-running-state" (VmRunningState.tree snapshot)

def messages : Catalog :=
  VmRunningState.messages

end Triage.Shipped
