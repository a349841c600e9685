import Triage.Prompt
import Triage.Resource
import Triage.Status

namespace Triage

/-! An outcome on its way to the report. -/

structure Outcome where
  status : Status
  resource : Option Resource
  reason : String
  remediation : Option String
  /-- What a person is asked when the check failed or could not decide. -/
  taskMessage : Option String
  /-- Whether a person may be asked at all. -/
  prompts : Bool
deriving DecidableEq, Repr

namespace Outcome

def of (status : Status) (resource : Option Resource) (reason : String) : Outcome where
  status := status
  resource := resource
  reason := reason
  remediation := none
  taskMessage := none
  prompts := true

def withRemediation (outcome : Outcome) (remediation : String) : Outcome :=
  { outcome with remediation := some remediation }

def withTask (outcome : Outcome) (message : String) : Outcome :=
  { outcome with taskMessage := some message }

def withoutPrompt (outcome : Outcome) : Outcome :=
  { outcome with prompts := false }

def ok (resource : Resource) (reason : String) : Outcome :=
  .of .ok (some resource) reason

def failed (resource : Resource) (reason remediation : String) : Outcome :=
  (Outcome.of .failed (some resource) reason).withRemediation remediation

def uncertain (resource : Resource) (reason remediation : String) : Outcome :=
  (Outcome.of .uncertain (some resource) reason).withRemediation remediation

def skipped (resource : Resource) (reason : String) : Outcome :=
  .of .skipped (some resource) reason

end Outcome

end Triage
