import Triage.Proofs.Batch.Phase
import Triage.Proofs.Run.Engine
import Triage.Proofs.Run.Order
import Triage.Run.Batch

namespace Triage

/-! ## Runs keep to their own reports -/

namespace Job

variable {α β : Type} {directory : Option String} {phase : Phase}

end Job

namespace Engine

variable {engine : Engine} {setting : Setting} {graph : Graph Step} {directory : Option String}
  {phase : Phase}

/-! Filing a report. -/

end Engine

end Triage
