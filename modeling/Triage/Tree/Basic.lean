import Triage.Tree.Blueprint

namespace Triage

/-! A diagnostic tree: what it is for, which parameters it takes, and how it is
built. -/

structure Tree where
  description : String
  keywords : List String
  specs : Specs
  /-- Rewrites parameters of the past before they are checked; may crash. -/
  adapt : Parameters → Except Crash Parameters
  blueprint : Blueprint

/-- The first line of the description. -/
def Tree.summary (tree : Tree) : String :=
  Text.trim ((Text.lines tree.description).headD "")

end Triage
