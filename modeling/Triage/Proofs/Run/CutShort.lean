import Triage.Proofs.Run.DepthFirst
import Triage.Proofs.Run.Story

namespace Triage

open Surroundings Walk

/-! ## Runs that file nothing -/

namespace Effect

end Effect

namespace Surroundings

variable {ρ : Type} [Renderer ρ] {before middle after : Surroundings ρ} {effect : Effect}

/-- Nothing was filed, and no summary was shown. -/
structure Withheld (before after : Surroundings ρ) : Prop where
  disk : after.disk = before.disk
  fallback : after.fallback = before.fallback
  shows : ∃ shown, Renderer.Shows before.renderer shown after.renderer ∧
    ∀ event ∈ shown, event.isSummary = false

namespace Withheld

theorem refl : before.Withheld before :=
  ⟨rfl, rfl, [], .refl _, by simp⟩

theorem trans (first : before.Withheld middle) (second : middle.Withheld after) :
    before.Withheld after := by
  rcases first.shows with ⟨shown, shows, none⟩
  rcases second.shows with ⟨more, showsMore, noneMore⟩
  refine ⟨second.disk.trans first.disk, second.fallback.trans first.fallback, _,
    shows.trans showsMore, fun event member => ?_⟩
  exact (List.mem_append.mp member).elim (none event) (noneMore event)

end Withheld

end Surroundings

namespace Engine

variable {ρ : Type} [Renderer ρ] {engine : Engine} {setting : Setting} {graph : Graph Step}
  {name : String} {blueprint : Blueprint} {notes : List Json.Node}
  {surroundings after : Surroundings ρ} {error : RunError}

/-! ## Runs that an execution ends -/

end Engine

end Triage
