import Triage.Proofs.Run.Lookup
import Triage.Proofs.Text.Placeholder

namespace Triage

open Placeholder

variable {κ : Type} {template block text : String}

/-! ## Phrasing a message

A name stands for an argument, or else for a parameter as it is at the time. -/

/-- The text of the first argument with a name. -/
def argument? (arguments : List (String × String)) (name : String) : Option String :=
  (arguments.find? (·.1 == name)).map (·.2)

theorem lookup_eq_argument? (arguments : List (String × String)) (name : String) :
    arguments.lookup name = argument? arguments name := by
  induction arguments with
  | nil => rfl
  | cons first rest induction =>
      rw [lookup_cons, induction, argument?, argument?, List.find?_cons]
      by_cases same : name = first.1
      · simp [same]
      · simp [same, beq_false_of_ne (Ne.symm same)]

/-- The text of a parameter after calls of the steps. -/
def Setting.liveText? (setting : Setting) (calls : List Call) (name : String) : Option String :=
  (setting.context.parameters.lookedUp calls (Text.lower name)
    (setting.specs.written? (Text.lower name))).bind Value.asText?

namespace Operator

/-- What a message is after other calls. -/
def rendered (profileOf : κ → Profile) (operator : Operator κ) (calls : List Call)
    (template block : String) (arguments : List (String × String)) :
    Job (Except RunError String) := do
  let operator ← operator.serve profileOf calls
  let (_, reply) ← operator.call profileOf (.render template block arguments)
  return reply

theorem render_eq (operator : Operator κ) (arguments : List (String × String))
    (found : operator.setting.catalog.block? template block = some text) :
    operator.render template block arguments =
      .ok (Text.fillPlaceholders (fun name =>
        (argument? arguments name).or ((operator.get? name).bind Value.asText?)) text) := by
  rw [render, Catalog.render, found]
  refine congrArg Except.ok (congrArg (Text.fillPlaceholders · text) (funext fun name => ?_))
  rw [lookup_eq_argument?]
  cases argument? arguments name <;> rfl

theorem rendered_opened (profileOf : κ → Profile) {setting : Setting} (calls : List Call)
    (arguments : List (String × String))
    (found : setting.catalog.block? template block = some text) :
    ((opened setting).rendered profileOf calls template block arguments).Meets (fun _ => True)
      (· = .ok (Text.fillPlaceholders (fun name =>
        (argument? arguments name).or (setting.liveText? calls name)) text)) := by
  refine (serve_writes profileOf calls (opened setting)).bind fun operator served => ?_
  have here : operator.setting.catalog.block? template block = some text := by
    rw [served.1]
    exact found
  refine Job.meets_pure ((operator.render_eq arguments here).trans ?_)
  refine congrArg Except.ok (congrArg (Text.fillPlaceholders · text) (funext fun name => ?_))
  rw [get?_eq, served.1, Specs.valueFor?, served.2]
  rfl

end Operator

/-- Filling placeholders is one local pass: without values nothing changes, and with any values a
template of text and placeholders keeps its text, and each placeholder gives way to its value or
stays as it is written. In a step the value is the first argument of that name, or else the text
that the parameter has at the time. -/
theorem fillPlaceholders_local (profileOf : κ → Profile) :
    (∀ template, Text.fillPlaceholders (fun _ => none) template = template) ∧
      ∀ parts : List Part, (∀ part ∈ parts, part.Formed) →
        (∀ lookup, Text.fillPlaceholders lookup (String.join (parts.map Part.written)) =
          String.join (parts.map (Part.filled lookup))) ∧
        ∀ (setting : Setting) (calls : List Call) (template block : String)
          (arguments : List (String × String)),
          setting.catalog.block? template block = some (String.join (parts.map Part.written)) →
          ((Operator.opened setting).rendered profileOf calls template block arguments).Meets
            (fun _ => True) (· = .ok (String.join (parts.map (Part.filled fun name =>
              (argument? arguments name).or (setting.liveText? calls name))))) := by
  refine ⟨Text.fillPlaceholders_none, fun parts formed => ⟨fun lookup => ?_, ?_⟩⟩
  · exact Text.fillPlaceholders_join lookup formed
  · intro setting calls template block arguments found
    rw [← Text.fillPlaceholders_join _ formed]
    exact Operator.rendered_opened profileOf calls arguments found

namespace Sample

/-- A message with two placeholders, one of them with white space, and a stray brace. -/
def notice : List Part :=
  [.literal "VM ", .slot "" "name" "", .literal " in ", .slot " " "Zone" "\t", .literal "\x7d",
    .slot "" "other" ""]

/-- The contract of `lodging`, with this message. -/
def noticing : Setting :=
  { lodging with catalog := [("vm", [("notice", String.join (notice.map Part.written))])] }

end Sample

open Sample

/-- A value that looks like a placeholder is not filled, the second argument of a name does not
count, and a name without a value stays. -/
theorem fillPlaceholders_local_notice :
    (∀ part ∈ notice, part.Formed) ∧
      noticing.catalog.block? "vm" "notice" = some (String.join (notice.map Part.written)) ∧
      ((Operator.opened noticing : Operator Profile).rendered id [.put "ZONE" (.integer 4)] "vm"
          "notice" [("name", "\x7bZone\x7d"), ("name", "web")]).Meets (fun _ => True)
        (· = .ok "VM \x7bZone\x7d in 4\x7d\x7bother\x7d") := by
  have formed : ∀ part ∈ notice, part.Formed := by
    decide
  have found : noticing.catalog.block? "vm" "notice" =
    some (String.join (notice.map Part.written)) := rfl
  refine ⟨formed, found, ?_⟩
  have renders := ((fillPlaceholders_local (id : Profile → Profile)).2 notice formed).2 noticing
    [.put "ZONE" (.integer 4)] "vm" "notice" [("name", "\x7bZone\x7d"), ("name", "web")] found
  exact renders.imp fun reply same => same.trans (congrArg Except.ok (by decide))

end Triage
