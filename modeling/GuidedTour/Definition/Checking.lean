import GuidedTour.Definition.Basic
import GuidedTour.Definition.Error
import GuidedTour.Text.Blank

/-!
# Structural checks of a definition

What the schema alone cannot say: no step is empty, a bubble on its own is placed in exactly one way, a
view has a name, and a veil's strength is a number from zero to one.

* `Definition.check` - the first violation, steps first and in order, then the veil.
-/

namespace GuidedTour

/-- Whether a body shows nothing: plain text that is blank, or spans without any text. -/
def ContentSpec.isEmpty : ContentSpec → Bool
  | .text s => Text.isAllBlank s
  | .rich spans => spans.all fun s => s.text.isEmpty

/-- Checks the step at a place. -/
def StepSpec.check (index : Nat) (step : StepSpec) : Except DefinitionError Unit :=
  if step.content.isEmpty then .error (.emptyContent index) else
    match step with
    | .standalone s =>
      match s.centerOffset, s.layout with
      | none, [] => .error (.missingPlacement index)
      | some _, _ :: _ => .error (.ambiguousPlacement index)
      | _, _ => .ok ()
    | .highlighted s =>
      match s.anchor with
      | .view id => if Text.isAllBlank id then .error (.emptyAnchor index) else .ok ()
      | .rect _ => .ok ()

/-- Checks steps that start at a place. -/
def checkSteps : (index : Nat) → List StepSpec → Except DefinitionError Unit
  | _, [] => .ok ()
  | index, step :: rest => do
    step.check index
    checkSteps (index + 1) rest

/-- Checks the strength of a veil. -/
def DimSpec.check (d : DimSpec) : Except DefinitionError Unit :=
  match d.alpha with
  | none => .ok ()
  | some a => if 0 ≤ a ∧ a ≤ 1 then .ok () else .error (.invalidAlpha a)

/-- Checks a presentation mode. -/
def PresentationSpec.check : PresentationSpec → Except DefinitionError Unit
  | .dimAndHighlight d | .dim d => d.check
  | .none => .ok ()

/-- Checks a definition. A definition without steps is fine. -/
def Definition.check (d : Definition) : Except DefinitionError Unit := do
  checkSteps 0 d.steps
  match d.settings.presentationMode with
  | some mode => mode.check
  | none => .ok ()

end GuidedTour
