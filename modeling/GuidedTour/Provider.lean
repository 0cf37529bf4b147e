import GuidedTour.Completion.Flags
import GuidedTour.Definition.Building
import GuidedTour.Step

/-!
# Where walkthroughs come from

A provider has the steps of a walkthrough and the identity under which its completion is remembered.

* `shortName` - the identity of a provider that was given none: the name of its type.
-/

namespace GuidedTour

/-- The steps of a walkthrough, and who it is. -/
structure Provider where
  identity : String
  steps    : List Step
  deriving Inhabited

/-- A qualified name without its qualifiers and without what stands in angle brackets. -/
def shortName (qualified : String) : String :=
  let name := qualified.toList.takeWhile (· ≠ '<')
  String.ofList (name.reverse.takeWhile (· ≠ ':')).reverse

namespace Provider

/-- The name of the flag that remembers the walkthrough's completion. -/
def completionKey (p : Provider) : String := GuidedTour.completionKey p.identity

/-- A defined walkthrough. -/
def ofDefined (w : DefinedWalkthrough) : Provider := ⟨w.definition.id, w.steps⟩

end Provider

end GuidedTour
