/-!
# Warnings

What a walkthrough reports to the log when something failed that it can do without.
-/

namespace GuidedTour

/-- A failure that a walkthrough can do without. -/
inductive Warning where
  | unreadableFlag
  | unwritableFlag
  | corruptFlags
  | unplacedStep
  | unplacedBubble
  | busyRun
  deriving DecidableEq

/-- The wording of a warning. -/
def Warning.message : Warning → String
  | .unreadableFlag => "could not read walkthrough completion flag"
  | .unwritableFlag => "could not store walkthrough completion flag"
  | .corruptFlags => "Failed to parse walkthrough completion file; treating every walkthrough as not shown"
  | .unplacedStep => "could not place walkthrough bubble"
  | .unplacedBubble => "could not place floating bubble"
  | .busyRun => "walkthrough is busy; ignoring re-entrant call"

end GuidedTour
