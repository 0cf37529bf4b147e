import GuidedTour.Host.Basic
import GuidedTour.Showcase.Bubbles
import GuidedTour.Showcase.Tour

/-!
# The showcase

The sample screen with a walkthrough and floating bubbles attached. The walkthrough takes input first;
what it leaves goes to the screen. What callbacks report becomes the screen's status.

* `App.launch` - the showcase with a walkthrough.
* `App.handle`, `App.tick`, `App.draw` - input, time and drawing.
-/

namespace GuidedTour.Showcase

open GuidedTour.Screen Completion Storage

/-- How the showcase runs its walkthrough. -/
structure AppOptions where
  settings : Settings := {}
  style    : BubbleStyle := {}
  /-- Whether to start a walkthrough that was completed before. -/
  force    : Bool := false
  /-- Whether to play the bubble showcase at once. -/
  bubbles  : Bool := false
  deriving Inhabited

/-- The showcase. -/
structure App where
  screen   : SampleScreen
  host     : Host
  tour     : Provider
  settings : Settings
  style    : BubbleStyle
  playing  : Option BubbleShow := none
  quit     : Bool := false

namespace App

/-- The status line. -/
def status (a : App) : String := a.screen.status

/-- Changes the status line. -/
def setStatus (a : App) (s : String) : App := { a with screen := { a.screen with status := s } }

/-- Takes in notices: what a callback reports becomes the status; warnings are handed on. -/
def hear (a : App) (notices : List Notice) : App × List Warning :=
  ((notices.filterMap Notice.text?).foldl setStatus a, notices.filterMap Notice.warning?)

/-- What the screen says when a walkthrough was completed. -/
def completedStatus : String := "Walkthrough completed. Press w to see it again."

/-- What the screen says when a walkthrough was not started again. -/
def alreadyStatus : String := "Walkthrough already completed. Press w to see it again, r to reset."

/-- Starts the walkthrough unless it runs or was completed before. -/
def start (a : App) (force : Bool) (now : Nanos) : App × Bool × List Warning :=
  let request : StartRequest :=
    { settings := a.settings
      style := a.style
      delegate := some ⟨[.callback completedStatus]⟩
      force := force }
  let (host, run, notices) := a.host.startWith a.tour request now
  let (a, warnings) := hear { a with host := host } notices
  let a := if run.isNone && !a.host.isActive then a.setStatus alreadyStatus else a
  (a, run.isSome, warnings)

/-- Plays the bubble showcase from its beginning. -/
def startShow (a : App) (now : Nanos) : App := { a with playing := some { started := now } }

/-- The showcase with a walkthrough, over a store of completion flags. -/
def launch (tour : Provider) (store : Store) (disk : Disk) (options : AppOptions) (now : Nanos) :
    App × List Warning :=
  let a : App :=
    { screen := { title := "Lumen" }
      host := { store := store, disk := disk, provider := some tour }
      tour := tour
      settings := options.settings
      style := options.style }
  let (a, _, warnings) := a.start options.force now
  (if options.bubbles then a.startShow now else a, warnings)

/-- Does what the screen asks for. -/
def obey (a : App) (action : ScreenAction) (now : Nanos) : App × List Warning :=
  match action with
  | .none => (a, [])
  | .quit => ({ a with quit := true }, [])
  | .restart =>
    let (a, _, warnings) := a.start true now
    (a, warnings)
  | .showBubbles => (a.startShow now, [])
  | .forgetCompletion =>
    let (store, disk, warnings) := a.host.store.markCompleted a.host.disk a.tour.identity false
    ({ a with host := { a.host with store := store, disk := disk } }.setStatus "Completion flag cleared.", warnings)

/-- Offers an event to the screen. -/
def handleOnScreen (a : App) (e : Event) (now : Nanos) : App × List Warning :=
  match e with
  | .key e =>
    if e.kind = .press then
      let (screen, action) := a.screen.onKey e.key
      { a with screen := screen }.obey action now
    else (a, [])
  | .mouse e => ({ a with screen := a.screen.onMouse e }, [])
  | .other => (a, [])

/-- Offers an event to the walkthrough, and then to the screen. -/
def handle (a : App) (e : Event) (now : Nanos) : App × List Warning :=
  let (host, taken, notices) := a.host.handle e now
  let (a, warnings) := hear { a with host := host } notices
  if taken then (a, warnings) else
    let (a, more) := a.handleOnScreen e now
    (a, warnings ++ more)

/-- Lets time pass. -/
def tick (a : App) (now : Nanos) : App × List Warning :=
  let a := match a.playing with
    | none => a
    | some s =>
      let (s, host) := s.tick a.host now
      { a with playing := if s.isFinished then none else some s, host := host }
  let (host, notices) := a.host.tick now
  hear { a with host := host } notices

/-- Draws the screen and what the host shows above it. -/
def draw (a : App) (area : Rect) (b : Buffer) (now : Nanos) : App × Buffer × List Warning :=
  let (screen, b, anchors) := a.screen.draw area b a.host.anchors
  let (host, b, notices) := { a.host with anchors := anchors }.draw area b now
  let (a, warnings) := hear { a with screen := screen, host := host } notices
  (a, b, warnings)

end App

end GuidedTour.Showcase
