import GuidedTour.Geometry

/-!
# Input events

Keys and mouse actions as a terminal reports them.
-/

namespace GuidedTour

/-- A key. -/
inductive Key where
  | char (c : Char)
  | enter
  | esc
  | left
  | right
  | up
  | down
  | tab
  | backspace
  deriving DecidableEq, Inhabited

/-- The names of the keys that are no characters. -/
def Key.names : List (String × Key) :=
  [("enter", .enter), ("esc", .esc), ("left", .left), ("right", .right), ("up", .up), ("down", .down),
   ("tab", .tab), ("backspace", .backspace)]

/-- Whether a key went down, is held, or went up. -/
inductive KeyKind where
  | press
  | hold
  | release
  deriving DecidableEq, Inhabited

/-- A key event. -/
structure KeyEvent where
  key     : Key
  kind    : KeyKind := .press
  control : Bool := false
  deriving DecidableEq, Inhabited

/-- A mouse button. -/
inductive MouseButton where
  | left
  | right
  | middle
  deriving DecidableEq, Inhabited

/-- What the mouse did. -/
inductive MouseKind where
  | down (button : MouseButton)
  | up (button : MouseButton)
  | drag (button : MouseButton)
  | moved
  | scrollUp
  | scrollDown
  deriving DecidableEq, Inhabited

/-- A mouse event at a position of the screen. -/
structure MouseEvent where
  kind     : MouseKind
  position : Position
  control : Bool := false
  deriving DecidableEq, Inhabited

/-- An input event; `other` is none of a key or a mouse action. -/
inductive Event where
  | key (e : KeyEvent)
  | mouse (e : MouseEvent)
  | other
  deriving DecidableEq, Inhabited

end GuidedTour
