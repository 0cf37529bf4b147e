import GuidedTour.Geometry
import GuidedTour.Screen.Style
import GuidedTour.Text.Grapheme
import GuidedTour.Text.Width

/-!
# The cells of a screen

A buffer holds the cells of a rectangle, row by row. Every write is a change of single cells; writes
outside the rectangle change nothing.

* `Buffer.mapRect` - changes the cells of a rectangle, each from its position.
* `Buffer.write` - writes a text into one row.
* `Buffer.rows`, `Buffer.runs` - the symbols of each row, and the runs of equal style.
-/

namespace GuidedTour.Screen

/-- A cell: what it shows, its colors and its attributes. -/
structure Cell where
  symbol : String := " "
  fg     : Color := .reset
  bg     : Color := .reset
  attrs  : Attributes := .none
  deriving DecidableEq, Inhabited

/-- The cell under a change of style. -/
def Cell.withStyle (c : Cell) (s : Style) : Cell :=
  { c with fg := s.fg.getD c.fg, bg := s.bg.getD c.bg, attrs := c.attrs.union s.attrs }

/-- The cells of a rectangle, row by row. -/
structure Buffer where
  area  : Rect
  cells : Array Cell
  deriving Inhabited

namespace Buffer

/-- A buffer of blank cells. -/
def blank (area : Rect) : Buffer := ⟨area, Array.replicate (area.width.toNat * area.height.toNat) {}⟩

/-- The index of the cell at a column and a row of the screen. -/
def index? (b : Buffer) (x y : Nat) : Option Nat :=
  if b.area.left ≤ x ∧ x < b.area.left + b.area.width.toNat ∧
     b.area.top ≤ y ∧ y < b.area.top + b.area.height.toNat then
    some ((y - b.area.top) * b.area.width.toNat + (x - b.area.left))
  else none

/-- The cell at a column and a row of the screen. -/
def cell? (b : Buffer) (x y : Nat) : Option Cell := do b.cells[← b.index? x y]?

/-- Changes the cell at a column and a row of the screen. -/
def update (b : Buffer) (x y : Nat) (f : Cell → Cell) : Buffer :=
  match b.index? x y with
  | none => b
  | some i => { b with cells := b.cells.modify i f }

/-- Changes `n` cells of a row from column `x` on. -/
def mapRow (f : Nat → Cell → Cell) (y : Nat) : (n x : Nat) → Buffer → Buffer
  | 0, _, b => b
  | n + 1, x, b => mapRow f y n (x + 1) (b.update x y (f x))

/-- Changes `n` rows of `width` cells from row `y` on. -/
def mapRows (f : Nat → Nat → Cell → Cell) (x width : Nat) : (n y : Nat) → Buffer → Buffer
  | 0, _, b => b
  | n + 1, y, b => mapRows f x width n (y + 1) (mapRow (fun x => f x y) y width x b)

/-- Changes the cells of a rectangle, each from its column and row. -/
def mapRect (b : Buffer) (r : Rect) (f : Nat → Nat → Cell → Cell) : Buffer :=
  let r := b.area.intersection r
  mapRows f r.left r.width.toNat r.height.toNat r.top b

/-- Lays a style over the cells of a rectangle. -/
def setStyle (b : Buffer) (r : Rect) (s : Style) : Buffer :=
  b.mapRect r fun _ _ c => c.withStyle s

/-- Writes graphemes into row `y` from column `x` on while they fit before column `stop`. The cells
behind the first of a wide grapheme are blanked. -/
def writeFrom (y stop : Nat) (s : Style) : List String → Nat → Buffer → Buffer × Nat
  | [], x, b => (b, x)
  | g :: rest, x, b =>
    let w := Text.width g
    if w = 0 then writeFrom y stop s rest x b
    else if stop < x + w then (b, x)
    else
      let b := b.update x y fun c => { c with symbol := g }.withStyle s
      let b := mapRow (fun _ _ => {}) y (w - 1) (x + 1) b
      writeFrom y stop s rest (x + w) b

/-- Writes a text into row `y` from column `x` on, at most `limit` columns and not beyond the buffer;
answers the column behind it. -/
def writeUpTo (b : Buffer) (x y : Nat) (limit : Nat) (text : String) (s : Style) : Buffer × Nat :=
  let room := min (b.area.right - x) limit
  writeFrom y (x + room) s (Text.visibleGraphemes text) x b

/-- Writes a text into row `y` from column `x` on, as far as the buffer goes. -/
def write (b : Buffer) (x y : Nat) (text : String) (s : Style) : Buffer :=
  (b.writeUpTo x y 65535 text s).1

/-- The symbols of each row, joined. -/
def rows (b : Buffer) : List String :=
  let w := b.area.width.toNat
  if w = 0 then [] else
    (List.range b.area.height.toNat).map fun y =>
      String.join ((b.cells.extract (y * w) (y * w + w)).toList.map (·.symbol))

/-- The look of a cell without its symbol. -/
structure Look where
  fg    : Color
  bg    : Color
  attrs : Attributes
  deriving DecidableEq

/-- The look of a cell. -/
def lookOf (c : Cell) : Look := ⟨c.fg, c.bg, c.attrs⟩

/-- The runs of equal look over all cells in row-major order. -/
def runs (b : Buffer) : List (Nat × Look) :=
  let step := fun (acc : List (Nat × Look)) (c : Cell) =>
    match acc with
    | (n, l) :: rest => if l = lookOf c then (n + 1, l) :: rest else (1, lookOf c) :: acc
    | [] => [(1, lookOf c)]
  (b.cells.foldl step []).reverse

end Buffer

end GuidedTour.Screen
