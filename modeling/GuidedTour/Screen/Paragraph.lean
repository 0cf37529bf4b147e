import GuidedTour.Screen.Buffer
import GuidedTour.Text.Blank

/-!
# Wrapped paragraphs

Lines of styled spans are broken between words so that no row is wider than a limit; blanks at a break
are dropped, and a word that is wider than a row is broken where the row ends.

* `Paragraph.wrap` - the rows of a paragraph at a width.
* `Paragraph.draw` - draws the rows into a rectangle.
* `Paragraph.drawUnwrapped` - draws lines as they are, cut at the rectangle's end.
-/

namespace GuidedTour.Screen

/-- A run of text in one style. -/
structure Span where
  text  : String
  style : Style := {}
  deriving DecidableEq, Inhabited

/-- A line of spans. -/
abbrev Line := List Span

/-- The columns of a line. -/
def Line.width (l : Line) : Nat := totalOf (l.map fun s => Text.width s.text)

/-- A grapheme in its style. -/
structure Glyph where
  symbol : String
  style  : Style
  deriving DecidableEq, Inhabited

namespace Glyph

/-- The columns of a glyph. -/
def width (g : Glyph) : Nat := Text.width g.symbol

/-- Whether a row may be broken at the glyph: a blank other than a no-break space, or a zero-width
space. -/
def isBreak (g : Glyph) : Bool :=
  g.symbol == "\u200b" || (g.symbol.toList.all Text.isBlank && g.symbol != "\u00a0")

end Glyph

/-- The glyphs of a line, its spans' styles laid over `base`. -/
def Line.glyphs (l : Line) (base : Style) : List Glyph :=
  l.flatMap fun s => (Text.visibleGraphemes s.text).map fun g => ⟨g, base.patch s.style⟩

/-- A text as a list of unstyled lines. -/
def linesOf (s : String) : List Line := (Text.lines s).map fun l => [⟨l, {}⟩]

namespace Paragraph

/-- Glyphs with the sum of their widths, last glyph first. -/
structure Piece where
  glyphs : List Glyph := []
  width  : Nat := 0

namespace Piece

/-- Adds a glyph at the end. -/
def push (p : Piece) (g : Glyph) : Piece := ⟨g :: p.glyphs, p.width + g.width⟩

/-- Adds a piece at the end. -/
def append (p q : Piece) : Piece := ⟨q.glyphs ++ p.glyphs, p.width + q.width⟩

/-- No glyph. -/
def isEmpty (p : Piece) : Bool := p.glyphs.isEmpty

end Piece

/-- Drops glyphs from the head while they fit into `room` columns. -/
def dropFitting : Nat → List Glyph → List Glyph
  | _, [] => []
  | room, g :: rest => if room < g.width then g :: rest else dropFitting (room - g.width) rest

/-- A row in progress: the finished part, the blanks behind it, the word behind these; and the rows that
are full, last one first. -/
structure Progress where
  done      : List (List Glyph) := []
  row       : Piece := {}
  blanks    : Piece := {}
  word      : Piece := {}
  afterWord : Bool := false

/-- Moves the finished word, and the blanks before it unless the row is empty, into the row. -/
def Progress.settle (p : Progress) : Progress :=
  let row := if p.row.isEmpty then p.row else p.row.append p.blanks
  { p with row := row.append p.word, blanks := {}, word := {} }

/-- Ends the row; blanks that still fit into it vanish. -/
def Progress.breakRow (p : Progress) (limit : Nat) : Progress :=
  let left := dropFitting (limit - p.row.width) p.blanks.glyphs.reverse
  { p with
    done := p.row.glyphs.reverse :: p.done
    row := {}
    blanks := ⟨left.reverse, totalOf (left.map Glyph.width)⟩ }

/-- Adds a glyph to the blanks or to the word. -/
def Progress.push (p : Progress) (g : Glyph) : Progress :=
  if g.isBreak then { p with blanks := p.blanks.push g, afterWord := false }
  else { p with word := p.word.push g, afterWord := true }

/-- Takes in one glyph; a glyph that is wider than a row is skipped. -/
def Progress.step (limit : Nat) (p : Progress) (g : Glyph) : Progress :=
  let w := g.width
  if limit < w then p else
    let wordEnds := p.afterWord && g.isBreak
    let overflows := p.row.isEmpty && (limit < p.word.width + w || limit < p.blanks.width + w)
    let p := if wordEnds || overflows then p.settle else p
    let full := limit ≤ p.row.width
    let tight := 0 < w && limit ≤ p.row.width + p.blanks.width + p.word.width
    if full || tight then
      let p := p.breakRow limit
      if g.isBreak && p.blanks.isEmpty then p else p.push g
    else p.push g

/-- Ends a line: the rows it was broken into, at least one. -/
def Progress.finish (p : Progress) : List (List Glyph) :=
  let blankOnly := p.row.isEmpty && p.word.isEmpty && !p.blanks.isEmpty
  let done := if blankOnly then [] :: p.done else p.done
  let row := (if p.row.isEmpty then p.row else p.row.append p.blanks).append p.word
  let done := if row.isEmpty then done else row.glyphs.reverse :: done
  if done.isEmpty then [[]] else done.reverse

/-- The rows of one line. -/
def wrapLine (limit : Nat) (glyphs : List Glyph) : List (List Glyph) :=
  (glyphs.foldl (Progress.step limit) {}).finish

/-- The rows of a paragraph; none if there is no column. -/
def wrap (limit : Nat) (lines : List Line) : List (List Glyph) :=
  if limit = 0 then [] else lines.flatMap fun l => wrapLine limit (l.glyphs {})

/-- The columns of the widest line, unbroken. -/
def naturalWidth (lines : List Line) : Nat := (lines.map Line.width).foldl max 0

/-- Draws the glyphs of a row from column `x` on; glyphs without a column are skipped. A glyph that begins
beyond the buffer is dropped without a word, while ratatui's indexing of the buffer panics there. -/
def drawRow (y : Nat) : List Glyph → Nat → Buffer → Buffer
  | [], _, b => b
  | g :: rest, x, b =>
    let w := g.width
    if w = 0 then drawRow y rest x b
    else drawRow y rest (x + w) (b.update x y fun c => { c with symbol := g.symbol }.withStyle g.style)

/-- Draws rows one below the other while there is height left. -/
def drawRows (x : Nat) : (height : Nat) → (y : Nat) → List (List Glyph) → Buffer → Buffer
  | 0, _, _, b => b
  | _, _, [], b => b
  | h + 1, y, row :: rest, b => drawRows x h (y + 1) rest (drawRow y row x b)

/-- Draws a paragraph into a rectangle, over a style for all of its cells. -/
def draw (b : Buffer) (area : Rect) (base : Style) (lines : List Line) : Buffer :=
  let area := area.intersection b.area
  if area.isEmpty then b else
    let b := b.setStyle area base
    drawRows area.left area.height.toNat area.top (wrap area.width.toNat lines) b

/-- Where unbroken lines stand in a rectangle. -/
inductive Alignment where
  | left
  | center
  deriving DecidableEq

/-- How many columns of a width stay free before a line. -/
def Alignment.indent (width lineWidth : Nat) : Alignment → Nat
  | .left => 0
  | .center => width / 2 - lineWidth / 2

/-- The glyphs of a line that fit into `room` columns; a glyph that is wider than the whole width is
passed over. -/
def cut (width : Nat) : (room : Nat) → List Glyph → List Glyph
  | _, [] => []
  | room, g :: rest =>
    if width < g.width then cut width room rest
    else if room < g.width then []
    else g :: cut width (room - g.width) rest

/-- Draws lines one below the other, cut where the rectangle ends. -/
def drawCut (align : Alignment) (x width : Nat) : (height : Nat) → (y : Nat) → List Line → Buffer → Buffer
  | 0, _, _, b => b
  | _, _, [], b => b
  | h + 1, y, line :: rest, b =>
    let glyphs := cut width width (line.glyphs {})
    let indent := align.indent width (totalOf (glyphs.map Glyph.width))
    drawCut align x width h (y + 1) rest (drawRow y glyphs (x + indent) b)

/-- Draws unbroken lines into a rectangle, over a style for all of its cells. -/
def drawUnwrapped (b : Buffer) (area : Rect) (base : Style) (align : Alignment) (lines : List Line) : Buffer :=
  let area := area.intersection b.area
  if area.isEmpty then b else
    drawCut align area.left area.width.toNat area.height.toNat area.top lines (b.setStyle area base)

end Paragraph

end GuidedTour.Screen
