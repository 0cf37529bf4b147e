/-!
# White space

The characters that count as white space at the ends of a text, and texts without them.

* `isBlank_of_isWhitespace` - every white-space character of the core library is blank.
* `trim` - a text without the white space at its ends.
-/

namespace GuidedTour.Text

/-- The characters with the property `White_Space`. -/
def isBlank (c : Char) : Bool :=
  let n := c.toNat
  (9 ≤ n && n ≤ 13) || n == 0x20 || n == 0x85 || n == 0xA0 || n == 0x1680 ||
  (0x2000 ≤ n && n ≤ 0x200A) || n == 0x2028 || n == 0x2029 || n == 0x202F || n == 0x205F || n == 0x3000

/-- Every white-space character of the core library is blank. -/
theorem isBlank_of_isWhitespace (c : Char) (h : c.isWhitespace = true) : isBlank c = true := by
  simp only [Char.isWhitespace, Bool.or_eq_true, decide_eq_true_eq] at h
  rcases h with ((rfl | rfl) | rfl) | rfl <;> decide

/-- Characters without the blanks at their head. -/
def trimStart (cs : List Char) : List Char := cs.dropWhile isBlank

/-- Characters without the blanks at their end. -/
def trimEnd (cs : List Char) : List Char := (cs.reverse.dropWhile isBlank).reverse

/-- A text without the white space at its ends. -/
def trim (s : String) : String := String.ofList (trimEnd (trimStart s.toList))

/-- Nothing but white space. -/
def isAllBlank (s : String) : Bool := s.toList.all isBlank

/-- The pieces of a text between occurrences of a character. -/
def splitChars (sep : Char) : List Char → List (List Char)
  | [] => [[]]
  | c :: rest =>
    if c = sep then [] :: splitChars sep rest
    else match splitChars sep rest with
      | [] => [[c]]
      | piece :: more => (c :: piece) :: more

/-- The lines of a text: pieces between line feeds, each without one carriage return at its end; an empty
last piece is no line. -/
def lines (s : String) : List String :=
  let pieces := splitChars '\n' s.toList
  let pieces := if pieces.getLast? = some [] then pieces.dropLast else pieces
  pieces.map fun p => String.ofList (if p.getLast? = some '\r' then p.dropLast else p)

end GuidedTour.Text
