/-!
# Colors and text attributes

The colors of a terminal cell, their text, and the attributes that may be added to a cell.

* `Color.text`, `Color.ofText?` - the two directions of a color's text.
* `Color.components` - the red, green and blue of a color that has them.
-/

namespace GuidedTour.Screen

/-- A terminal color. -/
inductive Color where
  | reset
  | black
  | red
  | green
  | yellow
  | blue
  | magenta
  | cyan
  | gray
  | darkGray
  | lightRed
  | lightGreen
  | lightYellow
  | lightBlue
  | lightMagenta
  | lightCyan
  | white
  | rgb (r g b : UInt8)
  | indexed (i : UInt8)
  deriving DecidableEq, Inhabited

namespace Color

/-- The named colors with the text that shows them. -/
def names : List (String × Color) :=
  [("Reset", .reset), ("Black", .black), ("Red", .red), ("Green", .green), ("Yellow", .yellow),
   ("Blue", .blue), ("Magenta", .magenta), ("Cyan", .cyan), ("Gray", .gray), ("DarkGray", .darkGray),
   ("LightRed", .lightRed), ("LightGreen", .lightGreen), ("LightYellow", .lightYellow),
   ("LightBlue", .lightBlue), ("LightMagenta", .lightMagenta), ("LightCyan", .lightCyan),
   ("White", .white)]

/-- Two upper-case hexadecimal digits. -/
def hexByte (b : UInt8) : String :=
  let digit := fun n : Nat => (Nat.digitChar n).toUpper
  String.ofList [digit (b.toNat / 16), digit (b.toNat % 16)]

/-- The text that shows a color. -/
def text : Color → String
  | .rgb r g b => "#" ++ hexByte r ++ hexByte g ++ hexByte b
  | .indexed i => toString i.toNat
  | c => ((names.find? fun p => p.2 = c).map (·.1)).getD ""

/-- A character in lower case, as far as a color's name can tell. -/
def lower (c : Char) : Char := if c = '\u212a' then 'k' else c.toLower

/-- Replaces every occurrence of a word, from left to right. `skip` characters are part of an occurrence
that was replaced already. -/
def replaceWord (word new : List Char) : Nat → List Char → List Char
  | _, [] => []
  | skip + 1, _ :: cs => replaceWord word new skip cs
  | 0, c :: cs =>
    if word.isPrefixOf (c :: cs) then new ++ replaceWord word new (word.length - 1) cs
    else c :: replaceWord word new 0 cs

/-- The spelling of a color's name that all its variants share. -/
def normalName (s : String) : List Char :=
  let cs := (s.toList.map lower).filter fun c => c ≠ ' ' && c ≠ '-' && c ≠ '_'
  let replace := fun (pair : String × String) (cs : List Char) =>
    replaceWord pair.1.toList pair.2.toList 0 cs
  [("bright", "light"), ("grey", "gray"), ("silver", "gray"), ("lightblack", "darkgray"),
   ("lightwhite", "white"), ("lightgray", "white")].foldl (fun cs p => replace p cs) cs

/-- Value of a digit in a base up to sixteen. -/
def digitValue? (base : Nat) (c : Char) : Option Nat :=
  let v := if c.isDigit then some (c.toNat - '0'.toNat)
    else if 'a' ≤ c ∧ c ≤ 'f' then some (c.toNat - 'a'.toNat + 10)
    else if 'A' ≤ c ∧ c ≤ 'F' then some (c.toNat - 'A'.toNat + 10)
    else none
  v.filter (· < base)

/-- A number below 256 in a base; a plus sign may precede it. -/
def byteOf? (base : Nat) (cs : List Char) : Option UInt8 :=
  let cs := match cs with
    | '+' :: (c :: rest) => c :: rest
    | cs => cs
  if cs.isEmpty then none else do
    let n ← cs.foldlM (fun acc c => do
      let n := acc * base + (← digitValue? base c)
      if n < 256 then some n else none) 0
    return UInt8.ofNat n

/-- The color that a text names: a name in any case and with any separators, an index, or `#RRGGBB`. -/
def ofText? (s : String) : Option Color :=
  let name := normalName s
  match names.find? fun p => p.1.toList.map lower = name with
  | some (_, c) => some c
  | none =>
    match byteOf? 10 s.toList with
    | some i => some (.indexed i)
    | none =>
      match s.toList with
      | ['#', a, b, c, d, e, f] => do
        return .rgb (← byteOf? 16 [a, b]) (← byteOf? 16 [c, d]) (← byteOf? 16 [e, f])
      | _ => none

end Color

/-- The attributes of a cell's text, as a set. -/
structure Attributes where
  bits : UInt16
  deriving DecidableEq, Inhabited

namespace Attributes

/-- No attribute. -/
def none : Attributes := ⟨0⟩

/-- The attributes in the order of their bits. -/
def names : List (String × Attributes) :=
  [("BOLD", ⟨1⟩), ("DIM", ⟨2⟩), ("ITALIC", ⟨4⟩), ("UNDERLINED", ⟨8⟩), ("SLOW_BLINK", ⟨16⟩),
   ("RAPID_BLINK", ⟨32⟩), ("REVERSED", ⟨64⟩), ("HIDDEN", ⟨128⟩), ("CROSSED_OUT", ⟨256⟩)]

/-- Bold text. -/
def bold : Attributes := ⟨1⟩

/-- Italic text. -/
def italic : Attributes := ⟨4⟩

/-- Underlined text. -/
def underlined : Attributes := ⟨8⟩

/-- Text in exchanged colors. -/
def reversed : Attributes := ⟨64⟩

/-- The union of two sets. -/
def union (a b : Attributes) : Attributes := ⟨a.bits ||| b.bits⟩

/-- Whether every attribute of `b` is in `a`. -/
def includes (a b : Attributes) : Bool := a.bits &&& b.bits == b.bits

/-- The set's text: names joined by bars. -/
def text (a : Attributes) : String :=
  String.intercalate "|" ((names.filter fun p => a.includes p.2).map (·.1))

end Attributes

/-- A change of style: colors replace those below, attributes are added. -/
structure Style where
  fg    : Option Color := none
  bg    : Option Color := none
  attrs : Attributes := .none
  deriving DecidableEq, Inhabited

/-- The style `s` with `t` laid over it. -/
def Style.patch (s t : Style) : Style :=
  { fg := t.fg <|> s.fg, bg := t.bg <|> s.bg, attrs := s.attrs.union t.attrs }

end GuidedTour.Screen
