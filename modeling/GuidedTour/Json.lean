import GuidedTour.Decimal.Shortest

/-!
# JSON values and their text

`Json` is a value as this library writes it: integers are exact, a real is a binary number that is
written with the fewest digits that read back in its own format, and an object keeps the order of its
members.

* `Json.quote` - a string literal.
* `Json.render` - a value on one line.
* `Json.pretty` - a value over several lines, one item a line.
-/

namespace GuidedTour

/-- A JSON value to be written. -/
inductive Json where
  | null
  | bool (b : Bool)
  | integer (i : Int)
  | real (x : Decimal.Binary)
  | text (s : String)
  | list (items : List Json)
  | object (members : List (String × Json))
  deriving Inhabited

namespace Json

/-- A hexadecimal digit in lower case. -/
def hexDigit (n : Nat) : Char := Nat.digitChar (n % 16)

/-- How one character stands inside a string literal: quote, backslash and control characters are
escaped, all else stands for itself. -/
def escapeChar (c : Char) : List Char :=
  if c = '"' then ['\\', '"']
  else if c = '\\' then ['\\', '\\']
  else if c = '\n' then ['\\', 'n']
  else if c = '\r' then ['\\', 'r']
  else if c = '\t' then ['\\', 't']
  else if c = '\x08' then ['\\', 'b']
  else if c = '\x0c' then ['\\', 'f']
  else if c.toNat < 32 then ['\\', 'u', '0', '0', hexDigit (c.toNat / 16), hexDigit c.toNat]
  else [c]

/-- A string literal. -/
def quote (s : String) : String :=
  String.ofList ('"' :: (s.toList.flatMap escapeChar ++ ['"']))

/-- A single-precision number; infinities and NaNs have no JSON form and become `null`. -/
def ofFloat32 (x : Float32) : Json :=
  if (Decimal.Binary.ofFloat32 x).isFinite then .real (.ofFloat32 x) else .null

/-- A single-precision number that is written with the digits of its double. -/
def ofWidened (x : Float32) : Json :=
  if (Decimal.Binary.ofFloat32 x).isFinite then .real (Decimal.Binary.ofFloat32 x).widened else .null

/-- A line break, and the indentation of a level. -/
def newLine (depth : Nat) : String := "\n" ++ String.ofList (List.replicate (2 * depth) ' ')

mutual

/-- A value on one line, without spaces. -/
def render : Json → String
  | .null => "null"
  | .bool b => if b then "true" else "false"
  | .integer i => toString i
  | .real x => x.compact
  | .text s => quote s
  | .list items => "[" ++ renderItems items ++ "]"
  | .object members => "\x7b" ++ renderMembers members ++ "\x7d"

/-- The items of a list, separated by commas. -/
def renderItems : List Json → String
  | [] => ""
  | [v] => render v
  | v :: rest => render v ++ "," ++ renderItems rest

/-- The members of an object, separated by commas. -/
def renderMembers : List (String × Json) → String
  | [] => ""
  | [(k, v)] => quote k ++ ":" ++ render v
  | (k, v) :: rest => quote k ++ ":" ++ render v ++ "," ++ renderMembers rest

end

mutual

/-- A value over several lines: a container that is not empty has each of its items on a line of its
own, `depth` levels of two spaces deep. -/
def pretty (depth : Nat) : Json → String
  | .list [] => "[]"
  | .list items => "[" ++ prettyItems (depth + 1) items ++ newLine depth ++ "]"
  | .object [] => "\x7b\x7d"
  | .object members => "\x7b" ++ prettyMembers (depth + 1) members ++ newLine depth ++ "\x7d"
  | v => v.render

/-- The items of a list, each on its line. -/
def prettyItems (depth : Nat) : List Json → String
  | [] => ""
  | [v] => newLine depth ++ pretty depth v
  | v :: rest => newLine depth ++ pretty depth v ++ "," ++ prettyItems depth rest

/-- The members of an object, each on its line. -/
def prettyMembers (depth : Nat) : List (String × Json) → String
  | [] => ""
  | [(k, v)] => newLine depth ++ quote k ++ ": " ++ pretty depth v
  | (k, v) :: rest => newLine depth ++ quote k ++ ": " ++ pretty depth v ++ "," ++ prettyMembers depth rest

end

/-- An optional value, `null` when absent. -/
def ofOption {α : Type} (f : α → Json) : Option α → Json
  | none => .null
  | some a => f a

end Json

end GuidedTour
