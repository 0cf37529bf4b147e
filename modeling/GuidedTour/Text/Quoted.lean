import GuidedTour.Text.Quoted.Classes

/-!
# Texts in quotes

A text between quotes as a message shows it: what would not be seen, or would not be seen as itself, is
written as an escape.

* `Quoted.quote` - the text in quotes.
-/

namespace GuidedTour.Text.Quoted

/-- A character as an escape with its hexadecimal code point. -/
def codePoint (c : Char) : String :=
  "\\u\x7b" ++ String.ofList (Nat.toDigits 16 c.toNat) ++ "\x7d"

/-- How a character stands between quotes. -/
def escape (c : Char) : String :=
  if c = '"' then "\\\"" else if c = '\\' then "\\\\" else if c = '\n' then "\\n"
  else if c = '\r' then "\\r" else if c = '\t' then "\\t" else if c = '\x00' then "\\0"
  else if extending.includes c || unprintable.includes c then codePoint c
  else String.singleton c

/-- A text in quotes. -/
def quote (s : String) : String := "\"" ++ String.join (s.toList.map escape) ++ "\""

end GuidedTour.Text.Quoted
