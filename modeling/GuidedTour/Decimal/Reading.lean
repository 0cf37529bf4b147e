import GuidedTour.Decimal.Binary

/-!
# Reading decimal numbers

A sign, digits with at most one point among them, and an exponent; or the name of an infinity or of what
is no number. Nothing else may stand in the text, not even a blank.

* `readFloat?` - the double nearest to the number that a text names.
-/

namespace GuidedTour.Decimal

/-- The value of digits behind the digits of `n`. -/
def appendDigits (n : Nat) (ds : List Char) : Nat :=
  ds.foldl (fun n d => 10 * n + (d.toNat - '0'.toNat)) n

/-- A sign in front of the rest; without one the number is not negative. -/
def takeSign : List Char → Bool × List Char
  | '-' :: rest => (true, rest)
  | '+' :: rest => (false, rest)
  | rest => (false, rest)

/-- The exponent at the end of a number. -/
def readExponent? : List Char → Option Int
  | [] => some 0
  | c :: rest =>
    if c = 'e' ∨ c = 'E' then
      let (negative, ds) := takeSign rest
      if ds.isEmpty || !ds.all Char.isDigit then none
      else
        let n : Int := appendDigits 0 ds
        some (if negative then -n else n)
    else none

/-- An unsigned number. -/
def readMagnitude? (cs : List Char) : Option (Nat × Int) :=
  let whole := cs.takeWhile Char.isDigit
  let rest := cs.dropWhile Char.isDigit
  let (part, rest) := match rest with
    | '.' :: rest => (rest.takeWhile Char.isDigit, rest.dropWhile Char.isDigit)
    | rest => ([], rest)
  if whole.isEmpty && part.isEmpty then none
  else (readExponent? rest).map fun e => (appendDigits (appendDigits 0 whole) part, e - part.length)

/-- The double nearest to the number that a text names. -/
def readFloat? (s : String) : Option Float :=
  let (negative, cs) := takeSign s.toList
  let name := String.ofList (cs.map Char.toLower)
  let signed := fun x : Float => if negative then -x else x
  if name = "inf" ∨ name = "infinity" then some (signed (1.0 / 0.0))
  else if name = "nan" then some (0.0 / 0.0)
  else (readMagnitude? cs).map fun (m, e) => toFloat negative m e

end GuidedTour.Decimal
