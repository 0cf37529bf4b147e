import GuidedTour.Decimal.Binary
import GuidedTour.Decode.Source
import GuidedTour.Yaml.Token

/-!
# The meaning of plain scalars

A plain scalar is a null, a boolean, an integer, a real or else a text. Integers may be written in four
bases; digits with a leading zero are a text.

* `resolve` - the datum that a scalar stands for.
-/

namespace GuidedTour.Yaml

open GuidedTour.Decode

/-- The written forms of null, apart from the empty one. -/
def isNull (s : String) : Bool := s == "null" || s == "Null" || s == "NULL" || s == "~"

/-- The written forms of the booleans. -/
def boolean? (s : String) : Option Bool :=
  if s == "true" || s == "True" || s == "TRUE" then some true
  else if s == "false" || s == "False" || s == "FALSE" then some false
  else none

/-- Value of a digit in a base. -/
def digitIn? (base : Nat) (c : Char) : Option Nat := (hexValue? c).filter (· < base)

/-- The natural number that digits stand for; there is at least one. -/
def digitsIn? (base : Nat) : List Char → Option Nat
  | [] => none
  | cs => cs.foldlM (fun acc c => do return acc * base + (← digitIn? base c)) 0

/-- Digits with a zero in front: no number. -/
def isZeroPadded (cs : List Char) : Bool :=
  let cs := match cs with
    | '-' :: r => r
    | '+' :: r => r
    | r => r
  match cs with
  | '0' :: d :: rest => (d :: rest).all Char.isDigit
  | _ => false

/-- The magnitude in one of the bases that a mark announces. -/
def marked? : List Char → Option Nat
  | '0' :: 'x' :: rest => digitsIn? 16 rest
  | '0' :: 'o' :: rest => digitsIn? 8 rest
  | '0' :: 'b' :: rest => digitsIn? 2 rest
  | _ => none

/-- A number without a minus sign; a plus sign may precede it. -/
def unsigned? (cs : List Char) : Option Nat :=
  let bare := match cs with
    | '+' :: r => r
    | r => r
  match marked? bare with
  | some n => some n
  | none => if isZeroPadded cs then none else digitsIn? 10 bare

/-- A number with a minus sign. -/
def negative? : List Char → Option Nat
  | '-' :: rest =>
    match marked? rest with
    | some n => some n
    | none => if isZeroPadded ('-' :: rest) then none else digitsIn? 10 rest
  | _ => none

/-- A number with or without a sign. -/
def signed? (cs : List Char) : Option Int :=
  match unsigned? cs with
  | some n => some n
  | none => (negative? cs).map fun n => -(n : Int)

/-- The digits at the head of a text and the rest. -/
def spanDigits (cs : List Char) : List Char × List Char := cs.span Char.isDigit

/-- The natural number that decimal digits stand for. -/
def valueOf (ds : List Char) : Nat := ds.foldl (fun acc c => acc * 10 + (c.toNat - '0'.toNat)) 0

/-- A decimal number: digits with a point anywhere among them or none, and an exponent or none. Answers
sign, significand and power of ten. -/
def decimal? (cs : List Char) : Option (Bool × Nat × Int) :=
  let (negative, cs) := match cs with
    | '-' :: r => (true, r)
    | '+' :: r => (false, r)
    | r => (false, r)
  let (whole, rest) := spanDigits cs
  let (fraction, rest) := match rest with
    | '.' :: r => spanDigits r
    | r => ([], r)
  if whole.isEmpty && fraction.isEmpty then none else
    let m := valueOf (whole ++ fraction)
    let places : Int := fraction.length
    match rest with
    | [] => some (negative, m, -places)
    | e :: r =>
      if e = 'e' || e = 'E' then
        let (down, r) := match r with
          | '-' :: r => (true, r)
          | '+' :: r => (false, r)
          | r => (false, r)
        let (ds, r) := spanDigits r
        if ds.isEmpty || !r.isEmpty then none
        else
          let n : Int := valueOf ds
          some (negative, m, (if down then -n else n) - places)
      else none

/-- A real number. Infinities and the NaN have names of their own; a decimal number out of range is no
number. -/
def real? (s : String) : Option Float :=
  let bare := match s.toList with
    | '+' :: r => r
    | r => r
  let twice := match s.toList with
    | '+' :: '+' :: _ => true
    | '+' :: '-' :: _ => true
    | _ => false
  if twice then none
  else if [".inf", ".Inf", ".INF"].contains (String.ofList bare) then some (1.0 / 0.0)
  else if ["-.inf", "-.Inf", "-.INF"].contains s then some (-1.0 / 0.0)
  else if [".nan", ".NaN", ".NAN"].contains s then some (0.0 / 0.0)
  else do
    let (negative, m, e) ← decimal? bare
    let x := Decimal.toFloat negative m e
    if x.isInf then none else some x

/-- The integer that a scalar is written as: within 64 bits, beyond them (a fault), or none. -/
def integerDatum? (cs : List Char) : Option (Decoder Datum) :=
  match unsigned? cs with
  | some n =>
    if n < 0x10000000000000000 then some (pure (.integer n))
    else if n < Nat.pow 2 128 then some (throw .malformed)
    else none
  | none =>
    match negative? cs with
    | some n =>
      if n ≤ 0x8000000000000000 then some (pure (.integer (-(n : Int))))
      else if n ≤ Nat.pow 2 127 then some (throw .malformed)
      else none
    | none => none

/-- The datum that a plain scalar without a tag stands for. -/
def resolvePlain (s : String) : Decoder Datum :=
  if s.isEmpty || isNull s then pure .null
  else match boolean? s with
    | some b => pure (.boolean b)
    | none =>
      match integerDatum? s.toList with
      | some d => d
      | none =>
        match if isZeroPadded s.toList then none else real? s with
        | some x => pure (.real x)
        | none => pure (.text s)

/-- A tag of the core schema. -/
def coreTag (name : String) : String := "tag:yaml.org,2002:" ++ name

/-- The datum that a scalar stands for. -/
def resolve (tag : Option String) (s : String) (style : ScalarStyle) : Decoder Datum :=
  let orFault := fun (d : Option Datum) => match d with
    | some d => pure d
    | none => throw .malformed
  match tag with
  | none => if style = .plain then resolvePlain s else pure (.text s)
  | some t =>
    if t = coreTag "bool" then orFault ((boolean? s).map .boolean)
    else if t = coreTag "int" then
      match integerDatum? s.toList with
      | some d => d
      | none => throw .malformed
    else if t = coreTag "float" then orFault ((real? s).map .real)
    else if t = coreTag "null" then orFault (if isNull s then some .null else none)
    else pure (.text s)

end GuidedTour.Yaml
