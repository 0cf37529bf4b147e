import GuidedTour.Decimal.Reading

/-!
# JSON texts, read as far as they are well formed

A reader that knows what it wants notices a wrong type before it notices a missing bracket further on.
To keep that order, a text is read into a `Document` that ends in `broken` where the grammar fails:
a consumer walks it from left to right and meets the first fault, of whichever kind, first.

* `Document.ofText` - reads a text.
* `Document.wellFormed` - no fault anywhere below.

A number keeps its token's value: integers that fit 64 bits are exact, anything else is a double,
computed as a 64-bit significand times a power of ten.
-/

namespace GuidedTour.Json

/-- The value of a number token. -/
inductive Number where
  | natural (n : Nat)
  | negative (n : Nat)
  | real (x : Float)
  | outOfRange

mutual

/-- A JSON value as far as it could be read. Containers know how deeply they are nested, counted from
one. The text of a string is absent if its escapes name no character. -/
inductive Document where
  | null
  | bool (b : Bool)
  | number (n : Number)
  | text (s : Option String)
  | list (level : Nat) (items : Items)
  | object (level : Nat) (fields : Fields)
  | broken

/-- The items of a list. -/
inductive Items where
  | done
  | broken
  | item (value : Document) (rest : Items)

/-- The fields of an object; `stray` is something other than a string in the place of a key. -/
inductive Fields where
  | done
  | broken
  | stray (found : Document)
  | field (key : Option String) (value : Document) (rest : Fields)

end

mutual

/-- No fault in the value or below it. A string whose escapes name no character is no fault. -/
def Document.wellFormed : Document → Bool
  | .null | .bool _ | .number _ | .text _ => true
  | .list _ items => items.wellFormed
  | .object _ fields => fields.wellFormed
  | .broken => false

/-- No fault in any item. -/
def Items.wellFormed : Items → Bool
  | .done => true
  | .broken => false
  | .item v rest => v.wellFormed && rest.wellFormed

/-- No fault in any field. -/
def Fields.wellFormed : Fields → Bool
  | .done => true
  | .broken | .stray _ => false
  | .field _ v rest => v.wellFormed && rest.wellFormed

end

/-! ## Numbers -/

/-- The greatest 64-bit significand. -/
def significandLimit : Nat := 0xFFFFFFFFFFFFFFFF

/-- Value of a decimal digit. -/
def digitValue (c : Char) : Nat := c.toNat - '0'.toNat

/-- Takes digits while the significand fits 64 bits; answers it with the number of digits taken. -/
def takeSignificand : Nat → List Char → Nat × Nat
  | acc, [] => (acc, 0)
  | acc, c :: rest =>
    let next := acc * 10 + digitValue c
    if significandLimit < next then (acc, 0)
    else
      let (m, n) := takeSignificand next rest
      (m, n + 1)

/-- `±m · 10^e` in double precision: the significand is rounded, then multiplied or divided by a power
of ten, in steps of `10^308` when the exponent is out of the table's range. -/
def scale (negative : Bool) (m : Nat) (e : Int) : Number :=
  let start := Decimal.toFloat false m 0
  let sign := fun x : Float => if negative then -x else x
  let rec down : Nat → Float → Nat → Float
    | 0, x, _ => x
    | fuel + 1, x, k =>
      if k ≤ 308 then x / Decimal.toFloat false 1 k
      else if x == 0 then x
      else down fuel (x / Decimal.toFloat false 1 308) (k - 308)
  if 0 ≤ e then
    if e ≤ 308 then
      let x := start * Decimal.toFloat false 1 e
      if x.isInf then .outOfRange else .real (sign x)
    else if m = 0 then .real (sign start)
    else .outOfRange
  else .real (sign (down 10 start (-e).toNat))

/-- The greatest exponent that is read as a number; past it only its sign counts. -/
def exponentLimit : Nat := 0x7FFFFFFF

/-- The value of a token from its parts. -/
def numberOf (negative : Bool) (whole : List Char) (fraction : Option (List Char))
    (exponent : Option (Bool × List Char)) : Number :=
  let (m, taken) := takeSignificand 0 whole
  let dropped := whole.length - taken
  if fraction.isNone && exponent.isNone && dropped = 0 then
    if !negative then .natural m
    else if m = 0 ∨ 0x8000000000000000 < m then scale true m 0
    else .negative m
  else
    let (m, places) := takeSignificand m (fraction.getD [])
    let base : Int := (dropped : Int) - places
    match exponent with
    | none => scale negative m base
    | some (down, ds) =>
      let e := ds.foldl (fun acc c => acc * 10 + digitValue c) 0
      if exponentLimit < e then
        if m ≠ 0 ∧ !down then .outOfRange else .real (if negative then -0.0 else 0.0)
      else scale negative m (if down then base - e else base + e)

/-- The digits at the head of a text, and the rest. -/
def spanDigits (cs : List Char) : List Char × List Char := cs.span Char.isDigit

/-- A minus sign in front of the rest. -/
def takeMinus : List Char → Bool × List Char
  | '-' :: rest => (true, rest)
  | rest => (false, rest)

/-- The digits behind a point, if there is one; at least one must follow it. -/
def scanFraction : List Char → Option (Option (List Char) × List Char)
  | [] => some (none, [])
  | c :: rest =>
    if c = '.' then
      let (ds, rest) := spanDigits rest
      if ds.isEmpty then none else some (some ds, rest)
    else some (none, c :: rest)

/-- An exponent, if there is one: whether it is negative, and its digits, of which there is at least one. -/
def scanExponent : List Char → Option (Option (Bool × List Char) × List Char)
  | [] => some (none, [])
  | c :: rest =>
    if c = 'e' ∨ c = 'E' then
      let (down, rest) := Decimal.takeSign rest
      let (ds, rest) := spanDigits rest
      if ds.isEmpty then none else some (some (down, ds), rest)
    else some (none, c :: rest)

/-- A number token: no leading zeros, at least one digit after a point and in an exponent. -/
def scanNumber (cs : List Char) : Option (Number × List Char) := do
  let (negative, cs) := takeMinus cs
  let (whole, rest) := spanDigits cs
  if whole.isEmpty || (whole.head? == some '0' && 1 < whole.length) then none else
    let (fraction, rest) ← scanFraction rest
    let (exponent, rest) ← scanExponent rest
    return (numberOf negative whole fraction exponent, rest)

/-! ## Strings -/

/-- A piece of a string literal: a character, or a 16-bit unit written as an escape. -/
inductive Piece where
  | char (c : Char)
  | unit (n : Nat)

/-- Value of a hexadecimal digit. -/
def hexValue? (c : Char) : Option Nat :=
  if c.isDigit then some (c.toNat - '0'.toNat)
  else if 'a' ≤ c ∧ c ≤ 'f' then some (c.toNat - 'a'.toNat + 10)
  else if 'A' ≤ c ∧ c ≤ 'F' then some (c.toNat - 'A'.toNat + 10)
  else none

/-- Value of four hexadecimal digits. -/
def hex4? (a b c d : Char) : Option Nat := do
  let a ← hexValue? a
  let b ← hexValue? b
  let c ← hexValue? c
  let d ← hexValue? d
  return ((a * 16 + b) * 16 + c) * 16 + d

/-- The character of a one-letter escape. -/
def escaped? : Char → Option Char
  | '"' => some '"'
  | '\\' => some '\\'
  | '/' => some '/'
  | 'b' => some '\x08'
  | 'f' => some '\x0c'
  | 'n' => some '\n'
  | 'r' => some '\r'
  | 't' => some '\t'
  | _ => none

/-- The pieces of a literal up to its closing quote, last first, and the text behind it. -/
def scanPieces (acc : List Piece) : List Char → Option (List Piece × List Char)
  | [] => none
  | '"' :: rest => some (acc, rest)
  | '\\' :: 'u' :: a :: b :: c :: d :: rest =>
    match hex4? a b c d with
    | some n => scanPieces (.unit n :: acc) rest
    | none => none
  | '\\' :: e :: rest =>
    match escaped? e with
    | some c => scanPieces (.char c :: acc) rest
    | none => none
  | c :: rest => if c.toNat < 32 || c = '\\' then none else scanPieces (.char c :: acc) rest

/-- Joins the pieces, pairing up surrogates; a lone surrogate names no character. -/
def joinPieces (acc : List Char) : List Piece → Option (List Char)
  | [] => some acc.reverse
  | .char c :: rest => joinPieces (c :: acc) rest
  | .unit n :: .unit k :: rest =>
    if 0xD800 ≤ n ∧ n ≤ 0xDBFF then
      if 0xDC00 ≤ k ∧ k ≤ 0xDFFF then
        joinPieces (Char.ofNat (0x10000 + (n - 0xD800) * 0x400 + (k - 0xDC00)) :: acc) rest
      else none
    else if 0xDC00 ≤ n ∧ n ≤ 0xDFFF then none
    else joinPieces (Char.ofNat n :: acc) (.unit k :: rest)
  | .unit n :: rest =>
    if 0xD800 ≤ n ∧ n ≤ 0xDFFF then none else joinPieces (Char.ofNat n :: acc) rest

/-- A string literal behind its opening quote. -/
def scanText (cs : List Char) : Option (Option String × List Char) :=
  (scanPieces [] cs).map fun (pieces, rest) => ((joinPieces [] pieces.reverse).map String.ofList, rest)

/-! ## Values -/

/-- White space between tokens. -/
def isBlank (c : Char) : Bool := c = ' ' || c = '\n' || c = '\t' || c = '\r'

/-- Drops white space. -/
def skipBlanks (cs : List Char) : List Char := cs.dropWhile isBlank

/-- Drops a keyword from the head of a text. -/
def dropWord? : List Char → List Char → Option (List Char)
  | [], cs => some cs
  | w :: word, c :: cs => if w = c then dropWord? word cs else none
  | _ :: _, [] => none

/-- A keyword's value, or a fault. -/
def keyword (word : String) (value : Document) (cs : List Char) : Document × List Char :=
  match dropWord? word.toList cs with
  | some rest => (value, rest)
  | none => (.broken, [])

mutual

/-- Reads one value. -/
def scanValue : Nat → Nat → List Char → Document × List Char
  | 0, _, _ => (.broken, [])
  | fuel + 1, level, cs =>
    match skipBlanks cs with
    | [] => (.broken, [])
    | '"' :: rest =>
      match scanText rest with
      | some (s, rest) => (.text s, rest)
      | none => (.broken, [])
    | '[' :: rest =>
      match skipBlanks rest with
      | ']' :: rest => (.list level .done, rest)
      | rest =>
        let (items, rest) := scanItems fuel (level + 1) rest
        (.list level items, rest)
    | '\x7b' :: rest =>
      match skipBlanks rest with
      | '\x7d' :: rest => (.object level .done, rest)
      | rest =>
        let (fields, rest) := scanFields fuel (level + 1) rest
        (.object level fields, rest)
    | c :: rest =>
      if c = 'n' then keyword "null" .null (c :: rest)
      else if c = 't' then keyword "true" (.bool true) (c :: rest)
      else if c = 'f' then keyword "false" (.bool false) (c :: rest)
      else match scanNumber (c :: rest) with
        | some (n, rest) => (.number n, rest)
        | none => (.broken, [])

/-- Reads the items of a list up to its bracket. -/
def scanItems : Nat → Nat → List Char → Items × List Char
  | 0, _, _ => (.broken, [])
  | fuel + 1, level, cs =>
    match skipBlanks cs with
    | [] => (.broken, [])
    | ']' :: _ => (.broken, [])
    | cs =>
      let (v, rest) := scanValue fuel level cs
      match skipBlanks rest with
      | ',' :: rest =>
        let (more, rest) := scanItems fuel level rest
        (.item v more, rest)
      | ']' :: rest => (.item v .done, rest)
      | _ => (.item v .broken, [])

/-- Reads the fields of an object up to its brace. -/
def scanFields : Nat → Nat → List Char → Fields × List Char
  | 0, _, _ => (.broken, [])
  | fuel + 1, level, cs =>
    match skipBlanks cs with
    | '"' :: rest =>
      match scanText rest with
      | none => (.broken, [])
      | some (key, rest) =>
        match skipBlanks rest with
        | ':' :: rest =>
          let (v, rest) := scanValue fuel level rest
          match skipBlanks rest with
          | ',' :: rest =>
            let (more, rest) := scanFields fuel level rest
            (.field key v more, rest)
          | '\x7d' :: rest => (.field key v .done, rest)
          | _ => (.field key v .broken, [])
        | _ => (.field key .broken .broken, [])
    | cs => (.stray (scanValue fuel level cs).1, [])

end

/-- A text read as one value; `complete` if nothing but white space follows it. -/
structure Text where
  root     : Document
  complete : Bool

/-- Reads a text. -/
def Document.ofText (s : String) : Text :=
  let cs := s.toList
  let (root, rest) := scanValue (2 * cs.length + 2) 1 cs
  ⟨root, (skipBlanks rest).isEmpty⟩

end GuidedTour.Json
