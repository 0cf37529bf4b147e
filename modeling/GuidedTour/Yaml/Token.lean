/-!
# YAML tokens

The marks, scalars and properties of a YAML text, with the structure that indentation implies made
explicit, and the scanner that finds them.

* `scan` - the tokens of a text, or nothing if the text has no tokens.

The scanner walks over the characters once. A key that is recognised only by the colon behind it is
remembered as a *possible key*, and its mark is inserted in front of it when the colon comes.
-/

namespace GuidedTour.Yaml

/-- How a scalar is written. -/
inductive ScalarStyle where
  | plain
  | singleQuoted
  | doubleQuoted
  | literal
  | folded
  deriving DecidableEq, Inhabited

/-- A token. -/
inductive Token where
  | streamEnd
  | versionDirective (major minor : Nat)
  | tagDirective (handle tagPrefix : String)
  | documentStart
  | documentEnd
  | blockSequenceStart
  | blockMappingStart
  | blockEnd
  | flowSequenceStart
  | flowSequenceEnd
  | flowMappingStart
  | flowMappingEnd
  | blockEntry
  | flowEntry
  | key
  | value
  | alias (name : String)
  | anchor (name : String)
  | tag (handle suffix : String)
  | scalar (text : String) (style : ScalarStyle)
  deriving DecidableEq, Inhabited

/-! ## Characters -/

/-- Line breaks. -/
def isBreak (c : Char) : Bool :=
  c = '\n' || c = '\r' || c = '\u0085' || c = '\u2028' || c = '\u2029'

/-- Space and tab. -/
def isBlank (c : Char) : Bool := c = ' ' || c = '\t'

/-- Characters of names. -/
def isWord (c : Char) : Bool := c.isAlphanum || c = '_' || c = '-'

/-- Characters that a text may hold. -/
def isAllowed (c : Char) : Bool :=
  let n := c.toNat
  n = 0x09 || n = 0x0A || n = 0x0D || (0x20 ≤ n && n ≤ 0x7E) || n = 0x85 ||
  (0xA0 ≤ n && n ≤ 0xD7FF) || (0xE000 ≤ n && n ≤ 0xFFFD) || 0x10000 ≤ n

/-- The head of a text is a line break or its end. -/
def atBreak : List Char → Bool
  | [] => true
  | c :: _ => isBreak c

/-- The head of a text is a blank, a line break or its end. -/
def atBlank : List Char → Bool
  | [] => true
  | c :: _ => isBlank c || isBreak c

/-- A place in a text: what is left of it, how many characters were read, and the line and column. -/
structure Cursor where
  rest   : List Char
  index  : Nat := 0
  line   : Nat := 0
  column : Nat := 0
  deriving Inhabited

namespace Cursor

/-- Passes one character. -/
def skip (c : Cursor) : Cursor :=
  match c.rest with
  | [] => c
  | _ :: rest => { c with rest := rest, index := c.index + 1, column := c.column + 1 }

/-- Passes `n` characters. -/
def skipN : Nat → Cursor → Cursor
  | 0, c => c
  | n + 1, c => skipN n c.skip

/-- Passes a line break; answers it as it counts in a text. -/
def takeBreak (c : Cursor) : List Char × Cursor :=
  match c.rest with
  | '\r' :: '\n' :: rest => (['\n'], ⟨rest, c.index + 2, c.line + 1, 0⟩)
  | b :: rest =>
    if b = '\n' ∨ b = '\r' ∨ b = '\u0085' then (['\n'], ⟨rest, c.index + 1, c.line + 1, 0⟩)
    else if b = '\u2028' ∨ b = '\u2029' then ([b], ⟨rest, c.index + 1, c.line + 1, 0⟩)
    else ([], c)
  | [] => ([], c)

/-- Passes characters while they satisfy a test; answers them last first. -/
def spanLoop (p : Char → Bool) : List Char → List Char → Cursor → List Char × Cursor
  | [], acc, c => (acc, c)
  | x :: rest, acc, c => if p x then spanLoop p rest (x :: acc) c.skip else (acc, c)

/-- Passes characters while they satisfy a test; answers them. -/
def spanWhile (p : Char → Bool) (c : Cursor) : List Char × Cursor :=
  let (taken, c) := spanLoop p c.rest [] c
  (taken.reverse, c)

/-- Passes characters while they satisfy a test. -/
def skipWhile (p : Char → Bool) (c : Cursor) : Cursor := (c.spanWhile p).2

/-- Passes everything up to the end of the line. -/
def skipLine (c : Cursor) : Cursor := c.skipWhile fun x => !isBreak x

/-- A mark of three equal characters at the start of a line, alone or before a blank. -/
def atMark (m : Char) (c : Cursor) : Bool :=
  c.column = 0 && match c.rest with
  | x :: y :: z :: rest => x = m && y = m && z = m && atBlank rest
  | _ => false

/-- The start or the end of a document. -/
def atDocumentMark (c : Cursor) : Bool := c.atMark '-' || c.atMark '.'

end Cursor

/-! ## Scalars -/

/-- White space between the words of a scalar: blanks on the same line, or line breaks. -/
structure Gap where
  blanks  : List Char := []
  first   : List Char := []
  more    : List Char := []
  /-- A line break was passed, or escaped. -/
  broken  : Bool := false

/-- What a gap stands for: itself on one line; a single break is a space, further ones are kept. -/
def Gap.text (g : Gap) : List Char :=
  if g.broken then
    if g.first = ['\n'] then (if g.more.isEmpty then [' '] else g.more)
    else g.first ++ g.more
  else g.blanks

/-- Passes blanks and breaks. `limit` refuses tabs that stand for indentation before a column. -/
def scanGap (limit : Option Nat) : (fuel : Nat) → Gap → Cursor → Option (Gap × Cursor)
  | 0, g, c => some (g, c)
  | fuel + 1, g, c =>
    match c.rest with
    | [] => some (g, c)
    | x :: _ =>
      if isBlank x then
        if g.broken && x = '\t' && limit.any (c.column < ·) then none
        else if g.broken then scanGap limit fuel g c.skip
        else scanGap limit fuel { g with blanks := g.blanks ++ [x] } c.skip
      else if isBreak x then
        let (b, c) := c.takeBreak
        if g.broken then scanGap limit fuel { g with more := g.more ++ b } c
        else scanGap limit fuel { g with blanks := [], first := b, broken := true } c
      else some (g, c)

/-- Value of a hexadecimal digit. -/
def hexValue? (c : Char) : Option Nat :=
  if c.isDigit then some (c.toNat - '0'.toNat)
  else if 'a' ≤ c ∧ c ≤ 'f' then some (c.toNat - 'a'.toNat + 10)
  else if 'A' ≤ c ∧ c ≤ 'F' then some (c.toNat - 'A'.toNat + 10)
  else none

/-- The value of `n` hexadecimal digits. -/
def hexDigits? : Nat → Nat → List Char → Option Nat
  | 0, acc, _ => some acc
  | n + 1, acc, c :: rest => do hexDigits? n (acc * 16 + (← hexValue? c)) rest
  | _ + 1, _, [] => none

/-- The character of a one-letter escape. -/
def escaped? : Char → Option Char
  | '0' => some '\x00'
  | 'a' => some '\x07'
  | 'b' => some '\x08'
  | 't' => some '\t'
  | '\t' => some '\t'
  | 'n' => some '\n'
  | 'v' => some '\x0b'
  | 'f' => some '\x0c'
  | 'r' => some '\r'
  | 'e' => some '\x1b'
  | ' ' => some ' '
  | '"' => some '"'
  | '/' => some '/'
  | '\\' => some '\\'
  | 'N' => some '\u0085'
  | '_' => some '\u00a0'
  | 'L' => some '\u2028'
  | 'P' => some '\u2029'
  | _ => none

/-- How many digits follow the letter of a numeric escape. -/
def escapeLength? : Char → Option Nat
  | 'x' => some 2
  | 'u' => some 4
  | 'U' => some 8
  | _ => none

/-- One word of a quoted scalar: the characters up to a blank, a break or the closing quote, last first.
An escaped line break ends the word and is reported. -/
def scanQuotedWord (single : Bool) : (fuel : Nat) → List Char → Cursor → Option (List Char × Bool × Cursor)
  | 0, acc, c => some (acc, false, c)
  | fuel + 1, acc, c =>
    match c.rest with
    | [] => some (acc, false, c)
    | x :: rest =>
      if isBlank x || isBreak x then some (acc, false, c)
      else if single then
        if x = '\'' then
          match rest with
          | '\'' :: _ => scanQuotedWord single fuel ('\'' :: acc) (c.skipN 2)
          | _ => some (acc, false, c)
        else scanQuotedWord single fuel (x :: acc) c.skip
      else if x = '"' then some (acc, false, c)
      else if x = '\\' then
        match rest with
        | [] => none
        | e :: digits =>
          if isBreak e then some (acc, true, c.skip.takeBreak.2)
          else match escaped? e with
            | some y => scanQuotedWord single fuel (y :: acc) (c.skipN 2)
            | none => do
              let n ← escapeLength? e
              let v ← hexDigits? n 0 digits
              if (0xD800 ≤ v && v ≤ 0xDFFF) || 0x10FFFF < v then none
              else scanQuotedWord single fuel (Char.ofNat v :: acc) (c.skipN (2 + n))
      else scanQuotedWord single fuel (x :: acc) c.skip

/-- The words of a quoted scalar behind its opening quote; the text is collected last character first. -/
def scanQuotedWords (single : Bool) : (fuel : Nat) → List Char → Cursor → Option (List Char × Cursor)
  | 0, _, _ => none
  | fuel + 1, acc, c =>
    if c.atDocumentMark || c.rest.isEmpty then none else do
      let (acc, escapedBreak, c) ← scanQuotedWord single (c.rest.length + 1) acc c
      match c.rest with
      | [] => none
      | x :: _ =>
        if x = (if single then '\'' else '"') then some (acc, c.skip)
        else do
          let (gap, c) ← scanGap none (c.rest.length + 1) { broken := escapedBreak } c
          scanQuotedWords single fuel (gap.text.reverse ++ acc) c

/-- A quoted scalar at its opening quote. -/
def scanQuoted (single : Bool) (c : Cursor) : Option (String × Cursor) := do
  let c := c.skip
  let (acc, c) ← scanQuotedWords single (c.rest.length + 1) [] c
  return (String.ofList acc.reverse, c)

/-- Indicators that end a plain scalar, or may not follow a colon, inside brackets. -/
def isFlowMark (c : Char) : Bool := c = ',' || c = '[' || c = ']' || c = '\x7b' || c = '\x7d'

/-- One word of a plain scalar, last character first. -/
def scanPlainWord (flow : Bool) : (fuel : Nat) → List Char → Cursor → Option (List Char × Cursor)
  | 0, acc, c => some (acc, c)
  | fuel + 1, acc, c =>
    match c.rest with
    | [] => some (acc, c)
    | x :: rest =>
      if isBlank x || isBreak x then some (acc, c)
      else if flow && x = ':' && rest.head?.any (fun y => isFlowMark y || y = '?') then none
      else if x = ':' && atBlank rest then some (acc, c)
      else if flow && isFlowMark x then some (acc, c)
      else scanPlainWord flow fuel (x :: acc) c.skip

/-- The words of a plain scalar. `indent` is the column that further lines have to reach. Answers the
text last character first, the place behind the last word, and whether a line break was passed. -/
def scanPlainWords (flow : Bool) (indent : Nat) :
    (fuel : Nat) → List Char → Gap → Cursor → Option (List Char × Bool × Cursor)
  | 0, acc, gap, c => some (acc, gap.broken, c)
  | fuel + 1, acc, gap, c =>
    if c.atDocumentMark || c.rest.head? = some '#' then some (acc, gap.broken, c) else do
      let (word, next) ← scanPlainWord flow (c.rest.length + 1) [] c
      let (acc, gap) := if word.isEmpty then (acc, gap) else (word ++ gap.text.reverse ++ acc, {})
      if !atBlank next.rest || next.rest.isEmpty then some (acc, gap.broken, next)
      else do
        let (gap, next) ← scanGap (some indent) (next.rest.length + 1) gap next
        if !flow && next.column < indent then some (acc, gap.broken, next)
        else scanPlainWords flow indent fuel acc gap next

/-- Passes the indentation and the empty lines before a line of a block scalar. `indent` is zero while it
is not known. Answers the breaks passed and the greatest column reached. -/
def scanBlockBreaks (indent : Nat) :
    (fuel : Nat) → List Char → Nat → Cursor → Option (List Char × Nat × Cursor)
  | 0, acc, reached, c => some (acc, reached, c)
  | fuel + 1, acc, reached, c =>
    let room := if indent = 0 then c.rest.length else indent - c.column
    let spaces := ((c.rest.take room).takeWhile (· = ' ')).length
    let c := c.skipN spaces
    let reached := max reached c.column
    if (indent = 0 || c.column < indent) && c.rest.head? = some '\t' then none
    else if c.rest.head?.any isBreak then
      let (b, c) := c.takeBreak
      scanBlockBreaks indent fuel (acc ++ b) reached c
    else some (acc, reached, c)

/-- What to do with the line breaks at the end of a block scalar. -/
inductive Chomp where
  | strip
  | clip
  | keep
  deriving DecidableEq

/-- The lines of a block scalar. `lead` is the break behind the last line, `more` the empty lines after
it, `blankLead` whether that line began with a blank. The text is collected last character first. -/
def scanBlockLines (isLiteral : Bool) (chomp : Chomp) (indent : Nat) :
    (fuel : Nat) → List Char → (lead more : List Char) → (blankLead : Bool) → Cursor →
    Option (List Char × Cursor)
  | 0, acc, _, _, _, c => some (acc, c)
  | fuel + 1, acc, lead, more, blankLead, c =>
    if c.column = indent && !c.rest.isEmpty then do
      let blank := c.rest.head?.any isBlank
      let acc :=
        if !isLiteral && lead = ['\n'] && !blankLead && !blank then
          if more.isEmpty then ' ' :: acc else acc
        else lead.reverse ++ acc
      let acc := more.reverse ++ acc
      let (line, c) := c.spanWhile fun x => !isBreak x
      let acc := line.reverse ++ acc
      let (lead, c) := c.takeBreak
      let (more, _, c) ← scanBlockBreaks indent (c.rest.length + 1) [] 0 c
      scanBlockLines isLiteral chomp indent fuel acc lead more blank c
    else
      let acc := if chomp = .strip then acc else lead.reverse ++ acc
      some (if chomp = .keep then more.reverse ++ acc else acc, c)

/-- The indicators behind the mark of a block scalar: chomping and indentation, in either order. -/
def scanBlockHeader (c : Cursor) : Option (Chomp × Nat × Cursor) :=
  let sign? := fun (c : Cursor) => match c.rest with
    | '+' :: _ => some (Chomp.keep, c.skip)
    | '-' :: _ => some (Chomp.strip, c.skip)
    | _ => none
  let digit := fun (c : Cursor) => match c.rest with
    | d :: _ =>
      if d = '0' then none
      else if d.isDigit then some (d.toNat - '0'.toNat, c.skip)
      else some (0, c)
    | [] => some (0, c)
  match sign? c with
  | some (chomp, c) => do
    let (n, c) ← digit c
    return (chomp, n, c)
  | none => do
    let (n, c) ← digit c
    if n = 0 then return (.clip, 0, c)
    else match sign? c with
      | some (chomp, c) => return (chomp, n, c)
      | none => return (.clip, n, c)

/-- Passes blanks and a comment up to the end of the line, and the break behind it. -/
def finishLine (c : Cursor) : Option Cursor :=
  let c := c.skipWhile isBlank
  let c := if c.rest.head? = some '#' then c.skipLine else c
  if atBreak c.rest then some c.takeBreak.2 else none

/-- A block scalar at its mark. `parent` is the indentation around it, if any. -/
def scanBlock (isLiteral : Bool) (parent : Option Nat) (c : Cursor) : Option (String × Cursor) := do
  let (chomp, increment, c) ← scanBlockHeader c.skip
  let c ← finishLine c
  let fixed := if increment = 0 then 0 else (parent.getD 0) + increment
  let (more, reached, c) ← scanBlockBreaks fixed (c.rest.length + 1) [] 0 c
  let least := match parent with
    | some p => p + 1
    | none => 1
  let indent := if fixed = 0 then max reached (max least 1) else fixed
  let (acc, c) ← scanBlockLines isLiteral chomp indent (c.rest.length + 2) [] [] more false c
  return (String.ofList acc.reverse, c)

/-! ## Properties and directives -/

/-- The name of an anchor or of an alias behind its mark. -/
def scanName (c : Cursor) : Option (String × Cursor) :=
  let (name, c) := c.spanWhile isWord
  let ends := atBlank c.rest || c.rest.head?.any fun x =>
    ['?', ':', ',', ']', '\x7d', '%', '@', '\x60'].contains x
  if name.isEmpty || !ends then none else some (String.ofList name, c)

/-- Characters of a tag; brackets and commas only in a verbatim one. -/
def isTagChar (verbatim : Bool) (c : Char) : Bool :=
  isWord c || [';', '/', '?', ':', '@', '&', '=', '+', '$', '.', '!', '~', '*', '\'', '(', ')'].contains c ||
  (verbatim && (c = ',' || c = '[' || c = ']'))

/-- The bytes of a run of percent escapes, one at least. -/
def scanEscapedBytes : (fuel : Nat) → List UInt8 → Cursor → Option (List UInt8 × Cursor)
  | 0, acc, c => some (acc, c)
  | fuel + 1, acc, c =>
    match c.rest with
    | '%' :: a :: b :: _ => do
      let n ← hexDigits? 2 0 [a, b]
      scanEscapedBytes fuel (acc ++ [UInt8.ofNat n]) (c.skipN 3)
    | '%' :: _ => none
    | _ => some (acc, c)

/-- The characters of a tag, percent escapes decoded. Answers them last first. -/
def scanTagChars (verbatim : Bool) : (fuel : Nat) → List Char → Cursor → Option (List Char × Cursor)
  | 0, acc, c => some (acc, c)
  | fuel + 1, acc, c =>
    match c.rest with
    | [] => some (acc, c)
    | x :: _ =>
      if x = '%' then do
        let (bytes, c) ← scanEscapedBytes c.rest.length [] c
        let s ← String.fromUTF8? ⟨bytes.toArray⟩
        scanTagChars verbatim fuel (s.toList.reverse ++ acc) c
      else if isTagChar verbatim x then scanTagChars verbatim fuel (x :: acc) c.skip
      else some (acc, c)

/-- A handle at its exclamation mark: one mark, or a word between two. `inDirective` requires the second
mark behind a word. -/
def scanHandle (inDirective : Bool) (c : Cursor) : Option (List Char × Cursor) :=
  match c.rest with
  | '!' :: _ =>
    let (word, c) := c.skip.spanWhile isWord
    match c.rest with
    | '!' :: _ => some ('!' :: (word ++ ['!']), c.skip)
    | _ => if inDirective && !word.isEmpty then none else some ('!' :: word, c)
  | _ => none

/-- A tag at its exclamation mark. -/
def scanTag (flow : Bool) (c : Cursor) : Option (Token × Cursor) := do
  let (token, c) ← match c.rest with
    | '!' :: '<' :: _ => do
      let (acc, c) ← scanTagChars true (c.rest.length + 1) [] (c.skipN 2)
      if acc.isEmpty then none
      else match c.rest with
        | '>' :: _ => some (Token.tag "" (String.ofList acc.reverse), c.skip)
        | _ => none
    | _ => do
      let (handle, next) ← scanHandle false c
      if 1 < handle.length && handle.getLast? = some '!' then do
        let (acc, c) ← scanTagChars false (next.rest.length + 1) [] next
        if acc.isEmpty then none
        else some (Token.tag (String.ofList handle) (String.ofList acc.reverse), c)
      else do
        let (acc, c) ← scanTagChars false (next.rest.length + 1) (handle.drop 1).reverse next
        if acc.isEmpty then some (Token.tag "" "!", c)
        else some (Token.tag "!" (String.ofList acc.reverse), c)
  if (flow && c.rest.head? = some ',') || atBlank c.rest then return (token, c) else none

/-- A number of at most nine digits. -/
def scanNumber (c : Cursor) : Option (Nat × Cursor) :=
  let (ds, c) := c.spanWhile Char.isDigit
  if ds.isEmpty || 9 < ds.length then none
  else some (ds.foldl (fun acc d => acc * 10 + (d.toNat - '0'.toNat)) 0, c)

/-- A directive at its percent sign. -/
def scanDirective (c : Cursor) : Option (Token × Cursor) := do
  let (name, c) := c.skip.spanWhile isWord
  if name.isEmpty || !atBlank c.rest then none
  else do
    let (token, c) ←
      if name = "YAML".toList then do
        let (major, c) ← scanNumber (c.skipWhile isBlank)
        if c.rest.head? = some '.' then do
          let (minor, c) ← scanNumber c.skip
          some (Token.versionDirective major minor, c)
        else none
      else if name = "TAG".toList then do
        let (handle, c) ← scanHandle true (c.skipWhile isBlank)
        if c.rest.head?.any isBlank then do
          let c := c.skipWhile isBlank
          let (acc, c) ← scanTagChars true (c.rest.length + 1) [] c
          if acc.isEmpty || !atBlank c.rest then none
          else some (Token.tagDirective (String.ofList handle) (String.ofList acc.reverse), c)
        else none
      else none
    let c ← finishLine c
    return (token, c)

/-! ## The scanner -/

/-- A place where a key may have begun: it is a key if a colon follows on the same line and within 1024
characters. A required one has to be a key, because its column says so. -/
structure PossibleKey where
  possible : Bool := false
  required : Bool := false
  /-- How many tokens stood before it. -/
  token    : Nat := 0
  index    : Nat := 0
  line     : Nat := 0
  column   : Nat := 0
  deriving Inhabited

/-- The state of the scanner: the tokens so far, the columns of the open blocks, innermost first, and one
possible key for the blocks and for every open bracket, innermost first. -/
structure Scanner where
  cursor     : Cursor
  tokens     : Array Token := #[]
  indents    : List Nat := []
  keyAllowed : Bool := true
  outer      : List PossibleKey := []
  current    : PossibleKey := {}

namespace Scanner

/-- Whether brackets are open. -/
def inFlow (s : Scanner) : Bool := !s.outer.isEmpty

/-- Adds a token. -/
def push (s : Scanner) (t : Token) : Scanner := { s with tokens := s.tokens.push t }

/-- Whether a column lies to the right of the innermost block. -/
def deeper (s : Scanner) (column : Nat) : Bool :=
  match s.indents with
  | [] => true
  | i :: _ => i < column

/-- Gives up a possible key; a required one may not be given up. -/
def dropKey (k : PossibleKey) : Option PossibleKey :=
  if k.possible && k.required then none else some { k with possible := false }

/-- Gives up the keys that the text has left behind. -/
def expire (c : Cursor) (k : PossibleKey) : Option PossibleKey :=
  if k.possible && (k.line < c.line || k.index + 1024 < c.index) then dropKey k else some k

/-- Gives up all keys that the text has left behind. -/
def expireKeys (s : Scanner) : Option Scanner := do
  return { s with current := ← expire s.cursor s.current, outer := ← s.outer.mapM (expire s.cursor) }

/-- Gives up the innermost possible key. -/
def removeKey (s : Scanner) : Option Scanner := do
  return { s with current := ← dropKey s.current }

/-- Remembers the current place as a possible key, where one is allowed. -/
def saveKey (s : Scanner) : Option Scanner :=
  if s.keyAllowed then do
    let s ← s.removeKey
    let c := s.cursor
    return { s with current := {
      possible := true
      required := !s.inFlow && s.indents.head? = some c.column
      token := s.tokens.size
      index := c.index
      line := c.line
      column := c.column } }
  else some s

/-- Opens a block at a column to the right of the innermost one. Its token goes to the given place. -/
def openBlock (s : Scanner) (column : Nat) (place : Option Nat) (t : Token) : Scanner :=
  if !s.inFlow && s.deeper column then
    let tokens := match place with
      | none => s.tokens.push t
      | some i => s.tokens.insertIdxIfInBounds i t
    { s with indents := column :: s.indents, tokens := tokens }
  else s

/-- Closes the blocks that lie to the right of a column. -/
def closeBlocksLoop (column : Nat) : List Nat → Array Token → List Nat × Array Token
  | [], ts => ([], ts)
  | i :: rest, ts => if column < i then closeBlocksLoop column rest (ts.push .blockEnd) else (i :: rest, ts)

/-- Closes the blocks that lie to the right of a column. -/
def closeBlocks (s : Scanner) (column : Nat) : Scanner :=
  if s.inFlow then s else
    let (indents, tokens) := closeBlocksLoop column s.indents s.tokens
    { s with indents := indents, tokens := tokens }

/-- Closes all blocks. -/
def closeAll (s : Scanner) : Scanner :=
  if s.inFlow then s
  else { s with indents := [], tokens := s.indents.foldl (fun ts _ => ts.push .blockEnd) s.tokens }

/-- Passes white space, comments and line breaks before the next token. -/
def toNextToken : (fuel : Nat) → Scanner → Scanner
  | 0, s => s
  | fuel + 1, s =>
    let c := s.cursor
    let c := if c.index = 0 && c.rest.head? = some '\ufeff' then c.skip else c
    let c := c.skipWhile fun x => x = ' ' || ((s.inFlow || !s.keyAllowed) && x = '\t')
    let c := if c.rest.head? = some '#' then c.skipLine else c
    if c.rest.head?.any isBreak then
      toNextToken fuel { s with cursor := c.takeBreak.2, keyAllowed := s.keyAllowed || !s.inFlow }
    else { s with cursor := c }

/-- A mark of the document, or a directive: all blocks end before it. -/
def beforeMark (s : Scanner) : Option Scanner := do
  let s ← s.closeAll.removeKey
  return { s with keyAllowed := false }

/-- An opening bracket. -/
def openFlow (s : Scanner) (t : Token) : Option Scanner := do
  let s ← s.saveKey
  let s := { s with outer := s.current :: s.outer, current := {}, keyAllowed := true, cursor := s.cursor.skip }
  return s.push t

/-- A closing bracket. -/
def closeFlow (s : Scanner) (t : Token) : Option Scanner := do
  let s ← s.removeKey
  let s := match s.outer with
    | k :: rest => { s with current := k, outer := rest }
    | [] => s
  return { s with keyAllowed := false, cursor := s.cursor.skip }.push t

/-- A comma between brackets. -/
def flowEntry (s : Scanner) : Option Scanner := do
  let s ← s.removeKey
  return { s with keyAllowed := true, cursor := s.cursor.skip }.push .flowEntry

/-- A dash before an item. -/
def blockEntry (s : Scanner) : Option Scanner := do
  if !s.inFlow && !s.keyAllowed then none
  else
    let s := s.openBlock s.cursor.column none .blockSequenceStart
    let s ← s.removeKey
    return { s with keyAllowed := true, cursor := s.cursor.skip }.push .blockEntry

/-- A question mark before a key. -/
def explicitKey (s : Scanner) : Option Scanner := do
  if !s.inFlow && !s.keyAllowed then none
  else
    let s := s.openBlock s.cursor.column none .blockMappingStart
    let s ← s.removeKey
    return { s with keyAllowed := !s.inFlow, cursor := s.cursor.skip }.push .key

/-- A colon before a value. -/
def value (s : Scanner) : Option Scanner :=
  let k := s.current
  if k.possible then
    let s := { s with tokens := s.tokens.insertIdxIfInBounds k.token .key }
    let s := s.openBlock k.column (some k.token) .blockMappingStart
    let s := { s with current := { k with possible := false }, keyAllowed := false, cursor := s.cursor.skip }
    some (s.push .value)
  else if !s.inFlow && !s.keyAllowed then none
  else
    let s := s.openBlock s.cursor.column none .blockMappingStart
    some ({ s with keyAllowed := !s.inFlow, cursor := s.cursor.skip }.push .value)

/-- A token that may begin a key: an alias, an anchor, a tag or a scalar on one line. -/
def simple (s : Scanner) (read : Scanner → Option (Token × Bool × Cursor)) : Option Scanner := do
  let s ← s.saveKey
  let (t, newLine, c) ← read s
  return { s with keyAllowed := newLine, cursor := c }.push t

/-- A block scalar. -/
def blockScalar (s : Scanner) (isLiteral : Bool) : Option Scanner := do
  let s ← s.removeKey
  let (text, c) ← scanBlock isLiteral s.indents.head? s.cursor
  return { s with keyAllowed := true, cursor := c }.push
    (.scalar text (if isLiteral then .literal else .folded))

/-- A plain scalar. -/
def plainScalar (s : Scanner) : Option (Token × Bool × Cursor) := do
  let indent := match s.indents with
    | [] => 0
    | i :: _ => i + 1
  let (acc, broken, c) ← scanPlainWords s.inFlow indent (s.cursor.rest.length + 1) [] {} s.cursor
  return (.scalar (String.ofList acc.reverse) .plain, broken, c)

/-- Characters that begin no plain scalar, unless what follows says otherwise. -/
def isIndicator (c : Char) : Bool :=
  ['-', '?', ':', ',', '[', ']', '\x7b', '\x7d', '#', '&', '*', '!', '|', '>', '\'', '"', '%', '@', '\x60'].contains c

/-- Reads one token that begins with `x`, before `rest`. -/
def token (s : Scanner) (x : Char) (rest : List Char) : Option Scanner :=
  let c := s.cursor
  if c.column = 0 && x = '%' then do
    let s ← s.beforeMark
    let (t, c) ← scanDirective s.cursor
    return { s with cursor := c }.push t
  else if c.atMark '-' then do
    let s ← s.beforeMark
    return { s with cursor := s.cursor.skipN 3 }.push .documentStart
  else if c.atMark '.' then do
    let s ← s.beforeMark
    return { s with cursor := s.cursor.skipN 3 }.push .documentEnd
  else if x = '[' then s.openFlow .flowSequenceStart
  else if x = '\x7b' then s.openFlow .flowMappingStart
  else if x = ']' then s.closeFlow .flowSequenceEnd
  else if x = '\x7d' then s.closeFlow .flowMappingEnd
  else if x = ',' then s.flowEntry
  else if x = '-' && atBlank rest then s.blockEntry
  else if x = '?' && (s.inFlow || atBlank rest) then s.explicitKey
  else if x = ':' && (s.inFlow || atBlank rest) then s.value
  else if x = '*' then s.simple fun s => do
    let (name, c) ← scanName s.cursor.skip
    return (.alias name, false, c)
  else if x = '&' then s.simple fun s => do
    let (name, c) ← scanName s.cursor.skip
    return (.anchor name, false, c)
  else if x = '!' then s.simple fun s => do
    let (t, c) ← scanTag s.inFlow s.cursor
    return (t, false, c)
  else if x = '|' && !s.inFlow then s.blockScalar true
  else if x = '>' && !s.inFlow then s.blockScalar false
  else if x = '\'' then s.simple fun s => do
    let (text, c) ← scanQuoted true s.cursor
    return (.scalar text .singleQuoted, false, c)
  else if x = '"' then s.simple fun s => do
    let (text, c) ← scanQuoted false s.cursor
    return (.scalar text .doubleQuoted, false, c)
  else if (!atBlank (x :: rest) && !isIndicator x) || (x = '-' && !rest.head?.any isBlank) ||
      (!s.inFlow && (x = '?' || x = ':') && !atBlank rest) then
    s.simple plainScalar
  else none

/-- Reads tokens up to the end of the text. -/
def loop : (fuel : Nat) → Scanner → Option (Array Token)
  | 0, _ => none
  | fuel + 1, s => do
    let s := s.toNextToken (s.cursor.rest.length + 1)
    let s ← s.expireKeys
    let s := s.closeBlocks s.cursor.column
    match s.cursor.rest with
    | [] =>
      let s ← s.closeAll.removeKey
      return s.tokens.push .streamEnd
    | x :: rest => loop fuel (← s.token x rest)

end Scanner

/-- The tokens of a text. -/
def scan (text : String) : Option (List Token) :=
  let cs := text.toList
  if cs.all isAllowed then (Scanner.loop (cs.length + 2) { cursor := { rest := cs } }).map Array.toList
  else none

end GuidedTour.Yaml
