import GuidedTour.Text.Grapheme.Classes

/-!
# User-perceived characters

A text is cut into extended grapheme clusters: a base with the marks that extend it, a pair of regional
indicators, pictographs tied by joiners, a Hangul syllable, a conjunct of consonants.

* `graphemes` - the clusters of a text, in order.
* `flatten_cluster` - nothing is lost or reordered.
-/

namespace GuidedTour.Text

namespace Grapheme

/-- How a character takes part in the rules. -/
inductive Kind where
  | carriageReturn
  | lineFeed
  | control
  | extend
  | joiner
  | regional
  | prepend
  | spacing
  | leading
  | vowel
  | trailing
  | openSyllable
  | closedSyllable
  | pictograph
  | consonant
  | other
  deriving DecidableEq

/-- The kind of a character. -/
def kindOf (c : Char) : Kind :=
  let n := c.toNat
  if n = 13 then .carriageReturn
  else if n = 10 then .lineFeed
  else if n < 32 then .control
  else if n < 127 then .other
  else if n = 0x200D then .joiner
  else if 0x1F1E6 ≤ n ∧ n ≤ 0x1F1FF then .regional
  else if 0xAC00 ≤ n ∧ n ≤ 0xD7A3 then
    if (n - 0xAC00) % 28 = 0 then .openSyllable else .closedSyllable
  else if control.includes c then .control
  else if extend.includes c then .extend
  else if spacingMark.includes c then .spacing
  else if pictographic.includes c then .pictograph
  else if prepend.includes c then .prepend
  else if conjunctConsonant.includes c then .consonant
  else if leadingJamo.includes c then .leading
  else if vowelJamo.includes c then .vowel
  else if trailingJamo.includes c then .trailing
  else .other

/-- What the rules remember of the cluster so far. -/
structure Memory where
  /-- The kind of the last character. -/
  last : Kind
  /-- An odd number of regional indicators stands at the end. -/
  oddRegional : Bool
  /-- A pictograph stands at the end, perhaps with marks behind it. -/
  pictograph : Bool
  /-- A joiner follows such a pictograph. -/
  joined : Bool
  /-- A consonant stands at the end, perhaps with marks behind it. -/
  consonant : Bool
  /-- A linker is among those marks. -/
  linked : Bool

/-- What is remembered after the first character of a cluster. -/
def Memory.start (k : Kind) : Memory :=
  ⟨k, k = .regional, k = .pictograph, false, k = .consonant, false⟩

/-- What is remembered after one more character. -/
def Memory.next (m : Memory) (c : Char) (k : Kind) : Memory :=
  let mark := k = .extend || k = .joiner
  { last := k
    oddRegional := k = .regional && !(m.last = .regional && m.oddRegional)
    pictograph := k = .pictograph || (m.pictograph && k = .extend)
    joined := m.pictograph && k = .joiner
    consonant := k = .consonant || (m.consonant && mark)
    linked := m.consonant && mark && (m.linked || conjunctLinker.includes c) }

/-- Whether a character of kind `k` belongs to the cluster so far. -/
def Memory.continues (m : Memory) (k : Kind) : Bool :=
  match m.last, k with
  | .carriageReturn, .lineFeed => true
  | .carriageReturn, _ | .lineFeed, _ | .control, _ => false
  | _, .carriageReturn | _, .lineFeed | _, .control => false
  | .leading, .leading | .leading, .vowel | .leading, .openSyllable | .leading, .closedSyllable => true
  | .openSyllable, .vowel | .openSyllable, .trailing | .vowel, .vowel | .vowel, .trailing => true
  | .closedSyllable, .trailing | .trailing, .trailing => true
  | _, .extend | _, .joiner | _, .spacing => true
  | .prepend, _ => true
  | _, .consonant => m.linked
  | _, .pictograph => m.joined
  | _, .regional => m.last = .regional && m.oddRegional
  | _, _ => false

/-- Cuts characters into clusters. `current` is the cluster so far, last character first. -/
def cluster (m : Memory) (current : List Char) : List Char → List (List Char)
  | [] => [current.reverse]
  | c :: rest =>
    let k := kindOf c
    if m.continues k then cluster (m.next c k) (c :: current) rest
    else current.reverse :: cluster (Memory.start k) [c] rest

/-- Nothing is lost or reordered. -/
theorem flatten_cluster (m : Memory) (current rest : List Char) :
    (cluster m current rest).flatten = current.reverse ++ rest := by
  induction rest generalizing m current with
  | nil => simp [cluster]
  | cons c rest ih =>
    by_cases h : m.continues (kindOf c)
    · simp [cluster, h, ih]
    · simp [cluster, h, ih]

end Grapheme

/-- The user-perceived characters of a text. -/
def graphemes (s : String) : List String :=
  match s.toList with
  | [] => []
  | c :: rest => (Grapheme.cluster (.start (Grapheme.kindOf c)) [c] rest).map String.ofList

/-- Control characters. -/
def isControl (c : Char) : Bool := c.toNat < 32 || (127 ≤ c.toNat && c.toNat < 160)

/-- The user-perceived characters that a screen can show: those without control characters. -/
def visibleGraphemes (s : String) : List String :=
  (graphemes s).filter fun g => !g.toList.any isControl

end GuidedTour.Text
