import GuidedTour.Proofs.Definition.Acceptance
import GuidedTour.Proofs.Storage.Path

/-!
# Rich text in lines

Spans and lines overlap in any way: a span may hold many line feeds, at its ends too, and it goes on with the line that
the span before it has left open. What is compared is the sequence of letters, each a character with the look that it
has. The letters of the lines are those of the spans, cut at the line feeds; so nothing is lost, nothing is said twice,
and no look runs over into another span.

Main results:

* `splitOnP_append_of_clean`, `splitOnP_concat` - a list that is cut grows at its end by a piece, or by a separator.
* `Holds.pieces`, `Holds.spans` - a text, and any number of spans, go on with the lines that there are.
* `build_lossless` - the lines of rich text.
-/

namespace GuidedTour

open Screen

/-! ## Cutting -/

section Cutting

variable {α β : Type} {p : α → Bool}

/-- What holds no separator goes on with the last piece. -/
theorem splitOnP_append_of_clean {xs : List α} (hClean : ∀ x ∈ xs, p x = false) {cs last : List α}
    {closed : List (List α)} (hCut : cs.splitOnP p = closed ++ [last]) :
    (cs ++ xs).splitOnP p = closed ++ [last ++ xs] := by
  induction cs generalizing closed last with
  | nil =>
    rw [List.splitOnP_nil] at hCut
    obtain ⟨rfl, hLast⟩ := List.append_inj' (show [] ++ [[]] = closed ++ [last] from hCut) rfl
    obtain rfl := List.singleton_inj.mp hLast
    rw [List.nil_append, List.splitOnP_eq_singleton hClean]
    rfl
  | cons c cs ih =>
    obtain ⟨closed', last', hRest⟩ : ∃ closed' last', cs.splitOnP p = closed' ++ [last'] :=
      ⟨_, _, (List.dropLast_append_getLast (List.splitOnP_ne_nil p cs)).symm⟩
    rw [List.splitOnP_cons_eq_if_modifyHead, hRest] at hCut
    rw [List.cons_append, List.splitOnP_cons_eq_if_modifyHead, ih hRest]
    split at hCut
    · next hBreak =>
      rw [if_pos hBreak]
      obtain ⟨rfl, hLast⟩ := List.append_inj' (show ([] :: closed') ++ [last'] = closed ++ [last] from hCut) rfl
      obtain rfl := List.singleton_inj.mp hLast
      rfl
    · next hGoesOn =>
      rw [if_neg hGoesOn]
      -- the first piece is also the last one, or there are others behind it
      cases closed' with
      | nil =>
        obtain ⟨rfl, hLast⟩ := List.append_inj' (show [] ++ [c :: last'] = closed ++ [last] from hCut) rfl
        obtain rfl := List.singleton_inj.mp hLast
        rfl
      | cons first more =>
        obtain ⟨rfl, hLast⟩ :=
          List.append_inj' (show ((c :: first) :: more) ++ [last'] = closed ++ [last] from hCut) rfl
        obtain rfl := List.singleton_inj.mp hLast
        rfl

/-- Behind a separator an empty piece begins. -/
theorem splitOnP_concat {sep : α} (hSep : p sep = true) (cs : List α) :
    (cs ++ [sep]).splitOnP p = cs.splitOnP p ++ [[]] := by
  rw [List.splitOnP_append_cons cs [] hSep, List.splitOnP_nil]

theorem length_splitOnP (cs : List α) : (cs.splitOnP p).length = 1 + cs.countP p := by
  induction cs with
  | nil => rfl
  | cons c cs ih =>
    rw [List.splitOnP_cons_eq_if_modifyHead, List.countP_cons]
    cases p c with
    | true => simp only [if_true, List.length_cons, ih, Nat.add_assoc]
    | false => simpa using ih

/-- Letters are cut where their images are. -/
theorem map_splitOnP (f : α → β) (q : β → Bool) (cs : List α) :
    (cs.splitOnP fun c => q (f c)).map (List.map f) = (cs.map f).splitOnP q := by
  induction cs with
  | nil => rfl
  | cons c cs ih =>
    rw [List.map_cons, List.splitOnP_cons_eq_if_modifyHead, List.splitOnP_cons_eq_if_modifyHead, ← ih]
    split
    · rfl
    · cases cs.splitOnP fun c => q (f c) <;> rfl

end Cutting

/-- The pieces of a text hold no separator, and with the separators between them they are the text. -/
theorem splitChars_pieces (sep : Char) (cs : List Char) : ∃ piece more, Text.splitChars sep cs = piece :: more ∧
    cs = piece ++ more.flatMap (sep :: ·) ∧ sep ∉ piece ∧ ∀ other ∈ more, sep ∉ other := by
  induction cs with
  | nil => exact ⟨[], [], rfl, rfl, List.not_mem_nil, fun _ hNone => absurd hNone List.not_mem_nil⟩
  | cons c rest ih =>
    obtain ⟨piece, more, hCut, hRest, hPiece, hMore⟩ := ih
    by_cases hSep : c = sep
    · refine ⟨[], piece :: more, ?_, ?_, List.not_mem_nil, List.forall_mem_cons.mpr ⟨hPiece, hMore⟩⟩
      · rw [hSep, Text.splitChars_cons_self, hCut]
      · rw [hSep, hRest, List.flatMap_cons, List.nil_append, List.cons_append]
    · refine ⟨c :: piece, more, ?_, ?_, ?_, hMore⟩
      · rw [Text.splitChars_cons_of_ne hSep, hCut]
        rfl
      · rw [hRest, List.cons_append]
      · rw [List.mem_cons, not_or]
        exact ⟨Ne.symm hSep, hPiece⟩

/-! ## Letters -/

/-- A character with its look. -/
structure Letter where
  char       : Char
  bold       : Bool
  italic     : Bool
  underlined : Bool
  color      : Option Color
  /-- Whether there is more to its look: a background, or another attribute. -/
  more       : Bool
  deriving DecidableEq

/-- Whether a letter is a line feed. -/
def Letter.isFeed (l : Letter) : Bool := l.char == '\n'

/-- Whether there are attributes besides the three that a span may ask for. -/
def Screen.Attributes.hasOthers (a : Attributes) : Bool :=
  a.bits &&& ~~~(Attributes.bold.bits ||| Attributes.italic.bits ||| Attributes.underlined.bits) != 0

/-- A character in a style. -/
def Letter.ofStyle (style : Style) (c : Char) : Letter where
  char := c
  bold := style.attrs.includes .bold
  italic := style.attrs.includes .italic
  underlined := style.attrs.includes .underlined
  color := style.fg
  more := style.bg.isSome || style.attrs.hasOthers

/-- The letters of a line. -/
def lettersOf (l : Line) : List Letter := l.flatMap fun s => s.text.toList.map (.ofStyle s.style)

/-- The text of a line. -/
def textOf (l : Line) : String := String.join (l.map (·.text))

/-- A character of a span, as it is asked for. -/
def SpanSpec.letter (s : SpanSpec) (c : Char) : Letter where
  char := c
  bold := s.bold
  italic := s.italic
  underlined := s.underline
  color := s.color.bind fun text => Color.ofText? (Text.trim text)
  more := false

/-- The letters of a span, as they are asked for. -/
def SpanSpec.letters (s : SpanSpec) : List Letter := s.text.toList.map s.letter

/-- A union of attributes has the three that may be asked for as they were asked for, and no other. -/
theorem includes_union : ∀ bold italic underline : Bool,
    let attrs := ((if bold then Attributes.bold else .none).union (if italic then .italic else .none)).union
      (if underline then .underlined else .none)
    attrs.includes .bold = bold ∧ attrs.includes .italic = italic ∧ attrs.includes .underlined = underline ∧
      attrs.hasOthers = false := by
  decide

/-- The style that a span is given is the one that it asks for. -/
theorem letter_of_style {s : SpanSpec} {style : Style} (hStyle : s.style = .ok style) (c : Char) :
    Letter.ofStyle style c = s.letter c := by
  obtain ⟨hBold, hItalic, hUnderlined, hOthers⟩ := includes_union s.bold s.italic s.underline
  -- the attributes are those of the union; what is left is the color, which may have no name
  rw [SpanSpec.style] at hStyle
  cases hColor : s.color with
  | none =>
    rw [hColor] at hStyle
    cases hStyle
    simp only [Letter.ofStyle, SpanSpec.letter, hColor, hBold, hItalic, hUnderlined, hOthers]
    rfl
  | some text =>
    rw [hColor] at hStyle
    cases hNamed : Color.ofText? (Text.trim text) with
    | none =>
      simp only [resolveColor, hNamed] at hStyle
      cases hStyle
    | some color =>
      simp only [resolveColor, hNamed] at hStyle
      cases hStyle
      simp only [Letter.ofStyle, SpanSpec.letter, hColor, hBold, hItalic, hUnderlined, hOthers, Option.bind_some, hNamed]
      rfl

/-! ## Lines in progress -/

/-- Lines, listed last first, that hold some letters cut at the line feeds, in spans that are not empty. -/
structure Holds (lines : List Line) (letters : List Letter) : Prop where
  cut    : lines.reverse.map lettersOf = letters.splitOnP (·.isFeed)
  filled : ∀ l ∈ lines, ∀ s ∈ l, s.text ≠ ""

theorem holds_start : Holds [[]] [] where
  cut := rfl
  filled := by simp

/-- A line feed begins a line. -/
theorem Holds.feed {lines : List Line} {letters : List Letter} (h : Holds lines letters) {feed : Letter}
    (hFeed : feed.isFeed = true) : Holds ([] :: lines) (letters ++ [feed]) where
  cut := by
    rw [List.reverse_cons, List.map_append, h.cut, splitOnP_concat hFeed]
    rfl
  filled := List.forall_mem_cons.mpr ⟨fun _ hNone => absurd hNone List.not_mem_nil, h.filled⟩

/-- A piece of a text without a line feed goes on with the last line. -/
theorem Holds.piece {lines : List Line} {letters : List Letter} (h : Holds lines letters) (style : Style)
    {piece : List Char} (hPiece : '\n' ∉ piece) :
    Holds (addPiece style piece lines) (letters ++ piece.map (.ofStyle style)) := by
  have hClean : ∀ l ∈ piece.map (Letter.ofStyle style), l.isFeed = false := by
    intro l hl
    obtain ⟨c, hc, rfl⟩ := List.mem_map.mp hl
    exact beq_false_of_ne fun hFeed => hPiece (hFeed ▸ hc)
  cases lines with
  | nil =>
    -- there is always a line
    exact absurd h.cut.symm (List.splitOnP_ne_nil _ _)
  | cons l rest =>
    have hCut : letters.splitOnP (·.isFeed) = rest.reverse.map lettersOf ++ [lettersOf l] := by
      rw [← h.cut, List.reverse_cons, List.map_append]
      rfl
    obtain ⟨hLine, hRest⟩ := List.forall_mem_cons.mp h.filled
    refine ⟨?_, ?_⟩
    · rw [splitOnP_append_of_clean hClean hCut, addPiece, List.reverse_cons, List.map_append]
      congr 1
      cases piece with
      | nil => simp
      | cons c more => simp [lettersOf]
    · rw [addPiece]
      refine List.forall_mem_cons.mpr ⟨?_, hRest⟩
      cases piece with
      | nil => exact hLine
      | cons c more =>
        rw [List.isEmpty_cons, if_neg Bool.false_ne_true]
        refine List.forall_mem_append.mpr ⟨hLine, List.forall_mem_singleton.mpr fun hEmpty => ?_⟩
        have hChars := congrArg String.toList hEmpty
        rw [String.toList_ofList] at hChars
        cases hChars

/-- A whole text goes on with the last line and begins a line at each line feed. -/
theorem Holds.pieces {lines : List Line} {letters : List Letter} (h : Holds lines letters) (style : Style)
    (cs : List Char) :
    Holds (addPieces style (Text.splitChars '\n' cs) lines) (letters ++ cs.map (.ofStyle style)) := by
  obtain ⟨piece, more, hCut, rfl, hPiece, hMore⟩ := splitChars_pieces '\n' cs
  rw [hCut, addPieces, List.map_append, ← List.append_assoc]
  have hFirst := h.piece style hPiece
  generalize addPiece style piece lines = lines at hFirst
  generalize letters ++ piece.map (Letter.ofStyle style) = letters at hFirst
  clear hCut
  -- on the pieces behind the first; each is a line feed and what follows it
  induction more generalizing lines letters with
  | nil => simpa using hFirst
  | cons next more ih =>
    obtain ⟨hNext, hOthers⟩ := List.forall_mem_cons.mp hMore
    have hFed := (hFirst.feed (rfl : (Letter.ofStyle style '\n').isFeed = true)).piece style hNext
    have hLater := ih hOthers _ _ hFed
    simpa only [List.foldl_cons, List.flatMap_cons, List.map_append, List.map_cons, List.cons_append,
      List.append_assoc, List.nil_append] using hLater

/-- Any number of spans go on with the lines that there are. -/
theorem Holds.spans {spans : List SpanSpec} (hColors : ∀ s ∈ spans, ∀ text ∈ s.color, NamesColor text)
    {lines : List Line} {letters : List Letter} (h : Holds lines letters) :
    ∃ built, spans.foldlM (fun lines s => do
        return addPieces (← s.style) (Text.splitChars '\n' s.text.toList) lines) lines = .ok built ∧
      Holds built (letters ++ spans.flatMap (·.letters)) := by
  induction spans generalizing lines letters with
  | nil => exact ⟨lines, rfl, by simpa using h⟩
  | cons s rest ih =>
    obtain ⟨hColor, hOthers⟩ := List.forall_mem_cons.mp hColors
    -- the color of the span has a name, so the span has a style
    obtain ⟨style, hStyle⟩ : ∃ style, s.style = .ok style := by
      refine (reports_spanStyle s).ok_iff.mpr ?_
      simpa [colorFaults] using hColor
    have hSpan : s.text.toList.map (Letter.ofStyle style) = s.letters :=
      List.map_congr_left fun c _ => letter_of_style hStyle c
    obtain ⟨built, hBuilt, hHolds⟩ := ih hOthers (hSpan ▸ h.pieces style s.text.toList)
    refine ⟨built, ?_, ?_⟩
    · rw [List.foldlM_cons, hStyle]
      exact hBuilt
    · rwa [List.flatMap_cons, ← List.append_assoc]

/-! ## All lines -/

/-- Lines that hold all of the spans and nothing else. -/
structure Lossless (spans : List SpanSpec) (lines : List Line) : Prop where
  /-- There is one line more than there are line feeds. -/
  count   : lines.length = 1 + (spans.flatMap (·.text.toList)).count '\n'
  /-- Joined by line feeds, the lines are the text of the spans. -/
  text    : "\n".intercalate (lines.map textOf) = String.join (spans.map (·.text))
  /-- Every character has the look that its span asks for. -/
  letters : lines.map lettersOf = (spans.flatMap (·.letters)).splitOnP (·.isFeed)
  /-- No span of a line is empty. -/
  filled  : ∀ l ∈ lines, ∀ s ∈ l, s.text ≠ ""

theorem chars_letters (spans : List SpanSpec) :
    (spans.flatMap (·.letters)).map (·.char) = spans.flatMap (·.text.toList) := by
  rw [List.map_flatMap]
  refine List.flatMap_congr fun s _ => ?_
  rw [SpanSpec.letters, List.map_map]
  exact List.map_id _

theorem chars_lettersOf (l : Line) : (lettersOf l).map (·.char) = (textOf l).toList := by
  rw [lettersOf, textOf, String.toList_join, List.map_flatMap, List.flatMap_map]
  refine List.flatMap_congr fun s _ => ?_
  rw [List.map_map]
  exact List.map_id _

theorem Holds.lossless {spans : List SpanSpec} {lines : List Line} (h : Holds lines (spans.flatMap (·.letters))) :
    Lossless spans lines.reverse where
  count := by
    have hLength := congrArg List.length h.cut
    rw [List.length_map, length_splitOnP] at hLength
    rw [hLength, ← chars_letters, List.count, List.countP_map]
    rfl
  text := by
    -- by their characters: the lines are the pieces between line feeds of the text of the spans
    have hChars : lines.reverse.map (fun l => (textOf l).toList) = (spans.flatMap (·.text.toList)).splitOn '\n' := by
      have hCut := congrArg (List.map (List.map (·.char))) h.cut
      rw [List.map_map] at hCut
      rw [← chars_letters, List.splitOn_eq_splitOnP, ← map_splitOnP Letter.char (· == '\n')]
      refine Eq.trans ?_ hCut
      exact List.map_congr_left fun l _ => (chars_lettersOf l).symm
    rw [← String.toList_inj, String.toList_intercalate, String.toList_join, List.map_map, List.flatMap_map]
    show List.intercalate ['\n'] (lines.reverse.map fun l => (textOf l).toList) = spans.flatMap (·.text.toList)
    rw [hChars, List.intercalate_splitOn]
  letters := h.cut
  filled := fun l hl => h.filled l (List.mem_reverse.mp hl)

/--
**Rich text in lines.** Spans whose colors all have names make rich text, and its lines hold the spans without a loss:
there is one line more than there are line feeds, joined by line feeds the lines are the text of the spans, every
character has the look that the span asks for which it is from, and no span of a line is empty.
-/
theorem build_lossless (spans : List SpanSpec) (hColors : ∀ s ∈ spans, ∀ text ∈ s.color, NamesColor text) :
    ∃ lines, (ContentSpec.rich spans).build = .ok (.rich lines) ∧ Lossless spans lines := by
  obtain ⟨built, hBuilt, hHolds⟩ := holds_start.spans hColors
  refine ⟨built.reverse, ?_, hHolds.lossless⟩
  rw [ContentSpec.build, buildLines, hBuilt]
  rfl

/-- A bold span over two lines, one that is empty, and a red one that goes on with the second line and ends it and a
third. -/
theorem build_lossless_overlap :
    let spans : List SpanSpec :=
      [{ text := "Bold\nnext", bold := true }, { text := "", italic := true },
        { text := " red\n\n", underline := true, color := some " Red " }]
    let bold : Style := { attrs := .bold }
    let red : Style := { fg := some .red, attrs := .underlined }
    let lines : List Line := [[⟨"Bold", bold⟩], [⟨"next", bold⟩, ⟨" red", red⟩], [], []]
    (∀ s ∈ spans, ∀ text ∈ s.color, NamesColor text) ∧
      (ContentSpec.rich spans).build = .ok (.rich lines) ∧ Lossless spans lines := by
  intro spans bold red lines
  have hColors : ∀ s ∈ spans, ∀ text ∈ s.color, NamesColor text := by decide
  have hBuild : (ContentSpec.rich spans).build = .ok (.rich lines) := by rfl
  obtain ⟨built, hBuilt, hLossless⟩ := build_lossless spans hColors
  cases hBuild.symm.trans hBuilt
  exact ⟨hColors, hBuild, hLossless⟩

end GuidedTour
