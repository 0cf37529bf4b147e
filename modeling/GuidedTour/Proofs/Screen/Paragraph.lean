import GuidedTour.Proofs.Screen.Change
import GuidedTour.Screen.Paragraph

/-!
# What a paragraph writes

A paragraph lays a style over its rectangle and then writes the glyphs of its rows, each into the cell where it begins. A
row is as a rule no wider than the rectangle. But a glyph of two or more columns may be taken into a row that is nearly
full, and the glyphs behind it then lie outside: whether a paragraph stays within its rectangle is a question of its text
and of its width. If all of its glyphs have one column, it does.

Main results:

* `mem_wrap` - the rows hold glyphs of the lines and no others.
* `length_wrap_le` - of glyphs with one column no row holds more than it has columns.
* `paragraph_changes` - what is said of every glyph in its cell is said of all that is written.
* `draw_background` - glyphs without a background leave the one of the paragraph.
* `draw_within_of_narrow` - lines of glyphs with one column stay within every rectangle.
-/

namespace GuidedTour.Screen

/-- What a glyph makes of the cell where it begins. -/
def Glyph.drawn (g : Glyph) (c : Cell) : Cell := { c with symbol := g.symbol }.withStyle g.style

namespace Paragraph

/-! ## One glyph more -/

namespace Progress

/-- What comes first when a glyph is taken in: a word that ends, or that is too long for an empty row, goes into the
row. -/
def settleBefore (limit : Nat) (g : Glyph) (p : Progress) : Progress :=
  let wordEnds := p.afterWord && g.isBreak
  let overflows := p.row.isEmpty && (limit < p.word.width + g.width || limit < p.blanks.width + g.width)
  if wordEnds || overflows then p.settle else p

/-- What comes second: the glyph is added, on a new row if there is no room for it. -/
def place (limit : Nat) (g : Glyph) (p : Progress) : Progress :=
  let full := limit ≤ p.row.width
  let tight := 0 < g.width && limit ≤ p.row.width + p.blanks.width + p.word.width
  if full || tight then
    let p := p.breakRow limit
    if g.isBreak && p.blanks.isEmpty then p else p.push g
  else p.push g

theorem step_eq (limit : Nat) (p : Progress) (g : Glyph) :
    p.step limit g = if limit < g.width then p else (p.settleBefore limit g).place limit g := rfl

/-- The last row is what the end of a word would make of it. -/
theorem finish_eq (p : Progress) : p.finish =
    let blankOnly := p.row.isEmpty && p.word.isEmpty && !p.blanks.isEmpty
    let done := if blankOnly then [] :: p.done else p.done
    let done := if p.settle.row.isEmpty then done else p.settle.row.glyphs.reverse :: done
    if done.isEmpty then [[]] else done.reverse := rfl

/-- What is said of the rows that are full, of the last one and of an empty one is said of all rows of a line. -/
theorem finish_forall {Q : List Glyph → Prop} {p : Progress} (hEmpty : Q []) (hDone : ∀ row ∈ p.done, Q row)
    (hLast : Q p.settle.row.glyphs.reverse) : ∀ row ∈ p.finish, Q row := by
  rw [finish_eq]
  generalize (p.row.isEmpty && p.word.isEmpty && !p.blanks.isEmpty) = blankOnly
  dsimp only
  have hBlank : ∀ row ∈ (if blankOnly then [] :: p.done else p.done), Q row := by
    cases blankOnly
    · exact hDone
    · exact List.forall_mem_cons.mpr ⟨hEmpty, hDone⟩
  generalize (if blankOnly then [] :: p.done else p.done) = done at hBlank
  have hAll : ∀ row ∈ (if p.settle.row.isEmpty then done else p.settle.row.glyphs.reverse :: done), Q row := by
    split
    · exact hBlank
    · exact List.forall_mem_cons.mpr ⟨hLast, hBlank⟩
  generalize (if p.settle.row.isEmpty then done else p.settle.row.glyphs.reverse :: done) = rows at hAll
  split
  · exact List.forall_mem_singleton.mpr hEmpty
  · exact fun row hRow => hAll row (List.mem_reverse.mp hRow)

end Progress

theorem dropFitting_suffix (room : Nat) (glyphs : List Glyph) : dropFitting room glyphs <:+ glyphs := by
  induction glyphs generalizing room with
  | nil => exact List.suffix_rfl
  | cons g rest ih =>
    rw [dropFitting]
    split
    · exact List.suffix_rfl
    · exact (ih _).trans (List.suffix_cons g rest)

/-! ## Glyphs of the rows -/

variable {P : Glyph → Prop} {p : Progress} {limit : Nat}

/-- All glyphs of a row in progress, and of those that are full, are of a kind. -/
structure Progress.Of (P : Glyph → Prop) (p : Progress) : Prop where
  done   : ∀ row ∈ p.done, ∀ g ∈ row, P g
  row    : ∀ g ∈ p.row.glyphs, P g
  blanks : ∀ g ∈ p.blanks.glyphs, P g
  word   : ∀ g ∈ p.word.glyphs, P g

namespace Progress.Of

theorem start (P : Glyph → Prop) : ({} : Progress).Of P :=
  ⟨List.forall_mem_nil _, List.forall_mem_nil _, List.forall_mem_nil _, List.forall_mem_nil _⟩

theorem settle (h : p.Of P) : p.settle.Of P where
  done := h.done
  row := by
    refine List.forall_mem_append.mpr ⟨h.word, ?_⟩
    split
    · exact h.row
    · exact List.forall_mem_append.mpr ⟨h.blanks, h.row⟩
  blanks := List.forall_mem_nil _
  word := List.forall_mem_nil _

theorem breakRow (h : p.Of P) (limit : Nat) : (p.breakRow limit).Of P where
  done := List.forall_mem_cons.mpr ⟨fun g hg => h.row g (List.mem_reverse.mp hg), h.done⟩
  row := List.forall_mem_nil _
  blanks := fun g hg =>
    h.blanks g (List.mem_reverse.mp ((dropFitting_suffix _ _).subset (List.mem_reverse.mp hg)))
  word := h.word

theorem push (h : p.Of P) {g : Glyph} (hg : P g) : (p.push g).Of P := by
  unfold Progress.push
  split
  · exact ⟨h.done, h.row, List.forall_mem_cons.mpr ⟨hg, h.blanks⟩, h.word⟩
  · exact ⟨h.done, h.row, h.blanks, List.forall_mem_cons.mpr ⟨hg, h.word⟩⟩

theorem settleBefore (h : p.Of P) (limit : Nat) (g : Glyph) : (p.settleBefore limit g).Of P := by
  unfold Progress.settleBefore
  dsimp only
  split
  · exact h.settle
  · exact h

theorem place (h : p.Of P) {g : Glyph} (hg : P g) (limit : Nat) : (p.place limit g).Of P := by
  unfold Progress.place
  dsimp only
  split
  · split
    · exact h.breakRow limit
    · exact (h.breakRow limit).push hg
  · exact h.push hg

theorem step (h : p.Of P) {g : Glyph} (hg : P g) (limit : Nat) : (p.step limit g).Of P := by
  rw [Progress.step_eq]
  split
  · exact h
  · exact (h.settleBefore limit g).place hg limit

theorem foldl (h : p.Of P) {glyphs : List Glyph} (hGlyphs : ∀ g ∈ glyphs, P g) (limit : Nat) :
    (glyphs.foldl (Progress.step limit) p).Of P := by
  induction glyphs generalizing p with
  | nil => exact h
  | cons g rest ih =>
    obtain ⟨hFirst, hRest⟩ := List.forall_mem_cons.mp hGlyphs
    exact ih (h.step hFirst limit) hRest

theorem finish (h : p.Of P) : ∀ row ∈ p.finish, ∀ g ∈ row, P g :=
  Progress.finish_forall (List.forall_mem_nil _) h.done fun g hg => h.settle.row g (List.mem_reverse.mp hg)

end Progress.Of

/-- The rows hold glyphs of the lines and no others. -/
theorem mem_wrap {lines : List Line} {row : List Glyph} {g : Glyph} (hRow : row ∈ wrap limit lines) (hg : g ∈ row) :
    ∃ l ∈ lines, g ∈ l.glyphs {} := by
  unfold wrap at hRow
  split at hRow
  · cases hRow
  · obtain ⟨l, hl, hWrapped⟩ := List.mem_flatMap.mp hRow
    exact ⟨l, hl, ((Progress.Of.start _).foldl (fun _ h => h) limit).finish row hWrapped g hg⟩

/-! ## Glyphs of one column -/

/-- A piece of glyphs with one column each. -/
structure Piece.Narrow (p : Piece) : Prop where
  columns : ∀ g ∈ p.glyphs, g.width = 1
  width   : p.width = p.glyphs.length

namespace Piece.Narrow

theorem empty : ({} : Piece).Narrow := ⟨List.forall_mem_nil _, rfl⟩

theorem append {p q : Piece} (hp : p.Narrow) (hq : q.Narrow) : (p.append q).Narrow where
  columns := List.forall_mem_append.mpr ⟨hq.columns, hp.columns⟩
  width := by
    show p.width + q.width = (q.glyphs ++ p.glyphs).length
    rw [hp.width, hq.width, List.length_append, Nat.add_comm]

theorem push {p : Piece} (hp : p.Narrow) {g : Glyph} (hg : g.width = 1) : (p.push g).Narrow where
  columns := List.forall_mem_cons.mpr ⟨hg, hp.columns⟩
  width := by
    show p.width + g.width = p.glyphs.length + 1
    rw [hp.width, hg]

end Piece.Narrow

/-- A row in progress of glyphs with one column each: what is in the making fits into a row, and so did every row that
is full. -/
structure Progress.Narrow (limit : Nat) (p : Progress) : Prop where
  row    : p.row.Narrow
  blanks : p.blanks.Narrow
  word   : p.word.Narrow
  fits   : p.row.width + p.blanks.width + p.word.width ≤ limit
  done   : ∀ row ∈ p.done, row.length ≤ limit

theorem dropFitting_eq_nil {glyphs : List Glyph} (hGlyphs : ∀ g ∈ glyphs, g.width = 1) {room : Nat}
    (hRoom : glyphs.length ≤ room) : dropFitting room glyphs = [] := by
  induction glyphs generalizing room with
  | nil => rfl
  | cons g rest ih =>
    obtain ⟨hFirst, hRest⟩ := List.forall_mem_cons.mp hGlyphs
    rw [List.length_cons] at hRoom
    rw [dropFitting, if_neg (by omega)]
    exact ih hRest (by omega)

namespace Progress.Narrow

theorem start (limit : Nat) : ({} : Progress).Narrow limit :=
  ⟨.empty, .empty, .empty, Nat.zero_le _, List.forall_mem_nil _⟩

theorem settle (h : p.Narrow limit) : p.settle.Narrow limit := by
  have hFits := h.fits
  unfold Progress.settle
  dsimp only
  split
  · refine ⟨h.row.append h.word, .empty, .empty, ?_, h.done⟩
    show p.row.width + p.word.width + 0 + 0 ≤ limit
    omega
  · exact ⟨(h.row.append h.blanks).append h.word, .empty, .empty, hFits, h.done⟩

/-- At the end of a row all blanks behind it vanish. -/
theorem breakRow (h : p.Narrow limit) : (p.breakRow limit).Narrow limit ∧ (p.breakRow limit).blanks.width = 0 := by
  have hFits := h.fits
  have hBlanks := h.blanks.width
  have hRow := h.row.width
  -- row and blanks have had room together, so none of the blanks goes over to the next row
  have hDropped : dropFitting (limit - p.row.width) p.blanks.glyphs.reverse = [] :=
    dropFitting_eq_nil (fun g hg => h.blanks.columns g (List.mem_reverse.mp hg)) (by rw [List.length_reverse]; omega)
  have hLength : p.row.glyphs.reverse.length ≤ limit := by rw [List.length_reverse]; omega
  unfold Progress.breakRow
  dsimp only
  rw [hDropped]
  refine ⟨⟨.empty, .empty, h.word, ?_, List.forall_mem_cons.mpr ⟨hLength, h.done⟩⟩, rfl⟩
  show 0 + 0 + p.word.width ≤ limit
  omega

theorem push (h : p.Narrow limit) {g : Glyph} (hg : g.width = 1)
    (hRoom : p.row.width + p.blanks.width + p.word.width < limit) : (p.push g).Narrow limit := by
  unfold Progress.push
  split
  · refine ⟨h.row, h.blanks.push hg, h.word, ?_, h.done⟩
    show p.row.width + (p.blanks.width + g.width) + p.word.width ≤ limit
    omega
  · refine ⟨h.row, h.blanks, h.word.push hg, ?_, h.done⟩
    show p.row.width + p.blanks.width + (p.word.width + g.width) ≤ limit
    omega

/-- Before a glyph is added the word is shorter than a row. -/
theorem settleBefore (h : p.Narrow limit) {g : Glyph} (hg : g.width = 1) (hLimit : 1 ≤ limit) :
    (p.settleBefore limit g).Narrow limit ∧ (p.settleBefore limit g).word.width < limit := by
  unfold Progress.settleBefore
  dsimp only
  split
  · exact ⟨h.settle, hLimit⟩
  · next hStays =>
    refine ⟨h, ?_⟩
    have hFits := h.fits
    have hRow := h.row.width
    -- a row that holds something leaves less for the word, and an empty one takes in a word that is too long
    by_cases hEmpty : p.row.glyphs = []
    · have hIsEmpty : p.row.isEmpty = true := by rw [Piece.isEmpty, hEmpty]; rfl
      simp only [hIsEmpty, Bool.true_and, Bool.or_eq_true, decide_eq_true_eq, not_or] at hStays
      omega
    · have hLength := List.length_pos_iff.mpr hEmpty
      omega

theorem place (h : p.Narrow limit) {g : Glyph} (hg : g.width = 1) (hWord : p.word.width < limit) :
    (p.place limit g).Narrow limit := by
  obtain ⟨hBroken, hBlanks⟩ := h.breakRow
  unfold Progress.place
  dsimp only
  split
  · split
    · exact hBroken
    · -- the new row begins with the word, which is shorter than a row
      refine hBroken.push hg ?_
      rw [hBlanks]
      show 0 + 0 + p.word.width < limit
      omega
  · next hRoom =>
    simp only [hg, Nat.lt_one_iff, decide_true, Bool.true_and, Bool.or_eq_true, decide_eq_true_eq, not_or] at hRoom
    exact h.push hg (by omega)

theorem step (h : p.Narrow limit) {g : Glyph} (hg : g.width = 1) : (p.step limit g).Narrow limit := by
  rw [Progress.step_eq]
  split
  · exact h
  · obtain ⟨hSettled, hWord⟩ := h.settleBefore hg (by omega)
    exact hSettled.place hg hWord

theorem foldl (h : p.Narrow limit) {glyphs : List Glyph} (hGlyphs : ∀ g ∈ glyphs, g.width = 1) :
    (glyphs.foldl (Progress.step limit) p).Narrow limit := by
  induction glyphs generalizing p with
  | nil => exact h
  | cons g rest ih =>
    obtain ⟨hFirst, hRest⟩ := List.forall_mem_cons.mp hGlyphs
    exact ih (h.step hFirst) hRest

theorem finish (h : p.Narrow limit) : ∀ row ∈ p.finish, row.length ≤ limit := by
  have hLast := h.settle.fits
  have hRow := h.settle.row.width
  exact Progress.finish_forall (Nat.zero_le _) h.done (by rw [List.length_reverse]; omega)

end Progress.Narrow

/-- Of glyphs with one column no row holds more than it has columns. -/
theorem length_wrap_le {lines : List Line} (hGlyphs : ∀ l ∈ lines, ∀ g ∈ l.glyphs {}, g.width = 1) :
    ∀ row ∈ wrap limit lines, row.length ≤ limit := by
  unfold wrap
  split
  · exact List.forall_mem_nil _
  · intro row hRow
    obtain ⟨l, hl, hWrapped⟩ := List.mem_flatMap.mp hRow
    exact ((Progress.Narrow.start limit).foldl (hGlyphs l hl)).finish row hWrapped

/-- A glyph of two columns may leave a row with more columns than it may have. -/
example : (wrap 2 (linesOf "a世cd")).map (fun row => totalOf (row.map Glyph.width)) = [1, 3, 1] := by decide +kernel

/-! ## Drawing the rows -/

open Buffer

variable {R : Nat → Nat → Cell → Cell → Prop} {b : Buffer} {area : Rect} {base : Style} {lines : List Line}

/-- The glyphs of a row are written from its first column on, before the column behind the row. -/
theorem drawRow_changes (hLasting : Lasting R) {row : List Glyph} {x y : Nat}
    (hGlyph : ∀ g ∈ row, ∀ x', x ≤ x' → x' < x + totalOf (row.map Glyph.width) → ∀ c, R x' y c (g.drawn c)) :
    Changes b R (drawRow y row x b) := by
  -- by induction on the glyphs that are left, from any column and buffer
  induction row generalizing x b with
  | nil => exact .refl hLasting.refl b
  | cons g rest ih =>
    have hTotal : totalOf ((g :: rest).map Glyph.width) = g.width + totalOf (rest.map Glyph.width) := rfl
    rw [hTotal] at hGlyph
    obtain ⟨hFirst, hRest⟩ := List.forall_mem_cons.mp hGlyph
    rw [drawRow]
    split
    · -- a glyph without a column is left out
      exact ih fun g' hg' x' hBegin hEnd => hRest g' hg' x' hBegin (by omega)
    · have hHere : Changes b R (b.update x y g.drawn) := by
        refine (update_repaints b x y g.drawn).changes fun x' y' c => ?_
        split
        · next hSame =>
          obtain ⟨rfl, rfl⟩ := hSame
          exact hFirst _ (Nat.le_refl _) (by omega) c
        · exact hLasting.refl _ _ c
      exact hHere.trans (ih fun g' hg' x' hBegin hEnd => hRest g' hg' x' (by omega) (by omega)) hLasting.trans

theorem drawRows_changes (hLasting : Lasting R) {rows : List (List Glyph)} {x y height : Nat}
    (hGlyph : ∀ row ∈ rows, ∀ g ∈ row, ∀ x' y', x ≤ x' → x' < x + totalOf (row.map Glyph.width) →
      y ≤ y' → y' < y + height → ∀ c, R x' y' c (g.drawn c)) :
    Changes b R (drawRows x height y rows b) := by
  -- by induction on the rows of the rectangle that are left; lines beyond them are not drawn
  induction height generalizing y rows b with
  | zero => exact .refl hLasting.refl b
  | succ height ih =>
    cases rows with
    | nil => exact .refl hLasting.refl b
    | cons row rest =>
      obtain ⟨hFirst, hRest⟩ := List.forall_mem_cons.mp hGlyph
      have hHere : Changes b R (drawRow y row x b) :=
        drawRow_changes hLasting fun g hg x' hBegin hEnd => hFirst g hg x' y hBegin hEnd (Nat.le_refl y) (by omega)
      exact hHere.trans (ih fun row' hRow' g hg x' y' hBegin hEnd hTop hBottom =>
        hRest row' hRow' g hg x' y' hBegin hEnd (by omega) (by omega)) hLasting.trans

/-- A paragraph lays its style over the cells of its rectangle, and then writes glyphs: what is said of every glyph in
its cell is said of all that is written. -/
theorem paragraph_changes (hLasting : Lasting R)
    (hGlyph : let part := area.intersection b.area
      ∀ row ∈ wrap part.width.toNat lines, ∀ g ∈ row, ∀ x y, part.left ≤ x →
        x < part.left + totalOf (row.map Glyph.width) → part.top ≤ y → y < part.top + part.height.toNat →
          ∀ c, R x y c (g.drawn c)) :
    ∃ laid, Repaints b (fun x y c => if area.Covers x y then c.withStyle base else c) laid ∧
      Changes laid R (draw b area base lines) := by
  -- of the rectangle only what is on the buffer is drawn, and there is no cell beyond that
  have hPart : ∀ x y i, b.index? x y = some i → ((area.intersection b.area).Covers x y ↔ area.Covers x y) := by
    intro x y i hIndex
    rw [Rect.covers_intersection, and_iff_left_of_imp (covers_of_index? hIndex)]
  unfold draw
  dsimp only
  split
  · next hEmpty =>
    refine ⟨b, (Repaints.refl b).congr fun x y i hIndex c => (if_neg fun hCovers => ?_).symm, .refl hLasting.refl b⟩
    exact Rect.not_covers_of_isEmpty hEmpty x y ((hPart x y i hIndex).mpr hCovers)
  · refine ⟨_, (mapRect_repaints b _ _).congr fun x y i hIndex c => ?_, drawRows_changes hLasting hGlyph⟩
    simp only [hPart x y i hIndex]

theorem totalOf_columns {row : List Glyph} (hRow : ∀ g ∈ row, g.width = 1) :
    totalOf (row.map Glyph.width) = row.length := by
  induction row with
  | nil => rfl
  | cons g rest ih =>
    obtain ⟨hFirst, hRest⟩ := List.forall_mem_cons.mp hRow
    show g.width + totalOf (rest.map Glyph.width) = rest.length + 1
    rw [hFirst, ih hRest, Nat.add_comm]

/-- Lines of glyphs with one column are drawn within the rectangle. -/
theorem draw_within_of_narrow (hGlyphs : ∀ l ∈ lines, ∀ g ∈ l.glyphs {}, g.width = 1) :
    Changes b (fun x y c c' => area.Covers x y ∨ c' = c) (draw b area base lines) := by
  have hLasting : Lasting fun x y (c c' : Cell) => area.Covers x y ∨ c' = c :=
    .beside area.Covers (fun _ => rfl) fun hFirst hSecond => hSecond.trans hFirst
  have hWritten : ∃ laid, Repaints b (fun x y c => if area.Covers x y then c.withStyle base else c) laid ∧
      Changes laid (fun x y c c' => area.Covers x y ∨ c' = c) (draw b area base lines) := by
    refine paragraph_changes hLasting fun row hRow g hg x y hLeft hRight hTop hBottom c => .inl ?_
    have hColumns : ∀ g ∈ row, g.width = 1 := by
      intro g' hg'
      obtain ⟨l, hl, hOf⟩ := mem_wrap hRow hg'
      exact hGlyphs l hl g' hOf
    have hLength := length_wrap_le hGlyphs row hRow
    rw [totalOf_columns hColumns] at hRight
    have hPart : (area.intersection b.area).Covers x y :=
      (Rect.covers_iff_of_onScreen (Rect.onScreen_intersection area b.area) x y).mpr
        ⟨⟨hLeft, by omega⟩, hTop, hBottom⟩
    exact ((Rect.covers_intersection area b.area x y).mp hPart).1
  obtain ⟨laid, hLaid, hChanges⟩ := hWritten
  refine (hLaid.changes fun x y c => ?_).trans hChanges hLasting.trans
  split
  · next hCovers => exact .inl hCovers
  · exact .inr rfl

/-- Glyphs without a background of their own leave the one of the paragraph. -/
theorem draw_background (hGlyphs : ∀ l ∈ lines, ∀ g ∈ l.glyphs {}, g.style.bg = none) :
    Changes b (fun x y c c' => c'.bg = if area.Covers x y then base.bg.getD c.bg else c.bg)
      (draw b area base lines) := by
  have hLasting : Lasting fun _ _ (c c' : Cell) => c'.bg = c.bg :=
    ⟨fun _ _ _ => rfl, fun hFirst hSecond => hSecond.trans hFirst⟩
  have hWritten : ∃ laid, Repaints b (fun x y c => if area.Covers x y then c.withStyle base else c) laid ∧
      Changes laid (fun _ _ c c' => c'.bg = c.bg) (draw b area base lines) := by
    refine paragraph_changes hLasting fun row hRow g hg x y _ _ _ _ c => ?_
    obtain ⟨l, hl, hOf⟩ := mem_wrap hRow hg
    show g.style.bg.getD c.bg = c.bg
    rw [hGlyphs l hl g hOf]
    rfl
  obtain ⟨laid, hLaid, hChanges⟩ := hWritten
  refine (hLaid.changes (R := fun x y c c' => c' = if area.Covers x y then c.withStyle base else c)
    fun x y c => rfl).trans hChanges ?_
  rintro x y c c' c'' rfl hKept
  rw [hKept, apply_ite Cell.bg]
  rfl

end Paragraph

end GuidedTour.Screen
