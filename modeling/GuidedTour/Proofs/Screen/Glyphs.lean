import GuidedTour.Proofs.Screen.Paragraph

/-!
# A paragraph cell by cell

What a paragraph makes of a cell depends on the cell alone: the style of the paragraph is laid over it if it is in the
rectangle, and the glyph that begins there, if one does, is written into it. The rows begin where the rectangle does, and
none is begun above or below it; but a row may be too long, so that a glyph begins beyond the right side.

Main results:

* `draw_repaints` - a paragraph is drawn by what it makes of each cell.
* `written_of_outside` - nothing is written above, below and to the left of the rectangle.
* `written_of_narrow` - and nothing to its right, if all glyphs have one column.
-/

namespace GuidedTour.Screen.Paragraph

open Buffer

/-! ## Rows -/

/-- The glyph that begins in a column of a row, counted from the row's first one. -/
def glyphAt : List Glyph → Nat → Option Glyph
  | [], _ => none
  | g :: rest, column =>
    if g.width = 0 then glyphAt rest column
    else if column = 0 then some g
    else if column < g.width then none
    else glyphAt rest (column - g.width)

/-- A cell with a glyph, if there is one. -/
def inked (g : Option Glyph) (c : Cell) : Cell := g.elim c fun g => g.drawn c

/-- A row is written glyph by glyph, each into the cell where it begins. -/
theorem drawRow_repaints (row : List Glyph) (x y : Nat) (b : Buffer) :
    Repaints b (fun x' y' c => if y' = y ∧ x ≤ x' then inked (glyphAt row (x' - x)) c else c) (drawRow y row x b) := by
  -- by induction on the glyphs that are left, from any column and buffer
  induction row generalizing x b with
  | nil =>
    refine (Repaints.refl b).congr fun x' y' _ _ c => ?_
    split <;> rfl
  | cons g rest ih =>
    rw [drawRow]
    split
    · next hNothing =>
      refine (ih x b).congr fun x' y' _ _ c => ?_
      rw [glyphAt, if_pos hNothing]
    · next hWidth =>
      refine ((update_repaints b x y g.drawn).trans (ih (x + g.width) _)).congr fun x' y' _ _ c => ?_
      by_cases hRow : y' = y ∧ x ≤ x'
      · obtain ⟨rfl, hFrom⟩ := hRow
        rw [if_pos (c := y' = y' ∧ x ≤ x') ⟨rfl, hFrom⟩, glyphAt, if_neg hWidth]
        by_cases hHere : x' = x
        · -- the glyph is written now, and those that are left begin behind it
          subst hHere
          rw [if_neg (by omega), if_pos ⟨rfl, rfl⟩, Nat.sub_self, if_pos rfl]
          rfl
        · rw [if_neg (c := x' = x ∧ y' = y') fun h => hHere h.1, if_neg (c := x' - x = 0) (by omega)]
          by_cases hUnder : x' - x < g.width
          · rw [if_neg (by omega), if_pos hUnder]
            rfl
          · rw [if_pos ⟨rfl, by omega⟩, if_neg hUnder, Nat.sub_sub]
      · rw [if_neg (by omega), if_neg (by omega), if_neg hRow]

/-- Rows are written one below the other, as many as there is height. -/
theorem drawRows_repaints (rows : List (List Glyph)) (x height y : Nat) (b : Buffer) :
    Repaints b (fun x' y' c => if (y ≤ y' ∧ y' < y + height) ∧ x ≤ x'
        then inked (rows[y' - y]?.bind (glyphAt · (x' - x))) c else c)
      (drawRows x height y rows b) := by
  induction height generalizing y rows b with
  | zero =>
    refine (Repaints.refl b).congr fun x' y' _ _ c => (if_neg ?_).symm
    omega
  | succ height ih =>
    cases rows with
    | nil =>
      refine (Repaints.refl b).congr fun x' y' _ _ c => ?_
      split <;> rfl
    | cons row rest =>
      refine ((drawRow_repaints row x y b).trans (ih rest (y + 1) _)).congr fun x' y' _ _ c => ?_
      by_cases hRow : y' = y ∧ x ≤ x'
      · obtain ⟨rfl, hFrom⟩ := hRow
        rw [if_neg (by omega), if_pos ⟨rfl, hFrom⟩, if_pos ⟨by omega, hFrom⟩, Nat.sub_self]
        rfl
      · rw [if_neg hRow]
        by_cases hLater : (y + 1 ≤ y' ∧ y' < y + 1 + height) ∧ x ≤ x'
        · have hIndex : y' - y = y' - (y + 1) + 1 := by omega
          rw [if_pos hLater, if_pos (by omega), hIndex, List.getElem?_cons_succ]
        · rw [if_neg hLater, if_neg (by omega)]

/-! ## Paragraphs -/

/-- The glyph that a paragraph writes into a cell of a screen. Its rows are wrapped for what the screen has of its
rectangle. -/
def written (screen area : Rect) (lines : List Line) (x y : Nat) : Option Glyph :=
  let part := area.intersection screen
  if (part.top ≤ y ∧ y < part.top + part.height.toNat) ∧ part.left ≤ x
  then (wrap part.width.toNat lines)[y - part.top]?.bind (glyphAt · (x - part.left))
  else none

theorem written_of_isEmpty {screen area : Rect} (hEmpty : (area.intersection screen).isEmpty = true) (lines : List Line)
    (x y : Nat) : written screen area lines x y = none := by
  unfold written
  dsimp only
  split
  · next hInside =>
    -- there is a row, so there is no column, and for no column nothing is wrapped
    have hNarrow : (area.intersection screen).width.toNat = 0 := by
      simp only [Rect.isEmpty, Bool.or_eq_true, beq_iff_eq, ← UInt16.toNat_inj, UInt16.toNat_zero] at hEmpty
      omega
    rw [hNarrow]
    rfl
  · rfl

/-- What a paragraph makes of a cell of a screen. -/
def mark (screen area : Rect) (base : Style) (lines : List Line) (x y : Nat) (c : Cell) : Cell :=
  inked (written screen area lines x y) (if area.Covers x y then c.withStyle base else c)

/-- A paragraph is drawn by what it makes of each cell. -/
theorem draw_repaints (b : Buffer) (area : Rect) (base : Style) (lines : List Line) :
    Repaints b (mark b.area area base lines) (draw b area base lines) := by
  have hPart : ∀ x y i, b.index? x y = some i → ((area.intersection b.area).Covers x y ↔ area.Covers x y) := by
    intro x y i hIndex
    rw [Rect.covers_intersection, and_iff_left_of_imp (covers_of_index? hIndex)]
  unfold draw
  dsimp only
  split
  · next hEmpty =>
    refine (Repaints.refl b).congr fun x y i hIndex c => ?_
    have hOutside : ¬ area.Covers x y :=
      fun hCovers => Rect.not_covers_of_isEmpty hEmpty x y ((hPart x y i hIndex).mpr hCovers)
    rw [mark, written_of_isEmpty hEmpty, if_neg hOutside]
    rfl
  · refine ((mapRect_repaints b _ _).trans (drawRows_repaints _ _ _ _ _)).congr fun x y i hIndex c => ?_
    simp only [hPart x y i hIndex]
    unfold mark written
    dsimp only
    split <;> rfl

/-! ## Where nothing is written -/

variable {screen area : Rect} {lines : List Line} {x y : Nat}

/-- Rows are begun in the rectangle only, and go to the right. -/
theorem written_of_outside (hOutside : ¬ ((area.top ≤ y ∧ y < area.bottom) ∧ area.left ≤ x)) :
    written screen area lines x y = none := by
  obtain ⟨hLeft, hTop, -, hHeight⟩ := Rect.intersection_edges area screen
  refine if_neg fun hInside => hOutside ?_
  unfold Rect.top Rect.left at hInside
  rw [hTop, hLeft, hHeight] at hInside
  omega

/-- A glyph that begins in a column of a row is one of the row's, and begins before the row ends. -/
theorem glyphAt_eq_some {row : List Glyph} {column : Nat} {g : Glyph} (hHere : glyphAt row column = some g) :
    g ∈ row ∧ column < totalOf (row.map Glyph.width) := by
  induction row generalizing column with
  | nil => cases hHere
  | cons first rest ih =>
    have hTotal : totalOf ((first :: rest).map Glyph.width) = first.width + totalOf (rest.map Glyph.width) := rfl
    rw [hTotal]
    rw [glyphAt] at hHere
    split at hHere
    · obtain ⟨hMem, hBefore⟩ := ih hHere
      exact ⟨List.mem_cons_of_mem _ hMem, by omega⟩
    · split at hHere
      · obtain rfl := Option.some.inj hHere
        exact ⟨List.mem_cons_self, by omega⟩
      · split at hHere
        · cases hHere
        · obtain ⟨hMem, hBefore⟩ := ih hHere
          exact ⟨List.mem_cons_of_mem _ hMem, by omega⟩

/-- Glyphs of one column are written in the rectangle only. -/
theorem written_of_narrow (hGlyphs : ∀ l ∈ lines, ∀ g ∈ l.glyphs {}, g.width = 1) (hOutside : ¬ area.Covers x y) :
    written screen area lines x y = none := by
  refine Option.eq_none_iff_forall_ne_some.mpr fun g hWritten => hOutside ?_
  unfold written at hWritten
  dsimp only at hWritten
  split at hWritten
  · next hInside =>
    obtain ⟨row, hRow, hHere⟩ := Option.bind_eq_some_iff.mp hWritten
    have hMem : row ∈ wrap (area.intersection screen).width.toNat lines := List.mem_of_getElem? hRow
    have hColumns : ∀ g ∈ row, g.width = 1 := by
      intro g' hg'
      obtain ⟨l, hl, hOf⟩ := mem_wrap hMem hg'
      exact hGlyphs l hl g' hOf
    -- a row of such glyphs is no longer than what it was wrapped for
    have hLength := length_wrap_le hGlyphs row hMem
    obtain ⟨-, hBefore⟩ := glyphAt_eq_some hHere
    rw [totalOf_columns hColumns] at hBefore
    have hPart : (area.intersection screen).Covers x y :=
      (Rect.covers_iff_of_onScreen (Rect.onScreen_intersection area screen) x y).mpr ⟨⟨hInside.2, by omega⟩, hInside.1⟩
    exact ((Rect.covers_intersection area screen x y).mp hPart).1
  · cases hWritten

end GuidedTour.Screen.Paragraph
