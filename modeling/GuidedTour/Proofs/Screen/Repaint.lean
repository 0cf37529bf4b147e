import GuidedTour.Proofs.Screen.Coverage

/-!
# Repainting a buffer

Every drawing operation changes the cells of a buffer one by one, each from its column and row. `Repaints b f b'` says
so of a whole drawing: the cell at each position of `b` goes through `f`, and nothing else changes. Two drawings that
put the same into each cell make the same buffer, in whatever order or pieces they were made.

Main results:

* `Repaints.trans` / `Repaints.congr` - drawings one after the other, and the same drawing said otherwise.
* `Repaints.unique` - a drawing is determined by what it puts into each cell.
* `Repaints.foldl_range` - a loop of which every turn has cells of its own.
* `mapRect_repaints` / `foldl_mapRect_repaints` - a rectangle, and rectangles that do not overlap.
-/

namespace GuidedTour.Screen

namespace Buffer

/-! ## Positions and indices -/

theorem index?_eq_some {b : Buffer} {x y i : Nat} (h : b.index? x y = some i) :
    (b.area.left ≤ x ∧ x < b.area.left + b.area.width.toNat ∧
      b.area.top ≤ y ∧ y < b.area.top + b.area.height.toNat) ∧
      i = (y - b.area.top) * b.area.width.toNat + (x - b.area.left) := by
  unfold index? at h
  split at h
  · next hInside => exact ⟨hInside, (Option.some.inj h).symm⟩
  · cases h

/-- No two positions share a cell. -/
theorem index?_inj {b : Buffer} {x y x' y' i : Nat} (h : b.index? x y = some i) (h' : b.index? x' y' = some i) :
    x = x' ∧ y = y' := by
  obtain ⟨⟨hLeft, hRight, hTop, -⟩, hIndex⟩ := index?_eq_some h
  obtain ⟨⟨hLeft', hRight', hTop', -⟩, hIndex'⟩ := index?_eq_some h'
  have hColumn : x - b.area.left < b.area.width.toNat := by omega
  have hColumn' : x' - b.area.left < b.area.width.toNat := by omega
  have hSame := hIndex.symm.trans hIndex'
  -- the row is the quotient by the width and the column the remainder
  have hRow : y - b.area.top = y' - b.area.top := by
    have hQuotient := congrArg (· / b.area.width.toNat) hSame
    have hWidth := Nat.zero_lt_of_lt hColumn
    simpa only [Nat.add_comm _ (_ - b.area.left), Nat.add_mul_div_right _ _ hWidth, Nat.div_eq_of_lt hColumn,
      Nat.div_eq_of_lt hColumn', Nat.zero_add] using hQuotient
  rw [hRow] at hSame
  omega

theorem index?_congr {b b' : Buffer} (h : b'.area = b.area) (x y : Nat) : b'.index? x y = b.index? x y := by
  unfold index?
  rw [h]

/-! ## Repainting -/

/-- `b'` is `b` with the cell at each column and row changed by `f`. -/
structure Repaints (b : Buffer) (f : Nat → Nat → Cell → Cell) (b' : Buffer) : Prop where
  area : b'.area = b.area
  cell : ∀ x y i, b.index? x y = some i → b'.cells[i]? = b.cells[i]?.map (f x y)
  /-- A buffer may hold cells that have no position. -/
  rest : ∀ i, (∀ x y, b.index? x y ≠ some i) → b'.cells[i]? = b.cells[i]?

namespace Repaints

variable {b b' b'' : Buffer} {f g : Nat → Nat → Cell → Cell}

theorem refl (b : Buffer) : Repaints b (fun _ _ c => c) b where
  area := rfl
  cell := by
    intro x y i _
    cases b.cells[i]? <;> rfl
  rest := fun _ _ => rfl

/-- One drawing after another changes each cell by both. -/
theorem trans (h : Repaints b f b') (h' : Repaints b' g b'') : Repaints b (fun x y c => g x y (f x y c)) b'' where
  area := h'.area.trans h.area
  cell := by
    intro x y i hIndex
    rw [h'.cell x y i (by rw [index?_congr h.area, hIndex]), h.cell x y i hIndex, Option.map_map]
    rfl
  rest := by
    intro i hNowhere
    have hNowhere' : ∀ x y, b'.index? x y ≠ some i := by
      intro x y
      rw [index?_congr h.area]
      exact hNowhere x y
    rw [h'.rest i hNowhere', h.rest i hNowhere]

/-- Only what is put into the buffer's own cells counts. -/
theorem congr (h : Repaints b f b') (hSame : ∀ x y i, b.index? x y = some i → ∀ c, f x y c = g x y c) :
    Repaints b g b' where
  area := h.area
  cell := by
    intro x y i hIndex
    rw [h.cell x y i hIndex, funext (hSame x y i hIndex)]
  rest := h.rest

/-- What is put into each cell determines the buffer. -/
theorem unique (h : Repaints b f b') (h' : Repaints b f b'') : b' = b'' := by
  have hCells : b'.cells = b''.cells := by
    refine Array.ext_getElem? fun i => ?_
    by_cases hSomewhere : ∃ x y, b.index? x y = some i
    · obtain ⟨x, y, hIndex⟩ := hSomewhere
      rw [h.cell x y i hIndex, h'.cell x y i hIndex]
    · have hNowhere : ∀ x y, b.index? x y ≠ some i := fun x y hIndex => hSomewhere ⟨x, y, hIndex⟩
      rw [h.rest i hNowhere, h'.rest i hNowhere]
  obtain ⟨area', cells'⟩ := b'
  obtain ⟨area'', cells''⟩ := b''
  obtain rfl : area' = area'' := h.area.trans h'.area.symm
  obtain rfl : cells' = cells'' := hCells
  rfl

/-- What a repainted buffer shows at a column and a row. -/
theorem cell?_eq (h : Repaints b f b') (x y : Nat) : b'.cell? x y = (b.cell? x y).map (f x y) := by
  unfold cell?
  rw [index?_congr h.area]
  cases hIndex : b.index? x y with
  | none => rfl
  | some i => exact h.cell x y i hIndex

end Repaints

/-! ## Loops -/

/-- A loop changes each cell by its turns, one after the other. -/
theorem Repaints.foldl {ι : Type} {step : Buffer → ι → Buffer} {f : ι → Nat → Nat → Cell → Cell} {turns : List ι}
    (hStep : ∀ b, ∀ i ∈ turns, Repaints b (f i) (step b i)) (b : Buffer) :
    Repaints b (fun x y c => turns.foldl (fun c i => f i x y c) c) (turns.foldl step b) := by
  induction turns generalizing b with
  | nil => exact .refl b
  | cons i rest ih =>
    exact (hStep b i List.mem_cons_self).trans (ih (fun b j hj => hStep b j (List.mem_cons_of_mem i hj)) (step b i))

/-- If one turn only does something, it is as if there were no others. -/
theorem foldl_range_of_only {α : Type} {P : Nat → Prop} [DecidablePred P] {g : Nat → α → α} {k : Nat}
    (hOnly : ∀ i, P i → i = k) (n : Nat) (a : α) :
    (List.range n).foldl (fun a i => if P i then g i a else a) a = if k < n ∧ P k then g k a else a := by
  induction n with
  | zero => rfl
  | succ n ih =>
    rw [List.range_succ, List.foldl_append, ih, List.foldl_cons, List.foldl_nil]
    by_cases hLast : P n
    · obtain rfl := hOnly n hLast
      simp [hLast]
    · -- the turn that counts is none or an earlier one
      have hSame : k < n ∧ P k ↔ k < n + 1 ∧ P k := by
        refine and_congr_left fun hTurn => ⟨Nat.lt_succ_of_lt, fun hEarlier => ?_⟩
        refine Nat.lt_of_le_of_ne (Nat.le_of_lt_succ hEarlier) ?_
        rintro rfl
        exact hLast hTurn
      simp only [if_neg hLast, hSame]

/-- A loop of which every turn has cells of its own. -/
theorem Repaints.foldl_range {step : Buffer → Nat → Buffer} {P : Nat → Nat → Nat → Prop} [∀ i x y, Decidable (P i x y)]
    {g : Nat → Nat → Nat → Cell → Cell} {n : Nat} (turn : Nat → Nat → Nat) (hOnly : ∀ i x y, P i x y → i = turn x y)
    (hStep : ∀ b, ∀ i < n, Repaints b (fun x y c => if P i x y then g i x y c else c) (step b i)) (b : Buffer) :
    Repaints b (fun x y c => if turn x y < n ∧ P (turn x y) x y then g (turn x y) x y c else c)
      ((List.range n).foldl step b) := by
  refine (Repaints.foldl (fun b i hi => hStep b i (List.mem_range.mp hi)) b).congr fun x y _ _ c => ?_
  exact foldl_range_of_only (fun i => hOnly i x y) n c

/-! ## The drawing operations -/

theorem update_repaints (b : Buffer) (x y : Nat) (f : Cell → Cell) :
    Repaints b (fun x' y' c => if x' = x ∧ y' = y then f c else c) (b.update x y f) := by
  unfold update
  cases hHere : b.index? x y with
  | none =>
    -- a position outside is no position of a cell
    refine (Repaints.refl b).congr fun x' y' i hIndex c => (if_neg ?_).symm
    rintro ⟨rfl, rfl⟩
    rw [hHere] at hIndex
    cases hIndex
  | some j =>
    refine ⟨rfl, fun x' y' i hIndex => ?_, fun i hNowhere => ?_⟩
    · rw [Array.getElem?_modify]
      by_cases hSame : x' = x ∧ y' = y
      · obtain ⟨rfl, rfl⟩ := hSame
        obtain rfl : j = i := Option.some.inj (hHere.symm.trans hIndex)
        simp
      · have hOther : j ≠ i := by
          rintro rfl
          exact hSame (index?_inj hIndex hHere)
        simp [hSame, hOther]
    · have hOther : j ≠ i := by
        rintro rfl
        exact hNowhere x y hHere
      rw [Array.getElem?_modify, if_neg hOther]

theorem mapRow_repaints (f : Nat → Cell → Cell) (y n x : Nat) (b : Buffer) :
    Repaints b (fun x' y' c => if y' = y ∧ x ≤ x' ∧ x' < x + n then f x' c else c) (mapRow f y n x b) := by
  -- by induction on the cells that are left, from any column and buffer
  induction n generalizing x b with
  | zero =>
    refine (Repaints.refl b).congr fun x' y' i _ c => (if_neg ?_).symm
    omega
  | succ n ih =>
    refine ((update_repaints b x y (f x)).trans (ih (x + 1) (b.update x y (f x)))).congr ?_
    intro x' y' i _ c
    by_cases hHere : x' = x ∧ y' = y
    · obtain ⟨rfl, rfl⟩ := hHere
      -- the cell is drawn now and lies before all that are left
      have hBehind : ¬ (y' = y' ∧ x' + 1 ≤ x' ∧ x' < x' + 1 + n) := by omega
      have hFirst : y' = y' ∧ x' ≤ x' ∧ x' < x' + (n + 1) := by omega
      rw [if_neg hBehind, if_pos ⟨rfl, rfl⟩, if_pos hFirst]
    · have hLater : (y' = y ∧ x + 1 ≤ x' ∧ x' < x + 1 + n) ↔ (y' = y ∧ x ≤ x' ∧ x' < x + (n + 1)) := by omega
      simp only [if_neg hHere, hLater]

theorem mapRows_repaints (f : Nat → Nat → Cell → Cell) (x width n y : Nat) (b : Buffer) :
    Repaints b (fun x' y' c => if (x ≤ x' ∧ x' < x + width) ∧ y ≤ y' ∧ y' < y + n then f x' y' c else c)
      (mapRows f x width n y b) := by
  induction n generalizing y b with
  | zero =>
    refine (Repaints.refl b).congr fun x' y' i _ c => (if_neg ?_).symm
    omega
  | succ n ih =>
    refine ((mapRow_repaints (fun x' => f x' y) y width x b).trans (ih (y + 1) _)).congr ?_
    intro x' y' i _ c
    by_cases hHere : y' = y ∧ x ≤ x' ∧ x' < x + width
    · obtain ⟨rfl, hColumns⟩ := hHere
      have hBehind : ¬ ((x ≤ x' ∧ x' < x + width) ∧ y' + 1 ≤ y' ∧ y' < y' + 1 + n) := by omega
      have hFirst : (x ≤ x' ∧ x' < x + width) ∧ y' ≤ y' ∧ y' < y' + (n + 1) := by omega
      rw [if_neg hBehind, if_pos ⟨rfl, hColumns⟩, if_pos hFirst]
    · have hLater : ((x ≤ x' ∧ x' < x + width) ∧ y + 1 ≤ y' ∧ y' < y + 1 + n) ↔
          ((x ≤ x' ∧ x' < x + width) ∧ y ≤ y' ∧ y' < y + (n + 1)) := by omega
      simp only [if_neg hHere, hLater]

/-- A cell on the screen that has a position is in the buffer. -/
theorem covers_of_index? {b : Buffer} {x y i : Nat} (hIndex : b.index? x y = some i) {r : Rect} (hCovers : r.Covers x y) :
    b.area.Covers x y := by
  obtain ⟨hInside, -⟩ := index?_eq_some hIndex
  obtain ⟨-, hRight, -, hBottom⟩ := hCovers
  have hRightEnd := r.right_le
  have hBottomEnd := r.bottom_le
  unfold Rect.left Rect.top at hInside
  unfold Rect.Covers Rect.left Rect.right Rect.top Rect.bottom
  omega

/-- Drawing into a rectangle changes the buffer's cells that the rectangle covers, each once. -/
theorem mapRect_repaints (b : Buffer) (r : Rect) (f : Nat → Nat → Cell → Cell) :
    Repaints b (fun x y c => if r.Covers x y then f x y c else c) (b.mapRect r f) := by
  refine (mapRows_repaints f _ _ _ _ b).congr fun x y i hIndex c => ?_
  -- the common part with the buffer is drawn
  have hPart := (Rect.covers_iff_of_onScreen (Rect.onScreen_intersection b.area r) x y).symm.trans
    (Rect.covers_intersection b.area r x y)
  simp only [hPart, and_iff_right_of_imp (covers_of_index? hIndex)]

/-- Drawing the same into rectangles that do not overlap changes each cell that one of them covers once. -/
theorem foldl_mapRect_repaints (f : Nat → Nat → Cell → Cell) (rects : List Rect) (b : Buffer)
    (hApart : rects.Pairwise fun r s => ∀ x y, r.Covers x y → ¬ s.Covers x y) :
    Repaints b (fun x y c => if ∃ r ∈ rects, r.Covers x y then f x y c else c)
      (rects.foldl (fun b r => b.mapRect r f) b) := by
  induction rects generalizing b with
  | nil => exact (Repaints.refl b).congr fun x y i _ c => by simp
  | cons r rest ih =>
    obtain ⟨hHead, hRest⟩ := List.pairwise_cons.mp hApart
    refine ((mapRect_repaints b r f).trans (ih (b.mapRect r f) hRest)).congr fun x y i _ c => ?_
    by_cases hHere : r.Covers x y
    · -- no later rectangle covers the cell again
      have hNoMore : ¬ ∃ s ∈ rest, s.Covers x y := fun ⟨s, hs, hCovers⟩ => hHead s hs x y hHere hCovers
      simp [hHere, hNoMore]
    · simp [hHere]

end Buffer

end GuidedTour.Screen
