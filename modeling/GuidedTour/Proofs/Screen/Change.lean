import GuidedTour.Proofs.Screen.Repaint

/-!
# What a drawing may change

Not every drawing is known cell by cell, as `Repaints` asks for: what a text puts into a cell depends on how it is
wrapped. `Changes b R b'` says less, namely that each cell of `b'` came of the one of `b` in a way that `R` allows. Such
statements are chained over the parts of a drawing and over the turns of a loop.

Main results:

* `Changes.trans`, `Changes.foldl` - drawings one after the other.
* `mapBounds_repaints` - only cells of the area are drawn that lie within the bounds.
-/

namespace GuidedTour

open Screen

namespace Screen.Buffer

/-- Every cell of `b'` came of the one of `b` as `R` allows, by column and row. -/
structure Changes (b : Buffer) (R : Nat → Nat → Cell → Cell → Prop) (b' : Buffer) : Prop where
  area : b'.area = b.area
  cell : ∀ x y, Option.Rel (R x y) (b.cell? x y) (b'.cell? x y)

/-- A way of changing cells that allows for no change, and for one change after another. -/
structure Lasting (R : Nat → Nat → Cell → Cell → Prop) : Prop where
  refl  : ∀ x y c, R x y c c
  trans : ∀ {x y c c' c''}, R x y c c' → R x y c' c'' → R x y c c''

/-- Anything may become of the cells of a region, and the others change in a way that lasts. -/
theorem Lasting.beside (P : Nat → Nat → Prop) {Q : Cell → Cell → Prop} (hRefl : ∀ c, Q c c)
    (hTrans : ∀ {c c' c''}, Q c c' → Q c' c'' → Q c c'') : Lasting fun x y c c' => P x y ∨ Q c c' where
  refl := fun _ _ c => .inr (hRefl c)
  trans := by
    rintro x y c c' c'' (hRegion | hFirst) hSecond
    · exact .inl hRegion
    · exact hSecond.imp_right (hTrans hFirst)

variable {b b' b'' : Buffer} {R S T : Nat → Nat → Cell → Cell → Prop}

theorem Repaints.changes {f : Nat → Nat → Cell → Cell} (h : Repaints b f b') (hAllowed : ∀ x y c, R x y c (f x y c)) :
    Changes b R b' where
  area := h.area
  cell := by
    intro x y
    rw [h.cell?_eq]
    cases b.cell? x y with
    | none => exact .none
    | some c => exact .some (hAllowed x y c)

namespace Changes

theorem refl (hAllowed : ∀ x y c, R x y c c) (b : Buffer) : Changes b R b := (Repaints.refl b).changes hAllowed

theorem trans (h : Changes b R b') (h' : Changes b' S b'')
    (hBoth : ∀ {x y c c' c''}, R x y c c' → S x y c' c'' → T x y c c'') : Changes b T b'' where
  area := h'.area.trans h.area
  cell := by
    intro x y
    have hFirst := h.cell x y
    have hSecond := h'.cell x y
    revert hFirst hSecond
    cases b.cell? x y <;> cases b'.cell? x y <;> cases b''.cell? x y <;> rintro ⟨⟩ ⟨⟩
    · exact .none
    · next hc hc' => exact .some (hBoth hc hc')

theorem imp (h : Changes b R b') (hWeaker : ∀ {x y c c'}, R x y c c' → S x y c c') : Changes b S b' where
  area := h.area
  cell := by
    intro x y
    have hCell := h.cell x y
    revert hCell
    cases b.cell? x y <;> cases b'.cell? x y <;> rintro ⟨⟩
    · exact .none
    · next hc => exact .some (hWeaker hc)

/-- A loop changes cells as its turns do. -/
theorem foldl {ι : Type} (hLasting : Lasting R) {step : Buffer → ι → Buffer} {turns : List ι}
    (hStep : ∀ b, ∀ i ∈ turns, Changes b R (step b i)) (b : Buffer) : Changes b R (turns.foldl step b) := by
  induction turns generalizing b with
  | nil => exact .refl hLasting.refl b
  | cons i rest ih =>
    have hRest := ih (fun b j hj => hStep b j (List.mem_cons_of_mem i hj)) (step b i)
    exact (hStep b i List.mem_cons_self).trans hRest hLasting.trans

/-- A part of a drawing that there may be or not. -/
theorem elim {α : Type} {part : Option α} {draw : α → Buffer} (hAllowed : ∀ x y c, R x y c c)
    (hPart : ∀ a ∈ part, Changes b R (draw a)) : Changes b R (part.elim b draw) := by
  cases part with
  | none => exact .refl hAllowed b
  | some a => exact hPart a rfl

/-- A cell that may not be changed stays. -/
theorem kept (h : Changes b R b') {x y : Nat} (hKeeps : ∀ c c', R x y c c' → c' = c) :
    b'.cell? x y = b.cell? x y := by
  have hCell := h.cell x y
  revert hCell
  cases b.cell? x y <;> cases b'.cell? x y <;> rintro ⟨⟩
  · rfl
  · next hc => rw [hKeeps _ _ hc]

/-- What a drawing leaves in a cell. -/
theorem reached (h : Changes b R b') {x y : Nat} {c' : Cell} (hCell : b'.cell? x y = some c') :
    ∃ c, b.cell? x y = some c ∧ R x y c c' := by
  have hBoth := h.cell x y
  rw [hCell] at hBoth
  revert hBoth
  cases b.cell? x y <;> rintro ⟨⟩
  next hc => exact ⟨_, rfl, hc⟩

end Changes

end Screen.Buffer

/-! ## Bounds -/

open Screen.Buffer

/-- Bounds are clipped to the cells of the area that lie within them. -/
theorem Bounds.covers_clip (bounds : Bounds) (area : Rect) (x y : Nat) :
    (∃ r ∈ bounds.clip area, r.Covers x y) ↔ area.Covers x y ∧ bounds.Covers x y :=
  Bounds.covers_clipEdges bounds.left bounds.top bounds.right bounds.bottom area x y

/-- Drawing within bounds changes the cells of the area that lie within them, each once. -/
theorem Bubble.mapBounds_repaints (b : Buffer) (area : Rect) (bounds : Bounds) (f : Nat → Nat → Cell → Cell) :
    Repaints b (fun x y c => if area.Covers x y ∧ bounds.Covers x y then f x y c else c)
      (mapBounds b area bounds f) := by
  unfold mapBounds
  cases hClip : bounds.clip area with
  | none =>
    -- nothing of the bounds lies in the area, so the condition holds of no cell
    refine (Repaints.refl b).congr fun x y _ _ c => (if_neg fun hCovers => ?_).symm
    obtain ⟨r, hr, -⟩ := (bounds.covers_clip area x y).mpr hCovers
    rw [hClip] at hr
    cases hr
  | some visible =>
    refine (mapRect_repaints b visible f).congr fun x y _ _ c => ?_
    have hSame : visible.Covers x y ↔ area.Covers x y ∧ bounds.Covers x y := by
      rw [← bounds.covers_clip area x y, hClip]
      simp
    simp only [hSame]

end GuidedTour
