import GuidedTour.Proofs.Bubble.Placement
import GuidedTour.Proofs.Bubble.Rest

/-!
# Bubbles that cannot be placed

A bubble that is tied to a view can be placed in a frame exactly if the view is registered there. What a frame makes of
it otherwise depends on the frames before: as long as it was not placed for its step, the mark that its constraints
belong to an earlier step hides it; but once it was, the mark is gone, and a frame that fails to place it leaves it
where it stands, to be drawn there and to cover the positions there.

Main results:

* `layout_registered`, `layout_unregistered` - a bubble tied to a view can be placed if the view is registered.
* `Standing.next` - what is known of a bubble after one more frame of its step.
* `Standing.unplaced` - what there is to see of a bubble in a frame that cannot place it.
-/

namespace GuidedTour

open Layout Motion Screen

/-- Whether a view was registered in any of some frames, by the anchors that each of them was drawn against. -/
def Layout.Registered (id : String) (frames : List Anchors) : Prop :=
  ∃ anchors ∈ frames, (anchors.resolve id).isSome = true

theorem Layout.registered_concat {id : String} {frames : List Anchors} {last : Anchors} :
    Registered id (frames ++ [last]) ↔ Registered id frames ∨ (last.resolve id).isSome = true := by
  simp only [Registered, List.mem_append, List.mem_singleton, or_and_right, exists_or, exists_eq_left]

/-! ## Bubbles that are tied to a view -/

/-- The first constraint on the horizontal axis decides whether there is anything to solve. -/
theorem Layout.solve_unresolved {c : Constraint} {rest : List Constraint} {ctx : Context} {e : PlacementError}
    (hAxis : c.axis = .horizontal) (hFirst : ctx.resolve c.reference = .error e) (size : CellSize) :
    solve (c :: rest) size ctx = .error e := by
  have hRequest : ctx.request size.width c = .error e := by
    rw [Context.request, hFirst]
    rfl
  have hSolved : solveAxis (c :: rest) .horizontal size.width ctx = .error e := by
    rw [solveAxis, List.filter_cons_of_pos (by rw [hAxis]; rfl), List.mapM_cons, hRequest]
    rfl
  rw [solve, hSolved]
  rfl

namespace Bubble.View

section Tied

variable {v : View} {step : Step} {id : String} {location : TextLocation} {ctx : Context}

theorem layout_registered (hShows : v.Shows step.kind) (hKind : step.kind = .highlighted (.view id) location)
    (hHere : (ctx.anchors.resolve id).isSome = true) (now : Nanos) :
    ∃ placed, (v.layout step ctx now).2 = .ok placed := by
  obtain ⟨frame, hFrame⟩ := Option.isSome_iff_exists.mp hHere
  have hAnchor : (Target.ofAnchor (.view id)).resolve ctx = .ok (Bounds.ofRect frame) := by
    simp only [Target.ofAnchor, Target.resolve, hFrame]
  have hAim : Aim ctx step.kind (Bounds.ofRect frame).centerX := hKind ▸ .anchor hAnchor
  exact layout_aimed hShows hAim now

theorem layout_unregistered (hShows : v.Shows step.kind) (hKind : step.kind = .highlighted (.view id) location)
    (hGone : ctx.anchors.resolve id = none) (now : Nanos) :
    (v.layout step ctx now).2 = .error (.unresolvedAnchor id) := by
  have hSteady : step.kind.Steady := hKind ▸ trivial
  -- the first thing that is asked for is the middle of the view
  have hFirst : ctx.resolve (.view id .centerX) = .error (.unresolvedAnchor id) := by
    simp only [Context.resolve, hGone]
  rw [layout_answer hShows hSteady, destination, place, stepConstraints_highlighted hKind]
  show (solve (_ :: _) _ ctx >>= _) = _
  rw [solve_unresolved rfl hFirst]
  rfl

end Tied

/-! ## Frame after frame -/

/-- A bubble that is not to be seen leaves the picture as it is. -/
theorem draw_of_hidden {v : View} (h : v.visible = false) (content : Content) (area : Rect) (b : Buffer) (now : Nanos) :
    v.draw content area b now = ({ v with drawn := none }, b) := by
  unfold View.draw
  rw [h]

/-- A bubble that is to be seen is drawn where it stands. -/
theorem draw_of_visible {v : View} {bounds : Bounds} {now : Nanos} (h : v.visible = true)
    (hFrame : v.frameAt now = some bounds) (content : Content) (area : Rect) (b : Buffer) :
    ∃ contentArea, (v.draw content area b now).1 = { v with drawn := some ⟨bounds, contentArea⟩ } := by
  unfold View.draw
  rw [h, hFrame]
  exact ⟨_, rfl⟩

/-- What is known of a bubble since it is to show a step that is tied to a view, by the anchors that the frames since
then were drawn against. -/
structure Standing (id : String) (frames : List Anchors) (v : View) : Prop where
  marked : v.needsConfigure = true ↔ ¬ Registered id frames
  shown  : Registered id frames → v.visible = true ∧ v.frame.isSome = true
  hidden : frames ≠ [] → ¬ Registered id frames → v.visible = false ∧ v.drawn = none

/-- No frame was drawn yet. -/
theorem Standing.begun {v : View} (hMarked : v.needsConfigure = true) (id : String) : Standing id [] v := by
  have hNever : ¬ Registered id [] := by simp [Registered]
  exact ⟨⟨fun _ => hNever, fun _ => hMarked⟩, fun hOnce => absurd hOnce hNever, fun hSome => absurd rfl hSome⟩

/-- A frame that fails to place a bubble leaves it where it stands, and hides it if its step is new. -/
theorem layout_failed {v : View} {step : Step} {ctx : Context} {now : Nanos} {e : PlacementError}
    (hError : (v.layout step ctx now).2 = .error e) : ∃ start, (∀ t ∈ v.frame, start = t) ∧
      (v.layout step ctx now).1 = { v.readied start step ctx with visible := v.visible && !v.needsConfigure } := by
  cases hFrame : v.frame with
  | some t =>
    refine ⟨t, fun _ ht => Option.some.inj ht, ?_⟩
    rw [layout_of_framed hFrame] at hError ⊢
    revert hError
    split
    · exact fun _ => rfl
    · exact nofun
  | none =>
    obtain ⟨start, ⟨e', -, hLayout⟩ | ⟨there, -, hLayout⟩⟩ := v.layout_cases step ctx now
    · exact ⟨start, nofun, by rw [hLayout]⟩
    · rw [hLayout] at hError
      cases hError

section Frame

variable {v : View} {step : Step} {ctx : Context} {id : String} {frames : List Anchors} {now : Nanos}

/-- A frame that fails to place a bubble hides it if no frame of its step had the view. -/
theorem Standing.hides {e : PlacementError} (h : Standing id frames v) (hError : (v.layout step ctx now).2 = .error e)
    (hNever : ¬ Registered id frames) (content : Content) (area : Rect) (b : Buffer) :
    ((v.layout step ctx now).1.draw content area b now).1.visible = false ∧
      ((v.layout step ctx now).1.draw content area b now).1.drawn = none := by
  obtain ⟨start, -, hLayout⟩ := layout_failed hError
  have hHidden : (v.visible && !v.needsConfigure) = false := by
    rw [h.marked.mpr hNever]
    exact Bool.and_false _
  rw [hLayout, draw_of_hidden hHidden]
  exact ⟨hHidden, rfl⟩

/-- But if one had it, the bubble stays where it stands, and is drawn there. -/
theorem Standing.leaves {e : PlacementError} (h : Standing id frames v) (hError : (v.layout step ctx now).2 = .error e)
    (hOnce : Registered id frames) (content : Content) (area : Rect) (b : Buffer) : ∃ bounds contentArea,
      v.frameAt now = some bounds ∧ (v.layout step ctx now).1.visible = true ∧
      (v.layout step ctx now).1.frameAt now = some bounds ∧
      ((v.layout step ctx now).1.draw content area b now).1 =
        { (v.layout step ctx now).1 with drawn := some ⟨bounds, contentArea⟩ } := by
  obtain ⟨hVisible, hSome⟩ := h.shown hOnce
  obtain ⟨t, hFrame⟩ := Option.isSome_iff_exists.mp hSome
  obtain ⟨start, hStart, hLayout⟩ := layout_failed hError
  obtain rfl := hStart t hFrame
  have hMark : v.needsConfigure = false := by
    rw [← Bool.not_eq_true]
    exact fun hMarked => h.marked.mp hMarked hOnce
  have hSeen : (v.layout step ctx now).1.visible = true := by
    rw [hLayout]
    show (v.visible && !v.needsConfigure) = true
    rw [hVisible, hMark]
    rfl
  have hHere : (v.layout step ctx now).1.frameAt now = some (start.valueAt now) := by
    rw [hLayout]
    rfl
  obtain ⟨contentArea, hDrawn⟩ := draw_of_visible hSeen hHere content area b
  refine ⟨start.valueAt now, contentArea, ?_, hSeen, hHere, hDrawn⟩
  rw [frameAt, hFrame]
  rfl

/-- A frame in which the bubble was placed. -/
theorem standing_placed {there : BubbleLayout} (hPlaced : (v.layout step ctx now).2 = .ok there)
    (hOnce : Registered id frames) (content : Content) (area : Rect) (b : Buffer) :
    Standing id frames ((v.layout step ctx now).1.draw content area b now).1 := by
  have hSent := layout_sent hPlaced
  have hMark : (v.layout step ctx now).1.needsConfigure = false := by
    have hLaid := v.layout_laid step ctx now
    rw [hPlaced] at hLaid
    cases hLaid with
    | placed _ _ hConfigured _ => exact hConfigured
  obtain ⟨t, hFrame, -⟩ := Option.map_eq_some_iff.mp hSent.frame
  obtain ⟨drawn, hDrawn⟩ := (v.layout step ctx now).1.draw_keeps content area b now
  rw [hDrawn]
  exact ⟨by simp [hMark, hOnce], fun _ => ⟨hSent.visible, by simp [hFrame]⟩, fun _ hNever => absurd hOnce hNever⟩

/-- One more frame of the step. -/
theorem Standing.next {location : TextLocation} (h : Standing id frames v) (hShows : v.Shows step.kind)
    (hKind : step.kind = .highlighted (.view id) location) (content : Content) (area : Rect) (b : Buffer) :
    Standing id (frames ++ [ctx.anchors]) ((v.layout step ctx now).1.draw content area b now).1 := by
  cases hAnchor : ctx.anchors.resolve id with
  | some frame =>
    have hHere : (ctx.anchors.resolve id).isSome = true := by rw [hAnchor]; rfl
    obtain ⟨there, hPlaced⟩ := layout_registered hShows hKind hHere now
    exact standing_placed hPlaced (registered_concat.mpr (.inr hHere)) content area b
  | none =>
    -- nothing has changed about whether the view was ever there
    have hSame : Registered id (frames ++ [ctx.anchors]) ↔ Registered id frames := by
      rw [registered_concat, hAnchor]
      simp
    have hError := layout_unregistered hShows hKind hAnchor now
    refine ⟨?_, fun hOnce => ?_, fun _ hNever => h.hides hError (hSame.not.mp hNever) content area b⟩
    · obtain ⟨start, -, hLayout⟩ := layout_failed hError
      obtain ⟨drawn, hDrawn⟩ := (v.layout step ctx now).1.draw_keeps content area b now
      rw [hDrawn, hLayout, hSame]
      exact h.marked
    · obtain ⟨bounds, contentArea, -, hSeen, hHere, hDrawn⟩ := h.leaves hError (hSame.mp hOnce) content area b
      rw [hDrawn]
      refine ⟨hSeen, ?_⟩
      rw [← Option.isSome_map]
      exact Option.isSome_iff_exists.mpr ⟨bounds, hHere⟩

/-! ## A frame without the view -/

theorem contains_of_undrawn (h : v.drawn = none) (p : Position) : v.contains p = false := by
  rw [contains, h, Option.any_none]

/-- A bubble that no frame of its step could place covers no position. -/
theorem Standing.covers (h : Standing id frames v) (hFramed : frames ≠ []) (hNever : ¬ Registered id frames)
    (p : Position) : v.contains p = false := contains_of_undrawn (h.hidden hFramed hNever).2 p

/-- A bubble before and after a frame without its view, and the picture with it and without it. If no frame of its step
had the view, there is nothing of the bubble in the picture, and it covers no position; but if one had it, the bubble is
drawn where it stands, and covers the positions there. -/
structure Unplaced (id : String) (frames : List Anchors) (before after : View) (without picture : Buffer)
    (now : Nanos) : Prop where
  absent : ¬ Registered id frames → picture = without ∧ ∀ p, after.contains p = false
  left   : Registered id frames → ∃ bounds, before.frameAt now = some bounds ∧ after.visible = true ∧
    after.frameAt now = some bounds ∧ ∀ p, after.contains p = bounds.contains p

theorem Standing.unplaced {e : PlacementError} (h : Standing id frames v)
    (hError : (v.layout step ctx now).2 = .error e) (content : Content) (area : Rect) (b : Buffer)
    {without picture : Buffer}
    (hWithout : ((v.layout step ctx now).1.draw content area b now).1.visible = false → picture = without) :
    Unplaced id frames v ((v.layout step ctx now).1.draw content area b now).1 without picture now := by
  refine ⟨fun hNever => ?_, fun hOnce => ?_⟩
  · obtain ⟨hHidden, hUndrawn⟩ := h.hides hError hNever content area b
    exact ⟨hWithout hHidden, contains_of_undrawn hUndrawn⟩
  · obtain ⟨bounds, contentArea, hBefore, hSeen, hHere, hDrawn⟩ := h.leaves hError hOnce content area b
    rw [hDrawn]
    exact ⟨bounds, hBefore, hSeen, hHere, fun p => rfl⟩

end Frame

end Bubble.View

end GuidedTour
