import GuidedTour.Proofs.Bubble.Unplaced
import GuidedTour.Proofs.Run.Scene

/-!
# A step whose view is gone

A highlighted step may be tied to a view that comes and goes while the step is shown. All that matters for its bubble in
a frame without the view is whether the view was registered in an earlier frame of the same step. No step is shown
twice, so an onlooker can tell by listing the anchors that the frames of the step were drawn against.

Main results:

* `Watched.shift` / `Watched.draw` - what is known of the bubble after one more operation.
* `after_tied` - what there is to see of the bubble while the view is not registered, after any operations.
-/

namespace GuidedTour

open Layout Screen Bubble

namespace Run

/-! ## One operation -/

/-- What is known of a run that may show the step at an index, which is tied to a view, by the anchors that the frames
of the step were drawn against. -/
structure Watched (i : Nat) (id : String) (frames : List Anchors) (r : Run) : Prop where
  /-- The run has come to the step by the first frame of it, and never goes back. -/
  reached  : frames ≠ [] → r.state ≠ .notStarted ∧ ∀ k, r.state = .running k → i ≤ k
  standing : r.state = .running i → ∀ views ∈ r.views, views.bubble.Standing id frames

section Watched

variable {i : Nat} {id : String} {frames : List Anchors} {r : Run}

theorem Watched.shift {now : Nanos} {r' : Run} (h : Watched i id frames r) (hShift : Shift now r r') :
    Watched i id frames r' := by
  cases hShift with
  | stay hSame =>
    refine ⟨?_, ?_⟩
    · rw [hSame.state]
      exact h.reached
    · rw [hSame.state, hSame.views]
      exact h.standing
  | start hState =>
    -- nothing was drawn of any step yet
    obtain rfl : frames = [] := by
      by_contra hSome
      exact (h.reached hSome).1 hState
    refine ⟨fun hSome => absurd rfl hSome, fun _ views hViews => ?_⟩
    cases hViews
    exact .begun rfl id
  | @next j hState =>
    refine ⟨fun hSome => ⟨RunState.noConfusion, fun k hRunning => ?_⟩, fun hRunning views hViews => ?_⟩
    · cases hRunning
      exact Nat.le_succ_of_le ((h.reached hSome).2 j hState)
    · -- the step before the one that is watched is behind, and nothing was drawn of this one
      cases hRunning
      obtain rfl : frames = [] := by
        by_contra hSome
        exact Nat.not_succ_le_self j ((h.reached hSome).2 j hState)
      obtain ⟨old, -, rfl⟩ := Option.map_eq_some_iff.mp hViews
      exact .begun rfl id
  | finish => exact ⟨fun _ => ⟨RunState.noConfusion, fun _ => RunState.noConfusion⟩, RunState.noConfusion⟩
  | drop => exact ⟨fun _ => ⟨RunState.noConfusion, fun _ => RunState.noConfusion⟩, RunState.noConfusion⟩

/-- A frame of another step, or of none. -/
theorem Watched.draw_other (h : Watched i id frames r) (hOther : r.state ≠ .running i) (area : Rect) (b : Buffer)
    (anchors : Anchors) (now : Nanos) : Watched i id frames (r.draw area b anchors now).1 := by
  have hState : (r.draw area b anchors now).1.state = r.state := by
    unfold Run.draw
    split <;> rfl
  refine ⟨?_, fun hRunning => ?_⟩
  · rw [hState]
    exact h.reached
  · rw [hState] at hRunning
    exact absurd hRunning hOther

/-- A frame of the step itself. -/
theorem Watched.draw (h : Watched i id frames r) {step : Step} {location : TextLocation} {before : RunViews}
    (hState : r.state = .running i) (hViews : r.views = some before) (hStep : r.step? = some step)
    (hKind : step.kind = .highlighted (.view id) location) (hShows : before.bubble.Shows step.kind) (area : Rect)
    (b : Buffer) (anchors : Anchors) (now : Nanos) :
    Watched i id (frames ++ [anchors]) (r.draw area b anchors now).1 := by
  obtain ⟨after, hAfter, hFramed⟩ := draw_framed hViews hStep area b anchors now
  rw [hAfter]
  refine ⟨fun _ => ⟨by simp [hState], fun k hRunning => ?_⟩, fun _ views hDrawn => ?_⟩
  · cases hState.symm.trans hRunning
    exact Nat.le_refl i
  · cases hDrawn
    obtain ⟨b', hBubble⟩ := hFramed.bubble
    rw [hBubble]
    show View.Standing id (frames ++ [(Context.of area anchors).anchors]) _
    exact (h.standing hState before hViews).next hShows hKind step.content _ b'

theorem Watched.revise (h : Watched i id frames r) (index : Nat) (view : CustomContent) :
    Watched i id frames (r.revise index view) := ⟨h.reached, h.standing⟩

end Watched

/-- What there is to see of a run that shows a step which is tied to a view, as long as the view is not registered. -/
structure Tied (id : String) (frames : List Anchors) (r : Run) (now : Nanos) (views : RunViews) : Prop where
  /-- A bubble that no frame of the step could place covers no position. -/
  covers : frames ≠ [] → ¬ Registered id frames → ∀ p, views.bubble.contains p = false
  /-- In a frame without the view there is nothing but the veil, unless the view was registered in an earlier frame of
  the step. -/
  frame  : ∀ area b anchors, anchors.resolve id = none → ∃ after,
    (r.draw area b anchors now).1.views = some after ∧
      View.Unplaced id frames views.bubble after.bubble (under after area b now)
        (r.draw area b anchors now).2.1 now

theorem Watched.tied {i : Nat} {id : String} {frames : List Anchors} {r : Run} (h : Watched i id frames r) {step : Step}
    {location : TextLocation} {views : RunViews} (hState : r.state = .running i) (hViews : r.views = some views)
    (hStep : r.step? = some step) (hKind : step.kind = .highlighted (.view id) location)
    (hShows : views.bubble.Shows step.kind) (now : Nanos) : Tied id frames r now views := by
  have hStanding := h.standing hState views hViews
  refine ⟨hStanding.covers, fun area b anchors hGone => ?_⟩
  obtain ⟨after, hAfter, hFramed⟩ := draw_framed hViews hStep area b anchors now
  obtain ⟨b', hBubble⟩ := hFramed.bubble
  have hError : (views.bubble.layout step (.of area anchors) now).2 = .error (.unresolvedAnchor id) :=
    View.layout_unregistered hShows hKind hGone now
  have hPicture := hFramed.picture
  rw [hBubble] at hPicture
  refine ⟨after, by rw [hAfter], ?_⟩
  rw [hBubble]
  refine hStanding.unplaced hError step.content (Context.of area anchors).container b' fun hHidden => ?_
  rw [hPicture, View.draw_of_hidden hHidden]
  rfl

end Run

namespace Session

open Run (Op)

/-! ## Any operations -/

/-- The anchors that an operation draws the step at an index against, if it is a frame of that step. -/
def against (s : Session) (i : Nat) : Op → List Anchors
  | .draw _ _ anchors => if s.run.state = .running i then [anchors] else []
  | _ => []

/-- The anchors that the frames of the step at an index are drawn against during some operations, in order. -/
def frames (s : Session) (i : Nat) : List Op → List Anchors
  | [] => []
  | op :: rest => s.against i op ++ (s.step op).frames i rest

theorem frames_concat (s : Session) (i : Nat) (ops : List Op) (op : Op) :
    s.frames i (ops ++ [op]) = s.frames i ops ++ (s.after ops).against i op := by
  induction ops generalizing s with
  | nil => exact List.append_nil _
  | cons first rest ih =>
    show s.against i first ++ (s.step first).frames i (rest ++ [op]) = _
    rw [ih, ← List.append_assoc]
    rfl

theorem step_watched {steps : List Step} {settings : Settings} {style : BubbleStyle} {ops : List Op} {s : Session}
    {i : Nat} {own : Step} {id : String} {location : TextLocation} {frames : List Anchors}
    (hScene : Run.Scene steps settings style ops s.run) (hOwn : steps[i]? = some own)
    (hKind : own.kind = .highlighted (.view id) location) (h : Run.Watched i id frames s.run) (op : Op) :
    Run.Watched i id (frames ++ s.against i op) (s.step op).run := by
  cases op with
  | draw area b anchors =>
    by_cases hState : s.run.state = .running i
    · rw [against, if_pos hState]
      obtain ⟨step, views, hStep, hViews, hSight⟩ := hScene.sight i hState
      obtain ⟨own', hOwn', hLook⟩ := hScene.own_step hStep
      cases hOwn.symm.trans hOwn'
      have hSame : step.kind = .highlighted (.view id) location := (congrArg Prod.fst hLook).trans hKind
      exact h.draw hState hViews ((Run.step?_of_running hState).trans hStep) hSame hSight.shows area b anchors s.now
    · rw [against, if_neg hState, List.append_nil]
      exact h.draw_other hState area b anchors s.now
  | revise index view =>
    show Run.Watched i id (frames ++ []) _
    rw [List.append_nil]
    exact h.revise index view
  | _ =>
    show Run.Watched i id (frames ++ []) _
    rw [List.append_nil]
    exact h.shift (Run.perform_shift s.now (by simp) (by simp))

section Opening

variable (steps : List Step) (settings : Settings) (style : BubbleStyle) (identity : Option String)
  (delegate : Option Delegate) (since : Nanos)

theorem after_watched {i : Nat} {own : Step} {id : String} {location : TextLocation} (hOwn : steps[i]? = some own)
    (hKind : own.kind = .highlighted (.view id) location) (ops : List Op) :
    Run.Watched i id ((opening steps settings style identity delegate since).frames i ops)
      ((opening steps settings style identity delegate since).after ops).run := by
  set first := opening steps settings style identity delegate since with hFirst
  -- the onlooker goes along with the operations
  refine (after_induction_history
    (P := fun ops s => s = first.after ops ∧ Run.Watched i id (first.frames i ops) s.run) ?_ ⟨rfl, ?_⟩ ops).2
  · rintro ops s op ⟨rfl, hBefore⟩
    have hReached : Reached steps settings style ops (first.after ops) := ⟨identity, delegate, since, rfl⟩
    refine ⟨?_, ?_⟩
    · rw [after, after, List.foldl_append]
      rfl
    · rw [frames_concat]
      exact step_watched hReached.scene hOwn hKind hBefore op
  · exact ⟨fun hSome => absurd rfl hSome, RunState.noConfusion⟩

/-- Whatever operations came before, the bubble of a step that is tied to a view which is not registered is to be seen
only if the view was registered in an earlier frame of the step. -/
theorem after_tied {ops : List Op} {i : Nat} {own : Step} {id : String} {location : TextLocation}
    (hState : ((opening steps settings style identity delegate since).after ops).run.state = .running i)
    (hOwn : steps[i]? = some own) (hKind : own.kind = .highlighted (.view id) location) :
    ∃ views, ((opening steps settings style identity delegate since).after ops).run.views = some views ∧
      Run.Tied id ((opening steps settings style identity delegate since).frames i ops)
        ((opening steps settings style identity delegate since).after ops).run
        ((opening steps settings style identity delegate since).after ops).now views := by
  have hWatched := after_watched steps settings style identity delegate since hOwn hKind ops
  have hReached : Reached steps settings style ops ((opening steps settings style identity delegate since).after ops) :=
    ⟨identity, delegate, since, rfl⟩
  have hScene := hReached.scene
  obtain ⟨step, views, hStep, hViews, hSight⟩ := hScene.sight i hState
  obtain ⟨own', hOwn', hLook⟩ := hScene.own_step hStep
  cases hOwn.symm.trans hOwn'
  have hSame : step.kind = .highlighted (.view id) location := (congrArg Prod.fst hLook).trans hKind
  exact ⟨views, hViews, hWatched.tied hState hViews ((Run.step?_of_running hState).trans hStep) hSame hSight.shows _⟩

end Opening

end Session

end GuidedTour
