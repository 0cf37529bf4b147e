import GuidedTour.Bubble.View
import GuidedTour.Proofs.Layout.Dominance

/-!
# Where a bubble is going

A bubble keeps the constraints of its step and a mark that says whether they still belong to an earlier one. A frame
that fails to place it keeps the mark, so in every frame the constraints are either made anew or already those of the
step. Where the constraints do not depend on the frame that they were made in, the place of the bubble therefore
follows from the step and the frame alone, whatever the bubble went through before.

Main results:

* `layout_cases` - everything that a frame can do to a bubble.
* `Shows.tuned` - a bubble that shows a step has that step's constraints, or makes them in its next frame.
* `layout_answer` - the place that a bubble is sent to.
* `layout_sent` - a bubble is sent to the place that is answered.
-/

namespace GuidedTour

open Layout Motion Screen

/-- The constraints of a step of this kind are the same in every frame. -/
def StepKind.Steady : StepKind → Prop
  | .standalone (.layout constraints) => ∀ ctx ctx', constraints ctx = constraints ctx'
  | _ => True

theorem Layout.stepConstraints_congr {step step' : Step} (hKind : step.kind = step'.kind) (style : BubbleStyle)
    (margin : UInt16) (ctx : Context) :
    stepConstraints step style margin ctx = stepConstraints step' style margin ctx := by
  unfold stepConstraints
  rw [hKind]

theorem Layout.stepConstraints_steady {step : Step} (hSteady : step.kind.Steady) (style : BubbleStyle)
    (margin : UInt16) (ctx ctx' : Context) :
    stepConstraints step style margin ctx = stepConstraints step style margin ctx' := by
  unfold stepConstraints
  unfold StepKind.Steady at hSteady
  split
  · next constraints hKind =>
    rw [hKind] at hSteady
    rw [hSteady ctx ctx']
  · rfl
  · rfl

namespace Bubble.View

/-! ## What a frame does -/

/-- What a bubble keeps for its whole life: its style, its margin and the preferred width of its text. -/
def outfit (v : View) : BubbleStyle × UInt16 × Option UInt16 := (v.style, v.margin, v.preferredWidth)

theorem outfit_inj {v w : View} (h : v.outfit = w.outfit) :
    v.style = w.style ∧ v.margin = w.margin ∧ v.preferredWidth = w.preferredWidth := by
  simpa only [outfit, Prod.mk.injEq] using h

/-- The bubble as it looks for a place for a step: somewhere on its way, with constraints that are made anew if they
belong to an earlier step. -/
def readied (v : View) (start : Tween Bounds) (step : Step) (ctx : Context) : View :=
  { v with
    frame := some start
    constraints := if v.needsConfigure then stepConstraints step v.style v.margin ctx else v.constraints }

/-- The course of time of a bubble that is sent to a place: a new step's own one. -/
def course (v : View) : Option (Nanos × Nanos) :=
  if v.needsConfigure then v.moveStarted.map fun s => (s, v.transition) else none

/-- The place from where the first step slides in is always found: it depends on the container alone. -/
theorem probe_ok (v : View) (ctx : Context) : ∃ b, v.probe ctx = .ok b := by
  have hResolves : ctx.Resolves (targetConstraints .container .above v.style v.margin).bubble := by
    intro c hc
    simp only [targetConstraints, highlightConstraints, marginConstraints, List.mem_cons, List.not_mem_nil,
      or_false] at hc
    rcases hc with rfl | rfl | rfl | rfl <;> exact ⟨_, rfl⟩
  obtain ⟨b, hSolved, -⟩ := solve_ok (v.bubbleSize (.plain "") ctx.container) hResolves
  exact ⟨b, hSolved⟩

theorem layout_cases (v : View) (step : Step) (ctx : Context) (now : Nanos) : ∃ start,
    (∃ e, (v.readied start step ctx).place (v.bubbleSize step.content ctx.container) ctx = .error e ∧
      v.layout step ctx now =
        ({ v.readied start step ctx with visible := v.visible && !v.needsConfigure }, .error e)) ∨
    ∃ placed, (v.readied start step ctx).place (v.bubbleSize step.content ctx.container) ctx = .ok placed ∧
      v.layout step ctx now =
        ({ (v.readied start step ctx).sendTo placed now v.course with needsConfigure := false, visible := true },
          .ok placed) := by
  -- a bubble without a place gets one first, which never fails
  obtain ⟨b, hProbe⟩ := v.probe_ok ctx
  refine ⟨v.frame.getD (.settled b now), ?_⟩
  generalize hAnswer : v.layout step ctx now = answer
  unfold layout at hAnswer
  rw [hProbe] at hAnswer
  obtain ⟨_, _, _, _, _, needsConfigure, _, frame, _, _, _, _, _⟩ := v
  cases frame <;> cases needsConfigure <;>
    simp only [Except.map, Bool.false_eq_true, if_false, if_true] at hAnswer <;> split at hAnswer
  -- what is left to tell apart is whether the search for a place failed
  all_goals first
    | next e hPlace => exact .inl ⟨e, hPlace, hAnswer.symm⟩
    | next placed hPlace => exact .inr ⟨placed, hPlace, hAnswer.symm⟩

/-- Being sent to a place changes neither the look of a bubble nor its constraints. -/
theorem sendTo_keeps (v : View) (placed : BubbleLayout) (now : Nanos) (course : Option (Nanos × Nanos)) :
    (v.sendTo placed now course).outfit = v.outfit ∧ (v.sendTo placed now course).constraints = v.constraints := by
  obtain ⟨bubble, arrow⟩ := placed
  cases arrow <;> exact ⟨rfl, rfl⟩

theorem layout_keeps (v : View) (step : Step) (ctx : Context) (now : Nanos) :
    (v.layout step ctx now).1.outfit = v.outfit ∧ (v.layout step ctx now).1.constraints =
      if v.needsConfigure then stepConstraints step v.style v.margin ctx else v.constraints := by
  obtain ⟨start, ⟨e, -, hLayout⟩ | ⟨placed, -, hLayout⟩⟩ := v.layout_cases step ctx now
  · rw [hLayout]
    exact ⟨rfl, rfl⟩
  · rw [hLayout]
    exact (v.readied start step ctx).sendTo_keeps placed now v.course

/-! ## The place for a step -/

theorem bubbleSize_congr {v w : View} (h : v.outfit = w.outfit) (content : Content) (container : Rect) :
    v.bubbleSize content container = w.bubbleSize content container := by
  obtain ⟨hStyle, hMargin, hWidth⟩ := outfit_inj h
  unfold bubbleSize
  rw [hStyle, hMargin, hWidth]

/-- The place that a step's own constraints lead to in a frame. -/
def destination (v : View) (step : Step) (ctx : Context) : Except PlacementError BubbleLayout :=
  { v with constraints := stepConstraints step v.style v.margin ctx }.place
    (v.bubbleSize step.content ctx.container) ctx

/-- It depends on the look of the bubble, and on the kind and the content of the step. -/
theorem destination_congr {v w : View} {step step' : Step} (h : v.outfit = w.outfit)
    (hKind : step.kind = step'.kind) (hContent : step.content = step'.content) (ctx : Context) :
    v.destination step ctx = w.destination step' ctx := by
  have hSize := bubbleSize_congr h step'.content ctx.container
  obtain ⟨hStyle, hMargin, -⟩ := outfit_inj h
  have hConstraints : stepConstraints step v.style v.margin ctx = stepConstraints step' w.style w.margin ctx := by
    rw [hStyle, hMargin]
    exact stepConstraints_congr hKind w.style w.margin ctx
  unfold destination place
  dsimp only
  rw [hContent, hSize, hConstraints, hStyle]

/-! ## Showing a step -/

/-- A bubble since it is to show a step of this kind: it is new, or was told to show another step, and has gone
through any number of frames of this one. Its content may change from frame to frame. -/
inductive Shows (kind : StepKind) : View → Prop
  | fresh (style : BubbleStyle) (margin : UInt16) (preferredWidth : Option UInt16) (transition : Nanos) :
      Shows kind { style := style, margin := margin, preferredWidth := preferredWidth, transition := transition }
  | begun (v : View) (now : Nanos) : Shows kind (v.beginTransition now)
  | laidOut {v : View} (h : Shows kind v) {step : Step} (hKind : step.kind = kind) (ctx : Context) (now : Nanos) :
      Shows kind (v.layout step ctx now).1
  | drawn {v : View} (h : Shows kind v) (content : Content) (area : Rect) (b : Buffer) (now : Nanos) :
      Shows kind (v.draw content area b now).1

theorem draw_keeps (v : View) (content : Content) (area : Rect) (b : Buffer) (now : Nanos) :
    ∃ drawn, (v.draw content area b now).1 = { v with drawn := drawn } := by
  unfold draw
  split <;> exact ⟨_, rfl⟩

/-- Where a bubble was drawn last does not matter for the next drawing. -/
theorem draw_drawn (v : View) (content : Content) (area : Rect) (b : Buffer) (now later : Nanos) :
    (v.draw content area b now).1.draw content area b later = v.draw content area b later := by
  obtain ⟨drawn, hDrawn⟩ := v.draw_keeps content area b now
  rw [hDrawn]
  rfl

theorem draw_again (v : View) (content : Content) (area : Rect) (b : Buffer) (now : Nanos) :
    ((v.draw content area b now).1.draw content area b now).2 = (v.draw content area b now).2 :=
  congrArg Prod.snd (v.draw_drawn content area b now now)

/-- The constraints of a bubble were made for a step of this kind, or are about to be made anew. -/
def Tuned (kind : StepKind) (v : View) : Prop :=
  v.needsConfigure = true ∨ ∃ step ctx, step.kind = kind ∧ v.constraints = stepConstraints step v.style v.margin ctx

theorem Shows.tuned {kind : StepKind} {v : View} (h : Shows kind v) : Tuned kind v := by
  -- along the frames of the step; only a failed one may leave the mark
  induction h with
  | fresh => exact .inl rfl
  | begun => exact .inl rfl
  | @laidOut v _ step hKind ctx now ih =>
    obtain ⟨hOutfit, hConstraints⟩ := v.layout_keeps step ctx now
    obtain ⟨hStyle, hMargin, -⟩ := outfit_inj hOutfit
    refine .inr ?_
    rw [hConstraints, hStyle, hMargin]
    cases hConfigure : v.needsConfigure with
    | true => exact ⟨step, ctx, hKind, if_pos rfl⟩
    | false =>
      rw [if_neg Bool.false_ne_true]
      exact ih.resolve_left (by rw [hConfigure]; exact Bool.false_ne_true)
  | @drawn v _ content area b now ih =>
    obtain ⟨drawn, hDrawn⟩ := v.draw_keeps content area b now
    rw [hDrawn]
    exact ih

/-- What a bubble that shows a step answers in a frame does not depend on the frames before. -/
theorem layout_answer {v : View} {step : Step} (h : Shows step.kind v) (hSteady : step.kind.Steady) (ctx : Context)
    (now : Nanos) : (v.layout step ctx now).2 = v.destination step ctx := by
  -- the constraints that the place is looked for with are the step's in this frame
  have hOwn : (if v.needsConfigure then stepConstraints step v.style v.margin ctx else v.constraints) =
      stepConstraints step v.style v.margin ctx := by
    cases hConfigure : v.needsConfigure with
    | true => exact if_pos rfl
    | false =>
      obtain ⟨step', ctx', hKind, hConstraints⟩ :=
        h.tuned.resolve_left (by rw [hConfigure]; exact Bool.false_ne_true)
      calc (if false = true then stepConstraints step v.style v.margin ctx else v.constraints)
          = stepConstraints step' v.style v.margin ctx' := by rw [if_neg Bool.false_ne_true, hConstraints]
        _ = stepConstraints step v.style v.margin ctx' := stepConstraints_congr hKind _ _ _
        _ = stepConstraints step v.style v.margin ctx := stepConstraints_steady hSteady _ _ _ _
  have hPlaces : ∀ start, (v.readied start step ctx).place (v.bubbleSize step.content ctx.container) ctx =
      v.destination step ctx := by
    intro start
    unfold readied destination
    rw [hOwn]
    rfl
  obtain ⟨start, ⟨e, hPlace, hLayout⟩ | ⟨placed, hPlace, hLayout⟩⟩ := v.layout_cases step ctx now
  · rw [hLayout, ← hPlaces start, hPlace]
  · rw [hLayout, ← hPlaces start, hPlace]

/-- The failure that an answer is. -/
def failure? : Except PlacementError BubbleLayout → Option PlacementError
  | .ok _ => none
  | .error e => some e

theorem ok_of_failure? {answer : Except PlacementError BubbleLayout} (h : failure? answer = none) :
    ∃ placed, answer = .ok placed := by
  cases answer with
  | ok placed => exact ⟨placed, rfl⟩
  | error e => cases h

/-- The bubble is on its way to a place, and so is its arrow, if it is to have one. -/
structure SentTo (v : View) (placed : BubbleLayout) : Prop where
  visible   : v.visible = true
  frame     : v.frame.map (·.target) = some placed.bubble
  arrow     : v.arrow.map (·.target) = placed.arrow.map (·.bounds)
  direction : v.direction = placed.arrow.map (·.direction)

theorem layout_sent {v : View} {step : Step} {ctx : Context} {now : Nanos} {placed : BubbleLayout}
    (h : (v.layout step ctx now).2 = .ok placed) : (v.layout step ctx now).1.SentTo placed := by
  obtain ⟨start, ⟨e, -, hLayout⟩ | ⟨there, -, hLayout⟩⟩ := v.layout_cases step ctx now
  · rw [hLayout] at h
    cases h
  · rw [hLayout] at h ⊢
    cases h
    obtain ⟨bubble, arrow⟩ := placed
    cases arrow with
    | none => exact ⟨rfl, congrArg some (Tween.target_send ..), rfl, rfl⟩
    | some arrow =>
      exact ⟨rfl, congrArg some (Tween.target_send ..), congrArg some (Tween.target_send ..), rfl⟩

end Bubble.View

end GuidedTour
