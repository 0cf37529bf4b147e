import GuidedTour.Proofs.Run.Scene

/-!
# What an event does to a run

Whether an event moves a run depends on what kind of event it is, on the mode, on the answer of the view inside the
bubble, on the step, and on where the bubble, its content and the veil were drawn last. Somebody who watches the frames
knows all of it. `Moves` lists the cases in which such an onlooker expects a move, and which one; every other event
finds the run where it was. `Takes` says which events the run keeps from the screen under it.

Main results:

* `Placed.demand_of_moves`, `Placed.moves_of_demand` - the cases of `Moves` are those in which an event makes a demand
  that is met.
* `Placed.handle_taken` - which events a run keeps to itself.
* `after_traced` - what a run knows of its last frame is what the onlooker saw of it.
* `input_account` - what an event does to a run in any session, and which events do nothing.
-/

namespace GuidedTour

open Layout Screen Overlay

/-- What the last frame has left to see of a run: where it was drawn, and the bubble in it with its content. -/
structure LastFrame where
  area   : Rect
  bubble : Option Bubble.Drawn

namespace LastFrame

/-- Whether a position is on the bubble as it was drawn last. -/
def onBubble (seen : Option LastFrame) (p : Position) : Bool := (seen.bind (·.bubble)).any (·.bubble.contains p)

/-- Where the content of the bubble was drawn last, if a position is on it. -/
def contentAt (seen : Option LastFrame) (p : Position) : Option Rect :=
  ((seen.bind (·.bubble)).bind (·.content)).filter (·.contains p)

/-- Whether a position is on the veil as it was drawn last; a veil that was not drawn yet is everywhere. -/
def onVeil (seen : Option LastFrame) (p : Position) : Bool := (seen.map (·.area)).all (·.contains p)

end LastFrame

open LastFrame

/-- The state that a demand leads to, from the step at an index of `n` steps. -/
def Demand.goal (n i : Nat) : Demand → RunState
  | .start => .running 0
  | .advance _ => if i + 1 < n then .running (i + 1) else .completed
  | .dismiss => .dismissed

namespace Run

/-! ## What an onlooker expects -/

section Expectations

variable (settings : Settings) (step : Step) (seen : Option LastFrame) (own : Option Rect)

/-- The cases in which an event moves a run that shows a step, and what it demands then. The view inside the bubble was
drawn at `own` last. -/
inductive Moves : Event → Demand → Prop
  | key {e : KeyEvent} (hPress : e.kind = .press) (hAnswer : step.content.onKey e = .stepWalkthrough) :
      Moves (.key e) (.advance .explicit)
  | content {e : MouseEvent} {area : Rect} (hBubble : onBubble seen e.position = true)
      (hContent : contentAt seen e.position = some area)
      (hAnswer : step.content.onMouse e ⟨area, own⟩ = .stepWalkthrough) : Moves (.mouse e) (.advance .explicit)
  | tap {e : KeyEvent} (hVeil : settings.presentationMode ≠ .none) (hPress : e.kind = .press)
      (hKey : e.key = .enter ∨ e.key = .right ∨ e.key = .char ' ' ∨ e.key = .char 'n')
      (hAnswer : step.content.onKey e = .ignored) (hFree : step.needsInteraction = false) :
      Moves (.key e) (.advance .tap)
  | escape {e : KeyEvent} (hVeil : settings.presentationMode ≠ .none) (hPress : e.kind = .press) (hKey : e.key = .esc)
      (hAnswer : step.content.onKey e = .ignored) (hAllowed : settings.dismissOnEscape = true) : Moves (.key e) .dismiss
  | background {e : MouseEvent} (hVeil : settings.presentationMode ≠ .none) (hDown : e.kind = .down .left)
      (hBubble : onBubble seen e.position = false) (hArea : onVeil seen e.position = true)
      (hFree : step.needsInteraction = false) : Moves (.mouse e) (.advance .tap)
  | bubble {e : MouseEvent} (hBare : settings.presentationMode = .none) (hDown : e.kind = .down .left)
      (hBubble : onBubble seen e.position = true)
      (hAnswer : ∀ area, contentAt seen e.position = some area → step.content.onMouse e ⟨area, own⟩ = .ignored)
      (hFree : step.needsInteraction = false) : Moves (.mouse e) (.advance .tap)

/-- The events that a run keeps from the screen under it: the keys that go down and the mouse, as far as the content
answers or there is a veil, and the mouse over the bubble. -/
def Takes : Event → Prop
  | .key e => e.kind = .press ∧ (step.content.onKey e ≠ .ignored ∨ settings.presentationMode ≠ .none)
  | .mouse e => onBubble seen e.position = true ∨ settings.presentationMode ≠ .none
  | .other => False

end Expectations

/-! ## Which events are taken -/

theorem handleKey_taken (r : Run) (e : KeyEvent) (now : Nanos) :
    (r.handleKey e now).2.1 = true ↔ r.keyAction e ≠ .ignored ∨ r.hasVeil = true := by
  unfold handleKey
  cases r.keyAction e with
  | stepWalkthrough => simp
  | consumed => simp
  | ignored =>
    -- without a veil the key is left to the screen, and with one every branch takes it
    cases r.hasVeil with
    | false => simp
    | true =>
      dsimp only
      split_ifs <;> simp_all

theorem handleMouse_taken {r : Run} {views : RunViews} (hViews : r.views = some views) (e : MouseEvent) (now : Nanos) :
    (r.handleMouse e now).2.1 = true ↔ views.bubble.contains e.position = true ∨ views.veil.isSome = true := by
  unfold handleMouse
  rw [hViews]
  dsimp only
  by_cases hOver : views.bubble.contains e.position = true
  · rw [if_pos hOver]
    refine ⟨fun _ => .inl hOver, fun _ => ?_⟩
    split <;> rfl
  · rw [if_neg hOver]
    cases views.veil with
    | none => simp [hOver]
    | some veil =>
      dsimp only
      refine ⟨fun _ => .inr rfl, fun _ => ?_⟩
      split <;> rfl

/-- Behind a veil a run takes every key that goes down and everything that the mouse does. -/
theorem handle_taken_of_veil {r : Run} (hActive : r.isActive = true) (hVeil : r.hasVeil = true) (e : Event)
    (now : Nanos) : (r.handle e now).2.1 = match e with
      | .key k => decide (k.kind = .press)
      | .mouse _ => true
      | .other => false := by
  unfold handle
  rw [if_neg (by simp [hActive])]
  cases e with
  | key k =>
    by_cases hPress : k.kind = .press
    · simp only [hPress, if_true, decide_true]
      exact (handleKey_taken r k now).mpr (.inr hVeil)
    · simp only [hPress, if_false, decide_false]
  | mouse m =>
    cases hViews : r.views with
    | none =>
      rw [hasVeil, hViews] at hVeil
      cases hVeil
    | some views =>
      rw [hasVeil, hViews] at hVeil
      exact (handleMouse_taken hViews m now).mpr (.inr hVeil)
  | other => rfl

/-! ## A run as an onlooker knows it -/

/-- A run at a step, its views, and what the last frame has left to see of them. -/
structure Placed (r : Run) (i : Nat) (step : Step) (views : RunViews) (seen : Option LastFrame) : Prop where
  state : r.state = .running i
  shows : r.steps[i]? = some step
  owns  : r.views = some views
  veil  : views.veil.isSome = true ↔ r.settings.presentationMode ≠ .none
  drawn : views.bubble.drawn = seen.bind (·.bubble)
  area  : ∀ veil ∈ views.veil, veil.lastArea = seen.map (·.area)

namespace Placed

variable {r : Run} {i : Nat} {step : Step} {views : RunViews} {seen : Option LastFrame}

theorem isActive (h : Placed r i step views seen) : r.isActive = true := by
  rw [Run.isActive, h.state]
  rfl

theorem hasVeil (h : Placed r i step views seen) : r.hasVeil = true ↔ r.settings.presentationMode ≠ .none := by
  rw [Run.hasVeil, h.owns]
  exact h.veil

theorem isHeld (h : Placed r i step views seen) : r.isHeld i = step.needsInteraction := by
  rw [Run.isHeld, h.shows, Option.any_some]

theorem shown (h : Placed r i step views seen) : r.step? = some step := (step?_of_running h.state).trans h.shows

theorem contains (h : Placed r i step views seen) (p : Position) : views.bubble.contains p = onBubble seen p := by
  rw [Bubble.View.contains, h.drawn, onBubble]

theorem contentPlace (h : Placed r i step views seen) (p : Position) :
    Run.contentPlace views p = (contentAt seen p).map (⟨·, views.contentArea⟩) := by
  rw [Run.contentPlace, Bubble.View.contentArea, h.drawn, contentAt]

theorem keyAction (h : Placed r i step views seen) (e : KeyEvent) : r.keyAction e = step.content.onKey e := by
  rw [Run.keyAction, h.shown]

theorem mouseAction (h : Placed r i step views seen) (e : MouseEvent) :
    r.mouseAction views e = match contentAt seen e.position with
      | some area => step.content.onMouse e ⟨area, views.contentArea⟩
      | none => .ignored := by
  rw [Run.mouseAction, h.contentPlace, h.shown]
  cases contentAt seen e.position <;> rfl

/-- A click on the veil, in terms of the last frame. -/
theorem isTapped (h : Placed r i step views seen) {veil : Veil} (hVeil : views.veil = some veil) (e : MouseEvent) :
    veil.isTapped e = true ↔ e.kind = .down .left ∧ onVeil seen e.position = true := by
  rw [Veil.isTapped, h.area veil hVeil, Bool.and_eq_true, decide_eq_true_eq, onVeil]

theorem veil_none (h : Placed r i step views seen) : views.veil = none ↔ r.settings.presentationMode = .none := by
  have hIff := not_congr h.veil
  rwa [Bool.not_eq_true, Option.isSome_eq_false_iff, Option.isNone_iff_eq_none, not_ne_iff] at hIff

/-! ## Expectations and demands -/

theorem keyDemand_of_moves (h : Placed r i step views seen) {e : KeyEvent} {d : Demand}
    (hMoves : Moves r.settings step seen views.contentArea (.key e) d) : r.keyDemand e = some d := by
  unfold keyDemand
  rw [h.keyAction]
  cases hMoves with
  | key hPress hAnswer => rw [hAnswer]
  | tap hVeil hPress hKey hAnswer hFree =>
    have hShown := h.hasVeil.mpr hVeil
    rw [hAnswer]
    rcases hKey with hKey | hKey | hKey | hKey <;> simp [hShown, hKey, isTapKey]
  | escape hVeil hPress hKey hAnswer hAllowed =>
    have hShown := h.hasVeil.mpr hVeil
    simp [hAnswer, hShown, hKey, hAllowed]

theorem mouseDemand_of_moves (h : Placed r i step views seen) {e : MouseEvent} {d : Demand}
    (hMoves : Moves r.settings step seen views.contentArea (.mouse e) d) : r.mouseDemand views e = some d := by
  unfold mouseDemand
  rw [h.contains, h.mouseAction]
  cases hMoves with
  | content hBubble hContent hAnswer =>
    rw [if_pos hBubble, hContent]
    dsimp only
    rw [hAnswer]
  | background hVeil hDown hBubble hArea hFree =>
    obtain ⟨veil, hSome⟩ := Option.isSome_iff_exists.mp (h.veil.mpr hVeil)
    have hTap := (h.isTapped hSome e).mpr ⟨hDown, hArea⟩
    rw [if_neg (by simp [hBubble]), hSome, Option.any_some, if_pos hTap]
  | bubble hBare hDown hBubble hAnswer hFree =>
    -- the content was not asked, or it ignored the click
    have hIgnored : (match contentAt seen e.position with
        | some area => step.content.onMouse e ⟨area, views.contentArea⟩
        | none => ContentAction.ignored) = .ignored := by
      split
      · next area hContent => exact hAnswer area hContent
      · rfl
    rw [if_pos hBubble, hIgnored]
    simp [hDown, h.veil_none.mpr hBare]

theorem demand_of_moves (h : Placed r i step views seen) {e : Event} {d : Demand}
    (hMoves : Moves r.settings step seen views.contentArea e d) : r.demand e = some d := by
  unfold demand
  rw [if_neg (by simp [h.isActive])]
  cases e with
  | key e =>
    have hPress : e.kind = .press := by cases hMoves <;> assumption
    simp only [hPress, if_true]
    exact h.keyDemand_of_moves hMoves
  | mouse e =>
    rw [h.owns]
    exact h.mouseDemand_of_moves hMoves
  | other => cases hMoves

theorem isTapKey_cases {k : Key} (h : isTapKey k = true) :
    k = .enter ∨ k = .right ∨ k = .char ' ' ∨ k = .char 'n' := by
  unfold isTapKey at h
  split at h <;> simp_all

/-- Every demand is one that the onlooker expects, or a tap at a step that needs an interaction. -/
theorem moves_of_demand (h : Placed r i step views seen) {e : Event} {d : Demand} (hDemand : r.demand e = some d) :
    Moves r.settings step seen views.contentArea e d ∨ d = .advance .tap ∧ step.needsInteraction = true := by
  by_cases hHeld : step.needsInteraction = true ∧ d = .advance .tap
  · exact .inr ⟨hHeld.2, hHeld.1⟩
  refine .inl ?_
  have hFree : d = .advance .tap → step.needsInteraction = false := fun hTap => by
    rw [← Bool.not_eq_true]
    exact fun h => hHeld ⟨h, hTap⟩
  cases e with
  | key e =>
    obtain ⟨hPress, hCause⟩ := demand_key hDemand
    cases hCause with
    | content hAction => exact .key hPress ((h.keyAction e).symm.trans hAction)
    | escape hAction hVeil hKey hAllowed =>
      exact .escape (h.hasVeil.mp hVeil) hPress hKey ((h.keyAction e).symm.trans hAction) hAllowed
    | tap hAction hVeil hKey =>
      exact .tap (h.hasVeil.mp hVeil) hPress (isTapKey_cases hKey) ((h.keyAction e).symm.trans hAction) (hFree rfl)
  | mouse e =>
    obtain ⟨own, hOwn, hCause⟩ := demand_mouse hDemand
    rw [h.owns] at hOwn
    cases hOwn
    cases hCause with
    | content hOver hAction =>
      obtain ⟨place, own, hPlace, hOwn, hAnswer⟩ := mouseAction_step hAction
      rw [h.shown] at hOwn
      cases hOwn
      rw [h.contentPlace] at hPlace
      obtain ⟨area, hContent, rfl⟩ := Option.map_eq_some_iff.mp hPlace
      exact .content (h.contains _ ▸ hOver) hContent hAnswer
    | bubble hOver hAction hDown hVeil =>
      rw [h.mouseAction] at hAction
      refine .bubble (h.veil_none.mp hVeil) hDown (h.contains _ ▸ hOver) (fun area hContent => ?_) (hFree rfl)
      rwa [hContent] at hAction
    | background hOver hVeil hTap =>
      obtain ⟨hDown, hArea⟩ := (h.isTapped hVeil e).mp hTap
      exact .background (h.veil.mp (by rw [hVeil]; rfl)) hDown (h.contains _ ▸ hOver) hArea (hFree rfl)
  | other =>
    rw [demand_other] at hDemand
    cases hDemand

/-! ## What becomes of the run -/

/-- An advance that is expected is not refused. -/
theorem leave_of_moves (h : Placed r i step views seen) {e : Event} {trigger : Trigger}
    (hMoves : Moves r.settings step seen views.contentArea e (.advance trigger)) :
    trigger = .explicit ∨ r.isHeld i = false := by
  rw [h.isHeld]
  cases hMoves with
  | key => exact .inl rfl
  | content => exact .inl rfl
  | tap _ _ _ _ hFree => exact .inr hFree
  | background _ _ _ _ hFree => exact .inr hFree
  | bubble _ _ _ _ hFree => exact .inr hFree

theorem handle_moved (h : Placed r i step views seen) {e : Event} {d : Demand}
    (hMoves : Moves r.settings step seen views.contentArea e d) (now : Nanos) :
    (r.handle e now).1 = (r.meet (some d) now).1 ∧ (r.handle e now).2.2 = (r.meet (some d) now).2.2 ∧
      (r.handle e now).1.state = d.goal r.steps.length i := by
  have hDemand := h.demand_of_moves hMoves
  obtain ⟨hRun, hEffects⟩ := handle_eq_meet r e now
  rw [hDemand] at hRun hEffects
  refine ⟨hRun, hEffects, ?_⟩
  rw [hRun]
  cases d with
  | start => exact absurd hDemand (demand_ne_start r e)
  | advance trigger =>
    show (r.advance trigger now).1.state = _
    rw [advance_accepted h.state (h.leave_of_moves hMoves)]
    unfold Demand.goal
    split <;> rfl
  | dismiss =>
    show r.dismiss.1.state = .dismissed
    unfold dismiss
    rw [if_pos h.isActive]
    rfl

theorem handle_still (h : Placed r i step views seen) {e : Event}
    (hNone : ¬ ∃ d, Moves r.settings step seen views.contentArea e d) (now : Nanos) :
    (r.handle e now).1 = r ∧ (r.handle e now).2.2 = [] := by
  obtain ⟨hRun, hEffects⟩ := handle_eq_meet r e now
  rw [hRun, hEffects]
  cases hDemand : r.demand e with
  | none => exact ⟨rfl, rfl⟩
  | some d =>
    -- the one demand that nobody expects is a tap at a held step, which is refused
    rcases h.moves_of_demand hDemand with hMoves | ⟨rfl, hHeld⟩
    · exact absurd ⟨d, hMoves⟩ hNone
    · have hRefused : r.advance .tap now = (r, .ignored, []) := advance_refused fun j hState => by
        rw [h.state] at hState
        cases hState
        exact ⟨by decide, h.isHeld.trans hHeld⟩
      simp only [meet, hRefused, and_self]

theorem handle_taken (h : Placed r i step views seen) (e : Event) (now : Nanos) :
    (r.handle e now).2.1 = true ↔ Takes r.settings step seen e := by
  unfold handle
  rw [if_neg (by simp [h.isActive])]
  cases e with
  | key k =>
    by_cases hPress : k.kind = .press
    · simp only [hPress, if_true, Takes, true_and]
      rw [handleKey_taken, h.keyAction, h.hasVeil]
    · simp [hPress, Takes]
  | mouse m =>
    show (r.handleMouse m now).2.1 = true ↔ _
    rw [handleMouse_taken h.owns, h.contains, h.veil]
    exact Iff.rfl
  | other => simp [Takes]

end Placed

/-- A step is left in the same way during the whole life of its run. -/
theorem SameTour.pace_at {r r' : Run} (h : SameTour r r') {i : Nat} {step own : Step} (hStep : r'.steps[i]? = some step)
    (hOwn : r.steps[i]? = some own) : step.pace = own.pace := by
  have hPaces : (r'.steps.map Step.pace)[i]? = (r.steps.map Step.pace)[i]? := by rw [h.pace]
  rw [List.getElem?_map, List.getElem?_map, hStep, hOwn] at hPaces
  exact Option.some.inj hPaces

/-! ## What is remembered of a frame -/

theorem drawStep_lastArea (v : RunViews) (settings : Settings) (step : Step) (ctx : Context) (b : Buffer) (now : Nanos) :
    ∀ veil ∈ (drawStep v settings step ctx b now).1.veil, veil.lastArea = some ctx.container := by
  have hPlaced := placeBubble_veil v step ctx now
  unfold drawStep
  dsimp only
  rw [hPlaced]
  cases hVeil : v.veil with
  | none =>
    intro veil hDrawn
    cases (hPlaced.trans hVeil).symm.trans hDrawn
  | some veil =>
    obtain ⟨course, -, hDraw⟩ :=
      drawVeil_eq settings step ctx b now veil (placeBubble v step ctx now).1.holeMove
    intro veil' hDrawn
    dsimp only at hDrawn
    rw [hDraw] at hDrawn
    cases hDrawn
    rfl

/-- What a run knows of its last frame is what was seen of it, and nothing was seen before the start. -/
structure Traced (seen : Option LastFrame) (r : Run) : Prop where
  fresh : r.state = .notStarted → seen = none
  drawn : ∀ views ∈ r.views, views.bubble.drawn = seen.bind (·.bubble) ∧
    ∀ veil ∈ views.veil, veil.lastArea = seen.map (·.area)

theorem Traced.gone {seen : Option LastFrame} {r : Run} (hState : r.state ≠ .notStarted) (hViews : r.views = none) :
    Traced seen r := by
  refine ⟨fun h => absurd h hState, fun views h => ?_⟩
  rw [hViews] at h
  cases h

theorem Traced.shift {seen : Option LastFrame} {now : Nanos} {r r' : Run} (h : Traced seen r)
    (hShift : Shift now r r') : Traced seen r' := by
  cases hShift with
  | stay hSame =>
    refine ⟨fun hState => h.fresh (hSame.state.symm.trans hState), ?_⟩
    rw [hSame.views]
    exact h.drawn
  | start hState =>
    -- new views have not been drawn, and neither has anything else
    refine ⟨RunState.noConfusion, fun views hViews => ?_⟩
    rw [h.fresh hState]
    cases hViews
    refine ⟨rfl, fun veil hVeil => ?_⟩
    obtain ⟨tint, -, rfl⟩ := Option.map_eq_some_iff.mp hVeil
    rfl
  | next =>
    refine ⟨RunState.noConfusion, fun views hViews => ?_⟩
    obtain ⟨old, hOld, rfl⟩ := Option.map_eq_some_iff.mp hViews
    exact h.drawn old hOld
  | finish => exact .gone RunState.noConfusion rfl
  | drop => exact .gone RunState.noConfusion rfl

/-- A frame at a step leaves the trace that is seen of it. -/
theorem draw_traced {r : Run} {step : Step} (hStep : r.step? = some step) (area : Rect) (b : Buffer) (anchors : Anchors)
    (now : Nanos) : Traced (some ⟨area, (r.draw area b anchors now).1.views.bind (·.bubble.drawn)⟩)
      (r.draw area b anchors now).1 := by
  obtain ⟨i, hState, -⟩ := step?_eq_some hStep
  cases hViews : r.views with
  | none =>
    rw [draw_of_idle (.inl hViews)]
    exact .gone (by rw [hState]; exact RunState.noConfusion) hViews
  | some before =>
    have hDraw : (r.draw area b anchors now).1 =
        { r with views := some (drawStep before r.settings step (.of area anchors) b now).1 } :=
      congrArg Prod.fst (draw_of_step hViews hStep area b anchors now)
    have hArea := drawStep_lastArea before r.settings step (.of area anchors) b now
    generalize (drawStep before r.settings step (.of area anchors) b now).1 = after at hDraw hArea
    rw [hDraw]
    refine ⟨fun hFresh => ?_, fun views hAfter => ?_⟩
    · cases hState.symm.trans hFresh
    · cases hAfter
      exact ⟨rfl, hArea⟩

end Run

namespace Session

open Run (Op)

/-- What an operation leaves to see of the run, if it is a frame at a step. -/
def framed (s : Session) (op : Op) : Option LastFrame :=
  match op with
  | .draw area _ _ => s.run.step?.map fun _ => ⟨area, (s.step op).run.views.bind (·.bubble.drawn)⟩
  | _ => none

/-- Where there is no step, a frame does nothing. -/
theorem step_idle {s : Session} (hStep : s.run.step? = none) (area : Rect) (b : Buffer) (anchors : Anchors) :
    (s.step (.draw area b anchors)).run = s.run ∧ s.framed (.draw area b anchors) = none := by
  refine ⟨congrArg Prod.fst (Run.draw_of_idle (.inr hStep) area b anchors s.now), ?_⟩
  rw [framed, hStep]
  rfl

/-- What the last frame among some operations has left to see. -/
def lastFrame (s : Session) : List Op → Option LastFrame
  | [] => none
  | op :: rest => (s.step op).lastFrame rest <|> s.framed op

theorem lastFrame_concat (s : Session) (ops : List Op) (op : Op) :
    s.lastFrame (ops ++ [op]) = ((s.after ops).framed op <|> s.lastFrame ops) := by
  induction ops generalizing s with
  | nil =>
    show (none <|> s.framed op) = (s.framed op <|> none)
    cases s.framed op <;> rfl
  | cons first rest ih =>
    show ((s.step first).lastFrame (rest ++ [op]) <|> s.framed first) = _
    rw [ih]
    show _ = (((s.step first).after rest).framed op <|> ((s.step first).lastFrame rest <|> s.framed first))
    cases ((s.step first).after rest).framed op <;> rfl

theorem step_traced {seen : Option LastFrame} {s : Session} (op : Op) (h : Run.Traced seen s.run) :
    Run.Traced (s.framed op <|> seen) (s.step op).run := by
  cases op with
  | draw area b anchors =>
    cases hStep : s.run.step? with
    | none =>
      -- there is no step, and nothing is drawn
      obtain ⟨hRun, hFrame⟩ := step_idle hStep area b anchors
      rw [hRun, hFrame]
      exact h
    | some step =>
      rw [framed, hStep]
      exact Run.draw_traced hStep area b anchors s.now
  | revise index view => exact ⟨h.fresh, h.drawn⟩
  | _ => exact h.shift (Run.perform_shift s.now (by simp) (by simp))

theorem after_traced {s : Session} (h : Run.Traced none s.run) (ops : List Op) :
    Run.Traced (s.lastFrame ops) (s.after ops).run := by
  refine (after_induction_history (P := fun ops t => t = s.after ops ∧ Run.Traced (s.lastFrame ops) t.run) ?_
    ⟨rfl, h⟩ ops).2
  rintro ops t op ⟨rfl, hTraced⟩
  refine ⟨?_, ?_⟩
  · rw [after, after, List.foldl_append]
    rfl
  · rw [lastFrame_concat]
    exact step_traced op hTraced

/-- What an event does to a session whose run shows the step at an index of `n` steps. -/
structure InputAccount (n : Nat) (settings : Settings) (step : Step) (seen : Option LastFrame) (own : Option Rect)
    (s : Session) (i : Nat) (e : Event) : Prop where
  /-- In the cases of `Moves` the run makes the one move that is demanded, and does what that move does. -/
  moved : ∀ d, Run.Moves settings step seen own e d →
    (s.step (.handle e)).run = (s.run.meet (some d) s.now).1 ∧
      (s.run.handle e s.now).2.2 = (s.run.meet (some d) s.now).2.2 ∧ (s.step (.handle e)).run.state = d.goal n i
  /-- In no other case anything changes about the run, its state and its deadline included. -/
  still : (¬ ∃ d, Run.Moves settings step seen own e d) →
    (s.step (.handle e)).run = s.run ∧ (s.run.handle e s.now).2.2 = []
  taken : (s.run.handle e s.now).2.1 = true ↔ Run.Takes settings step seen e

/--
**Input.** Whatever operations came before, an event moves a run at a step in the cases of `Moves` and in no other:
when the view inside the bubble asks for the next step, at a key or over the content as it was drawn last; behind a
veil, when a key or a click beside the bubble is a tap at a step that needs no interaction, or the escape key may end
the run; and without a veil, when a click on the bubble is such a tap. It is one move then. Every other event leaves the
run as it was. The run keeps to itself just the events of `Takes`.
-/
theorem input_account (steps : List Step) (settings : Settings) (style : BubbleStyle) (identity : Option String)
    (delegate : Option Delegate) (now : Nanos) (ops : List Op) {i : Nat}
    (hState : ((opening steps settings style identity delegate now).after ops).run.state = .running i) (e : Event) :
    ∃ own step views, steps[i]? = some own ∧ step.look = own.look ∧ step.pace = own.pace ∧
      ((opening steps settings style identity delegate now).after ops).run.steps[i]? = some step ∧
      ((opening steps settings style identity delegate now).after ops).run.views = some views ∧
      InputAccount steps.length settings step
        ((opening steps settings style identity delegate now).lastFrame ops) views.contentArea
        ((opening steps settings style identity delegate now).after ops) i e := by
  have hTimed := after_timed (opening_timed steps settings style identity delegate now) ops
  have hReached : Reached steps settings style ops ((opening steps settings style identity delegate now).after ops) :=
    ⟨identity, delegate, now, rfl⟩
  have hTraced : Run.Traced ((opening steps settings style identity delegate now).lastFrame ops) _ :=
    after_traced ⟨fun _ => rfl, fun views h => by cases h⟩ ops
  set s := (opening steps settings style identity delegate now).after ops
  generalize (opening steps settings style identity delegate now).lastFrame ops = seen at hTraced ⊢
  have hScene := hReached.scene
  obtain ⟨step, views, hStep, hViews, hSight⟩ := hScene.sight i hState
  obtain ⟨own, hOwn, hLook⟩ := hScene.own_step hStep
  have hPlaced : Run.Placed s.run i step views seen := by
    refine ⟨hState, hStep, hViews, ?_, (hTraced.drawn views hViews).1, (hTraced.drawn views hViews).2⟩
    have hVeil := congrArg Option.isSome hSight.tint
    rw [Option.isSome_map, Option.isSome_map] at hVeil
    rw [hVeil, hScene.made.1]
    exact dimming_isSome_iff settings.presentationMode
  refine ⟨own, step, views, hOwn, hLook, hTimed.tour.pace_at hStep hOwn, hStep, hViews, fun d hMoves => ?_,
    fun hNone => ?_, ?_⟩
  · have hMoved := hPlaced.handle_moved (hScene.made.1 ▸ hMoves) s.now
    rwa [hTimed.tour.length] at hMoved
  · exact hPlaced.handle_still (hScene.made.1 ▸ hNone) s.now
  · have hTaken := hPlaced.handle_taken e s.now
    rwa [hScene.made.1] at hTaken

/-- A click on the view inside the bubble of a held step, where the last frame has drawn it, completes the run. -/
theorem input_account_content :
    let view : CustomContent :=
      { preferredSize := fun _ => ⟨6, 1⟩, draw := fun _ _ b => b
        onMouse := fun e _ => if e.kind = .down .left then .stepWalkthrough else .ignored }
    let step : Step := { Step.centered (.custom view) .zero with needsInteraction := true }
    let area : Rect := ⟨0, 0, 20, 8⟩
    let ops : List Op := [.start, .pass (millis 300), .draw area (.blank area) .empty]
    let s := (opening [step] {} {} none none 0).after ops
    let e : Event := .mouse { kind := .down .left, position := ⟨10, 4⟩ }
    s.run.state = .running 0 ∧ (s.step (.handle e)).run.state = .completed := by
  intro view step area ops s e
  have hState : s.run.state = .running 0 := by decide +kernel
  have hBubble : onBubble ((opening [step] {} {} none none 0).lastFrame ops) ⟨10, 4⟩ = true := by decide +kernel
  have hContent : contentAt ((opening [step] {} {} none none 0).lastFrame ops) ⟨10, 4⟩ = some ⟨7, 4, 6, 1⟩ := by
    decide +kernel
  obtain ⟨own, now, views, hOwn, hLook, hPace, hStep, hViews, hAccount⟩ :=
    input_account [step] {} {} none none 0 ops hState e
  have hSame : s.run.steps[0]? = some step := rfl
  obtain rfl := Option.some.inj (hSame.symm.trans hStep)
  exact ⟨hState, (hAccount.moved _ (.content hBubble hContent rfl)).2.2⟩

end Session

end GuidedTour
