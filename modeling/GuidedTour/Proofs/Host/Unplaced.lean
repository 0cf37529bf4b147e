import GuidedTour.Proofs.Host.Rest
import GuidedTour.Proofs.Run.Unplaced

/-!
# Bubbles whose view is gone

A floating bubble shows one step for its whole life, so the frames that were drawn since it was shown are the frames of
its step. As for the step of a run, all that matters in a frame without the view is whether one of them had the view.

Main results:

* `perform_held` - no operation but a frame touches a bubble that it leaves on the screen.
* `Followed.perform` - what is known of the bubbles after one more operation.
* `unplaced_bubbles` - what there is to see of a bubble while its view is not registered, of a run or on its own.
-/

namespace GuidedTour

open Layout Screen Bubble Completion Storage

/-! ## One bubble -/

namespace FloatingBubble

/-- What is known of a bubble on the screen, by the anchors that it was drawn against. -/
structure Upheld (frames : List Anchors) (f : FloatingBubble) : Prop where
  shows    : f.view.Shows f.step.kind
  standing : ∀ id location, f.step.kind = .highlighted (.view id) location → f.view.Standing id frames

theorem upheld_shown (n : BubbleId) (own : Step) (options : BubbleOptions) (now : Nanos) :
    (shown n own options now).Upheld [] where
  shows := .fresh ..
  standing := fun id _ _ => .begun rfl id

theorem Upheld.draw {frames : List Anchors} {f : FloatingBubble} (h : f.Upheld frames) (hShown : f.isRemoved = false)
    (area : Rect) (b : Buffer) (anchors : Anchors) (now : Nanos) :
    (f.draw area b anchors now).1.Upheld (frames ++ [anchors]) := by
  rw [(draw_of_shown hShown area b anchors now).1]
  refine ⟨.drawn (.laidOut h.shows rfl _ now) .., fun id location hKind => ?_⟩
  show View.Standing id (frames ++ [(Context.of area anchors).anchors]) _
  exact (h.standing id location hKind).next h.shows hKind f.step.content area b

theorem id_draw (f : FloatingBubble) (area : Rect) (b : Buffer) (anchors : Anchors) (now : Nanos) :
    (f.draw area b anchors now).1.id = f.id := by
  obtain ⟨view, lastError, hDrawn⟩ := f.draw_keeps area b anchors now
  rw [hDrawn]

theorem isRemoved_draw (f : FloatingBubble) (area : Rect) (b : Buffer) (anchors : Anchors) (now : Nanos) :
    (f.draw area b anchors now).1.isRemoved = f.isRemoved := by
  obtain ⟨view, lastError, hDrawn⟩ := f.draw_keeps area b anchors now
  rw [hDrawn]
  rfl

end FloatingBubble

namespace Host

/-! ## One operation -/

/-- What an operation makes of a bubble that it leaves on the screen. -/
def Op.Leaves (op : Op) (h : Host) (now : Nanos) (f f' : FloatingBubble) : Prop :=
  match op with
  | .draw area _ => ∃ b, f' = (f.draw area b h.anchors now).1
  | _ => f' = f

theorem mem_drawn {area : Rect} {anchors : Anchors} {now : Nanos} {bubbles : List FloatingBubble} {b : Buffer}
    {f' : FloatingBubble} (h : f' ∈ (drawBubbles area anchors now bubbles b).1) :
    ∃ f ∈ bubbles, ∃ b, f' = (f.draw area b anchors now).1 := by
  induction bubbles generalizing b with
  | nil => exact absurd h List.not_mem_nil
  | cons f rest ih =>
    rcases List.mem_cons.mp h with rfl | hRest
    · exact ⟨f, List.mem_cons_self, b, rfl⟩
    · obtain ⟨g, hg, hDrawn⟩ := ih hRest
      exact ⟨g, List.mem_cons_of_mem f hg, hDrawn⟩

theorem drawn_mem {area : Rect} {anchors : Anchors} {now : Nanos} {bubbles : List FloatingBubble} {f : FloatingBubble}
    (h : f ∈ bubbles) (b : Buffer) :
    ∃ b', (f.draw area b' anchors now).1 ∈ (drawBubbles area anchors now bubbles b).1 := by
  induction bubbles generalizing b with
  | nil => exact absurd h List.not_mem_nil
  | cons first rest ih =>
    rcases List.mem_cons.mp h with rfl | hRest
    · exact ⟨b, List.mem_cons_self⟩
    · obtain ⟨b', hDrawn⟩ := ih hRest (first.draw area b anchors now).2.1
      exact ⟨b', List.mem_cons_of_mem _ hDrawn⟩

/-- No operation but a frame touches a bubble that it leaves on the screen. -/
theorem perform_held {h : Host} {op : Op} {now : Nanos} {f' : FloatingBubble} (hf' : f' ∈ (h.perform op now).1.bubbles)
    (hShown : f'.isRemoved = false) :
    f' ∈ op.shown h now ∨ ∃ f ∈ h.bubbles, f.isRemoved = false ∧ op.Leaves h now f f' := by
  have hSame : f' ∈ h.bubbles → ∃ f ∈ h.bubbles, f.isRemoved = false ∧ f' = f := fun hf => ⟨f', hf, hShown, rfl⟩
  have hNever : ∀ (f : FloatingBubble), f.remove now ≠ f' := fun f hRemoved => by
    have := f.isRemoved_remove now
    rw [hRemoved, hShown] at this
    cases this
  cases op with
  | start request =>
    rw [(bubbles_start h request now).1] at hf'
    exact .inr (hSame (List.mem_filter.mp hf').1)
  | handle e =>
    change f' ∈ (h.handle e now).1.bubbles at hf'
    rw [bubbles_handle] at hf'
    exact .inr (hSame (List.mem_filter.mp hf').1)
  | tick =>
    change f' ∈ (h.tick now).1.bubbles at hf'
    rw [bubbles_tick] at hf'
    obtain ⟨f, hf, hTicked⟩ := List.mem_map.mp hf'
    -- a bubble that was removed just now is not left on the screen
    split at hTicked
    · exact absurd hTicked (hNever _)
    · cases hDue : f.isDue now with
      | true =>
        rw [FloatingBubble.expire_of_due hDue] at hTicked
        have hRemoved : f'.isRemoved = true := hTicked ▸ f.isRemoved_remove now
        rw [hShown] at hRemoved
        cases hRemoved
      | false =>
        rw [FloatingBubble.expire_of_early hDue] at hTicked
        exact .inr (hSame (hTicked ▸ (List.mem_filter.mp hf).1))
  | draw area b =>
    change f' ∈ (h.draw area b now).1.bubbles at hf'
    rw [bubbles_draw] at hf'
    obtain ⟨f, hf, b', rfl⟩ := mem_drawn hf'
    rw [FloatingBubble.isRemoved_draw] at hShown
    exact .inr ⟨f, hf, hShown, b', rfl⟩
  | disappear => exact absurd hf' List.not_mem_nil
  | step id =>
    rw [(bubbles_step h id now).1] at hf'
    exact .inr (hSame hf')
  | dismiss id =>
    rw [(bubbles_dismiss h id now).1] at hf'
    exact .inr (hSame hf')
  | showBubble own options =>
    rcases List.mem_append.mp hf' with hOld | hNew
    · exact .inr (hSame hOld)
    · exact .inl hNew
  | removeBubble id =>
    obtain ⟨f, hf, hKept⟩ := List.mem_map.mp hf'
    split at hKept
    · exact absurd hKept (hNever f)
    · exact .inr (hSame (hKept ▸ hf))
  | arrange anchors => exact .inr (hSame hf')
  | revise index view => exact .inr (hSame hf')
  | alter store disk => exact .inr (hSame hf')

/-! ## Frames of a bubble -/

/-- The anchors that an operation draws a bubble against, if it is a frame and the bubble is on the screen. -/
def against (h : Host) (n : BubbleId) : Op → List Anchors
  | .draw _ _ => if h.isVisible n then [h.anchors] else []
  | _ => []

/-- The anchors that a bubble is drawn against during some moments, in order. -/
def frames (h : Host) (n : BubbleId) : List (Op × Nanos) → List Anchors
  | [] => []
  | m :: rest => h.against n m.1 ++ (h.perform m.1 m.2).1.frames n rest

theorem frames_concat (h : Host) (n : BubbleId) (moments : List (Op × Nanos)) (m : Op × Nanos) :
    h.frames n (moments ++ [m]) = h.frames n moments ++ (h.after moments).against n m.1 := by
  induction moments generalizing h with
  | nil => exact List.append_nil _
  | cons first rest ih =>
    show h.against n first.1 ++ (h.perform first.1 first.2).1.frames n (rest ++ [m]) = _
    rw [ih, ← List.append_assoc]
    rfl

theorem isVisible_of_mem {h : Host} {f : FloatingBubble} (hf : f ∈ h.bubbles) (hShown : f.isRemoved = false) :
    h.isVisible f.id = true := by
  rw [isVisible, List.any_eq_true]
  exact ⟨f, hf, by simp [hShown]⟩

/-- A bubble is drawn only after it was given its number. -/
theorem Numbered.against_nil {h : Host} (hNumbered : h.Numbered) {n : BubbleId} (hNew : h.bubbleCount ≤ n) (op : Op) :
    h.against n op = [] := by
  cases op with
  | draw area b =>
    refine if_neg fun hVisible => ?_
    rw [isVisible, List.any_eq_true] at hVisible
    obtain ⟨f, hf, hThis⟩ := hVisible
    rw [Bool.and_eq_true, decide_eq_true_eq] at hThis
    exact Nat.not_lt.mpr hNew (hThis.1 ▸ hNumbered.bound f hf)
  | _ => rfl

/-- What is known of all bubbles on the screen, by the anchors that each of them was drawn against. -/
structure Followed (frames : BubbleId → List Anchors) (h : Host) : Prop where
  numbered : h.Numbered
  undrawn  : ∀ n, h.bubbleCount ≤ n → frames n = []
  bubbles  : ∀ f ∈ h.bubbles, f.isRemoved = false → f.Upheld (frames f.id)

theorem Followed.perform {frames : BubbleId → List Anchors} {h : Host} (hFollowed : Followed frames h) (op : Op)
    (now : Nanos) : Followed (fun n => frames n ++ h.against n op) (h.perform op now).1 := by
  have hCarry := perform_bubbles h op now
  have hUndrawn : ∀ n, h.bubbleCount ≤ n → frames n ++ h.against n op = [] := fun n hNew => by
    rw [hFollowed.undrawn n hNew, hFollowed.numbered.against_nil hNew, List.append_nil]
  refine ⟨hFollowed.numbered.carry hCarry, fun n hNew => ?_, fun f' hf' hShown => ?_⟩
  · rw [hCarry.count] at hNew
    exact hUndrawn n ((Nat.le_add_right ..).trans hNew)
  rcases perform_held hf' hShown with hNew | ⟨f, hf, hBefore, hLeaves⟩
  · -- a new number was not drawn yet
    show f'.Upheld (frames f'.id ++ h.against f'.id op)
    rw [hUndrawn f'.id (shown_id hNew).ge]
    cases op with
    | showBubble own options =>
      rw [List.mem_singleton.mp hNew]
      exact FloatingBubble.upheld_shown ..
    | _ => exact absurd hNew List.not_mem_nil
  · have hUpheld := hFollowed.bubbles f hf hBefore
    cases op with
    | draw area b =>
      obtain ⟨b', rfl⟩ := hLeaves
      have hAgainst : h.against f.id (.draw area b) = [h.anchors] := if_pos (isVisible_of_mem hf hBefore)
      show FloatingBubble.Upheld (frames _ ++ h.against _ _) _
      rw [f.id_draw, hAgainst]
      exact hUpheld.draw hBefore area b' h.anchors now
    | _ =>
      obtain rfl := hLeaves
      show FloatingBubble.Upheld (frames _ ++ []) _
      rw [List.append_nil]
      exact hUpheld

theorem after_followed {first : Host} (hFirst : Followed (fun _ => []) first) (moments : List (Op × Nanos)) :
    Followed (fun n => first.frames n moments) (first.after moments) := by
  induction moments using List.reverseRecOn with
  | nil => exact hFirst
  | append_singleton earlier m ih =>
    rw [after_concat]
    simp only [frames_concat]
    exact ih.perform m.1 m.2

/-! ## A frame without the view -/

theorem drawBubbles_unseen {area : Rect} {anchors : Anchors} {now : Nanos} {bubbles : List FloatingBubble}
    {stays : FloatingBubble → Bool}
    (hUnseen : ∀ f ∈ bubbles, stays f = false → ∀ b, (f.draw area b anchors now).2.1 = b) (b : Buffer) :
    (drawBubbles area anchors now bubbles b).2.1 = (drawBubbles area anchors now (bubbles.filter stays) b).2.1 := by
  induction bubbles generalizing b with
  | nil => rfl
  | cons f rest ih =>
    have hRest := ih fun g hg => hUnseen g (List.mem_cons_of_mem f hg)
    cases hStays : stays f with
    | false =>
      rw [List.filter_cons_of_neg (by simp [hStays]), ← hRest]
      show (drawBubbles area anchors now rest (f.draw area b anchors now).2.1).2.1 = _
      rw [hUnseen f List.mem_cons_self hStays]
    | true =>
      rw [List.filter_cons_of_pos hStays]
      exact hRest (f.draw area b anchors now).2.1

/-- The picture of a frame does not depend on bubbles that draw nothing. -/
theorem picture_unseen {h : Host} {area : Rect} {now : Nanos} {stays : FloatingBubble → Bool}
    (hUnseen : ∀ f ∈ h.bubbles, stays f = false → ∀ b, (f.draw area b h.anchors now).2.1 = b) (b : Buffer) :
    (h.draw area b now).2.1 = ({ h with bubbles := h.bubbles.filter stays }.draw area b now).2.1 := by
  have hSame := drawBubbles_unseen hUnseen b
  -- the run is drawn over the picture that the bubbles leave
  unfold draw
  dsimp only
  cases h.active with
  | none => exact hSame
  | some held =>
    dsimp only
    rw [hSame]

/-- What there is to see of a floating bubble that is tied to a view, as long as the view is not registered. -/
structure Tied (id : String) (frames : List Anchors) (h : Host) (f : FloatingBubble) : Prop where
  /-- A bubble that no frame could place covers no position. -/
  covers : frames ≠ [] → ¬ Registered id frames → ∀ p, f.view.contains p = false
  /-- A frame without the view looks as if the bubble were not there, unless the view was registered in an earlier frame
  of the bubble. -/
  frame  : h.anchors.resolve id = none → ∀ area b now, ∃ f' ∈ (h.draw area b now).1.bubbles, f'.id = f.id ∧
    View.Unplaced id frames f.view f'.view ({ h with bubbles := h.bubbles.filter (·.id ≠ f.id) }.draw area b now).2.1
      (h.draw area b now).2.1 now

theorem Followed.tied {frames : BubbleId → List Anchors} {h : Host} (hFollowed : Followed frames h) {f : FloatingBubble}
    (hf : f ∈ h.bubbles) (hShown : f.isRemoved = false) {id : String} {location : TextLocation}
    (hKind : f.step.kind = .highlighted (.view id) location) : Tied id (frames f.id) h f := by
  have hUpheld := hFollowed.bubbles f hf hShown
  have hStanding := hUpheld.standing id location hKind
  refine ⟨hStanding.covers, fun hGone area b now => ?_⟩
  have hMember : ∃ b', (f.draw area b' h.anchors now).1 ∈ (drawBubbles area h.anchors now h.bubbles b).1 :=
    drawn_mem hf b
  obtain ⟨b', hDrawn⟩ := hMember
  have hError : (f.view.layout f.step (.of area h.anchors) now).2 = .error (.unresolvedAnchor id) :=
    View.layout_unregistered hUpheld.shows hKind hGone now
  obtain ⟨hAfter, -⟩ := FloatingBubble.draw_of_shown hShown area b' h.anchors now
  refine ⟨(f.draw area b' h.anchors now).1, by rwa [bubbles_draw], f.id_draw .., ?_⟩
  rw [hAfter]
  refine hStanding.unplaced hError f.step.content area b' fun hHidden => picture_unseen (fun g hg hOut b => ?_) b
  -- the bubble that is left out is this one, and it draws nothing
  have hThis : g.id = f.id := by simpa using hOut
  obtain rfl := hFollowed.numbered.unique hg hf hThis
  have hLaid : (g.view.layout g.step (.of area h.anchors) now).1.visible = false := by
    obtain ⟨drawn, hKept⟩ := (g.view.layout g.step (.of area h.anchors) now).1.draw_keeps g.step.content area b' now
    rwa [hKept] at hHidden
  rw [(FloatingBubble.draw_of_shown hShown area b h.anchors now).2, View.draw_of_hidden hLaid]

end Host

/--
**Views that are gone.** Take a bubble that is tied to a view: that of a run at a highlighted step after any operations,
or a floating one that was not removed after any moments of a host. In a frame in which the view is not registered,
there is nothing of the bubble in the picture, and it covers no position from then on until a frame has the view; but
only if no frame of the step had the view before. After a frame that had it, the bubble is drawn all the same, where it
stood before the frame, and covers the positions there.
-/
theorem unplaced_bubbles (id : String) (location : TextLocation) :
    (∀ steps settings style identity delegate since ops i own,
      ((Session.opening steps settings style identity delegate since).after ops).run.state = .running i →
      steps[i]? = some own → own.kind = .highlighted (.view id) location →
        let first := Session.opening steps settings style identity delegate since
        ∃ views, (first.after ops).run.views = some views ∧
          Run.Tied id (first.frames i ops) (first.after ops).run (first.after ops).now views) ∧
    ∀ store disk anchors provider moments f,
      let first : Host := { store := store, disk := disk, anchors := anchors, provider := provider }
      f ∈ (first.after moments).bubbles → f.isRemoved = false → f.step.kind = .highlighted (.view id) location →
        Host.Tied id (first.frames f.id moments) (first.after moments) f := by
  refine ⟨?_, ?_⟩
  · intro steps settings style identity delegate since ops i own hState hOwn hKind
    exact Session.after_tied steps settings style identity delegate since hState hOwn hKind
  · intro store disk anchors provider moments f first hf hShown hKind
    have hFirst : Host.Followed (fun _ => []) first :=
      ⟨⟨.nil, fun _ hf => absurd hf List.not_mem_nil⟩, fun _ _ => rfl, fun _ hf => absurd hf List.not_mem_nil⟩
    exact (Host.after_followed hFirst moments).tied hf hShown hKind

/-- A view that was never registered leaves a screen on which no position is covered, by the bubble of a run or by a
floating one. -/
theorem unplaced_bubbles_unregistered :
    let own : Step := .below (.view "v") (.rich [])
    let area : Rect := ⟨0, 0, 20, 10⟩
    let s := (Session.opening [own] {} {} none none 0).after [.start, .draw area (.blank area) .empty]
    let h := Host.after {} [(.showBubble own {}, 0), (.draw area (.blank area), 0)]
    (∃ views, s.run.views = some views ∧ ∀ p, views.bubble.contains p = false) ∧
      ∃ f ∈ h.bubbles, f.isRemoved = false ∧ ∀ p, f.view.contains p = false := by
  intro own area s h
  have hNever : ¬ Registered "v" [.empty] := by simp [Registered, Anchors.resolve, Anchors.empty]
  refine ⟨?_, ?_⟩
  · have hState : s.run.state = .running 0 := by decide +kernel
    obtain ⟨views, hViews, hTied⟩ := (unplaced_bubbles "v" .below).1 [own] {} {} none none 0
      [.start, .draw area (.blank area) .empty] 0 own hState rfl rfl
    exact ⟨views, hViews, hTied.covers (List.cons_ne_nil _ _) hNever⟩
  · have hHeld : ∃ f ∈ h.bubbles, f.isRemoved = false ∧ f.step = own ∧ f.id = 0 :=
      ⟨_, List.mem_cons_self, rfl, rfl, rfl⟩
    obtain ⟨f, hf, hShown, hStep, hId⟩ := hHeld
    have hTied := (unplaced_bubbles "v" .below).2 (.memory .empty) .fresh .empty none
      [(.showBubble own {}, 0), (.draw area (.blank area), 0)] f hf hShown (by rw [hStep]; rfl)
    rw [hId] at hTied
    exact ⟨f, hf, hShown, hTied.covers (List.cons_ne_nil _ _) hNever⟩

/-- A view that was registered in the first frame of a step leaves the bubble there: in a frame without the view it is
drawn, and covers a position. -/
theorem stale_bubble_drawn :
    let own : Step := .below (.view "v") (.rich [])
    let area : Rect := ⟨0, 0, 20, 10⟩
    let s := (Session.opening [own] { presentationMode := .none, stepTransition := 0 } {} none none 0).after
      [.start, .draw area (.blank area) (Anchors.empty.record "v" ⟨8, 1, 4, 1⟩)]
    let frame := s.run.draw area (.blank area) .empty s.now
    s.run.state = .running 0 ∧ Anchors.empty.resolve "v" = none ∧ frame.2.1.cells ≠ (Buffer.blank area).cells ∧
      ∃ views, frame.1.views = some views ∧ views.bubble.contains ⟨10, 5⟩ = true := by
  intro own area s frame
  have hState : s.run.state = .running 0 := by decide +kernel
  have hPicture : frame.2.1.cells ≠ (Buffer.blank area).cells := by decide +kernel
  have hCovered : frame.1.views.any (fun views => views.bubble.contains ⟨10, 5⟩) = true := by decide +kernel
  obtain ⟨views, hViews, hContains⟩ := (Option.any_eq_true ..).mp hCovered
  exact ⟨hState, rfl, hPicture, views, hViews, hContains⟩

end GuidedTour
