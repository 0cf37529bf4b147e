import GuidedTour.Proofs.Definition.Acceptance

/-!
# What the bodies of an accepted definition say

A body that is refused says nothing, but plain and rich bodies are held to different rules: plain text must have a
character that is not white space, and spans must only have a character. So the rule for spans lets bodies pass that a
reader sees nothing of. `ContentSpec.Speaks` is the rule that is kept, said of the text of the body as a whole.

Main results:

* `isEmpty_eq_false_iff` - the two rules as one.
* `check_eq_ok_iff` - the definitions that the structural checks let pass.
* `accepted_content` - what the bodies of an accepted definition say, and which others would do.
* `blank_body_accepted` - a body of white space that is accepted.
-/

namespace GuidedTour

/-! ## Bodies -/

namespace ContentSpec

/-- The text of a body. -/
def wording : ContentSpec → String
  | .text s => s
  | .rich spans => String.join (spans.map (·.text))

/-- Whether a body is made of spans. -/
def isRich : ContentSpec → Bool
  | .text _ => false
  | .rich _ => true

/-- A reader sees a character of the body, or it has one at least and is made of spans. -/
def Speaks (c : ContentSpec) : Prop :=
  (∃ ch ∈ c.wording.toList, Text.isBlank ch = false) ∨ c.isRich = true ∧ c.wording ≠ ""

theorem seen_iff (c : ContentSpec) :
    (∃ ch ∈ c.wording.toList, Text.isBlank ch = false) ↔ Text.isAllBlank c.wording = false := by
  simp [Text.isAllBlank]

instance (c : ContentSpec) : Decidable c.Speaks :=
  decidable_of_iff (Text.isAllBlank c.wording = false ∨ c.isRich = true ∧ c.wording ≠ "") (or_congr_left c.seen_iff.symm)

/-- A body counts as empty exactly if it does not speak. -/
theorem isEmpty_eq_false_iff (c : ContentSpec) : c.isEmpty = false ↔ c.Speaks := by
  cases c with
  | text s => simp [isEmpty, Speaks, wording, isRich, Text.isAllBlank]
  | rich spans =>
    have hAny : String.join (spans.map (·.text)) ≠ "" ↔ ∃ s ∈ spans, s.text ≠ "" := by
      rw [ne_eq, ← String.toList_inj, String.toList_join]
      simp
    have hEmpty : (rich spans).isEmpty = false ↔ ∃ s ∈ spans, s.text ≠ "" := by
      simp [isEmpty]
    rw [hEmpty, ← hAny]
    constructor
    · exact fun hSome => .inr ⟨rfl, hSome⟩
    · rintro (⟨ch, hch, -⟩ | ⟨-, hSome⟩)
      · -- a text with a character that is seen has a character
        exact fun hNone => absurd (hNone ▸ hch : ch ∈ "".toList) List.not_mem_nil
      · exact hSome

end ContentSpec

/-! ## Definitions -/

namespace StepSpec

/-- A step has exactly one place: an offset or rules, or a rectangle or a view with a name. -/
structure IsPlaced (step : StepSpec) : Prop where
  placement : ∀ s, step = .standalone s → (s.centerOffset ≠ none ↔ s.layout = [])
  anchor : ∀ s, step = .highlighted s → ∀ id, s.anchor = .view id → Text.isAllBlank id = false

/-- A step with another body. -/
def withContent (step : StepSpec) (content : ContentSpec) : StepSpec :=
  match step with
  | .standalone s => .standalone { s with content := content }
  | .highlighted s => .highlighted { s with content := content }

theorem content_withContent (step : StepSpec) (content : ContentSpec) : (step.withContent content).content = content := by
  cases step <;> rfl

/-- The place of a step has nothing to do with its body. -/
theorem IsPlaced.withContent {step : StepSpec} (h : step.IsPlaced) (content : ContentSpec) :
    (step.withContent content).IsPlaced := by
  cases step with
  | standalone s =>
    refine ⟨fun other hOther => ?_, nofun⟩
    cases hOther
    exact h.placement s rfl
  | highlighted s =>
    refine ⟨nofun, fun other hOther => ?_⟩
    cases hOther
    exact h.anchor s rfl

end StepSpec

/-- The structural checks let a definition pass exactly if the body of each step speaks, each step is placed, and there
is nothing wrong with the veil. -/
theorem check_eq_ok_iff (d : Definition) : d.check = .ok () ↔
    (∀ step ∈ d.steps, step.content.Speaks ∧ step.IsPlaced) ∧ d.dim?.toList.flatMap (·.faults) = [] := by
  have hOk : d.check = .ok () ↔ ∃ a, d.check = .ok a := ⟨fun h => ⟨(), h⟩, fun ⟨_, h⟩ => h⟩
  rw [hOk, (reports_check d).ok_iff, List.append_eq_nil_iff]
  refine and_congr_left fun _ => ?_
  conv_rhs => rw [← List.zipIdx_map_fst 0 d.steps]
  rw [List.flatMap_eq_nil_iff, List.forall_mem_map]
  refine forall₂_congr fun p _ => ?_
  rw [stepFaults_eq_nil_iff, ContentSpec.isEmpty_eq_false_iff]
  exact and_congr_right fun _ => ⟨fun h => ⟨h.1, h.2⟩, fun h => ⟨h.placement, h.anchor⟩⟩

/--
**What accepted bodies say.** The body of every step of an accepted definition has a character that is not white space,
unless it is made of spans; then it has a character at least. Nothing else about a body matters: with another body in
place of one of its own the definition is accepted exactly if that other body is of this kind.
-/
theorem accepted_content (d : Definition) (hAccepted : d.check = .ok ()) :
    (∀ step ∈ d.steps, step.content.Speaks) ∧
      ∀ i (step : StepSpec) (content : ContentSpec), d.steps[i]? = some step →
        ({ d with steps := d.steps.set i (step.withContent content) }.check = .ok () ↔ content.Speaks) := by
  obtain ⟨hSteps, hVeil⟩ := (check_eq_ok_iff d).mp hAccepted
  refine ⟨fun step hStep => (hSteps step hStep).1, fun i step content hThis => ?_⟩
  obtain ⟨hHere, rfl⟩ := List.getElem?_eq_some_iff.mp hThis
  have hPlaced := (hSteps _ (List.getElem_mem hHere)).2.withContent content
  rw [check_eq_ok_iff]
  constructor
  · rintro ⟨hAll, -⟩
    have hNew := (hAll _ (List.mem_set hHere _)).1
    rwa [StepSpec.content_withContent] at hNew
  · refine fun hSpeaks => ⟨fun other hOther => ?_, hVeil⟩
    rcases List.mem_or_eq_of_mem_set hOther with hOld | rfl
    · exact hSteps other hOld
    · rw [StepSpec.content_withContent]
      exact ⟨hSpeaks, hPlaced⟩

/-- Two steps. The body of the second is made of two spans, and blank. -/
def blankTour : Definition where
  id := "tour"
  steps := [
    .highlighted ⟨.text " Hi ", .view "slider", .below, false, none⟩,
    .standalone ⟨.rich [{ text := " " }, { text := "\n" }], some .zero, [], false, none⟩]

/-- In place of its first body a blank one would do that is made of spans, but no plain one that is blank. -/
theorem accepted_content_blank :
    let exchanged := fun content => { blankTour with
      steps := blankTour.steps.set 0 (.highlighted ⟨content, .view "slider", .below, false, none⟩) }
    blankTour.check = .ok () ∧ (∀ step ∈ blankTour.steps, step.content.Speaks) ∧
      (exchanged (.rich [{ text := "\t " }])).check = .ok () ∧ (exchanged (.text "\t ")).check ≠ .ok () := by
  intro exchanged
  have hAccepted : blankTour.check = .ok () := rfl
  obtain ⟨hSteps, hOthers⟩ := accepted_content blankTour hAccepted
  have hSet : ∀ content, (exchanged content).check = .ok () ↔ content.Speaks := fun content =>
    hOthers 0 (.highlighted ⟨.text " Hi ", .view "slider", .below, false, none⟩) content rfl
  exact ⟨hAccepted, hSteps, (hSet _).mpr (by decide), fun hPlain => absurd ((hSet _).mp hPlain) (by decide)⟩

/-- The definition is accepted although a reader sees nothing of its second body. -/
theorem blank_body_accepted : blankTour.check = .ok () ∧
    ¬ ∀ step ∈ blankTour.steps, ∃ ch ∈ step.content.wording.toList, Text.isBlank ch = false := by
  simp only [ContentSpec.seen_iff]
  exact ⟨rfl, by decide⟩

end GuidedTour
