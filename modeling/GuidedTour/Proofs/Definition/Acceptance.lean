import GuidedTour.Definition.Building
import Mathlib.Data.List.Forall2

/-!
# Which definitions are accepted

A definition is refused for the first of its faults: those of the steps come first, in the order of the steps, then the
strength of the veil, then the colors. `Definition.faults` lists all of them, whether they are reported or not, and
`Definition.Acceptable` says what a definition without any looks like. The checks and the converters are spread over the
model; `Reports` says of each what it looks for, and is composed as they are.

Main results:

* `reports_check`, `reports_build` - what each part looks for.
* `faults_eq_nil_iff` - the definitions without a fault.
* `ofDefinition_verdict` - the definitions that are accepted, why the others are refused, and the steps that result.
-/

namespace GuidedTour

open Layout Screen

/-! ## Faults -/

/-- Whether a text names a color, white space around it aside. -/
def NamesColor (s : String) : Prop := (Color.ofText? (Text.trim s)).isSome

instance (s : String) : Decidable (NamesColor s) := inferInstanceAs (Decidable (_ = true))

/-- The texts that name no color. -/
def colorFaults (colors : List String) : List DefinitionError :=
  (colors.filter fun s => ¬NamesColor s).map .invalidColor

/-- The veil of a presentation mode. -/
def PresentationSpec.dim? : PresentationSpec → Option DimSpec
  | .dimAndHighlight d | .dim d => some d
  | .none => Option.none

/-- The color of a shadow, if it has one of its own. -/
def ShadowSpec.color? : ShadowSpec → Option String
  | .custom _ color _ => some color
  | _ => Option.none

/-- The colors of the spans of a content. -/
def ContentSpec.colors : ContentSpec → List String
  | .text _ => []
  | .rich spans => spans.filterMap (·.color)

/-- What is wrong with the place of a step. -/
def StepSpec.placementFaults (index : Nat) : StepSpec → List DefinitionError
  | .standalone s =>
    if s.centerOffset = none ∧ s.layout = [] then [.missingPlacement index]
    else if s.centerOffset ≠ none ∧ s.layout ≠ [] then [.ambiguousPlacement index] else []
  | .highlighted s =>
    match s.anchor with
    | .view id => if Text.isAllBlank id then [.emptyAnchor index] else []
    | .rect _ => []

/-- What is wrong with a step: first its content, then its place. -/
def StepSpec.faults (index : Nat) (step : StepSpec) : List DefinitionError :=
  (if step.content.isEmpty then [.emptyContent index] else []) ++ step.placementFaults index

/-- What is wrong with the strength of a veil. -/
def DimSpec.faults (d : DimSpec) : List DefinitionError :=
  match d.alpha with
  | none => []
  | some a => if 0 ≤ a ∧ a ≤ 1 then [] else [.invalidAlpha a]

namespace Definition

/-- The veil of a definition. -/
def dim? (d : Definition) : Option DimSpec := d.settings.presentationMode.bind (·.dim?)

/-- All colors of a definition: of the veil, of text, background and shadow, and of the spans of its steps. -/
def colors (d : Definition) : List String :=
  (d.dim?.bind (·.color)).toList ++ (d.style.textColor.toList ++ d.style.backgroundColor.toList ++
    (d.style.shadow.bind (·.color?)).toList) ++ d.steps.flatMap (·.content.colors)

/-- All that is wrong with a definition, in the order in which it counts. -/
def faults (d : Definition) : List DefinitionError :=
  (d.steps.zipIdx.flatMap fun p => p.1.faults p.2) ++ d.dim?.toList.flatMap (·.faults) ++ colorFaults d.colors

/-- What a definition must be like to be accepted. -/
structure Acceptable (d : Definition) : Prop where
  content : ∀ step ∈ d.steps, step.content.isEmpty = false
  placement : ∀ s, .standalone s ∈ d.steps → (s.centerOffset ≠ none ↔ s.layout = [])
  anchor : ∀ s id, .highlighted s ∈ d.steps → s.anchor = .view id → Text.isAllBlank id = false
  alpha : ∀ dim ∈ d.dim?, ∀ a ∈ dim.alpha, 0 ≤ a ∧ a ≤ 1
  colors : ∀ s ∈ d.colors, NamesColor s

end Definition

/-! ## What a check looks for -/

/-- A computation fails with the first of some faults, and succeeds without any. -/
inductive Reports {ε α : Type} : Except ε α → List ε → Prop where
  | pass (a : α) : Reports (.ok a) []
  | fail (e : ε) (rest : List ε) : Reports (.error e) (e :: rest)

attribute [simp] Reports.pass Reports.fail

section Reports

variable {ε α β : Type}

theorem Reports.bind {x : Except ε α} {f : α → Except ε β} {first rest : List ε} (hx : Reports x first)
    (hf : ∀ a, Reports (f a) rest) : Reports (x >>= f) (first ++ rest) := by
  cases hx with
  | pass a => exact hf a
  | fail e more => exact .fail e (more ++ rest)

/-- What follows without a failure adds no fault. -/
theorem Reports.then {x : Except ε α} {f : α → Except ε β} {faults : List ε} (hx : Reports x faults)
    (hf : ∀ a, ∃ b, f a = .ok b) : Reports (x >>= f) faults := by
  rw [← List.append_nil faults]
  refine hx.bind fun a => ?_
  obtain ⟨b, hb⟩ := hf a
  exact hb ▸ .pass b

theorem Reports.mapM {γ : Type} {f : γ → Except ε α} {g : γ → List ε} (h : ∀ c, Reports (f c) (g c)) (cs : List γ) :
    Reports (cs.mapM f) (cs.flatMap g) := by
  induction cs with
  | nil => exact .pass []
  | cons c cs ih =>
    rw [List.mapM_cons, List.flatMap_cons]
    exact (h c).bind fun a => ih.then fun as => ⟨a :: as, rfl⟩

theorem Reports.foldlM {γ : Type} {f : α → γ → Except ε α} {g : γ → List ε} (h : ∀ a c, Reports (f a c) (g c))
    (cs : List γ) (a : α) : Reports (cs.foldlM f a) (cs.flatMap g) := by
  induction cs generalizing a with
  | nil => exact .pass a
  | cons c cs ih =>
    rw [List.foldlM_cons, List.flatMap_cons]
    exact (h a c).bind fun b => ih b

theorem Reports.ok_iff {x : Except ε α} {faults : List ε} (h : Reports x faults) :
    (∃ a, x = .ok a) ↔ faults = [] := by
  cases h <;> simp

theorem Reports.error_iff {x : Except ε α} {faults : List ε} (h : Reports x faults) (e : ε) :
    x = .error e ↔ faults.head? = some e := by
  cases h <;> simp

end Reports

/-! ## The structural checks -/

theorem reports_stepCheck (index : Nat) (step : StepSpec) : Reports (step.check index) (step.faults index) := by
  cases hEmpty : step.content.isEmpty with
  | true =>
    simp only [StepSpec.check, StepSpec.faults, hEmpty, if_true]
    exact .fail _ _
  | false =>
    simp only [StepSpec.check, StepSpec.faults, hEmpty, Bool.false_eq_true, if_false, List.nil_append]
    cases step with
    | standalone s =>
      -- an offset and rules are both given, or neither, or one of them
      cases hOffset : s.centerOffset <;> cases hLayout : s.layout <;>
        simp [StepSpec.placementFaults, hOffset, hLayout]
    | highlighted s =>
      cases hAnchor : s.anchor with
      | view id => cases hBlank : Text.isAllBlank id <;> simp [StepSpec.placementFaults, hAnchor, hBlank]
      | rect r => simp [StepSpec.placementFaults, hAnchor]

theorem reports_checkSteps (steps : List StepSpec) (index : Nat) :
    Reports (checkSteps index steps) ((steps.zipIdx index).flatMap fun p => p.1.faults p.2) := by
  induction steps generalizing index with
  | nil => exact .pass ()
  | cons step rest ih =>
    rw [checkSteps, List.zipIdx_cons, List.flatMap_cons]
    exact (reports_stepCheck index step).bind fun _ => ih (index + 1)

theorem reports_dimCheck (d : DimSpec) : Reports d.check d.faults := by
  cases hAlpha : d.alpha with
  | none => simp [DimSpec.check, DimSpec.faults, hAlpha]
  | some a => by_cases hUnit : 0 ≤ a ∧ a ≤ 1 <;> simp [DimSpec.check, DimSpec.faults, hAlpha, hUnit]

theorem reports_check (d : Definition) :
    Reports d.check ((d.steps.zipIdx.flatMap fun p => p.1.faults p.2) ++ d.dim?.toList.flatMap (·.faults)) := by
  refine (reports_checkSteps d.steps 0).bind fun _ => ?_
  rw [Definition.dim?]
  cases d.settings.presentationMode with
  | none => exact .pass ()
  | some mode =>
    cases mode with
    | none => exact .pass ()
    | dimAndHighlight dim =>
      rw [Option.bind_some, PresentationSpec.dim?, Option.toList_some, List.flatMap_singleton]
      exact reports_dimCheck dim
    | dim dim =>
      rw [Option.bind_some, PresentationSpec.dim?, Option.toList_some, List.flatMap_singleton]
      exact reports_dimCheck dim

/-! ## The colors -/

theorem reports_resolveColor (s : String) : Reports (resolveColor s) (colorFaults [s]) := by
  rw [resolveColor]
  cases hColor : Color.ofText? (Text.trim s) with
  | none => simp [colorFaults, NamesColor, hColor]
  | some c => simp [colorFaults, NamesColor, hColor]

theorem colorFaults_nil : colorFaults [] = [] := rfl

theorem colorFaults_append (colors more : List String) :
    colorFaults (colors ++ more) = colorFaults colors ++ colorFaults more := by
  simp [colorFaults]

theorem reports_resolveColorOr (fallback : Color) (color : Option String) :
    Reports (resolveColorOr fallback color) (colorFaults color.toList) := by
  cases color with
  | none =>
    rw [Option.toList_none, colorFaults_nil]
    exact .pass fallback
  | some s =>
    rw [resolveColorOr, Option.toList_some]
    exact reports_resolveColor s

theorem reports_dimBuild (d : DimSpec) : Reports d.build (colorFaults d.color.toList) :=
  (reports_resolveColorOr _ d.color).then fun _ => ⟨_, rfl⟩

theorem reports_presentationBuild (p : PresentationSpec) :
    Reports p.build (colorFaults (p.dim?.bind (·.color)).toList) := by
  cases p with
  | none =>
    rw [PresentationSpec.dim?, Option.bind_none, Option.toList_none, colorFaults_nil]
    exact .pass _
  | dimAndHighlight dim =>
    rw [PresentationSpec.dim?, Option.bind_some]
    exact (reports_dimBuild dim).then fun _ => ⟨_, rfl⟩
  | dim dim =>
    rw [PresentationSpec.dim?, Option.bind_some]
    exact (reports_dimBuild dim).then fun _ => ⟨_, rfl⟩

theorem reports_settingsBuild (s : SettingsSpec) :
    Reports s.build (colorFaults ((s.presentationMode.bind (·.dim?)).bind (·.color)).toList) := by
  rw [SettingsSpec.build]
  cases s.presentationMode with
  | none =>
    rw [Option.bind_none, Option.bind_none, Option.toList_none, colorFaults_nil]
    exact .pass _
  | some mode =>
    rw [Option.bind_some]
    exact (reports_presentationBuild mode).then fun _ => ⟨_, rfl⟩

theorem reports_shadowBuild (s : ShadowSpec) : Reports s.build (colorFaults s.color?.toList) := by
  cases s with
  | custom offset color opacity =>
    rw [ShadowSpec.build, ShadowSpec.color?, Option.toList_some]
    exact (reports_resolveColor color).then fun _ => ⟨_, rfl⟩
  | _ =>
    rw [ShadowSpec.color?, Option.toList_none, colorFaults_nil]
    · exact .pass _
    · nofun

theorem reports_styleBuild (s : StyleSpec) :
    Reports s.build (colorFaults (s.textColor.toList ++ s.backgroundColor.toList ++
      (s.shadow.bind (·.color?)).toList)) := by
  rw [colorFaults_append, colorFaults_append, List.append_assoc, StyleSpec.build]
  refine (reports_resolveColorOr _ s.textColor).bind fun _ => ?_
  refine (reports_resolveColorOr _ s.backgroundColor).bind fun _ => ?_
  cases s.shadow with
  | none =>
    rw [Option.bind_none, Option.toList_none, colorFaults_nil]
    exact .pass _
  | some shadow =>
    rw [Option.bind_some]
    exact (reports_shadowBuild shadow).then fun _ => ⟨_, rfl⟩

theorem reports_spanStyle (s : SpanSpec) : Reports s.style (colorFaults s.color.toList) := by
  rw [SpanSpec.style]
  cases s.color with
  | none =>
    rw [Option.toList_none, colorFaults_nil]
    exact .pass _
  | some color =>
    rw [Option.toList_some]
    exact (reports_resolveColor color).then fun _ => ⟨_, rfl⟩

theorem colorFaults_flatMap {α : Type} (f : α → List String) (l : List α) :
    colorFaults (l.flatMap f) = l.flatMap fun a => colorFaults (f a) := by
  induction l with
  | nil => rfl
  | cons a l ih => rw [List.flatMap_cons, List.flatMap_cons, colorFaults_append, ih]

theorem reports_contentBuild (c : ContentSpec) : Reports c.build (colorFaults c.colors) := by
  cases c with
  | text s => exact .pass _
  | rich spans =>
    have hColors : spans.filterMap (·.color) = spans.flatMap fun s => s.color.toList := by
      rw [List.filterMap_eq_flatMap_toList]
    rw [ContentSpec.colors, hColors, colorFaults_flatMap]
    refine Reports.then ?_ fun _ => ⟨_, rfl⟩
    exact (Reports.foldlM (fun _ s => (reports_spanStyle s).then fun _ => ⟨_, rfl⟩) spans _).then fun _ => ⟨_, rfl⟩

theorem reports_buildSteps (d : Definition) :
    Reports d.buildSteps (colorFaults (d.steps.flatMap (·.content.colors))) := by
  rw [colorFaults_flatMap]
  exact .mapM (fun step => (reports_contentBuild step.content).then fun _ => ⟨_, rfl⟩) d.steps

/-- A definition is refused for the first of its faults. -/
theorem reports_ofDefinition (d : Definition) : Reports (DefinedWalkthrough.ofDefinition d) d.faults := by
  rw [Definition.faults, Definition.colors, colorFaults_append, colorFaults_append]
  -- the checks come before all conversions, and the conversions in the order of their colors
  refine (reports_check d).bind fun _ => ?_
  rw [List.append_assoc]
  refine (reports_settingsBuild d.settings).bind fun _ => ?_
  refine (reports_styleBuild d.style).bind fun _ => ?_
  exact (reports_buildSteps d).then fun _ => ⟨_, rfl⟩

/-! ## Definitions without a fault -/

theorem stepFaults_eq_nil_iff {index : Nat} {step : StepSpec} : step.faults index = [] ↔
    step.content.isEmpty = false ∧ (∀ s, step = .standalone s → (s.centerOffset ≠ none ↔ s.layout = [])) ∧
      ∀ s, step = .highlighted s → ∀ id, s.anchor = .view id → Text.isAllBlank id = false := by
  have hContent : (if step.content.isEmpty then [DefinitionError.emptyContent index] else []) = [] ↔
      step.content.isEmpty = false := by
    cases step.content.isEmpty <;> simp
  rw [StepSpec.faults, List.append_eq_nil_iff, hContent]
  refine and_congr_right fun _ => ?_
  cases step with
  | standalone s =>
    cases hOffset : s.centerOffset <;> cases hLayout : s.layout <;>
      simp [StepSpec.placementFaults, hOffset, hLayout]
  | highlighted s =>
    cases hAnchor : s.anchor with
    | view id => simp [StepSpec.placementFaults, hAnchor]
    | rect r => simp [StepSpec.placementFaults, hAnchor]

theorem dimFaults_eq_nil_iff {d : DimSpec} : d.faults = [] ↔ ∀ a ∈ d.alpha, 0 ≤ a ∧ a ≤ 1 := by
  cases hAlpha : d.alpha with
  | none => simp [DimSpec.faults, hAlpha]
  | some a => by_cases hUnit : 0 ≤ a ∧ a ≤ 1 <;> simp [DimSpec.faults, hAlpha, hUnit]

theorem colorFaults_eq_nil_iff {colors : List String} : colorFaults colors = [] ↔ ∀ s ∈ colors, NamesColor s := by
  simp [colorFaults, List.filter_eq_nil_iff]

theorem Definition.faults_eq_nil_iff (d : Definition) : d.faults = [] ↔ d.Acceptable := by
  have hSteps : (d.steps.zipIdx.flatMap fun p => p.1.faults p.2) = [] ↔ ∀ step ∈ d.steps,
      step.content.isEmpty = false ∧ (∀ s, step = .standalone s → (s.centerOffset ≠ none ↔ s.layout = [])) ∧
        ∀ s, step = .highlighted s → ∀ id, s.anchor = .view id → Text.isAllBlank id = false := by
    conv_rhs => rw [← List.zipIdx_map_fst 0 d.steps]
    simp only [List.flatMap_eq_nil_iff, stepFaults_eq_nil_iff, List.forall_mem_map]
  have hDim : d.dim?.toList.flatMap (·.faults) = [] ↔ ∀ dim ∈ d.dim?, ∀ a ∈ dim.alpha, 0 ≤ a ∧ a ≤ 1 := by
    simp only [List.flatMap_eq_nil_iff, Option.mem_toList, Option.mem_def, dimFaults_eq_nil_iff]
  rw [faults, List.append_eq_nil_iff, List.append_eq_nil_iff, hSteps, hDim, colorFaults_eq_nil_iff]
  constructor
  · rintro ⟨⟨hSteps, hAlpha⟩, hColors⟩
    exact
      { content := fun step hStep => (hSteps step hStep).1
        placement := fun s hs => (hSteps _ hs).2.1 s rfl
        anchor := fun s id hs => (hSteps _ hs).2.2 s rfl id
        alpha := hAlpha
        colors := hColors }
  · intro h
    refine ⟨⟨fun step hStep => ⟨h.content step hStep, ?_, ?_⟩, h.alpha⟩, h.colors⟩
    · rintro s rfl
      exact h.placement s hStep
    · rintro s rfl id
      exact h.anchor s id hStep

/-! ## The steps that result -/

/-- A step does what its author wrote. A bubble on its own is offset from the centre exactly when an offset is given;
otherwise the rules are its constraints against the container, whatever the layout's context. -/
structure Realizes (spec : StepSpec) (step : Step) : Prop where
  content : spec.content.build = .ok step.content
  needsInteraction : step.needsInteraction = spec.needsInteraction
  autoAdvance : step.autoAdvance = spec.autoAdvanceMs.map fun n => millis n.toNat
  standalone : ∀ s, spec = .standalone s → ∃ placement, step.kind = .standalone placement ∧
    (∀ offset, placement = .centerOffset offset ↔ s.centerOffset = some offset) ∧
    (s.centerOffset = none → ∃ handler, placement = .layout handler ∧ ∀ context,
      handler context = s.layout.map fun r => ⟨r.edge, r.relation, .container r.reference, r.constant, r.priority⟩)
  highlighted : ∀ s, spec = .highlighted s → ∃ anchor, step.kind = .highlighted anchor s.textLocation ∧
    (∀ id, s.anchor = .view id → anchor = .view id) ∧ ∀ r, s.anchor = .rect r → anchor = .rect (.ofCells r)

theorem realizes_of_build {spec : StepSpec} {step : Step} (h : spec.build = .ok step) : Realizes spec step := by
  cases hContent : spec.content.build with
  | error e =>
    unfold StepSpec.build at h
    rw [hContent] at h
    cases h
  | ok content =>
    unfold StepSpec.build at h
    rw [hContent] at h
    cases h
    refine ⟨hContent, rfl, rfl, ?_, ?_⟩
    · rintro s rfl
      cases hOffset : s.centerOffset with
      | none =>
        -- the handler does not look at the context
        exact ⟨.layout fun _ => s.layout.map LayoutRule.build, by simp [hOffset], by simp,
          fun _ => ⟨_, rfl, fun _ => rfl⟩⟩
      | some offset => exact ⟨.centerOffset offset, by simp [hOffset], by simp, nofun⟩
    · rintro s rfl
      refine ⟨s.anchor.build, rfl, ?_, ?_⟩
      · intro id hAnchor
        rw [hAnchor]
        rfl
      · intro r hAnchor
        rw [hAnchor]
        rfl

theorem forall₂_of_mapM {ε α β : Type} {f : α → Except ε β} {as : List α} {bs : List β} (h : as.mapM f = .ok bs) :
    List.Forall₂ (fun a b => f a = .ok b) as bs := by
  induction as generalizing bs with
  | nil =>
    cases h
    exact .nil
  | cons a as ih =>
    rw [List.mapM_cons] at h
    cases hFirst : f a with
    | error e => rw [hFirst] at h; cases h
    | ok b =>
      cases hRest : as.mapM f with
      | error e => rw [hFirst, hRest] at h; cases h
      | ok rest =>
        rw [hFirst, hRest] at h
        cases h
        exact .cons hFirst (ih hRest)

namespace DefinedWalkthrough

theorem ofDefinition_ok {d : Definition} {w : DefinedWalkthrough} (h : ofDefinition d = .ok w) :
    w.definition = d ∧ ∃ steps, d.buildSteps = .ok steps := by
  rw [ofDefinition] at h
  cases hCheck : d.check with
  | error e => rw [hCheck] at h; cases h
  | ok _ =>
    cases hSettings : d.settings.build with
    | error e => rw [hCheck, hSettings] at h; cases h
    | ok settings =>
      cases hStyle : d.style.build with
      | error e => rw [hCheck, hSettings, hStyle] at h; cases h
      | ok style =>
        cases hSteps : d.buildSteps with
        | error e => rw [hCheck, hSettings, hStyle, hSteps] at h; cases h
        | ok steps =>
          rw [hCheck, hSettings, hStyle, hSteps] at h
          cases h
          exact ⟨rfl, steps, rfl⟩

/-- A definition is accepted exactly when nothing is wrong with it, and otherwise refused for the first of its faults.
The steps of a walkthrough that was accepted are always built, one for every authored step, in their order. -/
theorem ofDefinition_verdict (d : Definition) :
    ((∃ w, ofDefinition d = .ok w) ↔ d.Acceptable) ∧
      (∀ e, ofDefinition d = .error e ↔ d.faults.head? = some e) ∧
      ∀ w, ofDefinition d = .ok w →
        w.definition = d ∧ d.buildSteps = .ok w.steps ∧ List.Forall₂ Realizes d.steps w.steps := by
  have hReports := reports_ofDefinition d
  refine ⟨hReports.ok_iff.trans d.faults_eq_nil_iff, hReports.error_iff, fun w hw => ?_⟩
  obtain ⟨hSame, steps, hSteps⟩ := ofDefinition_ok hw
  have hBuilt : w.steps = steps := by
    rw [DefinedWalkthrough.steps, hSame, hSteps]
  refine ⟨hSame, hBuilt ▸ hSteps, ?_⟩
  rw [hBuilt]
  exact (forall₂_of_mapM hSteps).imp fun spec step => realizes_of_build

end DefinedWalkthrough

end GuidedTour
