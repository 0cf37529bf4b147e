import GuidedTour.Proofs.Decode.Reading
import GuidedTour.Definition.Reading

/-!
# The schema reads what the encoding writes

The encoding writes the fields of every record in the order in which the schema lists them, so a record is read back
slot by slot. A step is read twice: it is kept as a datum until its kind is known, and then read from the datum, so the
readers of its parts are treated for every faithful notation. Reals do not stand in steps; their readers are treated for
JSON documents alone.

Main results:

* `reads_record` - a record is read by filling its slots.
* `readStep_kept`, `reads_step` - a step is kept whole until its kind is known.
* `reads_definition` - the schema reads back every definition whose reals are finite and read back.
-/

namespace GuidedTour

open Decode Layout Json

/-! ## The reals of a definition -/

/-- A real that is written as a number, unlike infinities and what is no number. -/
def IsFinite (x : Float32) : Prop := (Decimal.Binary.ofFloat32 x).isFinite = true

/-- A real in a definition, and the number whose text is written for it. -/
structure WrittenReal where
  value  : Float32
  number : Decimal.Binary

/-- The real is written as a number, from whose text it is read back. -/
structure WrittenReal.Kept (r : WrittenReal) : Prop where
  finite : IsFinite r.value
  back   : ReadsBack r.number r.value

/-- The strength of a veil, if it is given. -/
def PresentationSpec.reals : PresentationSpec → List WrittenReal
  | .dimAndHighlight d | .dim d => d.alpha.toList.map fun alpha => ⟨alpha, .ofFloat32 alpha⟩
  | .none => []

/-- The opacity of a shadow, if it is given; it is written in double precision. -/
def ShadowSpec.reals : ShadowSpec → List WrittenReal
  | .custom _ _ opacity => [⟨opacity, (Decimal.Binary.ofFloat32 opacity).widened⟩]
  | _ => []

/-- All reals in a definition. -/
def Definition.reals (d : Definition) : List WrittenReal :=
  d.settings.presentationMode.toList.flatMap (·.reals) ++ d.style.shadow.toList.flatMap (·.reals)

namespace Definition

/-! ## Records and their slots -/

section Slots

variable {ν σ α β : Type} [Source ν] [Faithful ν]

/-- A slot that is still free takes the member under its name. -/
theorem fills_slot {name : String} {get : σ → Option β} {set : σ → β → σ} {read : ν → Decoder β} {required : Bool}
    {fields : List (Decode.Field ν σ)} {j : Json} {members : List (String × Json)} {s s' : σ} {b : β}
    (hFree : get s = none) (hRead : Reads read j b) (hRest : Fills fields members (set s b) s') :
    Fills (slot name get set read required :: fields) ((name, j) :: members) s s' := by
  have hGiven : (slot name get set read required).given s = false := by simp [slot, hFree]
  refine .cons hGiven (fun v h => ?_) hRest
  show (do return set s (← read v)) = pure (set s b)
  rw [hRead h, pure_bind]

/-- A record is read by filling its slots and putting their contents together. -/
theorem reads_record {name : String} {fields : List (Decode.Field ν σ)} {members : List (String × Json)} {s s' : σ}
    {finish : σ → Decoder α} {a : α} (hNames : (fields.map (·.name)).Nodup) (hFills : Fills fields members s s')
    (hFinish : finish s' = pure a) :
    Reads (fun v => do let s ← readRecord name fields s v; finish s) (.object members) a := by
  intro v h
  simp only [hFills.read hNames name h, pure_bind, hFinish]

end Slots

/-! ## What may be part of a step -/

section Records

variable {ν : Type} [Source ν] [Faithful ν]

theorem reads_offset (o : Offset) : Reads (ν := ν) readOffset o.toJson o :=
  reads_record (by simp [slot]) (fills_slot rfl (reads_int32 o.x) (fills_slot rfl (reads_int32 o.y) (.nil _))) rfl

theorem reads_cellSize (s : CellSize) : Reads (ν := ν) readCellSize s.toJson s :=
  reads_record (by simp [slot])
    (fills_slot rfl (reads_uint16 s.width) (fills_slot rfl (reads_uint16 s.height) (.nil _))) rfl

theorem reads_insets (i : EdgeInsets) : Reads (ν := ν) readInsets i.toJson i :=
  reads_record (by simp [slot])
    (fills_slot rfl (reads_uint16 i.top) (fills_slot rfl (reads_uint16 i.left)
      (fills_slot rfl (reads_uint16 i.bottom) (fills_slot rfl (reads_uint16 i.right) (.nil _))))) rfl

theorem reads_cellRect (r : CellRect) : Reads (ν := ν) readCellRect r.toJson r :=
  reads_record (by simp [slot])
    (fills_slot rfl (reads_uint16 r.x) (fills_slot rfl (reads_uint16 r.y)
      (fills_slot rfl (reads_uint16 r.width) (fills_slot rfl (reads_uint16 r.height) (.nil _))))) rfl

theorem reads_optionalText (o : Option String) : Reads (ν := ν) (readOptional readText) (Json.ofOption .text o) o :=
  reads_optional (fun s _ => reads_text s) fun _ _ => nofun

theorem reads_optionalUInt16 (o : Option UInt16) :
    Reads (ν := ν) (readOptional readUInt16) (Json.ofOption UInt16.toJson o) o :=
  reads_optional (fun n _ => reads_uint16 n) fun _ _ => nofun

theorem reads_optionalUInt64 (o : Option UInt64) :
    Reads (ν := ν) (readOptional readUInt64) (Json.ofOption UInt64.toJson o) o :=
  reads_optional (fun n _ => reads_uint64 n) fun _ _ => nofun

theorem reads_optionalOffset (o : Option Offset) :
    Reads (ν := ν) (readOptional readOffset) (Json.ofOption Offset.toJson o) o :=
  reads_optional (fun o _ => reads_offset o) fun _ _ => nofun

/-! ## Steps -/

theorem reads_span (s : SpanSpec) : Reads (ν := ν) readSpan s.toJson s :=
  reads_record (by simp [slot])
    (fills_slot rfl (reads_text s.text) (fills_slot rfl (reads_boolean s.bold) (fills_slot rfl (reads_boolean s.italic)
      (fills_slot rfl (reads_boolean s.underline) (fills_slot rfl (reads_optionalText s.color) (.nil _)))))) rfl

theorem reads_content (c : ContentSpec) : Reads (ν := ν) readContent c.toJson c := by
  intro v h
  have hNames : ["text", "rich"].Nodup := by decide
  cases c with
  | text s =>
    obtain ⟨p, hChoice, hp⟩ := Faithful.choice h
    rw [readContent, hChoice]
    simp only [pure_bind, placeOf_name hNames (i := 0) rfl, payload, reads_text s hp]
  | rich spans =>
    obtain ⟨p, hChoice, hp⟩ := Faithful.choice h
    have hSpans := reads_list (fun s _ => reads_span s) hp
    rw [readContent, hChoice]
    simp only [pure_bind, placeOf_name hNames (i := 1) rfl, payload, hSpans]

theorem reads_anchor (a : AnchorSpec) : Reads (ν := ν) readAnchor a.toJson a := by
  intro v h
  have hNames : ["view", "rect"].Nodup := by decide
  cases a with
  | view id =>
    obtain ⟨p, hChoice, hp⟩ := Faithful.choice h
    rw [readAnchor, hChoice]
    simp only [pure_bind, placeOf_name hNames (i := 0) rfl, payload, reads_text id hp]
  | rect r =>
    obtain ⟨p, hChoice, hp⟩ := Faithful.choice h
    rw [readAnchor, hChoice]
    simp only [pure_bind, placeOf_name hNames (i := 1) rfl, payload, reads_cellRect r hp]

theorem reads_edge (e : Edge) : Reads (ν := ν) (readUnitVariant edgeNames) (.text (nameIn edgeNames e)) e :=
  reads_name (by decide) (by cases e <;> decide)

theorem reads_relation (r : Relation) :
    Reads (ν := ν) (readUnitVariant relationNames) (.text (nameIn relationNames r)) r :=
  reads_name (by decide) (by cases r <;> decide)

theorem reads_priority (p : Priority) :
    Reads (ν := ν) (readUnitVariant priorityNames) (.text (nameIn priorityNames p)) p :=
  reads_name (by decide) (by cases p <;> decide)

theorem reads_location (l : TextLocation) :
    Reads (ν := ν) (readUnitVariant locationNames) (.text (nameIn locationNames l)) l :=
  reads_name (by decide) (by cases l <;> decide)

theorem reads_rule (r : LayoutRule) : Reads (ν := ν) readRule r.toJson r :=
  reads_record (by simp [slot])
    (fills_slot rfl (reads_edge r.edge) (fills_slot rfl (reads_relation r.relation)
      (fills_slot rfl (reads_edge r.reference) (fills_slot rfl (reads_int32 r.constant)
        (fills_slot rfl (reads_priority r.priority) (.nil _)))))) rfl

/-- A standalone step without its kind. -/
theorem reads_standalone (s : StandaloneSpec) : Reads (ν := ν) readStandalone
    (.object [("content", s.content.toJson), ("center_offset", Json.ofOption Offset.toJson s.centerOffset),
      ("layout", .list (s.layout.map LayoutRule.toJson)), ("needs_interaction", .bool s.needsInteraction),
      ("auto_advance_ms", Json.ofOption UInt64.toJson s.autoAdvanceMs)]) s :=
  reads_record (by simp [slot])
    (fills_slot rfl (reads_content s.content) (fills_slot rfl (reads_optionalOffset s.centerOffset)
      (fills_slot rfl (reads_list fun r _ => reads_rule r) (fills_slot rfl (reads_boolean s.needsInteraction)
        (fills_slot rfl (reads_optionalUInt64 s.autoAdvanceMs) (.nil _)))))) rfl

/-- A highlighted step without its kind. -/
theorem reads_highlighted (s : HighlightedSpec) : Reads (ν := ν) readHighlighted
    (.object [("content", s.content.toJson), ("anchor", s.anchor.toJson),
      ("text_location", .text (nameIn locationNames s.textLocation)), ("needs_interaction", .bool s.needsInteraction),
      ("auto_advance_ms", Json.ofOption UInt64.toJson s.autoAdvanceMs)]) s :=
  reads_record (by simp [slot])
    (fills_slot rfl (reads_content s.content) (fills_slot rfl (reads_anchor s.anchor)
      (fills_slot rfl (reads_location s.textLocation) (fills_slot rfl (reads_boolean s.needsInteraction)
        (fills_slot rfl (reads_optionalUInt64 s.autoAdvanceMs) (.nil _)))))) rfl

/-- The fields behind the kind are kept whole, the last one first. -/
theorem keepField_rest {kind : KindName} {entries : List (Datum × ν)} {members : List (String × Json)}
    (hEntries : List.Forall₂ (fun e m => e.1 = Datum.text m.1 ∧ Faithful.Shows e.2 m.2) entries members)
    (hNames : kindField ∉ members.map (·.1)) (kept : List (Datum × Datum)) :
    entries.foldlM keepField (some kind, kept) = pure (some kind, (dataOfMembers members).reverse ++ kept) := by
  induction hEntries generalizing kept with
  | nil => rfl
  | @cons entry m entries members hEntry _ ih =>
    obtain ⟨key, v⟩ := entry
    obtain ⟨name, j⟩ := m
    obtain ⟨rfl, hShown⟩ := hEntry
    rw [List.map_cons, List.mem_cons, not_or] at hNames
    -- no field behind the kind is another kind
    have hOther : (name == kindField) = false := by simpa using Ne.symm hNames.1
    have hKeep : keepField (some kind, kept) (.text name, v) = pure (some kind, (.text name, j.datum) :: kept) := by
      simp only [keepField, hOther, Bool.false_eq_true, if_false, Faithful.datum hShown, pure_bind]
    rw [List.foldlM_cons, hKeep, pure_bind, ih hNames.2, dataOfMembers, List.reverse_cons, List.append_assoc,
      List.singleton_append]

/-- The kind is taken from the head of a step, and the rest of the step is kept as a datum. -/
theorem splitKind_head {v : ν} {kind : KindName} {entries : List (Datum × ν)} {members : List (String × Json)}
    (hKind : readKind v = pure kind)
    (hEntries : List.Forall₂ (fun e m => e.1 = Datum.text m.1 ∧ Faithful.Shows e.2 m.2) entries members)
    (hNames : kindField ∉ members.map (·.1)) :
    splitKind ⟨(.text kindField, v) :: entries, none⟩ = pure (kind, (Json.object members).datum) := by
  have hKeep : keepField (none, []) (.text kindField, v) = pure (some kind, []) := by
    simp [keepField, hKind]
  rw [splitKind, List.foldlM_cons, hKeep, pure_bind, keepField_rest hEntries hNames, pure_bind]
  simp only [endOf, pure_bind, List.append_nil, List.reverse_reverse, Json.datum]

theorem readKind_standalone {v : ν} (h : Faithful.Shows v (.text "standalone")) : readKind v = pure .standalone := by
  have hPlace : placeOf ["standalone", "highlighted"] (.name "standalone") = pure 0 := placeOf_name (by decide) rfl
  rw [readKind, Faithful.text h, pure_bind, hPlace]
  rfl

theorem readKind_highlighted {v : ν} (h : Faithful.Shows v (.text "highlighted")) :
    readKind v = pure .highlighted := by
  have hPlace : placeOf ["standalone", "highlighted"] (.name "highlighted") = pure 1 := placeOf_name (by decide) rfl
  rw [readKind, Faithful.text h, pure_bind, hPlace]
  rfl

/-- A step is first asked for its kind; what is kept of it then is the datum of its other fields. -/
theorem readStep_kept {v : ν} {name : String} {kind : KindName} {members : List (String × Json)}
    (h : Faithful.Shows v (.object ((kindField, .text name) :: members)))
    (hKind : ∀ ⦃w : ν⦄, Faithful.Shows w (.text name) → readKind w = pure kind)
    (hNames : kindField ∉ members.map (·.1)) :
    Faithful.Shows (Json.object members).datum (.object members) ∧
      readStep v = match kind with
        | .standalone => do return .standalone (← readStandalone (Json.object members).datum)
        | .highlighted => do return .highlighted (← readHighlighted (Json.object members).datum) := by
  constructor
  · -- a part of a readable value is readable
    obtain ⟨depth, hRead⟩ := Faithful.readable h
    cases hRead with
    | object hMembers => exact ⟨⟨_, .object fun m hm => hMembers m (List.mem_cons_of_mem _ hm)⟩, rfl⟩
  · obtain ⟨entries, hTagged, hEntries⟩ := Faithful.tagged h "internally tagged enum StepDefinition"
    cases hEntries with
    | @cons entry _ entries _ hEntry hRest =>
      obtain ⟨key, w⟩ := entry
      obtain ⟨rfl, hShown⟩ := hEntry
      rw [readStep, hTagged, pure_bind]
      dsimp only
      rewrite [splitKind_head (hKind hShown) hRest hNames, pure_bind]
      rfl

/-- A step is read back, whichever kind it is of. -/
theorem reads_step (s : StepSpec) : Reads (ν := ν) readStep s.toJson s := by
  intro v h
  cases s with
  | standalone s =>
    obtain ⟨hShown, hStep⟩ := readStep_kept h (fun _ => readKind_standalone) (by simp [kindField])
    rw [hStep]
    simp only [reads_standalone s hShown, pure_bind]
  | highlighted s =>
    obtain ⟨hShown, hStep⟩ := readStep_kept h (fun _ => readKind_highlighted) (by simp [kindField])
    rw [hStep]
    simp only [reads_highlighted s hShown, pure_bind]

end Records

/-! ## Settings and style -/

theorem ofFloat32_of_isFinite {x : Float32} (h : IsFinite x) : Json.ofFloat32 x = .real (.ofFloat32 x) := if_pos h

theorem ofWidened_of_isFinite {x : Float32} (h : IsFinite x) :
    Json.ofWidened x = .real (Decimal.Binary.ofFloat32 x).widened := if_pos h

/-- From the text of a number the real is read that it was written for. -/
theorem reads_real {number : Decimal.Binary} {x : Float32} (hBack : ReadsBack number x) :
    Reads (ν := Document) Source.real (.real number) x := by
  rintro _ ⟨level, depth, -, -, rfl⟩
  exact hBack.value

theorem reads_dim {d : DimSpec} (hKept : ∀ x ∈ d.alpha, WrittenReal.Kept ⟨x, .ofFloat32 x⟩) :
    Reads (ν := Document) readDim d.toJson d := by
  -- only a real that is not finite would be written as nothing
  have hWritten : ∀ x ∈ d.alpha, Json.ofFloat32 x = .real (.ofFloat32 x) := fun x hx =>
    ofFloat32_of_isFinite (hKept x hx).finite
  have hAlpha : Reads (ν := Document) (readOptional Source.real) (Json.ofOption Json.ofFloat32 d.alpha) d.alpha := by
    refine reads_optional (fun x hx => ?_) fun x hx => ?_
    · rw [hWritten x hx]
      exact reads_real (hKept x hx).back
    · rw [hWritten x hx]
      nofun
  exact reads_record (by simp [slot]) (fills_slot rfl (reads_optionalText d.color) (fills_slot rfl hAlpha (.nil _))) rfl

theorem reads_presentation {p : PresentationSpec} (hKept : ∀ r ∈ p.reals, r.Kept) :
    Reads (ν := Document) readPresentation p.toJson p := by
  intro v h
  have hAlpha : ∀ {d : DimSpec}, p.reals = d.alpha.toList.map (fun alpha => ⟨alpha, .ofFloat32 alpha⟩) →
      ∀ x ∈ d.alpha, WrittenReal.Kept ⟨x, .ofFloat32 x⟩ := fun hReals x hx =>
    hKept _ (hReals ▸ List.mem_map_of_mem (Option.mem_toList.mpr hx))
  have hNames : ["dim_and_highlight", "dim", "none"].Nodup := by decide
  cases p with
  | dimAndHighlight d =>
    obtain ⟨p, hChoice, hp⟩ := Faithful.singleChoice h "enum PresentationModeDefinition"
    have hDim := reads_dim (hAlpha rfl) hp
    rw [readPresentation, hChoice]
    simp only [pure_bind, placeOf_name hNames (i := 0) rfl, payload, hDim]
  | dim d =>
    obtain ⟨p, hChoice, hp⟩ := Faithful.singleChoice h "enum PresentationModeDefinition"
    have hDim := reads_dim (hAlpha rfl) hp
    rw [readPresentation, hChoice]
    simp only [pure_bind, placeOf_name hNames (i := 1) rfl, payload, hDim]
  | none =>
    rw [readPresentation, Faithful.singleName h]
    simp only [pure_bind, placeOf_name hNames (i := 2) rfl, bare]

theorem reads_settings {s : SettingsSpec} (hKept : ∀ p ∈ s.presentationMode, ∀ r ∈ p.reals, r.Kept) :
    Reads (ν := Document) readSettings s.toJson s := by
  -- a mode without a veil is written as its name, so it is not taken for a mode that is not given
  have hMode : Reads (ν := Document) (readOptional readPresentation)
      (Json.ofOption PresentationSpec.toJson s.presentationMode) s.presentationMode :=
    reads_optional (fun p hp => reads_presentation (hKept p hp)) fun p _ => by cases p <;> nofun
  exact reads_record (by simp [slot])
    (fills_slot rfl (reads_optionalUInt64 s.stepTransitionMs)
      (fills_slot rfl (reads_optionalOffset s.highlightingOffset)
        (fills_slot rfl (reads_optionalUInt64 s.automaticDelayMs)
          (fills_slot rfl (reads_optionalUInt16 s.minBubbleHorizontalMargin)
            (fills_slot rfl (reads_optionalUInt16 s.preferredBubbleMaxWidth) (fills_slot rfl hMode
              (fills_slot rfl (reads_optional (fun b _ => reads_boolean b) fun _ _ => nofun) (.nil _)))))))) rfl

theorem reads_customShadow (offset : Offset) (color : String) {opacity : Float32}
    (hKept : WrittenReal.Kept ⟨opacity, (Decimal.Binary.ofFloat32 opacity).widened⟩) :
    Reads (ν := Document) readCustomShadow
      (.object [("offset", offset.toJson), ("color", .text color), ("opacity", Json.ofWidened opacity)])
      (.custom offset color opacity) := by
  rw [ofWidened_of_isFinite hKept.finite]
  exact reads_record (by simp [slot])
    (fills_slot rfl (reads_offset offset) (fills_slot rfl (reads_text color)
      (fills_slot rfl (reads_real hKept.back) (.nil _)))) rfl

theorem reads_shadow {s : ShadowSpec} (hKept : ∀ r ∈ s.reals, r.Kept) :
    Reads (ν := Document) readShadow s.toJson s := by
  intro v h
  have hNames : ["none", "light", "dark", "custom"].Nodup := by decide
  cases s with
  | none =>
    rw [readShadow, Faithful.singleName h]
    simp only [pure_bind, placeOf_name hNames (i := 0) rfl, bare]
  | light =>
    rw [readShadow, Faithful.singleName h]
    simp only [pure_bind, placeOf_name hNames (i := 1) rfl, bare]
  | dark =>
    rw [readShadow, Faithful.singleName h]
    simp only [pure_bind, placeOf_name hNames (i := 2) rfl, bare]
  | custom offset color opacity =>
    obtain ⟨p, hChoice, hp⟩ := Faithful.singleChoice h "enum ShadowDefinition"
    have hShadow := reads_customShadow offset color (hKept _ List.mem_cons_self) hp
    rw [readShadow, hChoice]
    simp only [pure_bind, placeOf_name hNames (i := 3) rfl, payload, hShadow]

theorem reads_preset (p : StylePreset) :
    Reads (ν := Document) (readUnitVariant presetNames) (.text (nameIn presetNames p)) p :=
  reads_name (by decide) (by cases p <;> decide)

theorem reads_style {s : StyleSpec} (hKept : ∀ p ∈ s.shadow, ∀ r ∈ p.reals, r.Kept) :
    Reads (ν := Document) readStyle s.toJson s := by
  have hShadow : Reads (ν := Document) (readOptional readShadow) (Json.ofOption ShadowSpec.toJson s.shadow) s.shadow :=
    reads_optional (fun p hp => reads_shadow (hKept p hp)) fun p _ => by cases p <;> nofun
  have hInsets : Reads (ν := Document) (readOptional readInsets) (Json.ofOption EdgeInsets.toJson s.textInsets)
      s.textInsets := reads_optional (fun i _ => reads_insets i) fun _ _ => nofun
  have hArrow : Reads (ν := Document) (readOptional readCellSize) (Json.ofOption CellSize.toJson s.arrowSize)
      s.arrowSize := reads_optional (fun i _ => reads_cellSize i) fun _ _ => nofun
  exact reads_record (by simp [slot])
    (fills_slot rfl (reads_preset s.preset) (fills_slot rfl (reads_optionalText s.textColor)
      (fills_slot rfl (reads_optionalText s.backgroundColor) (fills_slot rfl hShadow
        (fills_slot rfl (reads_optionalUInt16 s.cornerRadius) (fills_slot rfl hInsets
          (fills_slot rfl (reads_optionalUInt16 s.yOffset) (fills_slot rfl hArrow (.nil _))))))))) rfl

/-! ## Definitions -/

/-- The schema reads back every definition whose reals are finite and read back. -/
theorem reads_definition {d : Definition} (hKept : ∀ r ∈ d.reals, r.Kept) :
    Reads (ν := Document) readDefinition d.toJson d := by
  have hSettings : Reads (ν := Document) readSettings d.settings.toJson d.settings :=
    reads_settings fun p hp r hr => hKept r (by simp [reals, Option.mem_def.mp hp, hr])
  have hStyle : Reads (ν := Document) readStyle d.style.toJson d.style :=
    reads_style fun p hp r hr => hKept r (by simp [reals, Option.mem_def.mp hp, hr])
  exact reads_record (by simp [slot])
    (fills_slot rfl (reads_text d.id) (fills_slot rfl (reads_optionalText d.title) (fills_slot rfl hSettings
      (fills_slot rfl hStyle (fills_slot rfl (reads_list fun s _ => reads_step s) (.nil _)))))) rfl

end Definition

end GuidedTour
