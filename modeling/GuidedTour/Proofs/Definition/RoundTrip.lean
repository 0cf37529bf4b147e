import GuidedTour.Proofs.Definition.Reading

/-!
# Reading undoes writing

The text that is written for a definition nests its values at most six levels deep, and all its numbers but the reals
are whole and fit 64 bits. So every layout of it is read to its end, and the schema takes from it the definition that
was written. The strength of a veil is written with the digits of single precision, the opacity of a shadow with those
of double precision; that a real is read back from its text is assumed of the conversions between texts and numbers,
and of the reals in the definition only.

Main results:

* `readable_definition` - no part of a written definition is lost on the reader.
* `ofJson_spelled` - every text of a definition that passes its checks is read as the definition.
* `ofJson_toJson` - so are the two layouts of the writer.
-/

namespace GuidedTour.Definition

open Decode Json

/-! ## Written definitions are readable -/

attribute [simp] Readable.null Readable.bool Readable.text

@[simp]
theorem readable_object {depth : Nat} {members : List (String × Json)} :
    Readable (depth + 1) (.object members) ↔ ∀ m ∈ members, Readable depth m.2 :=
  ⟨fun h => by cases h; assumption, .object⟩

@[simp]
theorem readable_list {depth : Nat} {items : List Json} :
    Readable (depth + 1) (.list items) ↔ ∀ v ∈ items, Readable depth v :=
  ⟨fun h => by cases h; assumption, .list⟩

@[simp]
theorem readable_uint16 (depth : Nat) (n : UInt16) : Readable depth (UInt16.toJson n) :=
  .integer depth (by omega) (by have := n.toNat_lt; omega)

@[simp]
theorem readable_uint64 (depth : Nat) (n : UInt64) : Readable depth (UInt64.toJson n) :=
  .integer depth (by omega) (by have := n.toNat_lt; omega)

@[simp]
theorem readable_int32 (depth : Nat) (i : Int32) : Readable depth (.integer i.toInt) :=
  .integer depth (by have := i.le_toInt; omega) (by have := i.toInt_lt; omega)

@[simp]
theorem readable_optional {α : Type} {depth : Nat} {f : α → Json} {o : Option α} :
    Readable depth (Json.ofOption f o) ↔ ∀ a ∈ o, Readable depth (f a) := by
  cases o <;> simp [Json.ofOption]

theorem readable_single (depth : Nat) {x : Float32} (hBack : ReadsBack (.ofFloat32 x) x) :
    Readable depth (Json.ofFloat32 x) := by
  rw [Json.ofFloat32]
  split
  · exact .real depth hBack
  · exact .null depth

theorem readable_widened (depth : Nat) {x : Float32} (hBack : ReadsBack (Decimal.Binary.ofFloat32 x).widened x) :
    Readable depth (Json.ofWidened x) := by
  rw [Json.ofWidened]
  split
  · exact .real depth hBack
  · exact .null depth

@[simp]
theorem readable_offset (depth : Nat) (o : Offset) : Readable (depth + 1) o.toJson := by
  simp [Offset.toJson]

@[simp]
theorem readable_content (depth : Nat) (c : ContentSpec) : Readable (depth + 3) c.toJson := by
  cases c <;> simp [ContentSpec.toJson, SpanSpec.toJson]

@[simp]
theorem readable_step (depth : Nat) (s : StepSpec) : Readable (depth + 4) s.toJson := by
  cases s with
  | standalone s => simp [StepSpec.toJson, LayoutRule.toJson]
  | highlighted s => cases hAnchor : s.anchor <;> simp [StepSpec.toJson, AnchorSpec.toJson, CellRect.toJson, hAnchor]

theorem readable_dim (depth : Nat) {d : DimSpec} (hBack : ∀ x ∈ d.alpha, ReadsBack (.ofFloat32 x) x) :
    Readable (depth + 1) d.toJson := by
  simpa [DimSpec.toJson] using fun x hx => readable_single depth (hBack x hx)

theorem readable_presentation (depth : Nat) {p : PresentationSpec} (hBack : ∀ r ∈ p.reals, ReadsBack r.number r.value) :
    Readable (depth + 2) p.toJson := by
  have hAlpha : ∀ {d : DimSpec}, p.reals = d.alpha.toList.map (fun alpha => ⟨alpha, .ofFloat32 alpha⟩) →
      ∀ x ∈ d.alpha, ReadsBack (.ofFloat32 x) x := fun hReals x hx =>
    hBack ⟨x, .ofFloat32 x⟩ (hReals ▸ List.mem_map_of_mem (Option.mem_toList.mpr hx))
  cases p with
  | dimAndHighlight d => simpa [PresentationSpec.toJson] using readable_dim depth (hAlpha rfl)
  | dim d => simpa [PresentationSpec.toJson] using readable_dim depth (hAlpha rfl)
  | none => exact .text _ _

/-- Of the settings only the strength of the veil is a real. -/
theorem readable_settings (depth : Nat) {s : SettingsSpec}
    (hBack : ∀ p ∈ s.presentationMode, ∀ r ∈ p.reals, ReadsBack r.number r.value) : Readable (depth + 3) s.toJson := by
  simpa [SettingsSpec.toJson] using fun p hp => readable_presentation depth (hBack p hp)

theorem readable_shadow (depth : Nat) {s : ShadowSpec} (hBack : ∀ r ∈ s.reals, ReadsBack r.number r.value) :
    Readable (depth + 3) s.toJson := by
  cases s with
  | custom offset color opacity =>
    simpa [ShadowSpec.toJson] using readable_widened (depth + 1) (hBack _ List.mem_cons_self)
  | _ => exact .text _ _

/-- Of the style only the opacity of the shadow is one. -/
theorem readable_style (depth : Nat) {s : StyleSpec}
    (hBack : ∀ p ∈ s.shadow, ∀ r ∈ p.reals, ReadsBack r.number r.value) : Readable (depth + 4) s.toJson := by
  simpa [StyleSpec.toJson, EdgeInsets.toJson, CellSize.toJson] using fun p hp => readable_shadow depth (hBack p hp)

/-- A definition nests six levels deep: steps, a step, its content, and the spans of rich text. -/
theorem readable_definition {d : Definition} (hBack : ∀ r ∈ d.reals, ReadsBack r.number r.value) :
    Readable 6 d.toJson := by
  have hSettings : Readable 5 d.settings.toJson :=
    readable_settings 2 fun p hp r hr => hBack r (by simp [reals, Option.mem_def.mp hp, hr])
  have hStyle : Readable 5 d.style.toJson :=
    readable_style 1 fun p hp r hr => hBack r (by simp [reals, Option.mem_def.mp hp, hr])
  simp [Definition.toJson, hSettings, hStyle]

/-- Every text of a definition that passes its checks is read as the definition. -/
theorem ofJson_spelled {d : Definition} (hCheck : d.check = .ok ()) (hFinite : ∀ r ∈ d.reals, IsFinite r.value)
    (hBack : ∀ r ∈ d.reals, ReadsBack r.number r.value) {text : String} (hText : Spells d.toJson text.toList) :
    ofJson text = .ok d := by
  -- the whole text is the document of the definition, and the document stands for what was written
  have hRead := readable_definition hBack
  have hShown : Faithful.Shows (document 1 d.toJson) d.toJson := ⟨1, 6, hRead, by decide, rfl⟩
  have hDecode : decodeJson text = .ok d := by
    rw [decodeJson, ofText_spelled hText hRead, reads_definition (fun r hr => ⟨hFinite r hr, hBack r hr⟩) hShown]
    rfl
  -- what is left are the checks, which the definition passes
  rw [ofJson, hDecode]
  show (do d.check; return d) = Except.ok d
  rw [hCheck]
  rfl

/-- Reading undoes writing, on one line or over several. -/
theorem ofJson_toJson {d : Definition} (hCheck : d.check = .ok ()) (hFinite : ∀ r ∈ d.reals, IsFinite r.value)
    (hBack : ∀ r ∈ d.reals, ReadsBack r.number r.value) :
    ofJson d.toJson.render = .ok d ∧ ofJson (d.toJson.pretty 0) = .ok d :=
  ⟨ofJson_spelled hCheck hFinite hBack (spells_render _), ofJson_spelled hCheck hFinite hBack (spells_pretty _ 0)⟩

/-- A veil of half its strength, a shadow of its own, and a step of each kind. -/
def veiled : Definition where
  id := "tour \"1\""
  settings := { presentationMode := some (.dim ⟨none, some 0.5⟩) }
  style := { shadow := some (.custom ⟨-1, 2⟩ "black" 0.1) }
  steps := [.standalone ⟨.text "Welcome", some ⟨0, -3⟩, [], true, none⟩,
    .highlighted ⟨.rich [{ text := "Here", bold := true }], .view "menu", .above, false, some 1500⟩]

theorem veiled_reals :
    veiled.reals = [⟨0.5, .ofFloat32 0.5⟩, ⟨0.1, (Decimal.Binary.ofFloat32 0.1).widened⟩] := rfl

/-- Whether a real is read back can be computed: its text is a number to its end, and what it is read as is rounded once
more. -/
theorem readsBack_of_nearest {x : Decimal.Binary} {value : Float32}
    (hNearest : ((scanNumber x.compact.toList).bind fun
      | (.real y, []) => some (Decimal.toSingle y)
      | _ => none) = some value) : ReadsBack x value := by
  obtain ⟨⟨n, rest⟩, hScan, hRead⟩ := Option.bind_eq_some_iff.mp hNearest
  have hNumber : Number.ofReal x = n := by rw [Number.ofReal, hScan]; rfl
  split at hRead
  · next y hPair =>
    cases hPair
    exact ⟨hNumber ▸ hScan, by rw [hNumber, ← Option.some.inj hRead]; rfl⟩
  · cases hRead

/-- The text of the shadow's opacity. -/
example : (Decimal.Binary.ofFloat32 0.1).widened.compact = "0.10000000149011612" := by decide +kernel

theorem ofJson_toJson_veiled : veiled.check = .ok () ∧
    ofJson veiled.toJson.render = .ok veiled ∧ ofJson (veiled.toJson.pretty 0) = .ok veiled := by
  have hCheck : veiled.check = .ok () := rfl
  -- a tenth is written as 0.10000000149011612, since single precision does not hold it exactly
  have hHalf : ReadsBack (.ofFloat32 0.5) 0.5 := readsBack_of_nearest (by decide +kernel)
  have hTenth : ReadsBack (Decimal.Binary.ofFloat32 0.1).widened 0.1 := readsBack_of_nearest (by decide +kernel)
  refine ⟨hCheck, ofJson_toJson hCheck ?_ ?_⟩
  · intro r hr
    rw [veiled_reals] at hr
    simp only [List.mem_cons, List.not_mem_nil, or_false] at hr
    rcases hr with rfl | rfl
    · rfl
    · rfl
  · intro r hr
    rw [veiled_reals] at hr
    simp only [List.mem_cons, List.not_mem_nil, or_false] at hr
    rcases hr with rfl | rfl
    · exact hHalf
    · exact hTenth

end GuidedTour.Definition
