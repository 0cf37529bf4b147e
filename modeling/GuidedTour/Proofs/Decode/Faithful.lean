import GuidedTour.Decode.Datum
import GuidedTour.Proofs.Json.Scanning
import Mathlib.Data.List.Forall2

/-!
# Notations that show a written value

A schema asks questions of a value and never sees its notation. A notation is faithful when its values can stand for
written ones and then answer as those would: a text for a text, a record with the members of an object, in their order.
The documents of JSON texts are faithful as long as they are not nested too deeply, and so are the data that a step is
kept as until its kind is known.

Main results:

* `Faithful` - what a notation answers for a written value.
* `toDatum_document` - keeping a document whole loses nothing.
* the instances for `Json.Document` and for `Datum`.
-/

namespace GuidedTour

open Json

namespace Json

/-! ## Data of written values -/

/-- The datum of a number. -/
def Number.datum : Number → Decode.Datum
  | .natural n => .integer n
  | .negative n => .integer (-(n : Int))
  | .real x => .real x
  | .outOfRange => .null

mutual

/-- A written value as a datum. -/
def datum : Json → Decode.Datum
  | .null => .null
  | .bool b => .boolean b
  | .integer i => .integer i
  | .real x => (Number.ofReal x).datum
  | .text s => .text s
  | .list items => .list (dataOfItems items)
  | .object members => .map (dataOfMembers members)

/-- The items of a list as data. -/
def dataOfItems : List Json → List Decode.Datum
  | [] => []
  | v :: rest => datum v :: dataOfItems rest

/-- The members of an object as data. -/
def dataOfMembers : List (String × Json) → List (Decode.Datum × Decode.Datum)
  | [] => []
  | (k, v) :: rest => (.text k, datum v) :: dataOfMembers rest

end

/-- A real that is read back is in range. -/
theorem ReadsBack.inRange {x : Decimal.Binary} {value : Float32} (h : ReadsBack x value) :
    Number.ofReal x ≠ .outOfRange := by
  intro hRange
  have hValue := h.value
  rw [hRange] at hValue
  exact nomatch congrArg (StateT.run · 0) hValue

/-- A number in range is kept as it is. -/
theorem toDatum_number {n : Number} (hRange : n ≠ .outOfRange) : (Document.number n).toDatum = pure n.datum := by
  cases n with
  | outOfRange => exact absurd rfl hRange
  | _ => rfl

theorem checkLevel_of_le {level : Nat} (h : level ≤ levelLimit) : checkLevel level = pure () := by
  rw [checkLevel, if_neg (Nat.not_lt.mpr h)]

mutual

-- going one level down leaves one level less to go, so the sum of both is never over the limit

/-- Keeping a document whole loses nothing. -/
theorem toDatum_document : (v : Json) → (level : Nat) → {depth : Nat} → Readable depth v →
    level + depth ≤ levelLimit + 1 → (document level v).toDatum = pure (datum v)
  | .null, _, _, _, _ => rfl
  | .bool _, _, _, _, _ => rfl
  | .integer i, _, _, _, _ => by
    cases i <;> rfl
  | .real x, level, _, hRead, _ => by
    cases hRead with
    | real _ hBack => exact toDatum_number hBack.inRange
  | .text _, _, _, _, _ => rfl
  | .list items, level, _, hRead, hLevel => by
    cases hRead with
    | list hItems =>
      have hData := toData_documentItems items (level + 1) hItems (by omega)
      rw [document, Document.toDatum, checkLevel_of_le (by omega), hData]
      rfl
  | .object members, level, _, hRead, hLevel => by
    cases hRead with
    | object hMembers =>
      have hData := toData_documentFields members (level + 1) hMembers (by omega)
      rw [document, Document.toDatum, checkLevel_of_le (by omega), hData]
      rfl

theorem toData_documentItems : (items : List Json) → (level : Nat) → {depth : Nat} →
    (∀ v ∈ items, Readable depth v) → level + depth ≤ levelLimit + 1 →
    (documentItems level items).toData = pure (dataOfItems items)
  | [], _, _, _, _ => rfl
  | v :: rest, level, _, hItems, hLevel => by
    have hFirst := toDatum_document v level (hItems v List.mem_cons_self) hLevel
    have hRest := toData_documentItems rest level (fun a ha => hItems a (List.mem_cons_of_mem v ha)) hLevel
    rw [documentItems, Items.toData, hFirst, hRest]
    rfl

theorem toData_documentFields : (members : List (String × Json)) → (level : Nat) → {depth : Nat} →
    (∀ m ∈ members, Readable depth m.2) → level + depth ≤ levelLimit + 1 →
    (documentFields level members).toData = pure (dataOfMembers members)
  | [], _, _, _, _ => rfl
  | (k, v) :: rest, level, _, hMembers, hLevel => by
    have hFirst := toDatum_document v level (hMembers (k, v) List.mem_cons_self) hLevel
    have hRest := toData_documentFields rest level (fun a ha => hMembers a (List.mem_cons_of_mem _ ha)) hLevel
    rw [documentFields, Fields.toData, hFirst, hRest]
    rfl

end

end Json

namespace Decode

/-! ## Faithful notations -/

/-- A notation whose values can stand for written ones, and then answer as those would. -/
class Faithful (ν : Type) [Source ν] where
  /-- The value of the notation stands for the written one. -/
  Shows : ν → Json → Prop
  readable {v : ν} {j : Json} (h : Shows v j) : ∃ depth, Readable depth j
  text {v : ν} {s : String} (h : Shows v (.text s)) (wanted : String) : Source.text v wanted = pure s
  boolean {v : ν} {b : Bool} (h : Shows v (.bool b)) : Source.boolean v = pure b
  natural {v : ν} {i : Int} (h : Shows v (.integer i)) (wanted : String) : Source.natural v wanted = pure i
  integer {v : ν} {i : Int} (h : Shows v (.integer i)) (wanted : String) : Source.integer v wanted = pure i
  absent {v : ν} (h : Shows v .null) : Source.optional v = pure none
  present {v : ν} {j : Json} (h : Shows v j) (hNull : j ≠ .null) : Source.optional v = pure (some v)
  sequence {v : ν} {items : List Json} (h : Shows v (.list items)) :
    ∃ vs, Source.sequence v = pure ⟨vs, none⟩ ∧ List.Forall₂ Shows vs items
  record {v : ν} {members : List (String × Json)} (h : Shows v (.object members)) (wanted : String) :
    ∃ entries, Source.record v wanted = pure (.named ⟨entries, none⟩) ∧
      List.Forall₂ (fun e m => e.1 = Label.name m.1 ∧ Shows e.2 m.2) entries members
  tagged {v : ν} {members : List (String × Json)} (h : Shows v (.object members)) (wanted : String) :
    ∃ entries, Source.tagged v wanted = pure (.named ⟨entries, none⟩) ∧
      List.Forall₂ (fun e m => e.1 = Datum.text m.1 ∧ Shows e.2 m.2) entries members
  name {v : ν} {s : String} (h : Shows v (.text s)) : Source.variant v = pure ⟨.name s, none, pure ()⟩
  choice {v : ν} {k : String} {j : Json} (h : Shows v (.object [(k, j)])) :
    ∃ p, Source.variant v = pure ⟨.name k, some p, pure ()⟩ ∧ Shows p j
  singleName {v : ν} {s : String} (h : Shows v (.text s)) (wanted : String) :
    Source.single v wanted = pure ⟨.name s, none, pure ()⟩
  singleChoice {v : ν} {k : String} {j : Json} (h : Shows v (.object [(k, j)])) (wanted : String) :
    ∃ p, Source.single v wanted = pure ⟨.name k, some p, pure ()⟩ ∧ Shows p j
  datum {v : ν} {j : Json} (h : Shows v j) : Source.datum v = pure j.datum

/-! ### Documents -/

/-- The document is that of a readable value, and none of its containers is nested too deeply. -/
def ShownByDocument (d : Document) (j : Json) : Prop :=
  ∃ level depth, Readable depth j ∧ level + depth ≤ levelLimit + 1 ∧ d = document level j

theorem shown_items (level : Nat) {depth : Nat} {items : List Json} (hItems : ∀ v ∈ items, Readable depth v)
    (hLevel : level + depth ≤ levelLimit + 1) :
    ∃ vs, (documentItems level items).toSequence = ⟨vs, none⟩ ∧ List.Forall₂ ShownByDocument vs items := by
  induction items with
  | nil => exact ⟨[], rfl, .nil⟩
  | cons v rest ih =>
    obtain ⟨vs, hSequence, hShown⟩ := ih fun a ha => hItems a (List.mem_cons_of_mem v ha)
    refine ⟨document level v :: vs, ?_, .cons ⟨level, depth, hItems v List.mem_cons_self, hLevel, rfl⟩ hShown⟩
    rw [documentItems, Items.toSequence, hSequence]

theorem shown_fields (level : Nat) {depth : Nat} {members : List (String × Json)}
    (hMembers : ∀ m ∈ members, Readable depth m.2) (hLevel : level + depth ≤ levelLimit + 1) :
    ∃ entries, (documentFields level members).toMembers = ⟨entries, none⟩ ∧
      List.Forall₂ (fun e m => e.1 = m.1 ∧ ShownByDocument e.2 m.2) entries members := by
  induction members with
  | nil => exact ⟨[], rfl, .nil⟩
  | cons m rest ih =>
    obtain ⟨entries, hEntries, hShown⟩ := ih fun a ha => hMembers a (List.mem_cons_of_mem m ha)
    refine ⟨(m.1, document level m.2) :: entries, ?_,
      .cons ⟨rfl, level, depth, hMembers m List.mem_cons_self, hLevel, rfl⟩ hShown⟩
    rw [documentFields, Fields.toMembers, hEntries]

/-- The entries of an object, under any spelling of their keys. -/
theorem shown_labels {κ : Type} (label : String → κ) {entries : List (String × Document)}
    {members : List (String × Json)}
    (h : List.Forall₂ (fun e m => e.1 = m.1 ∧ ShownByDocument e.2 m.2) entries members) :
    List.Forall₂ (fun e m => e.1 = label m.1 ∧ ShownByDocument e.2 m.2)
      (entries.map fun e => (label e.1, e.2)) members :=
  List.forall₂_map_left_iff.mpr (h.imp fun _ _ hEntry => ⟨congrArg label hEntry.1, hEntry.2⟩)

instance : Faithful Document where
  Shows := ShownByDocument
  readable := by rintro _ _ ⟨level, depth, hRead, -, -⟩; exact ⟨depth, hRead⟩
  text := by rintro _ s ⟨level, depth, -, -, rfl⟩ wanted; rfl
  boolean := by rintro _ b ⟨level, depth, -, -, rfl⟩; rfl
  natural := by rintro _ i ⟨level, depth, -, -, rfl⟩ wanted; cases i <;> rfl
  integer := by rintro _ i ⟨level, depth, -, -, rfl⟩ wanted; cases i <;> rfl
  absent := by rintro _ ⟨level, depth, -, -, rfl⟩; rfl
  present := by
    rintro _ j ⟨level, depth, -, -, rfl⟩ hNull
    cases j with
    | null => exact absurd rfl hNull
    | _ => rfl
  sequence := by
    rintro _ items ⟨level, depth, hRead, hLevel, rfl⟩
    cases hRead with
    | list hItems =>
      obtain ⟨vs, hSequence, hShown⟩ := shown_items (level + 1) hItems (by omega)
      refine ⟨vs, ?_, hShown⟩
      rw [document]
      simp only [Source.sequence, checkLevel_of_le (show level ≤ levelLimit by omega), hSequence]
      rfl
  record := by
    rintro _ members ⟨level, depth, hRead, hLevel, rfl⟩ wanted
    cases hRead with
    | object hMembers =>
      obtain ⟨entries, hEntries, hShown⟩ := shown_fields (level + 1) hMembers (by omega)
      refine ⟨entries.map fun e => (.name e.1, e.2), ?_, shown_labels Label.name hShown⟩
      rw [document]
      simp only [Source.record, checkLevel_of_le (show level ≤ levelLimit by omega), hEntries]
      rfl
  tagged := by
    rintro _ members ⟨level, depth, hRead, hLevel, rfl⟩ wanted
    cases hRead with
    | object hMembers =>
      obtain ⟨entries, hEntries, hShown⟩ := shown_fields (level + 1) hMembers (by omega)
      refine ⟨entries.map fun e => (.text e.1, e.2), ?_, shown_labels Datum.text hShown⟩
      rw [document]
      simp only [Source.tagged, checkLevel_of_le (show level ≤ levelLimit by omega), hEntries]
      rfl
  name := by rintro _ s ⟨level, depth, -, -, rfl⟩; rfl
  choice := by
    rintro _ k j ⟨level, depth, hRead, hLevel, rfl⟩
    cases hRead with
    | @object depth _ hMembers =>
      refine ⟨document (level + 1) j, ?_, level + 1, depth, hMembers (k, j) List.mem_cons_self, by omega, rfl⟩
      rw [document]
      simp only [Source.variant, checkLevel_of_le (show level ≤ levelLimit by omega)]
      rfl
  singleName := by rintro _ s ⟨level, depth, -, -, rfl⟩ wanted; rfl
  singleChoice := by
    rintro _ k j ⟨level, depth, hRead, hLevel, rfl⟩ wanted
    cases hRead with
    | @object depth _ hMembers =>
      refine ⟨document (level + 1) j, ?_, level + 1, depth, hMembers (k, j) List.mem_cons_self, by omega, rfl⟩
      rw [document]
      simp only [Source.single, checkLevel_of_le (show level ≤ levelLimit by omega)]
      rfl
  datum := by
    rintro _ j ⟨level, depth, hRead, hLevel, rfl⟩
    exact toDatum_document j level hRead hLevel

/-! ### Data -/

/-- The datum is that of a readable value. -/
def ShownByDatum (d : Datum) (j : Json) : Prop := (∃ depth, Readable depth j) ∧ d = j.datum

theorem shown_dataOfItems {depth : Nat} {items : List Json} (hItems : ∀ v ∈ items, Readable depth v) :
    List.Forall₂ ShownByDatum (dataOfItems items) items := by
  induction items with
  | nil => exact .nil
  | cons v rest ih =>
    exact .cons ⟨⟨depth, hItems v List.mem_cons_self⟩, rfl⟩ (ih fun a ha => hItems a (List.mem_cons_of_mem v ha))

theorem shown_dataOfMembers {depth : Nat} {members : List (String × Json)}
    (hMembers : ∀ m ∈ members, Readable depth m.2) :
    List.Forall₂ (fun e m => e.1 = Datum.text m.1 ∧ ShownByDatum e.2 m.2) (dataOfMembers members) members := by
  induction members with
  | nil => exact .nil
  | cons m rest ih =>
    exact .cons ⟨rfl, ⟨depth, hMembers m List.mem_cons_self⟩, rfl⟩
      (ih fun a ha => hMembers a (List.mem_cons_of_mem m ha))

instance : Faithful Datum where
  Shows := ShownByDatum
  readable h := h.1
  text := by rintro _ s ⟨-, rfl⟩ wanted; rfl
  boolean := by rintro _ b ⟨-, rfl⟩; rfl
  natural := by rintro _ i ⟨-, rfl⟩ wanted; rfl
  integer := by rintro _ i ⟨-, rfl⟩ wanted; rfl
  absent := by rintro _ ⟨-, rfl⟩; rfl
  present := by
    rintro _ j ⟨⟨depth, hRead⟩, rfl⟩ hNull
    -- a real that could not be read would have been kept as nothing
    cases hRead with
    | null => exact absurd rfl hNull
    | @real _ x _ hBack =>
      have hRange := hBack.inRange
      rw [Json.datum]
      cases hNumber : Number.ofReal x with
      | outOfRange => exact absurd hNumber hRange
      | _ => rfl
    | _ => rfl
  sequence := by
    rintro _ items ⟨⟨depth, hRead⟩, rfl⟩
    cases hRead with
    | list hItems => exact ⟨dataOfItems items, rfl, shown_dataOfItems hItems⟩
  record := by
    rintro _ members ⟨⟨depth, hRead⟩, rfl⟩ wanted
    cases hRead with
    | object hMembers =>
      refine ⟨(dataOfMembers members).map fun e => (e.1.label, e.2), rfl, ?_⟩
      exact List.forall₂_map_left_iff.mpr
        ((shown_dataOfMembers hMembers).imp fun _ _ hEntry => ⟨congrArg Datum.label hEntry.1, hEntry.2⟩)
  tagged := by
    rintro _ members ⟨⟨depth, hRead⟩, rfl⟩ wanted
    cases hRead with
    | object hMembers => exact ⟨dataOfMembers members, rfl, shown_dataOfMembers hMembers⟩
  name := by rintro _ s ⟨-, rfl⟩; rfl
  choice := by
    rintro _ k j ⟨⟨depth, hRead⟩, rfl⟩
    cases hRead with
    | @object depth _ hMembers => exact ⟨j.datum, rfl, ⟨depth, hMembers (k, j) List.mem_cons_self⟩, rfl⟩
  singleName := by rintro _ s ⟨-, rfl⟩ wanted; rfl
  singleChoice := by
    rintro _ k j ⟨⟨depth, hRead⟩, rfl⟩ wanted
    cases hRead with
    | @object depth _ hMembers => exact ⟨j.datum, rfl, ⟨depth, hMembers (k, j) List.mem_cons_self⟩, rfl⟩
  datum := by rintro _ j ⟨-, rfl⟩; rfl

end Decode

end GuidedTour
