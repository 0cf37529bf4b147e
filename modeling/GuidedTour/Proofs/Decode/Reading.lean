import GuidedTour.Proofs.Decode.Faithful
import GuidedTour.Definition.Encoding
import Mathlib.Data.List.Nodup

/-!
# Reading what a faithful notation shows

`Reads read j a` says that a reader takes whatever stands for the written value `j` as `a`. The readers of single
values, of lists, of names and of records are treated here once; a record is written with its fields in the order in
which its reader lists them, and `Fills` follows the two lists together.

Main results:

* `reads_uint16`, `reads_uint64`, `reads_int32`, `reads_optional`, `reads_list`, `reads_name` - single values.
* `Fills.read` - a record is filled from the members of an object.
-/

namespace GuidedTour.Decode

open Json

section Values

variable {ν : Type} [Source ν] [Faithful ν] {α : Type}

/-- Whatever stands for the written value is read as `a`. -/
def Reads (read : ν → Decoder α) (j : Json) (a : α) : Prop := ∀ ⦃v : ν⦄, Faithful.Shows v j → read v = pure a

theorem reads_text (s : String) : Reads (ν := ν) readText (.text s) s :=
  fun _ h => Faithful.text h _

theorem reads_boolean (b : Bool) : Reads (ν := ν) Source.boolean (.bool b) b :=
  fun _ h => Faithful.boolean h

theorem reads_natural (wanted : String) {n limit : Nat} (hn : n < limit) :
    Reads (ν := ν) (readNatural wanted limit) (.integer n) n := by
  intro v h
  rw [readNatural, Faithful.natural h]
  show (if (0 : Int) ≤ n ∧ (n : Int) < limit then pure n else throw _ : Decoder Nat) = pure n
  rw [if_pos ⟨Int.natCast_nonneg n, Int.ofNat_lt.mpr hn⟩]

theorem reads_uint16 (n : UInt16) : Reads (ν := ν) readUInt16 (UInt16.toJson n) n := by
  intro v h
  rw [readUInt16, reads_natural "u16" n.toNat_lt h, pure_bind, UInt16.ofNat_toNat]

theorem reads_uint64 (n : UInt64) : Reads (ν := ν) readUInt64 (UInt64.toJson n) n := by
  intro v h
  rw [readUInt64, reads_natural "u64" n.toNat_lt h, pure_bind, UInt64.ofNat_toNat]

theorem reads_int32 (i : Int32) : Reads (ν := ν) readInt32 (.integer i.toInt) i := by
  intro v h
  rw [readInt32, Faithful.integer h, pure_bind, if_pos ⟨i.le_toInt, i.toInt_lt⟩, Int32.ofInt_toInt]

/-- A value that may be absent is written as `null` then, so its own text must be another. -/
theorem reads_optional {read : ν → Decoder α} {f : α → Json} {o : Option α} (hRead : ∀ a ∈ o, Reads read (f a) a)
    (hNull : ∀ a ∈ o, f a ≠ .null) : Reads (readOptional read) (Json.ofOption f o) o := by
  intro v h
  cases o with
  | none => rw [readOptional, Faithful.absent h]; rfl
  | some a =>
    rw [readOptional, Faithful.present h (hNull a rfl), pure_bind]
    simp only [hRead a rfl h, pure_bind]

theorem reads_list {read : ν → Decoder α} {f : α → Json} {as : List α} (hRead : ∀ a ∈ as, Reads read (f a) a) :
    Reads (readList read) (.list (as.map f)) as := by
  intro v h
  obtain ⟨vs, hSequence, hShown⟩ := Faithful.sequence h
  have hItems : vs.mapM read = pure as := by
    -- along the values, each of which stands for an item
    clear hSequence h
    induction as generalizing vs with
    | nil =>
      cases hShown
      rfl
    | cons a as ih =>
      cases hShown with
      | cons hFirst hRest =>
        rw [List.mapM_cons, hRead a List.mem_cons_self hFirst, pure_bind,
          ih (fun b hb => hRead b (List.mem_cons_of_mem a hb)) _ hRest, pure_bind]
  rw [readList, hSequence, pure_bind]
  simp only [hItems, pure_bind, endOf]

/-! ## Names -/

/-- A name is found at its own place. -/
theorem placeOf_name {known : List String} {i : Nat} {s : String} (hKnown : known.Nodup) (hi : known[i]? = some s) :
    placeOf known (.name s) = pure i := by
  obtain ⟨hLength, hGet⟩ := List.getElem?_eq_some_iff.mp hi
  have hFind : known.findIdx? (· == s) = some i := by
    rw [List.findIdx?_eq_some_iff_getElem]
    refine ⟨hLength, by simp [hGet], fun j hj => ?_⟩
    -- an earlier place with this name would be another one of the same name
    have hne : known[j] ≠ s := fun hEq =>
      absurd ((List.Nodup.getElem_inj_iff hKnown).mp (hEq.trans hGet.symm)) (Nat.ne_of_lt hj)
    simpa using hne
  rw [placeOf, hFind]

/-- The name of a listed value is read as the value. -/
theorem reads_name [DecidableEq α] {names : List (String × α)} {a : α} (hNames : (names.map (·.1)).Nodup)
    (hListed : a ∈ names.map (·.2)) : Reads (ν := ν) (readUnitVariant names) (.text (nameIn names a)) a := by
  intro v h
  obtain ⟨p, hFind⟩ : ∃ p, names.find? (fun p => p.2 = a) = some p := by
    obtain ⟨p, hp, hpa⟩ := List.mem_map.mp hListed
    exact Option.isSome_iff_exists.mp (List.find?_isSome.mpr ⟨p, hp, by simpa using hpa⟩)
  have hValue : p.2 = a := by simpa using List.find?_some hFind
  obtain ⟨i, hi, hGet⟩ := List.getElem_of_mem (List.mem_of_find?_eq_some hFind)
  have hEntry : names[i]? = some p := List.getElem?_eq_some_iff.mpr ⟨hi, hGet⟩
  have hPlace : placeOf (names.map (·.1)) (.name (nameIn names a)) = pure i :=
    placeOf_name hNames (by rw [List.getElem?_map, hEntry, nameIn, hFind]; rfl)
  rw [readUnitVariant, Faithful.name h, pure_bind]
  simp only [hPlace, pure_bind, hEntry, hValue]

end Values

/-! ## Records -/

section Records

variable {ν σ : Type} [Source ν] [Faithful ν]

/-- The members are read into the fields, one after the other, and turn the first state of the record into the
last. -/
inductive Fills : List (Field ν σ) → List (String × Json) → σ → σ → Prop where
  | nil (s : σ) : Fills [] [] s s
  | cons {f : Field ν σ} {fields : List (Field ν σ)} {j : Json} {members : List (String × Json)} {s s' s'' : σ}
      (hFree : f.given s = false) (hRead : ∀ ⦃v⦄, Faithful.Shows v j → f.read s v = pure s')
      (hRest : Fills fields members s' s'') : Fills (f :: fields) ((f.name, j) :: members) s s''

omit [Source ν] [Faithful ν] in
/-- A field is found by its name when no other field has it. -/
theorem find?_name {fields : List (Field ν σ)} {f : Field ν σ} (hNames : (fields.map (·.name)).Nodup)
    (hf : f ∈ fields) : fields.find? (·.name == f.name) = some f := by
  induction fields with
  | nil => cases hf
  | cons g fields ih =>
    rw [List.map_cons, List.nodup_cons] at hNames
    rcases List.mem_cons.mp hf with rfl | hf
    · simp
    · have hOther : g.name ≠ f.name := fun hEq => hNames.1 (hEq ▸ List.mem_map_of_mem hf)
      simp [hOther, ih hNames.2 hf]

/-- Members are read into a tail of the fields, while each name is looked up among all of them. -/
theorem Fills.foldlM {fields tail : List (Field ν σ)} {members : List (String × Json)} {s s' : σ}
    (h : Fills tail members s s') (hNames : (fields.map (·.name)).Nodup) (hTail : tail ⊆ fields)
    {entries : List (Label × ν)}
    (hEntries : List.Forall₂ (fun e m => e.1 = Label.name m.1 ∧ Faithful.Shows e.2 m.2) entries members) :
    entries.foldlM (fun s (label, v) => fillNamed fields s label v) s = pure s' := by
  -- on the fields that are still to be filled
  induction h generalizing entries with
  | nil s =>
    cases hEntries
    rfl
  | @cons f tail j members s s' s'' hFree hRead _ ih =>
    cases hEntries with
    | @cons entry _ rest _ hEntry hRest =>
      obtain ⟨label, v⟩ := entry
      obtain ⟨rfl, hShown⟩ := hEntry
      have hNamed : fillNamed fields s (.name f.name) v = pure s' := by
        rw [fillNamed, pure_bind, find?_name hNames (hTail List.mem_cons_self)]
        simp only [hFree, hRead hShown, Bool.false_eq_true, if_false]
      rw [List.foldlM_cons]
      simp only [hNamed, pure_bind]
      exact ih (fun g hg => hTail (List.mem_cons_of_mem f hg)) hRest

/-- A record is filled from the members of an object. -/
theorem Fills.read {fields : List (Field ν σ)} {members : List (String × Json)} {s s' : σ}
    (h : Fills fields members s s') (hNames : (fields.map (·.name)).Nodup) (name : String) :
    Reads (readRecord name fields s) (.object members) s' := by
  intro v hShows
  obtain ⟨entries, hRecord, hEntries⟩ := Faithful.record hShows name
  rw [readRecord, hRecord, pure_bind, fillRecord, fillFromMembers,
    h.foldlM hNames (List.Subset.refl fields) hEntries]
  rfl

end Records

/-! ## What a decoder may answer -/

/-- All that a decoder may answer has a property. -/
def Always {α : Type} (P : α → Prop) (x : Decoder α) : Prop := ∀ ⦃n a m⦄, x n = .ok (a, m) → P a

section Always

variable {α β : Type} {P : α → Prop} {Q : β → Prop}

theorem Always.pure {a : α} (h : P a) : Always P (pure a : Decoder α) := by
  rintro n b m hRun
  cases hRun
  exact h

theorem Always.throw (e : Error) : Always P (throw e : Decoder α) := by
  rintro n a m hRun
  cases hRun

theorem Always.bind {x : Decoder α} {f : α → Decoder β} (hx : Always P x) (hf : ∀ a, P a → Always Q (f a)) :
    Always Q (x >>= f) := by
  intro n b m hRun
  cases hFirst : x n with
  | error e =>
    simp only [Bind.bind, StateT.bind, hFirst] at hRun
    cases hRun
  | ok r =>
    simp only [Bind.bind, StateT.bind, hFirst] at hRun
    exact hf r.1 (hx hFirst) hRun

theorem Always.trivial (x : Decoder α) : Always (fun _ => True) x := fun _ _ _ _ => True.intro

theorem Always.foldlM {γ : Type} {f : α → γ → Decoder α} (hStep : ∀ a c, P a → Always P (f a c)) :
    ∀ {cs : List γ} {a : α}, P a → Always P (cs.foldlM f a)
  | [], _, ha => .pure ha
  | c :: cs, a, ha => by
    rw [List.foldlM_cons]
    exact .bind (hStep a c ha) fun b hb => Always.foldlM hStep hb

end Always

section Records

variable {ν σ : Type} [Source ν] {fields : List (Field ν σ)} {P : σ → Prop}

/-- One entry of a map is skipped, refused or read into a field. -/
theorem always_fillNamed (hFields : ∀ f ∈ fields, ∀ s v, P s → Always P (f.read s v)) {s : σ} (hs : P s)
    (label : Label) (v : ν) : Always P (fillNamed fields s label v) := by
  have hUnknown : Always P (do Source.skip v; return s) := .bind (.trivial _) fun _ _ => .pure hs
  have hKnown : ∀ f ∈ fields, Always P (if f.given s then throw (.duplicateField f.name) else f.read s v) := by
    intro f hf
    split
    · exact .throw _
    · exact hFields f hf s v hs
  cases label with
  | name n =>
    rw [fillNamed, pure_bind]
    cases hFind : fields.find? (·.name == n) with
    | none => exact hUnknown
    | some f => exact hKnown f (List.mem_of_find?_eq_some hFind)
  | place i =>
    rw [fillNamed, pure_bind]
    cases hGet : fields[i]? with
    | none => exact hUnknown
    | some f => exact hKnown f (List.mem_of_getElem? hGet)
  | other found => exact fun _ _ _ hRun => nomatch hRun

theorem always_fillFromItems (wanted : String) (fault : Option Error) :
    ∀ {fields : List (Field ν σ)}, (∀ f ∈ fields, ∀ s v, P s → Always P (f.read s v)) → ∀ {taken : Nat}
      {items : List ν} {s : σ}, P s → Always P (fillFromItems wanted fault fields taken items s)
  | [], _, taken, items, s, hs => by
    rw [fillFromItems]
    split
    · exact .bind (.trivial _) fun _ _ => .pure hs
    · exact fun _ _ _ hRun => nomatch hRun
  | f :: fields, hFields, taken, v :: items, s, hs => by
    rw [fillFromItems]
    exact .bind (hFields f List.mem_cons_self s v hs) fun s' hs' =>
      always_fillFromItems wanted fault (fun g hg => hFields g (List.mem_cons_of_mem f hg)) hs'
  | f :: fields, hFields, taken, [], s, hs => by
    rw [fillFromItems]
    refine .bind (.trivial _) fun _ _ => ?_
    split
    · exact fun _ _ _ hRun => nomatch hRun
    · exact always_fillFromItems wanted fault (fun g hg => hFields g (List.mem_cons_of_mem f hg)) hs

/-- What every field keeps is kept by a whole record, however it is written. -/
theorem always_readRecord (hFields : ∀ f ∈ fields, ∀ s v, P s → Always P (f.read s v)) {s : σ} (hs : P s)
    (name : String) (v : ν) : Always P (readRecord name fields s v) := by
  refine .bind (.trivial _) fun shape _ => ?_
  cases shape with
  | positional seq => exact always_fillFromItems _ _ hFields hs
  | named m =>
    have hFill : Always P (m.entries.foldlM (fun s (label, v) => fillNamed fields s label v) s) :=
      .foldlM (fun s e hs => always_fillNamed hFields hs e.1 e.2) hs
    exact .bind hFill fun s hs => .bind (.trivial _) fun _ _ => .pure hs

end Records

end GuidedTour.Decode
