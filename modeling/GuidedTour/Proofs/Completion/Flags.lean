import GuidedTour.Completion.Store
import GuidedTour.Proofs.Decode.Reading
import GuidedTour.Proofs.Storage.Disk
import Mathlib.Data.Set.Card
import Mathlib.Data.String.Basic

/-!
# Flags and their text

Flags are kept in the order of their names, each name once. As a map from names to flags they behave as expected of
every operation; and since the order is kept, the entries that a text lists are put back in their places one behind the
other, so that the text of sorted flags is read as the same flags.

Main results:

* `lookup_set`, `lookup_forget` - setting and forgetting, as changes of a map.
* `size_sub_forget` - how many flags are forgotten.
* `ofText?_sorted` - whatever a text holds is sorted.
* `ofText?_text` - the text of sorted flags is read as the flags.
-/

namespace GuidedTour

open Decode Json Storage

namespace Completion.Flags

/-- The names stand in order, so each of them stands there once. -/
def Sorted (f : Flags) : Prop := f.entries.Pairwise fun a b => a.1 < b.1

/-- The flags as a map. -/
def toMap (f : Flags) (key : String) : Option Bool := f.entries.lookup key

/-! ## Entries in their places -/

section Entries

variable {key : String} {v : Bool} {entries : List (String × Bool)}

theorem mem_put {e : String × Bool} (h : e ∈ put key v entries) : e.1 = key ∨ e ∈ entries := by
  induction entries with
  | nil => exact .inl (by rw [List.mem_singleton.mp h])
  | cons head rest ih =>
    obtain ⟨k, w⟩ := head
    rw [put] at h
    split at h
    · rcases List.mem_cons.mp h with rfl | h
      · exact .inl rfl
      · exact .inr (List.mem_cons_of_mem _ h)
    split at h
    · rcases List.mem_cons.mp h with rfl | h
      · exact .inl rfl
      · exact .inr h
    · rcases List.mem_cons.mp h with rfl | h
      · exact .inr List.mem_cons_self
      · exact (ih h).imp id (List.mem_cons_of_mem _)

theorem pairwise_put (hSorted : entries.Pairwise fun a b => a.1 < b.1) :
    (put key v entries).Pairwise fun a b => a.1 < b.1 := by
  -- a new entry goes before the first name behind it, or in place of its own
  induction entries with
  | nil => exact List.pairwise_singleton _ _
  | cons head rest ih =>
    obtain ⟨k, w⟩ := head
    obtain ⟨hHead, hRest⟩ := List.pairwise_cons.mp hSorted
    rw [put]
    split
    · rename_i hSame
      exact List.pairwise_cons.mpr ⟨fun e he => hSame ▸ hHead e he, hRest⟩
    rename_i hOther
    split
    · rename_i hBefore
      refine List.pairwise_cons.mpr ⟨fun e he => ?_, hSorted⟩
      rcases List.mem_cons.mp he with rfl | he
      · exact hBefore
      · exact lt_trans hBefore (hHead e he)
    · rename_i hBehind
      refine List.pairwise_cons.mpr ⟨fun e he => ?_, ih hRest⟩
      rcases mem_put he with hKey | he
      · exact hKey ▸ lt_of_le_of_ne (not_lt.mp hBehind) hOther
      · exact hHead e he

/-- A name behind all others is put at the end. -/
theorem put_last (hLast : ∀ e ∈ entries, e.1 < key) : put key v entries = entries ++ [(key, v)] := by
  induction entries with
  | nil => rfl
  | cons head rest ih =>
    have hHead := hLast head List.mem_cons_self
    rw [put, if_neg hHead.ne, if_neg (not_lt_of_gt hHead), ih fun e he => hLast e (List.mem_cons_of_mem head he)]
    rfl

theorem lookup_cons_ite (k k' : String) (w : Bool) :
    ((k', w) :: entries).lookup k = if k = k' then some w else entries.lookup k := by
  by_cases hKey : k = k'
  · simp [hKey]
  · have hNot : (k == k') = false := by simpa using hKey
    simp [List.lookup_cons, hNot, hKey]

theorem lookup_put (k : String) : (put key v entries).lookup k = if k = key then some v else entries.lookup k := by
  induction entries with
  | nil => rw [put, lookup_cons_ite]
  | cons head rest ih =>
    obtain ⟨k', w⟩ := head
    rw [put]
    split
    · rename_i hSame
      simp only [lookup_cons_ite, hSame]
      split <;> rfl
    rename_i hOther
    split
    · rw [lookup_cons_ite]
    · simp only [lookup_cons_ite, ih]
      split
      · rename_i hHead
        rw [if_neg (hHead ▸ hOther)]
      · rfl

end Entries

/-! ## Flags as a map -/

theorem value_eq (f : Flags) (key : String) : f.value key = (f.toMap key).getD false := rfl

/-- Setting a flag changes the map at its name. A flag that is not set has no entry. -/
theorem toMap_set (f : Flags) (key : String) (completed : Bool) (k : String) :
    (f.set key completed).toMap k = if k = key then (if completed then some true else none) else f.toMap k := by
  cases completed with
  | true => exact lookup_put k
  | false =>
    refine (lookup_filter_key (fun k => decide (k ≠ key)) f.entries k).trans ?_
    by_cases hKey : k = key <;> simp [toMap, hKey]

theorem value_set (f : Flags) (key : String) (completed : Bool) (k : String) :
    (f.set key completed).value k = if k = key then completed else f.value k := by
  rw [value_eq, toMap_set, value_eq]
  split
  · cases completed <;> rfl
  · rfl

theorem isWalkthrough_iff {key : String} : isWalkthrough key = true ↔ completionSuffix.toList <:+ key.toList :=
  List.isSuffixOf_iff_suffix

/-- Forgetting changes the map at the names of walkthroughs. -/
theorem toMap_forget (f : Flags) (k : String) :
    f.forget.toMap k = if isWalkthrough k then none else f.toMap k := by
  refine (lookup_filter_key (fun k => !isWalkthrough k) f.entries k).trans ?_
  cases hKey : isWalkthrough k <;> simp [toMap]

theorem Sorted.set {f : Flags} (h : f.Sorted) (key : String) (completed : Bool) : (f.set key completed).Sorted := by
  cases completed with
  | true => exact pairwise_put h
  | false => exact h.filter _

theorem Sorted.forget {f : Flags} (h : f.Sorted) : f.forget.Sorted := h.filter _

theorem Sorted.nodup {f : Flags} (h : f.Sorted) : (f.entries.map (·.1)).Nodup := by
  rw [List.Nodup, List.pairwise_map]
  exact h.imp fun hLess => hLess.ne

theorem isSome_toMap {f : Flags} {key : String} : (f.toMap key).isSome ↔ ∃ e ∈ f.entries, e.1 = key := by
  rw [toMap, List.lookup_isSome_iff]
  exact exists_congr fun e => and_congr_right fun _ => beq_iff_eq.trans eq_comm

/-- As many flags are forgotten as there are walkthroughs with a flag. -/
theorem size_sub_forget {f : Flags} (h : f.Sorted) :
    f.size - f.forget.size = {key | (f.toMap key).isSome ∧ isWalkthrough key}.ncard := by
  set gone := f.entries.filter fun e => isWalkthrough e.1 with hGone
  have hNames : {key | (f.toMap key).isSome ∧ isWalkthrough key} = ((gone.map (·.1)).toFinset : Set String) := by
    ext key
    simp only [Set.mem_ofPred_eq, isSome_toMap, List.coe_toFinset, List.mem_map, hGone, List.mem_filter]
    constructor
    · rintro ⟨⟨e, he, rfl⟩, hKey⟩
      exact ⟨e, ⟨he, hKey⟩, rfl⟩
    · rintro ⟨e, ⟨he, hKey⟩, rfl⟩
      exact ⟨⟨e, he, rfl⟩, hKey⟩
  -- no name stands twice, so counting entries is counting names
  have hDistinct : (gone.map (·.1)).Nodup := h.nodup.sublist (List.filter_sublist.map _)
  have hSplit : f.entries.length = gone.length + f.forget.entries.length := by
    simpa [hGone, Flags.forget] using List.length_eq_length_filter_add (l := f.entries) fun e => isWalkthrough e.1
  rw [hNames, Set.ncard_coe_finset, List.toFinset_card_of_nodup hDistinct, List.length_map, size, size, hSplit,
    Nat.add_sub_cancel]

/-! ## The text of flags -/

section Reading

variable {ν : Type} [Source ν]

/-- The entries of a map are taken in one by one. -/
def takeEntry (f : Flags) (entry : Label × ν) : Decoder Flags :=
  match entry.1 with
  | .name key => do return f.insert key (← Source.boolean entry.2)
  | _ => throw .malformed

theorem readEntries_named {v : ν} {m : Members Label ν} (hRecord : Source.record v "a map" = pure (.named m)) :
    readEntries v = do
      let f ← m.entries.foldlM takeEntry empty
      endOf m.fault
      return f := by
  rw [readEntries, hRecord, pure_bind]
  rfl

/-- Entries behind those that were taken in go to the end. -/
theorem takeEntries_sorted [Faithful ν] {entries : List (Label × ν)} {behind : List (String × Bool)}
    (hShown : List.Forall₂ (fun e (m : String × Json) => e.1 = Label.name m.1 ∧ Faithful.Shows e.2 m.2) entries
      (behind.map fun (k, b) => (k, .bool b)))
    {before : List (String × Bool)} (hSorted : (before ++ behind).Pairwise fun a b => a.1 < b.1) :
    entries.foldlM takeEntry ⟨before⟩ = pure ⟨before ++ behind⟩ := by
  induction behind generalizing entries before with
  | nil =>
    cases hShown
    rw [List.append_nil]
    rfl
  | cons head behind ih =>
    obtain ⟨k, b⟩ := head
    cases hShown with
    | @cons entry _ entries _ hEntry hRest =>
      obtain ⟨label, v⟩ := entry
      obtain ⟨rfl, hValue⟩ := hEntry
      -- the next name is behind all that were taken in, so its entry goes to the end
      have hLast : ∀ e ∈ before, e.1 < k := fun e he =>
        (List.pairwise_append.mp hSorted).2.2 e he (k, b) List.mem_cons_self
      have hTake : takeEntry ⟨before⟩ (.name k, v) = pure ⟨before ++ [(k, b)]⟩ := by
        rw [takeEntry]
        simp only [Faithful.boolean hValue, pure_bind, insert, put_last hLast]
      have hNext : (before ++ [(k, b)] ++ behind).Pairwise fun a b => a.1 < b.1 := by
        rwa [List.append_assoc, List.singleton_append]
      rw [List.foldlM_cons, hTake, pure_bind, ih hRest hNext, List.append_assoc, List.singleton_append]

/-- The entries of sorted flags are read as the flags. -/
theorem reads_entries [Faithful ν] {f : Flags} (h : f.Sorted) :
    Reads (ν := ν) readEntries (.object (f.entries.map fun (k, b) => (k, .bool b))) f := by
  intro v hShows
  obtain ⟨entries, hRecord, hEntries⟩ := Faithful.record hShows "a map"
  have hTaken : entries.foldlM takeEntry empty = pure ⟨[] ++ f.entries⟩ :=
    takeEntries_sorted hEntries (by rwa [List.nil_append])
  rw [readEntries_named hRecord, hTaken]
  rfl

theorem reads_flags [Faithful ν] {f : Flags} (h : f.Sorted) : Reads (ν := ν) readFlags f.toJson f := by
  have hFills : Fills (fields (ν := ν)) [("flags", .object (f.entries.map fun (k, b) => (k, .bool b)))] none (some f) :=
    .cons rfl (fun v hv => by
      show some <$> readEntries v = pure (some f)
      rw [reads_entries h hv]
      rfl) (.nil _)
  intro v hShows
  rw [readFlags, hFills.read (List.nodup_singleton _) _ hShows]
  rfl

end Reading

/-- The text of sorted flags is read as the flags. -/
theorem ofText?_text {f : Flags} (h : f.Sorted) : ofText? f.text = some f := by
  -- the text is an object in an object
  have hRead : Readable 2 f.toJson :=
    .object fun m hm => by
      obtain rfl := List.mem_singleton.mp hm
      refine .object fun m hm => ?_
      obtain ⟨e, -, rfl⟩ := List.mem_map.mp hm
      exact .bool _ _
  have hShown : Faithful.Shows (document 1 f.toJson) f.toJson := ⟨1, 2, hRead, by decide, rfl⟩
  rw [ofText?, text, ofText_spelled (spells_pretty _ 0) hRead]
  simp only [reads_flags h hShown]
  rfl

/-! ## Whatever a text holds -/

section Holding

variable {ν : Type} [Source ν]

theorem takeEntry_sorted {f : Flags} (h : f.Sorted) (entry : Label × ν) : Always Sorted (takeEntry f entry) := by
  rw [takeEntry]
  split
  · exact .bind (.trivial _) fun b _ => .pure (pairwise_put h)
  · exact .throw _

theorem readEntries_sorted (v : ν) : Always Sorted (readEntries v) := by
  refine .bind (.trivial _) fun shape _ => ?_
  cases shape with
  | positional s => exact .throw _
  | named m =>
    exact .bind (.foldlM (fun f e h => takeEntry_sorted h e) List.Pairwise.nil) fun f hf =>
      .bind (.trivial _) fun _ _ => .pure hf

theorem readFlags_sorted (v : ν) : Always Sorted (readFlags v) := by
  have hFields : ∀ f ∈ fields (ν := ν), ∀ s w, (∀ g ∈ s, Sorted g) →
      Always (fun s => ∀ g ∈ s, Sorted g) (f.read s w) := by
    intro f hf s w _
    obtain rfl := List.mem_singleton.mp hf
    exact .bind (readEntries_sorted w) fun g hg => .pure fun g' hg' => Option.mem_some.mp hg' ▸ hg
  refine .bind (always_readRecord hFields (fun g hg => absurd hg (Option.not_mem_none g)) _ v) fun s hs => .pure ?_
  cases s with
  | none => exact List.Pairwise.nil
  | some f => exact hs f rfl

end Holding

/-- Whatever a text holds is sorted. -/
theorem ofText?_sorted {s : String} {f : Flags} (h : ofText? s = some f) : f.Sorted := by
  rw [ofText?] at h
  split at h
  · rename_i hRead
    split at h
    · exact Option.some.inj h ▸ readFlags_sorted _ hRead
    · cases h
  · cases h

end Completion.Flags

end GuidedTour
