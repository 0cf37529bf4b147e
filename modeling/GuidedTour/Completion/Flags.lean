import GuidedTour.Json.Source
import GuidedTour.Json
import GuidedTour.Text.Blank

/-!
# Completion flags

Which walkthroughs were shown to their end: flags under names, in the order of the names, and their text
in a file.

* `Flags.set` - sets a flag, or clears it by removing it.
* `Flags.forget` - clears the flags of all walkthroughs.
* `Flags.text`, `Flags.ofText?` - the two directions of the file's text.
* `value_insert_self`, `value_insert_of_ne` - a flag that was set is read back, and no other changes.
-/

namespace GuidedTour

/-- What the flag of a walkthrough ends with. -/
def completionSuffix : String := "-WalkthroughCompleted"

/-- The name under which the completion of a walkthrough is remembered. -/
def completionKey (identity : String) : String := identity ++ completionSuffix

namespace Completion

open Decode

/-- Flags under names, sorted by name. -/
structure Flags where
  entries : List (String × Bool)
  deriving DecidableEq, Inhabited

namespace Flags

/-- No flag is set. -/
def empty : Flags := ⟨[]⟩

/-- The flag under a name; a name without one reads as not set. -/
def value (f : Flags) (key : String) : Bool := (f.entries.lookup key).getD false

/-- Puts a flag in its place among sorted entries. -/
def put (key : String) (value : Bool) : List (String × Bool) → List (String × Bool)
  | [] => [(key, value)]
  | (k, v) :: rest =>
    if k = key then (key, value) :: rest
    else if key < k then (key, value) :: (k, v) :: rest
    else (k, v) :: put key value rest

/-- Enters a flag. -/
def insert (f : Flags) (key : String) (value : Bool) : Flags := ⟨put key value f.entries⟩

/-- Removes the flag under a name. -/
def erase (f : Flags) (key : String) : Flags := ⟨f.entries.filter fun (k, _) => k ≠ key⟩

/-- Sets a flag, or clears it by removing it. -/
def set (f : Flags) (key : String) (completed : Bool) : Flags :=
  if completed then f.insert key true else f.erase key

/-- Whether a name is that of a walkthrough's flag. -/
def isWalkthrough (key : String) : Bool := completionSuffix.toList.isSuffixOf key.toList

/-- Removes the flags of all walkthroughs. -/
def forget (f : Flags) : Flags := ⟨f.entries.filter fun (k, _) => !isWalkthrough k⟩

/-- How many flags there are. -/
def size (f : Flags) : Nat := f.entries.length

/-- A flag that was entered is read back. -/
theorem value_insert_self (f : Flags) (key : String) (v : Bool) : (f.insert key v).value key = v := by
  obtain ⟨entries⟩ := f
  simp only [insert, value]
  induction entries with
  | nil => simp [put]
  | cons head rest ih =>
    obtain ⟨k, w⟩ := head
    by_cases h : k = key
    · simp [put, h]
    · by_cases hlt : key < k
      · simp [put, h, hlt]
      · have hne : (key == k) = false := by simpa using fun e => h e.symm
        simpa [put, h, hlt, List.lookup_cons, hne] using ih

/-- Entering a flag changes no other. -/
theorem value_insert_of_ne (f : Flags) {key other : String} (v : Bool) (h : other ≠ key) :
    (f.insert key v).value other = f.value other := by
  obtain ⟨entries⟩ := f
  have hne : (other == key) = false := by simpa using h
  simp only [insert, value]
  induction entries with
  | nil => simp [put, List.lookup_cons, hne]
  | cons head rest ih =>
    obtain ⟨k, w⟩ := head
    by_cases hk : k = key
    · simp [put, hk, List.lookup_cons, hne]
    · by_cases hlt : key < k
      · simp [put, hk, hlt, List.lookup_cons, hne]
      · by_cases ho : other = k
        · simp [put, hk, hlt, ho]
        · have hok : (other == k) = false := by simpa using ho
          simpa [put, hk, hlt, List.lookup_cons, hok] using ih

/-- The flags as a value. -/
def toJson (f : Flags) : Json :=
  .object [("flags", .object (f.entries.map fun (k, b) => (k, .bool b)))]

/-- The text of a file with the flags. -/
def text (f : Flags) : String := f.toJson.pretty 0

/-- Reads flags under names; of two flags under one name the later counts. -/
def readEntries {ν : Type} [Source ν] (v : ν) : Decoder Flags := do
  match ← Source.record v "a map" with
  | .positional _ => throw (.wrongType .list "a map")
  | .named m =>
    let flags ← m.entries.foldlM (fun f (label, v) => do
      match label with
      | .name key => return f.insert key (← Source.boolean v)
      | _ => throw .malformed) empty
    endOf m.fault
    return flags

/-- The fields of a file of flags. -/
def fields {ν : Type} [Source ν] : List (Field ν (Option Flags)) :=
  [{ name := "flags", required := false, given := Option.isSome, read := fun _ v => some <$> readEntries v }]

/-- Reads the flags of a file. -/
def readFlags {ν : Type} [Source ν] (v : ν) : Decoder Flags := do
  return (← readRecord "struct CompletionFile" fields none v).getD empty

/-- The flags that a text holds, if it is the text of such a file. -/
def ofText? (s : String) : Option Flags :=
  let t := Json.Document.ofText s
  match (readFlags t.root).run 0 with
  | .ok (flags, _) => if t.complete then some flags else none
  | .error _ => none

end Flags

end Completion

end GuidedTour
