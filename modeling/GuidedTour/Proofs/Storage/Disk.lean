import GuidedTour.Storage.Disk
import Mathlib.Data.List.Basic

/-!
# A file that was written is read back

A path is followed through directories only. Writing a file puts an entry where no directory stood, so every path that
could be followed before is followed to the same place afterwards, that of the file among them. Creating directories
takes nothing from a disk: they are put where nothing stood.

Main results:

* `lookup_filter_key` - what a filter on keys keeps.
* `get?_put_of_ne` - an entry stands in its own place only.
* `follow_put` - a new entry is in the way of no path that leads through directories.
* `written_write` - what becomes of a file that is written.
* `read_write` - a text that was written to a path is read from it.
* `grown_createDirectories` - what creating a directory, with all that lead to it, does to a disk.
-/

namespace GuidedTour.Storage

/-- A filter on keys keeps what is found under the keys that pass, and hides the rest. -/
theorem lookup_filter_key {κ α : Type} [BEq κ] [LawfulBEq κ] (keep : κ → Bool) (entries : List (κ × α)) (key : κ) :
    (entries.filter fun e => keep e.1).lookup key = if keep key then entries.lookup key else none := by
  induction entries with
  | nil => simp
  | cons head rest ih =>
    obtain ⟨k, a⟩ := head
    by_cases hKey : key = k
    · subst hKey
      cases hKeep : keep key <;> simp [hKeep, ih]
    · have hOther : (key == k) = false := by simpa using hKey
      cases hKeep : keep k <;> simp [hKeep, hOther, List.lookup_cons, ih]

namespace Disk

/-- An entry stands in its own place only. -/
theorem get?_put_of_ne (d : Disk) {place other : Place} (entry : Entry) (h : other ≠ place) :
    (d.put place entry).get? other = d.get? other := by
  have hHead : (other == place) = false := by simpa using h
  have hRest := lookup_filter_key (fun p => decide (p ≠ place)) d.entries other
  rw [if_pos (by simpa using h)] at hRest
  simp only [get?, put, List.lookup_cons, hHead, hRest]

/-- Names that are followed through directories lead to the same place when an entry is put elsewhere. -/
theorem follow_put {d : Disk} {place : Place} (entry : Entry) (hPlace : d.get? place ≠ some .directory)
    {names : List String} {start goal : Place} (h : d.follow start names = .ok goal) :
    (d.put place entry).follow start names = .ok goal := by
  -- each directory on the way is still one, since the new entry replaces none
  induction names generalizing start with
  | nil => exact h
  | cons name rest ih =>
    rw [follow] at h ⊢
    split at h
    · rename_i hStart
      have hOther : start ≠ place := fun hEq => hPlace (hEq ▸ hStart)
      rw [get?_put_of_ne d entry hOther, hStart]
      exact ih h
    · cases h
    · cases h

/-- So a path leads where it led before. -/
theorem locate_put {d : Disk} {place : Place} (entry : Entry) (hPlace : d.get? place ≠ some .directory) {p : Path}
    {goal : Place} (h : d.locate p = .ok goal) : (d.put place entry).locate p = .ok goal := by
  rw [locate] at h ⊢
  split at h
  · cases h
  rename_i hSome
  rw [if_neg hSome]
  split at h
  · cases h
  rename_i hClean
  rw [if_neg hClean]
  exact follow_put entry hPlace h

/-! ## Writing -/

/-- A file is written whole, or cut short if there is not enough room, or not touched at all. -/
inductive Written (d : Disk) (p : Path) (s : String) : Disk × Except IoError Unit → Prop
  | whole {place : Place} (hPlace : d.locate p = .ok place) (hFile : d.get? place ≠ some .directory) :
      Written d p s (d.put place (.file (.text s)), .ok ())
  | short {place : Place} {room : Nat} (hPlace : d.locate p = .ok place) (hFile : d.get? place ≠ some .directory)
      (hRoom : room < s.utf8ByteSize) :
      Written d p s (d.put place (.file (.bytes (s.toUTF8.extract 0 room))), .error .storageFull)
  | untouched (e : IoError) : Written d p s (d, .error e)

theorem written_fill {d : Disk} {p : Path} {place : Place} (hPlace : d.locate p = .ok place)
    (hFile : d.get? place ≠ some .directory) (s : String) : Written d p s (d.fill place s) := by
  unfold fill
  dsimp only
  split
  · exact .whole hPlace hFile
  · next hRoom => exact .short hPlace hFile (Nat.lt_of_not_le hRoom)

theorem written_write (d : Disk) (p : Path) (s : String) : Written d p s (d.write p s) := by
  unfold write
  cases hPlace : d.locate p with
  | error e => exact .untouched e
  | ok place =>
    dsimp only
    split
    · exact .untouched _
    · next hFile => exact written_fill hPlace hFile s

/-- On a disk without a bound there is room for every text. -/
theorem fill_unbounded {d : Disk} (h : d.capacity = none) (place : Place) (s : String) :
    d.fill place s = (d.put place (.file (.text s)), .ok ()) := by
  simp [fill, room?, h]

/-- A text that was written to a path is read from it. -/
theorem read_write {d d' : Disk} {p : Path} {s : String} (h : d.write p s = (d', .ok ())) : d'.read p = .ok s := by
  have hWritten := written_write d p s
  rw [h] at hWritten
  cases hWritten with
  | @whole place hPlace hFile =>
    -- the root is a directory, so it is not what was written
    have hRoot : place ≠ [] := by
      rintro rfl
      exact hFile rfl
    rw [read, locate_put _ hFile hPlace]
    simp only [bind, Except.bind, get?_put_self d _ hRoot]
    rfl

/-! ## New directories -/

/-- Every place holds what it held, or a directory where nothing stood. -/
def Grown (d d' : Disk) : Prop :=
  ∀ place, d'.get? place = d.get? place ∨ d.get? place = none ∧ d'.get? place = some .directory

theorem Grown.refl (d : Disk) : d.Grown d := fun _ => .inl rfl

theorem Grown.trans {d₁ d₂ d₃ : Disk} (h : d₁.Grown d₂) (h' : d₂.Grown d₃) : d₁.Grown d₃ := by
  intro place
  rcases h place with hSame | ⟨hNone, hNew⟩
  · rw [← hSame]
    exact h' place
  · rcases h' place with hKept | ⟨hGone, -⟩
    · exact .inr ⟨hNone, hKept.trans hNew⟩
    · rw [hNew] at hGone
      cases hGone

theorem grown_createDirectory {d d' : Disk} {p : Path} (h : d.createDirectory p = .ok d') : d.Grown d' := by
  cases hLocate : d.locate p with
  | error e =>
    rw [createDirectory, hLocate] at h
    cases h
  | ok place =>
    rw [createDirectory, hLocate] at h
    cases hEntry : d.get? place with
    | some entry =>
      simp only [bind, Except.bind, hEntry] at h
      cases h
    | none =>
      simp only [bind, Except.bind, hEntry] at h
      cases h
      have hRoot : place ≠ [] := by
        rintro rfl
        cases hEntry
      intro other
      by_cases hOther : other = place
      · subst hOther
        exact .inr ⟨hEntry, get?_put_self d _ hRoot⟩
      · exact .inl (get?_put_of_ne d _ hOther)

theorem grown_provideDirectory (d : Disk) (p : Path) : d.Grown (d.provideDirectory p).1 := by
  unfold provideDirectory
  split
  · next hCreated => exact grown_createDirectory hCreated
  · exact .refl d

theorem grown_createDirectoriesUpTo (d : Disk) (p : Path) (depth : Nat) :
    d.Grown (d.createDirectoriesUpTo p depth).1 := by
  -- on the number of directories that may still be missing
  induction depth generalizing p with
  | zero => exact .refl d
  | succ depth ih =>
    rw [createDirectoriesUpTo]
    split
    · exact .refl d
    split
    · split
      · exact .refl d
      next parent hParent =>
      have hBefore := ih parent
      split
      · next d₁ _ hCreated =>
        rw [hCreated] at hBefore
        exact hBefore.trans (grown_provideDirectory d₁ p)
      · exact hBefore
    · exact grown_provideDirectory d p

/-- Creating a directory takes nothing from a disk, also if it fails halfway. -/
theorem grown_createDirectories (d : Disk) (p : Path) : d.Grown (d.createDirectories p).1 :=
  grown_createDirectoriesUpTo d p _

end Disk

end GuidedTour.Storage
