import GuidedTour.Proofs.Completion.Refinement

/-!
# Files that cannot be written or understood

A store on a file changes its flags first and writes them afterwards. So a call that fails still counts for the store:
what it asked for is answered from then on, and the next call that is saved brings it to the disk. On the disk itself a
call that fails leaves directories at most, or its file cut short: a file is emptied before it is written.

A text that is no text of flags counts as a file without flags, and is replaced by the next call that is saved. Bytes
that are no text at all are the one kind of contents for which no store is opened.

Main results:

* `serve_store`, `afterAll_file` - the flags after calls that may fail.
* `serve_remains` - the disk after a call that fails.
* `failure_kept` - a call that fails is answered like one that does not, and saved with the next.
* `opened_iff_text` - the contents for which a store is opened, and what becomes of them.
-/

namespace GuidedTour.Completion

open Storage

/-! ## Calls that may fail -/

theorem toMap_afterAll (f : Flags) (calls : List Call) :
    (calls.foldl Flags.after f).toMap = calls.foldl FlagMap.after f.toMap := by
  induction calls generalizing f with
  | nil => rfl
  | cons c calls ih => rw [List.foldl_cons, List.foldl_cons, ih, Flags.toMap_after]

theorem Flags.Sorted.afterAll {f : Flags} (h : f.Sorted) (calls : List Call) : (calls.foldl Flags.after f).Sorted :=
  List.foldlRecOn calls Flags.after h fun _ hg c _ => hg.after c

namespace Store

/-- The store after calls, any of which may have failed. Each call finds a disk of its own, as whoever else has the
disk in hand has left it. -/
def afterAll (s : Store) (history : List (Disk × Call)) : Store := history.foldl (fun s (d, c) => (s.serve d c).store) s

/-- A store keeps the flags of a call, whether they were saved or not. -/
theorem serve_store (path : Path) (f : Flags) (d : Disk) (c : Call) :
    ((file path f).serve d c).store = file path (f.after c) := by
  cases c <;> rfl

theorem afterAll_file (path : Path) (f : Flags) (history : List (Disk × Call)) :
    (file path f).afterAll history = file path ((history.map (·.2)).foldl Flags.after f) := by
  induction history generalizing f with
  | nil => rfl
  | cons moment history ih =>
    obtain ⟨d, c⟩ := moment
    have hNext : (file path f).afterAll ((d, c) :: history) = (file path (f.after c)).afterAll history := by
      rw [← serve_store path f d c]
      rfl
    rw [hNext, ih]
    rfl

theorem isCompleted_file (path : Path) (f : Flags) (key : String) :
    (file path f).isCompleted key = .ok ((f.toMap key).getD false) := rfl

/-- What is left of a disk when a file with a text could not be written: there may be more directories, and then the
file may have been emptied, or been cut short for want of room. -/
inductive Remains (d : Disk) (path : Path) (text : String) : Disk → Prop
  | grown {d' : Disk} (hGrown : d.Grown d') : Remains d path text d'
  | cut {d' : Disk} {place : Place} {room : Nat} (hGrown : d.Grown d') (hPlace : d'.locate path = .ok place)
      (hFile : d'.get? place ≠ some .directory) (hRoom : room < text.utf8ByteSize) :
      Remains d path text (d'.put place (.file (.bytes (text.toUTF8.extract 0 room))))

theorem save_write_remains {d₀ d d' : Disk} {path : Path} {f : Flags} {e : StoreError} (hGrown : d₀.Grown d)
    (h : save.write path f d = (d', .error e)) : Remains d₀ path f.text d' := by
  have hWritten := Disk.written_write d path f.text
  rw [save.write] at h
  split at h
  · cases h
  next hFailed =>
  cases h
  rw [hFailed] at hWritten
  cases hWritten with
  | short hPlace hFile hRoom => exact .cut hGrown hPlace hFile hRoom
  | untouched => exact .grown hGrown

/-- Flags that could not be saved leave directories, and perhaps the file emptied or cut short. -/
theorem save_remains {d d' : Disk} {path : Path} {f : Flags} {e : StoreError} (h : save d path f = (d', .error e)) :
    Remains d path f.text d' := by
  rw [save] at h
  split at h
  · exact save_write_remains (.refl d) h
  next parent _ =>
  have hGrown := Disk.grown_createDirectories d parent
  split at h
  · next hCreated =>
    rw [hCreated] at hGrown
    exact save_write_remains hGrown h
  · next hFailed =>
    rw [hFailed] at hGrown
    cases h
    exact .grown hGrown

theorem change_remains {α : Type} {path : Path} {f : Flags} {d : Disk} {g : Flags → Flags} {answer : Flags → α}
    {e : StoreError} (h : ((file path f).change d g answer).answer = .error e) :
    Remains d path (g f).text ((file path f).change d g answer).disk := by
  cases hSave : save d path (g f) with
  | mk d' saved =>
    simp only [change, hSave] at h ⊢
    cases saved with
    | ok _ => cases h
    | error e' => exact save_remains hSave

/-- A call that fails leaves directories, and perhaps its file emptied or cut short. -/
theorem serve_remains {path : Path} {f : Flags} {d : Disk} {c : Call} {e : StoreError}
    (h : ((file path f).serve d c).answer = .error e) :
    Remains d path (f.after c).text ((file path f).serve d c).disk := by
  cases c with
  | isCompleted key => cases h
  | setCompleted key completed =>
    cases hChange : ((file path f).setCompleted d key completed).answer with
    | ok _ => rw [serve, hChange] at h; cases h
    | error e' => exact change_remains (g := (·.set key completed)) hChange
  | forgetAll =>
    cases hChange : ((file path f).forgetAll d).answer with
    | ok n => rw [serve, hChange] at h; cases h
    | error e' => exact change_remains hChange

/-! ## A call that fails -/

/-- A flag can be read without the file. -/
theorem writes_of_failed {path : Path} {f : Flags} {d : Disk} {c : Call} {e : StoreError}
    (h : ((file path f).serve d c).answer = .error e) : c.writes = true := by
  cases c with
  | isCompleted key => cases h
  | setCompleted key completed => rfl
  | forgetAll => rfl

/-- An opened store has the flags of its file. -/
theorem openAt_file {d : Disk} {path : Path} {s : Store} {warnings : List Warning}
    (h : openAt d path = .ok (s, warnings)) : s = file path (.ofRead (d.read path)) := by
  have hReadable : ∀ e, d.read path = .error e → e = .notFound := by
    intro e hError
    rw [openAt, load, hError] at h
    cases e <;> first | rfl | cases h
  obtain ⟨warnings', hFile⟩ := openAt_ok hReadable
  rw [hFile] at h
  exact (Prod.mk.inj (Except.ok.inj h)).1.symm

theorem openFor_file {env : Environment} {d : Disk} {p : Option Path} {s : Store} {warnings : List Warning}
    (h : openFor env d p = .ok (s, warnings)) : s = file (fileFor env p) (.ofRead (d.read (fileFor env p))) :=
  openAt_file ((openFor_eq env d p).symm.trans h)

/-- After a call that was saved, a store opened on the file is the live one. -/
theorem openFor_saved {env : Environment} {p : Option Path} {f : Flags} (hSorted : f.Sorted) {d : Disk} {c : Call}
    (hWrites : c.writes = true) {a : Answer} (hAnswer : ((file (fileFor env p) f).serve d c).answer = .ok a) :
    openFor env ((file (fileFor env p) f).serve d c).disk p = .ok (((file (fileFor env p) f).serve d c).store, []) := by
  obtain ⟨-, hStore, hRead⟩ := serve_file hAnswer
  rw [openFor_eq, hStore]
  exact openAt_text (hSorted.after c) (hRead hWrites)

/-- A call that fails is one that changes flags, and it counts from then on: whatever is done afterwards, the store
answers by the map of all calls, that one among them, and so does a store that is opened on the file after any later
call that was saved. -/
theorem failure_kept {env : Environment} {d₀ : Disk} {p : Option Path} {s : Store} {warnings : List Warning}
    (hOpened : openFor env d₀ p = .ok (s, warnings)) (before : List (Disk × Call)) {d : Disk} {c : Call}
    {e : StoreError} (hFailed : ((s.afterAll before).serve d c).answer = .error e) (later : List (Disk × Call)) :
    let flags : FlagMap := ((before ++ (d, c) :: later).map (·.2)).foldl FlagMap.after
      (Flags.ofRead (d₀.read (fileFor env p))).toMap
    let live := s.afterAll (before ++ (d, c) :: later)
    c.writes = true ∧ (∀ key, live.isCompleted key = .ok ((flags key).getD false)) ∧
      ∀ d' c' a, c'.writes = true → (live.serve d' c').answer = .ok a →
        ∃ reopened, openFor env (live.serve d' c').disk p = .ok (reopened, []) ∧
          ∀ key, reopened.isCompleted key = .ok ((flags.after c' key).getD false) := by
  intro flags live
  obtain rfl := openFor_file hOpened
  set f₀ := Flags.ofRead (d₀.read (fileFor env p))
  have hLive : live = file (fileFor env p) (((before ++ (d, c) :: later).map (·.2)).foldl Flags.after f₀) :=
    afterAll_file _ _ _
  have hSorted := (Flags.ofRead_sorted (d₀.read (fileFor env p))).afterAll ((before ++ (d, c) :: later).map (·.2))
  have hFlags : (((before ++ (d, c) :: later).map (·.2)).foldl Flags.after f₀).toMap = flags := toMap_afterAll _ _
  rw [hLive]
  refine ⟨?_, ?_, ?_⟩
  · rw [afterAll_file] at hFailed
    exact writes_of_failed hFailed
  · intro key
    rw [isCompleted_file, hFlags]
  · intro d' c' a hWrites hAnswer
    refine ⟨_, openFor_saved hSorted hWrites hAnswer, fun key => ?_⟩
    rw [serve_store, isCompleted_file, Flags.toMap_after, hFlags]

/-! A store on `flags.json` in the working directory, in whose place a directory is put for a while. -/

/-- The environment of a process that has no variables. -/
def bare : Environment := ⟨[], none⟩

/-- A disk with a directory in place of the file. -/
def occupied : Disk := Disk.fresh.put ["work", "flags.json"] .directory

theorem locate_flags {d : Disk} (h : d.get? Disk.workingDirectory = some .directory) :
    d.locate "flags.json" = .ok ["work", "flags.json"] := by
  rw [Disk.locate, String.contains_char_eq]
  show d.follow Disk.workingDirectory ["flags.json"] = _
  rw [Disk.follow, h]
  rfl

theorem openFor_flags : openFor bare .fresh (some "flags.json") = .ok (file "flags.json" .empty, []) := by
  rw [openFor_eq]
  show openAt .fresh "flags.json" = _
  rw [openAt, load, Disk.read, locate_flags rfl]
  rfl

/-- The path is that of a file's name alone, so no directory is created for it. -/
theorem save_flags (d : Disk) (f : Flags) : save d "flags.json" f = save.write "flags.json" f d := rfl

/-- A disk without a bound takes the flags if no directory stands in place of the file. -/
theorem save_flags_unbounded {d : Disk} (hWork : d.get? Disk.workingDirectory = some .directory)
    (hFile : d.get? ["work", "flags.json"] ≠ some .directory) (hCapacity : d.capacity = none) (f : Flags) :
    save d "flags.json" f = (d.put ["work", "flags.json"] (.file (.text f.text)), .ok ()) := by
  have hWrite : d.write "flags.json" f.text = (d.put ["work", "flags.json"] (.file (.text f.text)), .ok ()) := by
    rw [Disk.write, locate_flags hWork]
    dsimp only
    split
    · next hDirectory => exact absurd hDirectory hFile
    · exact Disk.fill_unbounded hCapacity _ _
  rw [save_flags, save.write, hWrite]

theorem save_flags_fresh (f : Flags) :
    save .fresh "flags.json" f = (Disk.fresh.put ["work", "flags.json"] (.file (.text f.text)), .ok ()) := by
  have hAbsent : Disk.fresh.get? ["work", "flags.json"] = none := rfl
  exact save_flags_unbounded rfl (by simp [hAbsent]) rfl f

theorem save_flags_occupied (f : Flags) : save occupied "flags.json" f = (occupied, .error (.io .isADirectory)) := by
  rw [save_flags, save.write, Disk.write, locate_flags rfl]
  rfl

/-- What could not be saved is answered, and stands in the file after the next call. -/
theorem failure_kept_occupied : ∃ s e, openFor bare .fresh (some "flags.json") = .ok (s, []) ∧
    ((s.afterAll []).serve occupied (.setCompleted "b" true)).answer = .error e ∧
    (s.afterAll [(occupied, .setCompleted "b" true)]).isCompleted "b" = .ok true := by
  have hFailed : (((file "flags.json" .empty).afterAll []).serve occupied (.setCompleted "b" true)).answer =
      .error (.io .isADirectory) := by
    show ((file "flags.json" .empty).serve occupied (.setCompleted "b" true)).answer = _
    simp only [serve, setCompleted, change, save_flags_occupied]
    rfl
  obtain ⟨-, hAnswers, -⟩ := failure_kept openFor_flags [] hFailed []
  exact ⟨_, _, openFor_flags, hFailed, (hAnswers "b").trans rfl⟩

/-- A store that failed to set a flag answers that it is set, and brings it to the file with the next one. -/
theorem failure_leaves_trace : ∃ s live reopened disk,
    openFor bare .fresh (some "flags.json") = .ok (s, []) ∧ s.isCompleted "b" = .ok false ∧
    s.serve occupied (.setCompleted "b" true) = ⟨live, occupied, .error (.io .isADirectory)⟩ ∧
    live.isCompleted "b" = .ok true ∧
    live.serve .fresh (.setCompleted "c" true) = ⟨reopened, disk, .ok .done⟩ ∧
    openFor bare disk (some "flags.json") = .ok (reopened, []) ∧ reopened.isCompleted "b" = .ok true := by
  have hFailed : (file "flags.json" .empty).serve occupied (.setCompleted "b" true) =
      ⟨file "flags.json" (Flags.empty.set "b" true), occupied, .error (.io .isADirectory)⟩ := by
    simp only [serve, setCompleted, change, save_flags_occupied]
    rfl
  have hSaved : (file "flags.json" (Flags.empty.set "b" true)).serve .fresh (.setCompleted "c" true) =
      ⟨file "flags.json" ((Flags.empty.set "b" true).set "c" true),
        Disk.fresh.put ["work", "flags.json"] (.file (.text ((Flags.empty.set "b" true).set "c" true).text)),
        .ok .done⟩ := by
    simp only [serve, setCompleted, change, save_flags_fresh]
    rfl
  have hSorted : (Flags.empty.set "b" true).Sorted := Flags.Sorted.set List.Pairwise.nil "b" true
  refine ⟨_, _, _, _, openFor_flags, rfl, hFailed, by decide, hSaved, ?_, by decide⟩
  rw [openFor_eq]
  exact openAt_text (hSorted.set "c" true) (read_save (save_flags_fresh _))

/-! ## Contents that cannot be understood -/

/-- A file does not stand in the way of a store: the store has the flags of the file if its contents are the text of
such flags, and else none and one warning; once a call was saved, the file is a text of flags, with which a store is
opened that answers as the live one. -/
structure Opened (env : Environment) (d : Disk) (p : Option Path) (contents : Contents) (s : Store)
    (warnings : List Warning) : Prop where
  opened : openFor env d p = .ok (s, warnings)
  flags : ∀ key, s.isCompleted key = .ok (((contents.text?.bind Flags.ofText?).getD .empty).value key)
  warned : warnings = if (contents.text?.bind Flags.ofText?).isSome then [] else [.corruptFlags]
  rewritten : ∀ history d' c a, c.writes = true → ((s.afterAll history).serve d' c).answer = .ok a →
    ∃ text f reopened, ((s.afterAll history).serve d' c).disk.read (fileFor env p) = .ok text ∧
      Flags.ofText? text = some f ∧
      openFor env ((s.afterAll history).serve d' c).disk p = .ok (reopened, []) ∧
      ∀ key, reopened.isCompleted key = ((s.afterAll history).serve d' c).store.isCompleted key

section

variable {env : Environment} {d : Disk} {p : Option Path} {place : Place} {contents : Contents}

theorem read_file (hLocate : d.locate (fileFor env p) = .ok place) (hFile : d.get? place = some (.file contents)) :
    d.read (fileFor env p) = match contents.text? with
      | some text => .ok text
      | none => .error .notText := by
  rw [Disk.read, hLocate]
  simp only [bind, Except.bind, hFile]
  rfl

/-- Bytes that are no text are an I/O error, unlike a text that holds no flags. -/
theorem openFor_bytes (hLocate : d.locate (fileFor env p) = .ok place) (hFile : d.get? place = some (.file contents))
    (hText : contents.text? = none) : openFor env d p = .error (.io .notText) := by
  rw [openFor_eq, openAt, load, read_file hLocate hFile, hText]
  rfl

/-- A file with a text in it does not stand in the way, whatever the text. -/
theorem Opened.of_text (hLocate : d.locate (fileFor env p) = .ok place) (hFile : d.get? place = some (.file contents))
    {text : String} (hText : contents.text? = some text) : ∃ s warnings, Opened env d p contents s warnings := by
  have hRead := read_file hLocate hFile
  rw [hText] at hRead
  have hSorted := Flags.ofRead_sorted (d.read (fileFor env p))
  refine ⟨file (fileFor env p) (.ofRead (d.read (fileFor env p))),
    if (contents.text?.bind Flags.ofText?).isSome then [] else [.corruptFlags], ?_, ?_, rfl, ?_⟩
  · rw [openFor_eq, openAt, load, hRead, hText, Option.bind_some]
    cases hFlags : Flags.ofText? text with
    | none => simp only [bind, Except.bind, Flags.ofRead, hFlags]; rfl
    | some f => simp only [bind, Except.bind, Flags.ofRead, hFlags]; rfl
  · intro key
    rw [hRead, hText]
    rfl
  · -- the flags that a call saves are in order, even if the text that was there listed them in another one
    intro history d' c a hWrites hAnswer
    rw [afterAll_file] at hAnswer ⊢
    have hKept := hSorted.afterAll (history.map (·.2))
    obtain ⟨-, -, hSaved⟩ := serve_file hAnswer
    exact ⟨_, _, _, hSaved hWrites, Flags.ofText?_text (hKept.after c), openFor_saved hKept hWrites hAnswer,
      fun key => rfl⟩

/-- A store is opened for every file whose contents are a text, and for no other file; whatever the text, the file does
not stand in its way. -/
theorem opened_iff_text (hLocate : d.locate (fileFor env p) = .ok place)
    (hFile : d.get? place = some (.file contents)) :
    ((∃ s warnings, Opened env d p contents s warnings) ↔ contents.text?.isSome) ∧
      (contents.text? = none → openFor env d p = .error (.io .notText)) := by
  refine ⟨⟨?_, ?_⟩, openFor_bytes hLocate hFile⟩
  · rintro ⟨s, warnings, hOpened⟩
    rw [Option.isSome_iff_ne_none]
    intro hText
    have hOk := hOpened.opened
    rw [openFor_bytes hLocate hFile hText] at hOk
    cases hOk
  · intro hSome
    obtain ⟨text, hText⟩ := Option.isSome_iff_exists.mp hSome
    exact Opened.of_text hLocate hFile hText

end

/-- A disk on which the file has some contents. -/
def holding (contents : Contents) : Disk := Disk.fresh.put ["work", "flags.json"] (.file contents)

/-- A text that holds no flags does not stand in the way. -/
theorem opened_iff_text_prose : ∃ s warnings,
    Opened bare (holding (.text "no flags")) (some "flags.json") (.text "no flags") s warnings := by
  have hLocate : (holding (.text "no flags")).locate (fileFor bare (some "flags.json")) = .ok ["work", "flags.json"] :=
    locate_flags rfl
  exact (opened_iff_text hLocate rfl).1.mpr rfl

/-- A byte that begins no character is enough to stand in the way. -/
theorem not_opened_byte : openFor bare (holding (.bytes ⟨#[0xFF]⟩)) (some "flags.json") = .error (.io .notText) ∧
    ¬ ∃ s warnings, Opened bare (holding (.bytes ⟨#[0xFF]⟩)) (some "flags.json") (.bytes ⟨#[0xFF]⟩) s warnings := by
  have hLocate : (holding (.bytes ⟨#[0xFF]⟩)).locate (fileFor bare (some "flags.json")) = .ok ["work", "flags.json"] :=
    locate_flags rfl
  have hBlocked := openFor_bytes hLocate rfl (by decide)
  refine ⟨hBlocked, ?_⟩
  rintro ⟨s, warnings, hOpened⟩
  have hOk := hOpened.opened
  rw [hBlocked] at hOk
  cases hOk

end Store

end GuidedTour.Completion
