import GuidedTour.Proofs.Completion.Flags

/-!
# A store on a file is a map

A store on a file keeps its flags three times: in memory, as a text on the disk, and as what that text is read as. As
long as no call fails the three agree, and all that can be asked of the store is answered by a plain map from names to
flags. A store in memory answers from the same map.

Main results:

* `serve_memory`, `serve_file` - one call of a store.
* `answerTo_eq`, `toMap_after` - one call of the map that the flags stand for.
* `openFor_refines` - any number of calls of a store on a file.
-/

namespace GuidedTour.Completion

open Storage

/-! ## Calls -/

/-- A call of a store. -/
inductive Call where
  | isCompleted (key : String)
  | setCompleted (key : String) (completed : Bool)
  | forgetAll

/-- The answer to a call. -/
inductive Answer where
  | flag (completed : Bool)
  | done
  | forgotten (count : Nat)
  deriving DecidableEq

/-- Whether a call changes the flags. -/
def Call.writes : Call → Bool
  | .isCompleted _ => false
  | .setCompleted _ _ | .forgetAll => true

namespace Store

/-- Makes a call of a store. -/
def serve (s : Store) (d : Disk) : Call → Stored Answer
  | .isCompleted key => ⟨s, d, (s.isCompleted key).map .flag⟩
  | .setCompleted key completed =>
    let r := s.setCompleted d key completed
    ⟨r.store, r.disk, r.answer.map fun _ => .done⟩
  | .forgetAll =>
    let r := s.forgetAll d
    ⟨r.store, r.disk, r.answer.map .forgotten⟩

/-- Makes calls one after the other, up to the first that fails. -/
def serveAll (s : Store) (d : Disk) : List Call → Except StoreError (List Answer × Store × Disk)
  | [] => .ok ([], s, d)
  | c :: calls => do
    let r := s.serve d c
    let answer ← r.answer
    let (answers, last) ← serveAll r.store r.disk calls
    return (answer :: answers, last)

end Store

/-! ## The map -/

/-- A plain map from names to flags. -/
abbrev FlagMap := String → Option Bool

namespace FlagMap

/-- The map after a call. Forgetting removes exactly the names of walkthroughs' flags. -/
def after (m : FlagMap) : Call → FlagMap
  | .isCompleted _ => m
  | .setCompleted key completed => fun k => if k = key then (if completed then some true else none) else m k
  | .forgetAll => fun k => if completionSuffix.toList <:+ k.toList then none else m k

/-- What the map answers to a call. -/
noncomputable def answer (m : FlagMap) : Call → Answer
  | .isCompleted key => .flag ((m key).getD false)
  | .setCompleted _ _ => .done
  | .forgetAll => .forgotten {k | (m k).isSome ∧ completionSuffix.toList <:+ k.toList}.ncard

/-- What the map answers to calls, one after the other. -/
noncomputable def answers (m : FlagMap) : List Call → List Answer
  | [] => []
  | c :: calls => m.answer c :: answers (m.after c) calls

end FlagMap

/-! ## One call of the flags -/

namespace Flags

/-- The flags after a call. -/
def after (f : Flags) : Call → Flags
  | .isCompleted _ => f
  | .setCompleted key completed => f.set key completed
  | .forgetAll => f.forget

/-- What the flags answer to a call. -/
def answerTo (f : Flags) : Call → Answer
  | .isCompleted key => .flag (f.value key)
  | .setCompleted _ _ => .done
  | .forgetAll => .forgotten (f.size - f.forget.size)

theorem Sorted.after {f : Flags} (h : f.Sorted) (c : Call) : (f.after c).Sorted := by
  cases c with
  | isCompleted key => exact h
  | setCompleted key completed => exact h.set key completed
  | forgetAll => exact h.forget

theorem toMap_after (f : Flags) (c : Call) : (f.after c).toMap = FlagMap.after f.toMap c := by
  funext k
  cases c with
  | isCompleted key => rfl
  | setCompleted key completed => exact toMap_set f key completed k
  | forgetAll =>
    refine (toMap_forget f k).trans ?_
    simp only [FlagMap.after, isWalkthrough_iff]

theorem answerTo_eq {f : Flags} (h : f.Sorted) (c : Call) : f.answerTo c = FlagMap.answer f.toMap c := by
  cases c with
  | isCompleted key => rfl
  | setCompleted key completed => rfl
  | forgetAll =>
    rw [answerTo, size_sub_forget h, FlagMap.answer]
    simp only [isWalkthrough_iff]

end Flags

/-! ## One call of a store -/

namespace Store

theorem serve_memory (f : Flags) (d : Disk) (c : Call) :
    (memory f).serve d c = ⟨.memory (f.after c), d, .ok (f.answerTo c)⟩ := by
  cases c <;> rfl

/-- Flags that were saved are read from the file. -/
theorem read_save {d d' : Disk} {path : Path} {f : Flags} (h : save d path f = (d', .ok ())) :
    d'.read path = .ok f.text := by
  -- the directory does not matter, only the file in it that is written last
  have hWrite : ∀ {d}, save.write path f d = (d', .ok ()) → d'.read path = .ok f.text := by
    intro d h
    rw [save.write] at h
    split at h
    · rename_i hWritten
      exact (Prod.mk.inj h).1 ▸ Disk.read_write hWritten
    · cases h
  rw [save] at h
  split at h
  · exact hWrite h
  split at h
  · exact hWrite h
  · cases h

theorem change_file {α : Type} {path : Path} {f : Flags} {d : Disk} {g : Flags → Flags} {answer : Flags → α} {a : α}
    (h : ((file path f).change d g answer).answer = .ok a) :
    a = answer f ∧ ((file path f).change d g answer).store = file path (g f) ∧
      ((file path f).change d g answer).disk.read path = .ok (g f).text := by
  cases hSave : save d path (g f) with
  | mk d' saved =>
    simp only [change, hSave] at h ⊢
    cases saved with
    | error e => cases h
    | ok _ =>
      cases h
      exact ⟨rfl, trivial, read_save hSave⟩

/-- A call of a store on a file that does not fail is answered from its flags; if it changes them, the file holds them
afterwards. -/
theorem serve_file {path : Path} {f : Flags} {d : Disk} {c : Call} {a : Answer}
    (h : ((file path f).serve d c).answer = .ok a) :
    a = f.answerTo c ∧ ((file path f).serve d c).store = file path (f.after c) ∧
      (c.writes = true → ((file path f).serve d c).disk.read path = .ok (f.after c).text) := by
  cases c with
  | isCompleted key =>
    cases h
    exact ⟨rfl, rfl, nofun⟩
  | setCompleted key completed =>
    cases hChange : ((file path f).setCompleted d key completed).answer with
    | error e => rw [serve, hChange] at h; cases h
    | ok _ =>
      rw [serve, hChange] at h
      cases h
      obtain ⟨-, hStore, hRead⟩ := change_file hChange
      exact ⟨rfl, hStore, fun _ => hRead⟩
  | forgetAll =>
    cases hChange : ((file path f).forgetAll d).answer with
    | error e => rw [serve, hChange] at h; cases h
    | ok n =>
      rw [serve, hChange] at h
      cases h
      obtain ⟨rfl, hStore, hRead⟩ := change_file hChange
      exact ⟨rfl, hStore, fun _ => hRead⟩

/-! ## Any number of calls -/

theorem serveAll_cons_iff {s : Store} {d : Disk} {c : Call} {calls : List Call} {answers : List Answer}
    {last : Store × Disk} :
    s.serveAll d (c :: calls) = .ok (answers, last) ↔ ∃ a rest, (s.serve d c).answer = .ok a ∧
      (s.serve d c).store.serveAll (s.serve d c).disk calls = .ok (rest, last) ∧ answers = a :: rest := by
  rw [serveAll]
  constructor
  · intro h
    cases hFirst : (s.serve d c).answer with
    | error e => simp only [hFirst] at h; cases h
    | ok a =>
      cases hRest : (s.serve d c).store.serveAll (s.serve d c).disk calls with
      | error e => simp only [hFirst, hRest, Except.bind, bind] at h; cases h
      | ok r =>
        simp only [hFirst, hRest, Except.bind, bind] at h
        cases h
        exact ⟨a, r.1, rfl, rfl, rfl⟩
  · rintro ⟨a, rest, hFirst, hRest, rfl⟩
    simp only [hFirst, hRest]
    rfl

/-- Calls in two parts: the second begins with what the first has left. -/
theorem serveAll_append_iff {s : Store} {d : Disk} {before calls : List Call} {answers : List Answer}
    {last : Store × Disk} :
    s.serveAll d (before ++ calls) = .ok (answers, last) ↔ ∃ first s' d' rest,
      s.serveAll d before = .ok (first, s', d') ∧ s'.serveAll d' calls = .ok (rest, last) ∧
        answers = first ++ rest := by
  induction before generalizing s d answers with
  | nil =>
    constructor
    · intro h
      exact ⟨[], s, d, answers, rfl, h, rfl⟩
    · rintro ⟨first, s', d', rest, hBefore, hRest, rfl⟩
      cases hBefore
      exact hRest
  | cons c before ih =>
    rw [List.cons_append]
    constructor
    · intro h
      obtain ⟨a, more, hFirst, hMore, rfl⟩ := serveAll_cons_iff.mp h
      obtain ⟨first, s', d', rest, hBefore, hRest, rfl⟩ := ih.mp hMore
      exact ⟨a :: first, s', d', rest, serveAll_cons_iff.mpr ⟨a, first, hFirst, hBefore, rfl⟩, hRest, rfl⟩
    · rintro ⟨first, s', d', rest, hBefore, hRest, rfl⟩
      obtain ⟨a, more, hFirst, hMore, rfl⟩ := serveAll_cons_iff.mp hBefore
      exact serveAll_cons_iff.mpr ⟨a, more ++ rest, hFirst, ih.mpr ⟨more, s', d', rest, hMore, hRest, rfl⟩, rfl⟩

/-- A store in memory never fails, and answers as the map. -/
theorem serveAll_memory {f : Flags} (h : f.Sorted) (d : Disk) (calls : List Call) :
    (memory f).serveAll d calls = .ok (FlagMap.answers f.toMap calls, memory (calls.foldl Flags.after f), d) := by
  -- on the calls, along the flags that they leave
  induction calls generalizing f with
  | nil => rfl
  | cons c calls ih =>
    refine serveAll_cons_iff.mpr ⟨f.answerTo c, FlagMap.answers (f.after c).toMap calls, ?_, ?_, ?_⟩
    · rw [serve_memory]
    · rw [serve_memory]
      exact ih (h.after c)
    · rw [FlagMap.answers, Flags.answerTo_eq h, Flags.toMap_after]

/-- A store on a file answers as the map, as long as it does not fail. -/
theorem serveAll_file {path : Path} {f : Flags} (h : f.Sorted) {d : Disk} {calls : List Call} {answers : List Answer}
    {s' : Store} {d' : Disk} (hServed : (file path f).serveAll d calls = .ok (answers, s', d')) :
    answers = FlagMap.answers f.toMap calls ∧ s' = file path (calls.foldl Flags.after f) := by
  induction calls generalizing f d answers with
  | nil =>
    cases hServed
    exact ⟨rfl, rfl⟩
  | cons c calls ih =>
    obtain ⟨a, rest, hFirst, hRest, rfl⟩ := serveAll_cons_iff.mp hServed
    obtain ⟨hAnswer, hStore, -⟩ := serve_file hFirst
    rw [hStore] at hRest
    obtain ⟨hAnswers, hLast⟩ := ih (h.after c) hRest
    refine ⟨?_, hLast⟩
    rw [FlagMap.answers, hAnswer, hAnswers, Flags.answerTo_eq h, Flags.toMap_after]

end Store

/-! ## Walkthroughs' flags -/

theorem completionKey_injective {a b : String} (h : completionKey a = completionKey b) : a = b := by
  have hList := congrArg String.toList h
  simp only [completionKey, String.toList_append] at hList
  exact String.toList_inj.mp (List.append_cancel_right hList)

theorem isWalkthrough_completionKey (identity : String) : Flags.isWalkthrough (completionKey identity) = true := by
  rw [Flags.isWalkthrough_iff, completionKey, String.toList_append]
  exact List.suffix_append _ _

/-! ## Opening a file -/

/-- The flags of a file: those that its text holds, and none if it has no such text or if there is no file. -/
def Flags.ofRead : Except IoError String → Flags
  | .ok s => (ofText? s).getD .empty
  | .error _ => .empty

theorem Flags.ofRead_sorted (r : Except IoError String) : (ofRead r).Sorted := by
  cases r with
  | error e => exact List.Pairwise.nil
  | ok s =>
    cases hText : ofText? s with
    | none =>
      rw [ofRead, hText]
      exact List.Pairwise.nil
    | some f =>
      rw [ofRead, hText]
      exact ofText?_sorted hText

/-- A file that holds the text of sorted flags has these flags. -/
theorem Flags.ofRead_text {f : Flags} (h : f.Sorted) : ofRead (.ok f.text) = f := by
  rw [ofRead, ofText?_text h]
  rfl

namespace Store

/-- The file of a store that is opened for a path, or for none. -/
def fileFor (env : Environment) (p : Option Path) : Path := p.elim (completionPath env) (expandTildePath env)

theorem openFor_eq (env : Environment) (d : Disk) (p : Option Path) : openFor env d p = openAt d (fileFor env p) := by
  cases p <;> rfl

/-- A store opened anew on the file answers as the live one. -/
def Reopens (env : Environment) (p : Option Path) (live : Store) (d : Disk) : Prop :=
  ∃ reopened warnings, openFor env d p = .ok (reopened, warnings) ∧
    ∀ key, reopened.isCompleted key = live.isCompleted key

/-- Only a file that is there and cannot be read is not opened: a text that holds no flags counts as one without. -/
theorem openAt_ok {d : Disk} {path : Path} (hReadable : ∀ e, d.read path = .error e → e = .notFound) :
    ∃ warnings, openAt d path = .ok (file path (.ofRead (d.read path)), warnings) := by
  cases hRead : d.read path with
  | ok text =>
    cases hText : Flags.ofText? text with
    | none =>
      refine ⟨[.corruptFlags], ?_⟩
      simp only [openAt, load, hRead, hText, bind, Except.bind, Flags.ofRead, Option.getD_none]
      rfl
    | some f =>
      refine ⟨[], ?_⟩
      simp only [openAt, load, hRead, hText, bind, Except.bind, Flags.ofRead, Option.getD_some]
      rfl
  | error e =>
    obtain rfl := hReadable e hRead
    refine ⟨[], ?_⟩
    simp only [openAt, load, hRead, bind, Except.bind]
    rfl

/-- A file that holds the text of sorted flags is opened with them. -/
theorem openAt_text {d : Disk} {path : Path} {f : Flags} (h : f.Sorted) (hRead : d.read path = .ok f.text) :
    openAt d path = .ok (file path f, []) := by
  simp only [openAt, load, hRead, Flags.ofText?_text h]
  rfl

/-- A store is opened on every file that can be read or is not there yet. As long as none of its calls fails, its
answers are those of a plain map from names to flags, and those of a store in memory that began with the same flags.
After every call that writes, a store opened anew on the file answers as the live one; once all walkthroughs are
forgotten none of them is completed, and setting the flag of one changes nothing for the others. -/
theorem openFor_refines {env : Environment} {d : Disk} {p : Option Path}
    (hReadable : ∀ e, d.read (fileFor env p) = .error e → e = .notFound) :
    ∃ s warnings, openFor env d p = .ok (s, warnings) ∧ s.path? = some (fileFor env p) ∧
      ∀ calls answers last, s.serveAll d calls = .ok (answers, last) →
        answers = FlagMap.answers (Flags.ofRead (d.read (fileFor env p))).toMap calls ∧
        (∃ kept, (memory (.ofRead (d.read (fileFor env p)))).serveAll d calls = .ok (answers, kept)) ∧
        ∀ before c after, calls = before ++ c :: after → ∃ first earlier d₁ next live d₂,
          s.serveAll d before = .ok (first, earlier, d₁) ∧ s.serveAll d (before ++ [c]) = .ok (next, live, d₂) ∧
          (c.writes = true → live.Reopens env p d₂) ∧
          (c = .forgetAll → ∀ identity, live.isCompleted (completionKey identity) = .ok false) ∧
          ∀ identity completed other, c = .setCompleted (completionKey identity) completed → other ≠ identity →
            live.isCompleted (completionKey other) = earlier.isCompleted (completionKey other) := by
  obtain ⟨warnings, hOpen⟩ := openAt_ok hReadable
  refine ⟨_, warnings, (openFor_eq env d p).trans hOpen, rfl, ?_⟩
  intro calls answers last hServed
  have hSorted := Flags.ofRead_sorted (d.read (fileFor env p))
  set path := fileFor env p with hPath
  set flags := Flags.ofRead (d.read path)
  obtain ⟨hAnswers, -⟩ := serveAll_file hSorted hServed
  refine ⟨hAnswers, ⟨_, hAnswers ▸ serveAll_memory hSorted d calls⟩, ?_⟩
  -- any one call: before it, the store holds the flags that the calls before have left
  rintro before c after rfl
  obtain ⟨first, earlier, d₁, rest, hBefore, hRest, -⟩ := serveAll_append_iff.mp hServed
  obtain ⟨a, -, hAnswer, -, -⟩ := serveAll_cons_iff.mp hRest
  obtain ⟨-, rfl⟩ := serveAll_file hSorted hBefore
  set f := before.foldl Flags.after flags
  have hKept : f.Sorted := List.foldlRecOn before Flags.after hSorted fun g hg c _ => hg.after c
  obtain ⟨-, hStore, hRead⟩ := serve_file hAnswer
  have hNext : (file path f).serveAll d₁ [c] =
      .ok ([a], ((file path f).serve d₁ c).store, ((file path f).serve d₁ c).disk) :=
    serveAll_cons_iff.mpr ⟨a, [], hAnswer, rfl, rfl⟩
  refine ⟨first, file path f, d₁, first ++ [a], _, _, hBefore,
    serveAll_append_iff.mpr ⟨first, _, d₁, [a], hBefore, hNext, rfl⟩, ?_, ?_, ?_⟩
  · -- the file holds the text of the flags, from which they are read again
    intro hWrites
    refine ⟨file path (f.after c), [], ?_, fun key => by rw [hStore]⟩
    rw [openFor_eq, ← hPath]
    exact openAt_text (hKept.after c) (hRead hWrites)
  · -- the name of every walkthrough's flag has the ending of those that are removed
    rintro rfl identity
    rw [hStore]
    show Except.ok (f.forget.value (completionKey identity)) = .ok false
    rw [Flags.value_eq, Flags.toMap_forget, isWalkthrough_completionKey, if_pos rfl]
    rfl
  · -- walkthroughs with different identities have flags under different names
    rintro identity completed other rfl hOther
    have hKey : completionKey other ≠ completionKey identity := fun h => hOther (completionKey_injective h)
    rw [hStore]
    show Except.ok ((f.set (completionKey identity) completed).value (completionKey other)) =
      .ok (f.value (completionKey other))
    rw [Flags.value_eq, Flags.toMap_set, if_neg hKey, Flags.value_eq]

/-- On a new disk the flag of a walkthrough is set, and read back. -/
theorem openFor_refines_fresh : ∃ s warnings answers last,
    openFor ⟨[], none⟩ .fresh (some "flags.json") = .ok (s, warnings) ∧
    s.serveAll .fresh [.setCompleted (completionKey "Demo") true, .isCompleted (completionKey "Demo")] =
      .ok (answers, last) ∧
    answers = FlagMap.answers (fun _ => none)
      [.setCompleted (completionKey "Demo") true, .isCompleted (completionKey "Demo")] := by
  have hLocate : Disk.fresh.locate "flags.json" = .ok ["work", "flags.json"] := by
    rw [Disk.locate, String.contains_char_eq]
    rfl
  have hAbsent : Disk.fresh.read (fileFor ⟨[], none⟩ (some "flags.json")) = .error .notFound := by
    have hFile : fileFor ⟨[], none⟩ (some "flags.json") = "flags.json" := rfl
    simp only [hFile, Disk.read, hLocate]
    rfl
  have hReadable : ∀ e, Disk.fresh.read (fileFor ⟨[], none⟩ (some "flags.json")) = .error e → e = .notFound := by
    intro e hError
    rw [hAbsent] at hError
    exact (Except.error.inj hError).symm
  -- the path has a file's name alone, so no directory is created for it
  have hSave : ∀ f, save .fresh "flags.json" f =
      (Disk.fresh.put ["work", "flags.json"] (.file (.text f.text)), .ok ()) := by
    intro f
    have hParent : Path.parent? "flags.json" = some "" := rfl
    have hDirectory : Disk.fresh.createDirectories "" = (.fresh, .ok ()) := rfl
    simp only [save, hParent, hDirectory, save.write, Disk.write, hLocate]
    rw [Disk.fill_unbounded rfl]
    rfl
  obtain ⟨s, warnings, hOpen, -, hAnswers⟩ := openFor_refines hReadable
  obtain rfl : s = file "flags.json" .empty := by
    obtain ⟨warnings', hFile⟩ := openAt_ok hReadable
    rw [openFor_eq, hFile, hAbsent] at hOpen
    cases hOpen
    rfl
  obtain ⟨r, hServed⟩ : ∃ r, (file "flags.json" .empty).serveAll .fresh
      [.setCompleted (completionKey "Demo") true, .isCompleted (completionKey "Demo")] = .ok r := by
    simp only [serveAll, serve, setCompleted, change, hSave]
    exact ⟨_, rfl⟩
  obtain ⟨hMap, -⟩ := hAnswers _ r.1 r.2 hServed
  rw [hAbsent] at hMap
  exact ⟨_, warnings, r.1, r.2, hOpen, hServed, hMap⟩

end Store

end GuidedTour.Completion
