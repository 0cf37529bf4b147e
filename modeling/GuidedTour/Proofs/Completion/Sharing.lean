import GuidedTour.Proofs.Completion.Failure
import Mathlib.Logic.Function.Basic

/-!
# Two programs on one file

Two programs that run at the same time may have a store each on one file. A store reads the file when it is opened and
never again, and writes all of its flags with every change; of the other store it knows nothing. So the file holds what
the store of the last call has: the flags that were set through this store, and for the rest what the file held when it
was opened. A flag that was set through the other store since then is lost with the call.

Main results:

* `Step.of_opens`, `Step.of_sets` - what a move does.
* `file_of_alone` - as long as one of the programs has no store, the file holds what was set last.
* `store_of_opened` - what a store has, whatever the other program does.
* `last_caller_wins` - what the file holds after the last call, and which flags are in it for sure.
-/

namespace GuidedTour.Completion.Sharing

open Storage

/-! ## Histories -/

/-- Two programs that run at the same time. -/
inductive Program where
  | first
  | second
  deriving DecidableEq

/-- There is no third. -/
theorem Program.eq_of_ne {p q who : Program} (hp : p ≠ who) (hq : q ≠ who) : p = q := by
  cases p <;> cases q <;> cases who <;> first | rfl | contradiction

/-- What a program does: it opens its store, or sets or clears a flag through it. -/
inductive Move where
  | opens (who : Program)
  | sets (who : Program) (key : String) (completed : Bool)

/-- Who sets a flag with a move, and to what. -/
def Move.setting? (key : String) : Move → Option (Program × Bool)
  | .opens _ => none
  | .sets who k completed => if key = k then some (who, completed) else none

/-- Who has set a flag, and to what, in the order of the moves. -/
def settings (key : String) (history : List Move) : List (Program × Bool) := history.filterMap (·.setting? key)

/-- The settings of a flag through the store of one program. -/
def settingsOf (who : Program) (key : String) (history : List Move) : List (Program × Bool) :=
  (settings key history).filter (·.1 = who)

/-- What a flag is after some settings. -/
def lastValue (start : Bool) (settings : List (Program × Bool)) : Bool := settings.getLast?.elim start (·.2)

section

variable {key k : String} {history : List Move} {who other : Program} {completed start : Bool}

theorem settings_append (key : String) (early late : List Move) :
    settings key (early ++ late) = settings key early ++ settings key late := List.filterMap_append

theorem settingsOf_append (who : Program) (key : String) (early late : List Move) :
    settingsOf who key (early ++ late) = settingsOf who key early ++ settingsOf who key late := by
  rw [settingsOf, settings_append, List.filter_append]
  rfl

theorem settings_opens (key : String) (history : List Move) (who : Program) :
    settings key (history ++ [.opens who]) = settings key history := by
  rw [settings_append]
  exact List.append_nil _

theorem settingsOf_opens (who : Program) (key : String) (history : List Move) (other : Program) :
    settingsOf who key (history ++ [.opens other]) = settingsOf who key history := by
  rw [settingsOf, settings_opens]
  rfl

theorem lastValue_snoc (start : Bool) (settings : List (Program × Bool)) (e : Program × Bool) :
    lastValue start (settings ++ [e]) = e.2 := by
  rw [lastValue, List.getLast?_concat]
  rfl

/-- A call sets its flag, and no other. -/
theorem lastValue_sets (start : Bool) (key : String) (history : List Move) (who : Program) (k : String)
    (completed : Bool) : lastValue start (settings key (history ++ [.sets who k completed])) =
      if key = k then completed else lastValue start (settings key history) := by
  rw [settings_append]
  by_cases h : key = k
  · rw [if_pos h]
    simp [settings, Move.setting?, h, lastValue]
  · rw [if_neg h]
    simp [settings, Move.setting?, h]

/-- It counts for the store that it is made through only. -/
theorem lastValue_sets_of (start : Bool) (key : String) (history : List Move) (who other : Program) (k : String)
    (completed : Bool) : lastValue start (settingsOf who key (history ++ [.sets other k completed])) =
      if other = who ∧ key = k then completed else lastValue start (settingsOf who key history) := by
  rw [settingsOf_append]
  by_cases h : other = who ∧ key = k
  · rw [if_pos h]
    simp [settingsOf, settings, Move.setting?, h.1, h.2, lastValue]
  · rw [if_neg h]
    by_cases hKey : key = k
    · have hOther : other ≠ who := fun hWho => h ⟨hWho, hKey⟩
      simp [settingsOf, settings, Move.setting?, hKey, hOther]
    · simp [settingsOf, settings, Move.setting?, hKey]

/-- Of the settings since some time only those of one program are known. The last of all counts still, if it is one of
these or was made before that time. -/
theorem lastValue_kept {before since : List (Program × Bool)}
    (hLast : (before ++ since).getLast? = some (other, completed)) (hKept : other = who ∨ since = []) (start : Bool) :
    lastValue (lastValue start before) (since.filter (·.1 = who)) = completed := by
  rcases List.eq_nil_or_concat since with rfl | ⟨earlier, e, rfl⟩
  · rw [List.append_nil] at hLast
    show lastValue start before = completed
    rw [lastValue, hLast]
    rfl
  · rw [List.concat_eq_append, ← List.append_assoc, List.getLast?_concat, Option.some.injEq] at hLast
    subst hLast
    obtain rfl : other = who := hKept.resolve_right (by simp)
    rw [List.concat_eq_append, List.filter_append, List.filter_cons_of_pos (by simp), List.filter_nil, lastValue_snoc]

end

/-! ## Moves -/

/-- The disk, and the stores that the programs have opened. -/
structure Shared where
  disk  : Disk
  store : Program → Option Store

/-- No program has a store yet. -/
def Shared.start (d : Disk) : Shared := ⟨d, fun _ => none⟩

/-- A program has got a store. -/
def Shared.hold (w : Shared) (who : Program) (s : Store) : Shared :=
  { w with store := Function.update w.store who (some s) }

section

variable {w : Shared} {who other : Program} {s s' : Store}

@[simp] theorem disk_hold : (w.hold who s).disk = w.disk := rfl

@[simp] theorem store_hold_self : (w.hold who s).store who = some s := Function.update_self ..

@[simp] theorem store_hold_of_ne (h : other ≠ who) : (w.hold who s).store other = w.store other :=
  Function.update_of_ne h ..

theorem store_hold_eq_some (h : (w.hold who s).store other = some s') :
    other = who ∧ s' = s ∨ other ≠ who ∧ w.store other = some s' := by
  by_cases hWho : other = who
  · subst hWho
    rw [store_hold_self] at h
    exact .inl ⟨rfl, (Option.some.inj h).symm⟩
  · exact .inr ⟨hWho, (store_hold_of_ne hWho).symm.trans h⟩

theorem store_hold_eq_none (h : (w.hold who s).store other = none) : other ≠ who ∧ w.store other = none := by
  have hWho : other ≠ who := by
    rintro rfl
    rw [store_hold_self] at h
    cases h
  exact ⟨hWho, (store_hold_of_ne hWho).symm.trans h⟩

end

/-- A move that succeeds. Each program opens its store once, on the file at the path. -/
inductive Step (path : Path) : Shared → Move → Shared → Prop where
  | opens {w : Shared} {who : Program} {s : Store} {warnings : List Warning} (hNone : w.store who = none)
      (hOpened : Store.openAt w.disk path = .ok (s, warnings)) : Step path w (.opens who) (w.hold who s)
  | sets {w : Shared} {who : Program} {key : String} {completed : Bool} {s s' : Store} {d : Disk}
      (hStore : w.store who = some s) (hSet : s.setCompleted w.disk key completed = ⟨s', d, .ok ()⟩) :
      Step path w (.sets who key completed) ({ w with disk := d }.hold who s')

/-- Moves one after the other, all of which succeed, beginning with a disk and no store. -/
inductive Run (path : Path) (d : Disk) : List Move → Shared → Prop where
  | nil : Run path d [] (.start d)
  | snoc {history : List Move} {w w' : Shared} {m : Move} (hBefore : Run path d history w) (hStep : Step path w m w') :
      Run path d (history ++ [m]) w'

variable {path : Path} {d : Disk} {w w' : Shared} {who : Program} {key : String} {completed : Bool}
  {early late history : List Move} {m : Move}

/-- A store is opened with the flags of the file. -/
theorem Step.of_opens (h : Step path w (.opens who) w') :
    w.store who = none ∧ w' = w.hold who (.file path (.ofRead (w.disk.read path))) := by
  cases h with
  | opens hNone hOpened => exact ⟨hNone, by rw [Store.openAt_file hOpened]⟩

/-- A call is made through a store. -/
theorem Step.caller (h : Step path w (.sets who key completed) w') : ∃ s, w.store who = some s := by
  cases h with
  | sets hStore _ => exact ⟨_, hStore⟩

/-- A call writes all the flags of its store to the file. -/
theorem Step.of_sets {f : Flags} (hStore : w.store who = some (.file path f))
    (h : Step path w (.sets who key completed) w') : ∃ d, d.read path = .ok (f.set key completed).text ∧
      w' = { w with disk := d }.hold who (.file path (f.set key completed)) := by
  cases h with
  | @sets _ _ _ _ s' d hStore' hSet =>
    obtain rfl := Option.some.inj (hStore.symm.trans hStore')
    change (Store.file path f).change w.disk (·.set key completed) (fun _ => ()) = _ at hSet
    obtain ⟨-, hAfter, hRead⟩ := Store.change_file (congrArg Stored.answer hSet)
    rw [hSet] at hAfter hRead
    obtain rfl : s' = .file path (f.set key completed) := hAfter
    exact ⟨d, hRead, rfl⟩

theorem run_snoc (h : Run path d (history ++ [m]) w') : ∃ w, Run path d history w ∧ Step path w m w' := by
  generalize hWhole : history ++ [m] = whole at h
  cases h with
  | nil => simp at hWhole
  | snoc hBefore hStep =>
    obtain ⟨rfl, hLast⟩ := List.append_inj' hWhole rfl
    obtain rfl := List.singleton_inj.mp hLast
    exact ⟨_, hBefore, hStep⟩

/-! ## What the stores have -/

/-- The stores are on the file, and have their flags in order. -/
theorem Run.sorted (h : Run path d history w) {p : Program} {s : Store} (hStore : w.store p = some s) :
    ∃ f, s = .file path f ∧ f.Sorted := by
  induction h generalizing p s with
  | nil => cases hStore
  | @snoc history w w' m hBefore hStep ih =>
    cases m with
    | opens who =>
      obtain ⟨-, rfl⟩ := hStep.of_opens
      rcases store_hold_eq_some hStore with ⟨-, rfl⟩ | ⟨-, hEarlier⟩
      · exact ⟨_, rfl, Flags.ofRead_sorted _⟩
      · exact ih hEarlier
    | sets who key completed =>
      obtain ⟨s₀, hCaller⟩ := hStep.caller
      obtain ⟨f, rfl, hSorted⟩ := ih hCaller
      obtain ⟨d', -, rfl⟩ := hStep.of_sets hCaller
      rcases store_hold_eq_some hStore with ⟨-, rfl⟩ | ⟨-, hEarlier⟩
      · exact ⟨_, rfl, hSorted.set key completed⟩
      · exact ih hEarlier

/-- After a call the file holds the flags of its store. -/
theorem Run.step_sets (h : Run path d history w) (hStep : Step path w (.sets who key completed) w') :
    ∃ f d', w.store who = some (.file path f) ∧ (f.set key completed).Sorted ∧
      d'.read path = .ok (f.set key completed).text ∧
      w' = { w with disk := d' }.hold who (.file path (f.set key completed)) := by
  obtain ⟨s, hCaller⟩ := hStep.caller
  obtain ⟨f, rfl, hSorted⟩ := h.sorted hCaller
  obtain ⟨d', hRead, hAfter⟩ := hStep.of_sets hCaller
  exact ⟨f, d', hCaller, hSorted.set key completed, hRead, hAfter⟩

/-- As long as one of the programs has no store, a flag is what it was set to last, both in the file and in the store of
the other program. -/
theorem file_of_alone (h : Run path d history w) (hNone : w.store who = none) (k : String) :
    (Flags.ofRead (w.disk.read path)).value k =
        lastValue ((Flags.ofRead (d.read path)).value k) (settings k history) ∧
      ∀ p f, w.store p = some (.file path f) →
        f.value k = lastValue ((Flags.ofRead (d.read path)).value k) (settings k history) := by
  induction h with
  | nil => exact ⟨rfl, nofun⟩
  | @snoc history w w' m hBefore hStep ih =>
    cases m with
    | opens p =>
      obtain ⟨-, rfl⟩ := hStep.of_opens
      obtain ⟨-, hNone⟩ := store_hold_eq_none hNone
      obtain ⟨hFile, hStores⟩ := ih hNone
      -- the new store has the flags of the file, which stays as it is
      rw [settings_opens]
      refine ⟨hFile, fun q f hStore => ?_⟩
      rcases store_hold_eq_some hStore with ⟨-, hOpened⟩ | ⟨-, hEarlier⟩
      · rw [(Store.file.inj hOpened).2]
        exact hFile
      · exact hStores q f hEarlier
    | sets p key completed =>
      obtain ⟨f, d', hCaller, hSorted, hRead, rfl⟩ := hBefore.step_sets hStep
      obtain ⟨hOther, hNone⟩ := store_hold_eq_none hNone
      obtain ⟨-, hStores⟩ := ih hNone
      -- the same flags are in the store and in the file from now on
      have hFlags : (f.set key completed).value k = lastValue ((Flags.ofRead (d.read path)).value k)
          (settings k (history ++ [.sets p key completed])) := by
        rw [Flags.value_set, lastValue_sets, hStores p f hCaller]
      refine ⟨?_, fun q g hStore => ?_⟩
      · rw [disk_hold, hRead, Flags.ofRead_text hSorted]
        exact hFlags
      · rcases store_hold_eq_some hStore with ⟨-, hCalled⟩ | ⟨hWho, hEarlier⟩
        · rw [(Store.file.inj hCalled).2]
          exact hFlags
        · -- there are two programs, and one of them has no store
          obtain rfl : q = who := Program.eq_of_ne hWho hOther
          cases hNone.symm.trans hEarlier

/-- A flag of a store is what it was set to last through the store, or what it was in the file when the store was
opened. The other program does not count for it from then on. -/
theorem store_of_opened (h : Run path d (early ++ .opens who :: late) w) : ∃ f, w.store who = some (.file path f) ∧
    ∀ k, f.value k = lastValue (lastValue ((Flags.ofRead (d.read path)).value k) (settings k early))
      (settingsOf who k late) := by
  -- on the moves since the store was opened, the last of them first
  induction late using List.reverseRecOn generalizing w with
  | nil =>
    obtain ⟨w₁, hBefore, hStep⟩ := run_snoc h
    obtain ⟨hNone, rfl⟩ := hStep.of_opens
    exact ⟨_, store_hold_self, fun k => (file_of_alone hBefore hNone k).1⟩
  | append_singleton late m ih =>
    rw [← List.cons_append, ← List.append_assoc] at h
    obtain ⟨w₁, hBefore, hStep⟩ := run_snoc h
    obtain ⟨f, hStore, hFlags⟩ := ih hBefore
    cases m with
    | opens p =>
      obtain ⟨hNone, rfl⟩ := hStep.of_opens
      -- no program opens a second store, so this one is opened by the other program
      have hOther : who ≠ p := by
        rintro rfl
        cases hNone.symm.trans hStore
      refine ⟨f, (store_hold_of_ne hOther).trans hStore, fun k => ?_⟩
      rw [hFlags, settingsOf_opens]
    | sets p key completed =>
      obtain ⟨g, d', hCaller, -, -, rfl⟩ := hBefore.step_sets hStep
      by_cases hWho : p = who
      · subst hWho
        obtain rfl : f = g := (Store.file.inj (Option.some.inj (hStore.symm.trans hCaller))).2
        refine ⟨_, store_hold_self, fun k => ?_⟩
        rw [Flags.value_set, lastValue_sets_of, hFlags, if_congr (and_iff_right rfl) rfl rfl]
      · refine ⟨f, (store_hold_of_ne (Ne.symm hWho)).trans hStore, fun k => ?_⟩
        rw [hFlags, lastValue_sets_of, if_neg fun h => hWho h.1]

/-- A program that has a store has opened it. -/
theorem Run.opened (h : Run path d history w) {s : Store} (hStore : w.store who = some s) :
    ∃ early late, history = early ++ .opens who :: late := by
  induction h generalizing s with
  | nil => cases hStore
  | @snoc history w w' m hBefore hStep ih =>
    -- a store that was there before this move
    have hKept : ∀ s, w.store who = some s → ∃ early late, history ++ [m] = early ++ .opens who :: late := by
      intro s hEarlier
      obtain ⟨early, late, rfl⟩ := ih hEarlier
      exact ⟨early, late ++ [m], by rw [List.append_assoc, List.cons_append]⟩
    cases hStep with
    | opens hNone hOpened =>
      rcases store_hold_eq_some hStore with ⟨rfl, -⟩ | ⟨-, hEarlier⟩
      · exact ⟨history, [], rfl⟩
      · exact hKept s hEarlier
    | sets hCaller hSet =>
      rcases store_hold_eq_some hStore with ⟨rfl, -⟩ | ⟨-, hEarlier⟩
      · exact hKept _ hCaller
      · exact hKept s hEarlier

/-! ## The last call -/

/-- What is to be said of the file and its flags after moves of which the last is a call: `early` were made before the
store of this call was opened, and `late` since then. -/
structure Outcome (path : Path) (d : Disk) (early : List Move) (who : Program) (late : List Move) (w : Shared)
    (f : Flags) : Prop where
  /-- The file holds the flags, and a store that is opened on it has them. -/
  file : ∃ text, w.disk.read path = .ok text ∧ Flags.ofText? text = some f
  reopened : ∃ s, Store.openAt w.disk path = .ok (s, []) ∧ ∀ k, s.isCompleted k = .ok (f.value k)
  /-- A flag is what was set through the store of the last call, or else what was in the file when it was opened. -/
  value (k : String) : f.value k =
    lastValue (lastValue ((Flags.ofRead (d.read path)).value k) (settings k early)) (settingsOf who k late)
  /-- So it is still set if it was set last through this store, or before this store was opened. -/
  completed (k : String) (p : Program) :
    (settings k (early ++ .opens who :: late)).getLast? = some (p, true) → p = who ∨ settings k late = [] →
      f.value k = true

/-- After the last call the file holds the flags of the store that it was made through, whatever the two programs did
before. The flags that were set last through this store, or before this store was opened, are all there. -/
theorem last_caller_wins (h : Run path d (history ++ [.sets who key completed]) w) : ∃ early late f,
    history = early ++ .opens who :: late ∧ Outcome path d early who (late ++ [.sets who key completed]) w f := by
  obtain ⟨w₁, hBefore, hStep⟩ := run_snoc h
  obtain ⟨f, d', hCaller, hSorted, hRead, rfl⟩ := hBefore.step_sets hStep
  -- the call is one of the moves since its store was opened
  obtain ⟨early, late, rfl⟩ := hBefore.opened hCaller
  rw [List.append_assoc, List.cons_append] at h
  obtain ⟨g, hStore, hFlags⟩ := store_of_opened h
  obtain rfl : f.set key completed = g :=
    (Store.file.inj (Option.some.inj (store_hold_self.symm.trans hStore))).2
  refine ⟨early, late, f.set key completed, rfl, ⟨_, hRead, Flags.ofText?_text hSorted⟩,
    ⟨_, Store.openAt_text hSorted hRead, fun k => rfl⟩, hFlags, fun k p hLast hKept => ?_⟩
  rw [hFlags]
  exact lastValue_kept ((congrArg List.getLast? (settings_append k early _)).symm.trans hLast) hKept _

/-! Stores on `flags.json` in the working directory, which is not there at first. -/

open Store (holding locate_flags)

theorem set_flags (f : Flags) (key : String) (completed : Bool) {d : Disk} (hDisk : d = .fresh ∨ ∃ c, d = holding c) :
    (Store.file "flags.json" f).setCompleted d key completed =
      ⟨.file "flags.json" (f.set key completed), holding (.text (f.set key completed).text), .ok ()⟩ := by
  have hSave : Store.save d "flags.json" (f.set key completed) =
      (holding (.text (f.set key completed).text), .ok ()) := by
    rcases hDisk with rfl | ⟨c, rfl⟩
    · exact Store.save_flags_fresh _
    · have hFile : (holding c).get? ["work", "flags.json"] = some (.file c) := rfl
      exact (Store.save_flags_unbounded rfl (by simp [hFile]) rfl _).trans rfl
  rw [Store.setCompleted, Store.change, hSave]
  rfl

theorem open_fresh : Store.openAt .fresh "flags.json" = .ok (.file "flags.json" .empty, []) :=
  (Store.openFor_eq Store.bare .fresh (some "flags.json")).symm.trans Store.openFor_flags

theorem open_holding {f : Flags} (h : f.Sorted) :
    Store.openAt (holding (.text f.text)) "flags.json" = .ok (.file "flags.json" f, []) :=
  Store.openAt_text h (Store.read_save (Store.save_flags_fresh f))

/-- A flag that was set before the second program opened its store is kept with the one that the second program sets. -/
theorem last_caller_wins_later : ∃ w,
    Run "flags.json" .fresh ([.opens .first, .sets .first "a" true, .opens .second] ++ [.sets .second "b" true]) w ∧
      ∃ s, Store.openAt w.disk "flags.json" = .ok (s, []) ∧ s.isCompleted "a" = .ok true ∧
        s.isCompleted "b" = .ok true := by
  have hOne : (Flags.empty.set "a" true).Sorted := Flags.Sorted.set List.Pairwise.nil "a" true
  have hRun := (Run.nil : Run "flags.json" .fresh [] (.start .fresh))
    |>.snoc (m := .opens .first) (.opens rfl open_fresh)
    |>.snoc (m := .sets .first "a" true) (.sets rfl (set_flags .empty "a" true (.inl rfl)))
    |>.snoc (m := .opens .second) (.opens rfl (open_holding hOne))
    |>.snoc (m := .sets .second "b" true) (.sets rfl (set_flags (Flags.empty.set "a" true) "b" true (.inr ⟨_, rfl⟩)))
  obtain ⟨early, late, f, hHistory, hOutcome⟩ := last_caller_wins hRun
  -- the second program opens its store with the third move
  have hLate : early = [.opens .first, .sets .first "a" true] ∧ late = [] := by
    rcases early with _ | ⟨m₁, _ | ⟨m₂, _ | ⟨m₃, early⟩⟩⟩ <;> simp_all
  obtain ⟨rfl, rfl⟩ := hLate
  obtain ⟨s, hOpened, hFlags⟩ := hOutcome.reopened
  refine ⟨_, hRun, s, hOpened, ?_, ?_⟩
  · rw [hFlags, hOutcome.completed "a" .first rfl (.inr rfl)]
  · rw [hFlags, hOutcome.completed "b" .second rfl (.inl rfl)]

/-- A flag that the first program sets when both have their stores is lost with the next call of the second. -/
theorem other_flag_lost : ∃ w,
    Run "flags.json" .fresh [.opens .first, .opens .second, .sets .first "a" true, .sets .second "b" true] w ∧
      (settings "a" [.opens .first, .opens .second, .sets .first "a" true, .sets .second "b" true]).getLast? =
        some (.first, true) ∧
      ∃ s, Store.openAt w.disk "flags.json" = .ok (s, []) ∧ s.isCompleted "a" = .ok false := by
  have hRun := (Run.nil : Run "flags.json" .fresh [] (.start .fresh))
    |>.snoc (m := .opens .first) (.opens rfl open_fresh)
    |>.snoc (m := .opens .second) (.opens rfl open_fresh)
    |>.snoc (m := .sets .first "a" true) (.sets rfl (set_flags .empty "a" true (.inl rfl)))
    |>.snoc (m := .sets .second "b" true) (.sets rfl (set_flags .empty "b" true (.inr ⟨_, rfl⟩)))
  have hSorted : (Flags.empty.set "b" true).Sorted := Flags.Sorted.set List.Pairwise.nil "b" true
  exact ⟨_, hRun, rfl, _, open_holding hSorted, by decide⟩

end GuidedTour.Completion.Sharing
