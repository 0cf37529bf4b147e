import GuidedTour.Storage.Path
import Mathlib.Data.List.TakeWhile

/-!
# The components of a path below another one

A path that does not start at the root is taken for one below another path by putting a slash between the two, unless
there is one already. Empty names and points between slashes do not count, so the components of the whole are those of
the two parts, one behind the other; only a point that the lower path begins with is no component any more. A path that
starts at the root is not put below anything, but stands for itself.

Main results:

* `splitChars_append` - the pieces on both sides of a separator.
* `trail_join` - the names of a path below another one.
* `components_join` - its components, if the upper path starts at the root.
* `head?_components_eq_some` - the first component of a path.
-/

namespace GuidedTour

/-! ## Pieces -/

namespace Text

variable {sep : Char}

theorem splitChars_ne_nil (sep : Char) (cs : List Char) : splitChars sep cs ≠ [] := by
  induction cs with
  | nil => exact List.cons_ne_nil _ _
  | cons c rest ih =>
    rw [splitChars]
    split
    · exact List.cons_ne_nil _ _
    · split <;> exact List.cons_ne_nil _ _

theorem splitChars_cons_self (cs : List Char) : splitChars sep (sep :: cs) = [] :: splitChars sep cs := by
  rw [splitChars, if_pos rfl]

/-- A character that separates nothing belongs to the first piece. -/
theorem splitChars_cons_of_ne {c : Char} (h : c ≠ sep) (cs : List Char) :
    splitChars sep (c :: cs) = (splitChars sep cs).modifyHead (c :: ·) := by
  rw [splitChars, if_neg h]
  obtain ⟨piece, more, hPieces⟩ := List.exists_cons_of_ne_nil (splitChars_ne_nil sep cs)
  rw [hPieces]
  rfl

/-- What stands before a separator and what stands behind it are cut into pieces each on its own. -/
theorem splitChars_append (before behind : List Char) :
    splitChars sep (before ++ sep :: behind) = splitChars sep before ++ splitChars sep behind := by
  induction before with
  | nil => exact splitChars_cons_self behind
  | cons c before ih =>
    rw [List.cons_append]
    by_cases h : c = sep
    · rw [h, splitChars_cons_self, splitChars_cons_self, ih, List.cons_append]
    · rw [splitChars_cons_of_ne h, splitChars_cons_of_ne h, ih]
      obtain ⟨piece, more, hPieces⟩ := List.exists_cons_of_ne_nil (splitChars_ne_nil sep before)
      rw [hPieces]
      rfl

/-- The first piece goes up to the first separator. -/
theorem head?_splitChars (cs : List Char) : (splitChars sep cs).head? = some (cs.takeWhile (· ≠ sep)) := by
  induction cs with
  | nil => rfl
  | cons c rest ih =>
    by_cases h : c = sep
    · rw [h, splitChars_cons_self, List.takeWhile_cons_of_neg (by simp)]
      rfl
    · rw [splitChars_cons_of_ne h, List.head?_modifyHead, ih, List.takeWhile_cons_of_pos (by simpa using h)]
      rfl

end Text

namespace Storage.Path

open Text

/-- The names that a path goes through: its components without the root and without points. -/
def trail (p : Path) : List String := p.components.filter fun n => n ≠ "" && n ≠ "."

variable {p q : Path}

theorem pieces_append (p q : Path) : pieces (p ++ "/" ++ q) = pieces p ++ pieces q := by
  have hChars : (p ++ "/" ++ q).toList = p.toList ++ '/' :: q.toList := by
    rw [String.toList_append, String.toList_append, List.append_assoc]
    rfl
  rw [pieces, hChars, splitChars_append, List.map_append]
  rfl

/-! ## Components -/

/-- The pieces of a path, the first of them empty just if the path starts at the root or is empty itself. -/
theorem pieces_cases (p : Path) : (∃ rest, p.isAbsolute = true ∧ pieces p = "" :: rest) ∨
    (p = "" ∧ pieces p = [""]) ∨ ∃ first rest, p.isAbsolute = false ∧ first ≠ "" ∧ pieces p = first :: rest := by
  cases hChars : p.toList with
  | nil =>
    refine .inr (.inl ⟨String.toList_inj.mp hChars, ?_⟩)
    rw [pieces, hChars]
    rfl
  | cons c cs =>
    by_cases h : c = '/'
    · refine .inl ⟨(splitChars '/' cs).map String.ofList, ?_, ?_⟩
      · rw [isAbsolute, hChars, h]
        rfl
      · rw [pieces, hChars, h, splitChars_cons_self]
        rfl
    · obtain ⟨piece, more, hPieces⟩ := List.exists_cons_of_ne_nil (splitChars_ne_nil '/' cs)
      refine .inr (.inr ⟨String.ofList (c :: piece), more.map String.ofList, ?_, ?_, ?_⟩)
      · rw [isAbsolute, hChars]
        simpa using h
      · intro hEmpty
        have hList := congrArg String.toList hEmpty
        rw [String.toList_ofList] at hList
        cases hList
      · rw [pieces, hChars, splitChars_cons_of_ne h, hPieces]
        rfl

theorem trail_eq_pieces (p : Path) : trail p = (pieces p).filter fun n => n ≠ "" && n ≠ "." := by
  unfold trail components
  rcases pieces_cases p with ⟨rest, hRoot, hPieces⟩ | ⟨hNone, hPieces⟩ | ⟨first, rest, -, hFirst, hPieces⟩
  · simp [hPieces, hRoot]
  · subst hNone
    simp [hPieces]
  · rw [hPieces]
    split
    · next hCons => exact absurd (List.cons.inj hCons).1 hFirst
    · next hCons =>
      obtain ⟨rfl, rfl⟩ := List.cons.inj hCons
      simp [List.filter_cons]
    · next hNil => cases hNil

/-- A path from the root has the root as its first component, and names only behind it. -/
theorem components_of_absolute (h : p.isAbsolute = true) : p.components = "" :: p.trail := by
  rw [trail_eq_pieces]
  unfold components
  rcases pieces_cases p with ⟨rest, -, hPieces⟩ | ⟨hNone, -⟩ | ⟨first, rest, hRelative, -⟩
  · simp [hPieces, h]
  · subst hNone
    cases h
  · rw [h] at hRelative
    cases hRelative

/-- The first component of a path goes up to the first slash. -/
theorem head?_components (h : p.isAbsolute = false) (hSome : p ≠ "") :
    p.components.head? = some (String.ofList (p.toList.takeWhile (· ≠ '/'))) := by
  have hHead : (pieces p).head? = some (String.ofList (p.toList.takeWhile (· ≠ '/'))) := by
    rw [pieces, List.head?_map, head?_splitChars]
    rfl
  unfold components
  rcases pieces_cases p with ⟨rest, hRoot, -⟩ | ⟨hNone, -⟩ | ⟨first, rest, -, hFirst, hPieces⟩
  · rw [h] at hRoot
    cases hRoot
  · exact absurd hNone hSome
  · rw [← hHead, hPieces]
    split
    · next hCons => exact absurd (List.cons.inj hCons).1 hFirst
    · next hCons =>
      obtain ⟨rfl, rfl⟩ := List.cons.inj hCons
      rfl
    · next hNil => cases hNil

/-- The characters before the first slash. -/
theorem takeWhile_slash {cs first : List Char} (hFirst : '/' ∉ first) :
    cs.takeWhile (· ≠ '/') = first ↔ cs = first ∨ ∃ behind, cs = first ++ '/' :: behind := by
  have hKept : ∀ c ∈ first, decide (c ≠ '/') = true := fun c hc => decide_eq_true (ne_of_mem_of_not_mem hc hFirst)
  constructor
  · intro h
    have hWhole := List.takeWhile_append_dropWhile (p := fun c => decide (c ≠ '/')) (l := cs)
    have hBehind := List.head?_dropWhile_not (fun c => decide (c ≠ '/')) cs
    rw [h] at hWhole
    cases hRest : cs.dropWhile fun c => decide (c ≠ '/') with
    | nil =>
      rw [hRest, List.append_nil] at hWhole
      exact .inl hWhole.symm
    | cons c behind =>
      rw [hRest] at hWhole hBehind
      obtain rfl : c = '/' := by simpa using hBehind
      exact .inr ⟨behind, hWhole.symm⟩
  · rintro (rfl | ⟨behind, rfl⟩)
    · exact List.takeWhile_eq_self_iff.mpr hKept
    · rw [List.takeWhile_append_of_pos hKept, List.takeWhile_cons_of_neg (by simp), List.append_nil]

/-- A name is the first component of a path if the path goes on with a slash behind it, or not at all. -/
theorem head?_components_eq_some {name : String} (hName : name ≠ "") (hSlash : '/' ∉ name.toList) :
    p.components.head? = some name ↔ p = name ∨ ∃ rest, p = name ++ "/" ++ rest := by
  have hChars : p.toList.takeWhile (· ≠ '/') = name.toList ↔ p = name ∨ ∃ rest, p = name ++ "/" ++ rest := by
    rw [takeWhile_slash hSlash, String.toList_inj]
    have hBehind : ∀ rest : String, (name ++ "/" ++ rest).toList = name.toList ++ '/' :: rest.toList := by
      intro rest
      rw [String.append_assoc, String.toList_append, String.toList_append]
      rfl
    refine or_congr_right ⟨fun ⟨behind, h⟩ => ⟨.ofList behind, ?_⟩, fun ⟨rest, h⟩ => ⟨rest.toList, ?_⟩⟩
    · rw [← String.toList_inj, hBehind, String.toList_ofList, h]
    · rw [h, hBehind]
  rw [← hChars]
  cases hRoot : p.isAbsolute with
  | true =>
    obtain ⟨cs, hCs⟩ := List.head?_eq_some_iff.mp (of_decide_eq_true hRoot)
    rw [components_of_absolute hRoot, hCs, List.head?_cons, List.takeWhile_cons_of_neg (by simp)]
    exact iff_of_false (fun h => hName (Option.some.inj h).symm) fun h => hName (String.toList_inj.mp h.symm)
  | false =>
    by_cases hNone : p = ""
    · subst hNone
      exact iff_of_false (fun h => nomatch h) fun h => hName (String.toList_inj.mp h.symm)
    · rw [head?_components hRoot hNone, Option.some.injEq, ← String.toList_inj, String.toList_ofList]

/-- Only a path from the root has the root as its first component. -/
theorem head?_components_root : p.components.head? = some "" ↔ p.isAbsolute = true := by
  cases hRoot : p.isAbsolute with
  | true => simp [components_of_absolute hRoot]
  | false =>
    by_cases hNone : p = ""
    · subst hNone
      exact iff_of_false (fun h => nomatch h) Bool.false_ne_true
    · rw [head?_components hRoot hNone, Option.some.injEq, ← String.toList_inj, String.toList_ofList]
      obtain ⟨c, cs, hChars⟩ := List.exists_cons_of_ne_nil fun h => hNone (String.toList_inj.mp h)
      rw [isAbsolute, hChars] at hRoot
      rw [hChars, List.takeWhile_cons_of_pos (by simpa using hRoot)]
      exact iff_of_false (List.cons_ne_nil _ _) Bool.false_ne_true

/-! ## A path below another one -/

theorem join_of_absolute (h : q.isAbsolute = true) : join p q = q := if_pos h

theorem trail_append (p q : Path) : trail (p ++ "/" ++ q) = p.trail ++ q.trail := by
  rw [trail_eq_pieces, pieces_append, List.filter_append, ← trail_eq_pieces, ← trail_eq_pieces]

/-- A path that is put below another one, with a slash between them that may stand there already. -/
theorem join_cases (p : Path) (h : q.isAbsolute = false) : p = "" ∧ join p q = q ∨
    (∃ upper, p = upper ++ "/" ∧ join p q = upper ++ "/" ++ q) ∨ p ≠ "" ∧ join p q = p ++ "/" ++ q := by
  rw [join, if_neg (by simp [h])]
  split
  · next hLast =>
    have hNone : p = "" := String.toList_inj.mp (List.getLast?_eq_none_iff.mp hLast)
    exact .inl ⟨hNone, by rw [hNone, String.empty_append]⟩
  · next hLast =>
    obtain ⟨upper, hUpper⟩ := List.getLast?_eq_some_iff.mp hLast
    have hSlash : p = String.ofList upper ++ "/" := by
      rw [← String.toList_inj, hUpper, String.toList_append, String.toList_ofList]
      rfl
    exact .inr (.inl ⟨_, hSlash, by rw [← hSlash]⟩)
  · next hLast =>
    refine .inr (.inr ⟨?_, rfl⟩)
    rintro rfl
    cases hLast

/-- Nothing stands before a path that was put below another one, or something that ends in a slash. -/
theorem join_eq (p q : Path) : join p q = q ∨ ∃ upper, join p q = upper ++ "/" ++ q := by
  cases h : q.isAbsolute with
  | true => exact .inl (join_of_absolute h)
  | false =>
    rcases join_cases p h with ⟨-, hJoin⟩ | ⟨upper, -, hJoin⟩ | ⟨-, hJoin⟩
    · exact .inl hJoin
    · exact .inr ⟨upper, hJoin⟩
    · exact .inr ⟨p, hJoin⟩

/-- The names of both paths, one behind the other. -/
theorem trail_join (p : Path) (h : q.isAbsolute = false) : trail (join p q) = p.trail ++ q.trail := by
  rcases join_cases p h with ⟨rfl, hJoin⟩ | ⟨upper, rfl, hJoin⟩ | ⟨-, hJoin⟩
  · rw [hJoin]
    rfl
  · -- nothing stands behind the slash of the upper path
    have hUpper : trail (upper ++ "/") = trail upper := by
      have hEmpty := trail_append upper ""
      rwa [String.append_empty, show trail "" = [] from rfl, List.append_nil] at hEmpty
    rw [hJoin, trail_append, hUpper]
  · rw [hJoin, trail_append]

theorem isAbsolute_append (h : p.isAbsolute = true) (q : Path) : isAbsolute (p ++ q) = true := by
  unfold isAbsolute at *
  rw [String.toList_append]
  cases hChars : p.toList with
  | nil =>
    rw [hChars] at h
    cases h
  | cons c cs =>
    rw [hChars] at h
    exact h

theorem isAbsolute_join (hUpper : p.isAbsolute = true) (q : Path) : isAbsolute (join p q) = true := by
  cases h : q.isAbsolute with
  | true => rwa [join_of_absolute h]
  | false =>
    rcases join_cases p h with ⟨rfl, -⟩ | ⟨upper, rfl, hJoin⟩ | ⟨-, hJoin⟩
    · cases hUpper
    · rw [hJoin]
      exact isAbsolute_append hUpper q
    · rw [hJoin, String.append_assoc]
      exact isAbsolute_append hUpper _

/-- The components of a path below one from the root. -/
theorem components_join (hUpper : p.isAbsolute = true) (h : q.isAbsolute = false) :
    (join p q).components = p.components ++ q.trail := by
  rw [components_of_absolute (isAbsolute_join hUpper q), trail_join p h, components_of_absolute hUpper]
  rfl

end Storage.Path

end GuidedTour
