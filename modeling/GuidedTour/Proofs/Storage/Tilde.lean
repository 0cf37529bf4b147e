import GuidedTour.Completion.Store
import GuidedTour.Proofs.Storage.Path

/-!
# What a tilde stands for

A tilde before a separator is replaced by putting what follows the separator below the home directory. What follows may
begin with a slash itself, and such a path is not put below anything: the home directory is then gone from the result.

A text is looked at by its beginning, a path by its first component. A slash ends a component and a backslash does not,
so the two expansions agree on everything but a tilde before a backslash.

Main results:

* `expandTilde_tilded` - what a text with a tilde before a separator names.
* `head?_components_tilde` - the paths whose first component is a tilde.
* `expandTilde_below_home` - when the result lies below the home directory.
* `expandTildePath_eq_iff` - when the two expansions agree.
-/

namespace GuidedTour.Storage

/-- A tilde before a separator of either kind, and what follows. -/
def Tilded (p rest : String) : Prop := p = "~/" ++ rest ∨ p = "~\\" ++ rest

/-! ## Beginnings -/

theorem after?_eq_some_iff {start s rest : String} : after? start s = some rest ↔ s = start ++ rest := by
  rw [after?]
  constructor
  · intro h
    split at h
    · next hStart =>
      obtain ⟨behind, hBehind⟩ := List.isPrefixOf_iff_prefix.mp hStart
      rw [← Option.some.inj h, ← hBehind, ← String.length_toList, List.drop_left, ← String.toList_inj, ← hBehind,
        String.toList_append, String.toList_ofList]
    · cases h
  · rintro rfl
    rw [if_pos (List.isPrefixOf_iff_prefix.mpr ⟨rest.toList, (String.toList_append).symm⟩), String.toList_append,
      ← String.length_toList, List.drop_left, String.ofList_toList]

theorem after?_eq_none_iff {start s : String} : after? start s = none ↔ ∀ rest, s ≠ start ++ rest := by
  rw [Option.eq_none_iff_forall_ne_some]
  exact forall_congr' fun rest => not_congr after?_eq_some_iff

theorem ne_append {s start : String} (h : ¬ start.toList <+: s.toList) (rest : String) : s ≠ start ++ rest := by
  rintro rfl
  exact h ⟨rest.toList, String.toList_append.symm⟩

/-- Of two beginnings of one text one begins the other. -/
theorem append_ne_append {start start' : String} (h : ¬ start.toList <+: start'.toList)
    (h' : ¬ start'.toList <+: start.toList) (rest rest' : String) : start ++ rest ≠ start' ++ rest' := by
  intro hSame
  have hList := congrArg String.toList hSame
  rw [String.toList_append, String.toList_append] at hList
  exact (List.prefix_or_prefix_of_prefix ⟨_, hList⟩ ⟨_, rfl⟩).elim h h'

/-- The second character tells the two separators apart. -/
theorem backslash_ne_slash (rest rest' : String) : "~\\" ++ rest ≠ "~/" ++ rest' :=
  append_ne_append (by decide) (by decide) rest rest'

/-! ## What a text names -/

variable {env : Environment} {s rest : String}

theorem expandTilde_tilde (h : Text.trim s = "~") : expandTilde env s = env.home := by
  rw [expandTilde, h]
  rfl

theorem expandTilde_tilded (h : Tilded (Text.trim s) rest) : expandTilde env s = env.home.join rest := by
  rcases h with h | h
  · rw [expandTilde, h]
    rw [if_neg (ne_append (by decide) rest).symm, after?_eq_some_iff.mpr rfl]
  · rw [expandTilde, h]
    rw [if_neg (ne_append (by decide) rest).symm, after?_eq_none_iff.mpr (backslash_ne_slash rest),
      after?_eq_some_iff.mpr rfl]

theorem expandTilde_other (hAlone : Text.trim s ≠ "~") (hOther : ∀ rest, ¬ Tilded (Text.trim s) rest) :
    expandTilde env s = Text.trim s := by
  rw [expandTilde]
  rw [if_neg hAlone, after?_eq_none_iff.mpr fun rest h => hOther rest (.inl h),
    after?_eq_none_iff.mpr fun rest h => hOther rest (.inr h)]

/-! ## Below the home directory -/

/-- A tilde alone stands for the home directory. Before a separator it stands for it as well, so that the result is the
home directory followed by the names of what comes behind, unless that begins with a slash: then that is the result,
whatever the home directory is. Other texts stand for themselves, without the blanks around them. -/
theorem expandTilde_below_home (hHome : env.home.isAbsolute = true) (s : String) :
    (Text.trim s = "~" → expandTilde env s = env.home) ∧
      (∀ rest, Tilded (Text.trim s) rest →
        ((expandTilde env s).components = env.home.components ++ Path.trail rest ↔
          Path.isAbsolute rest = false ∨ env.home.trail = []) ∧
        (Path.isAbsolute rest = true → expandTilde env s = rest)) ∧
      (Text.trim s ≠ "~" → (∀ rest, ¬ Tilded (Text.trim s) rest) → expandTilde env s = Text.trim s) := by
  refine ⟨expandTilde_tilde, fun rest hTilded => ?_, expandTilde_other⟩
  rw [expandTilde_tilded hTilded]
  refine ⟨?_, Path.join_of_absolute⟩
  cases hRest : Path.isAbsolute rest with
  | false => simp only [Path.components_join hHome hRest, true_or]
  | true =>
    -- both begin at the root, so they are the same only if no name stands between it and what comes behind
    rw [Path.join_of_absolute hRest, Path.components_of_absolute hRest, Path.components_of_absolute hHome]
    simp

/-- The environment of an account whose home directory is `/home/lumen`. -/
def homely : Environment := ⟨[("HOME", "/home/lumen")], none⟩

theorem expandTilde_below_home_state : homely.home.isAbsolute = true ∧
    Tilded (Text.trim " ~/./state.json ") "./state.json" ∧
    (expandTilde homely " ~/./state.json ").components = ["", "home", "lumen", "state.json"] := by
  have hTilded : Tilded (Text.trim " ~/./state.json ") "./state.json" := .inl (by decide +kernel)
  have hHome : homely.home.isAbsolute = true := by decide +kernel
  obtain ⟨-, hBelow, -⟩ := expandTilde_below_home hHome " ~/./state.json "
  exact ⟨hHome, hTilded, ((hBelow _ hTilded).1.mpr (.inl (by decide +kernel))).trans (by decide +kernel)⟩

/-- A second slash leads out of the home directory. -/
theorem doubled_slash_escapes : homely.home.isAbsolute = true ∧ Tilded (Text.trim "~//etc/passwd") "/etc/passwd" ∧
    expandTilde homely "~//etc/passwd" = "/etc/passwd" ∧
    ¬ homely.home.components <+: (expandTilde homely "~//etc/passwd").components := by
  have hTilded : Tilded (Text.trim "~//etc/passwd") "/etc/passwd" := .inl (by decide +kernel)
  have hResult : expandTilde homely "~//etc/passwd" = "/etc/passwd" := by
    rw [expandTilde_tilded hTilded, Path.join_of_absolute (by decide +kernel)]
  refine ⟨by decide +kernel, hTilded, hResult, ?_⟩
  rw [hResult]
  decide +kernel

/-! ## Paths that begin with a tilde -/

/-- The first component of a path is a tilde if a slash follows the tilde, or nothing. -/
theorem head?_components_tilde : (Path.components s).head? = some "~" ↔ s = "~" ∨ ∃ rest, s = "~/" ++ rest :=
  Path.head?_components_eq_some (by decide) (by decide)

/-- Only a tilde before a backslash is not taken for one in a path. -/
theorem expandTildePath_of_not_backslash (env : Environment) (hTrimmed : Text.trim s = s)
    (hOther : ∀ rest, s ≠ "~\\" ++ rest) : expandTildePath env s = expandTilde env s := by
  rw [expandTildePath]
  split
  · rfl
  · next hTilde =>
    rw [head?_components_tilde, not_or, not_exists] at hTilde
    rw [expandTilde_other (hTrimmed.symm ▸ hTilde.1), hTrimmed]
    rw [hTrimmed]
    exact fun rest hTilded => hTilded.elim (hTilde.2 rest) (hOther rest)

theorem expandTildePath_backslash (env : Environment) (rest : String) :
    expandTildePath env ("~\\" ++ rest) = "~\\" ++ rest := by
  refine if_neg fun hTilde => ?_
  rcases head?_components_tilde.mp hTilde with hAlone | ⟨rest', hSlash⟩
  · exact ne_append (by decide) rest hAlone.symm
  · exact backslash_ne_slash rest rest' hSlash

/-- What is put below a path is not put behind a tilde and a backslash. -/
theorem join_ne_backslash (home : Path) (rest : String) : home.join rest ≠ "~\\" ++ rest := by
  have hLength : ("~\\" ++ rest).toList.length = 2 + rest.toList.length := by
    rw [String.toList_append, List.length_append]
    rfl
  intro h
  rcases Path.join_eq home rest with hJoin | ⟨upper, hJoin⟩
  · rw [← h, hJoin] at hLength
    omega
  · -- the path below begins behind a slash on one side and behind a backslash on the other
    rw [hJoin] at h
    have hUpper := congrArg String.toList ((String.append_left_inj rest).mp h)
    rw [String.toList_append] at hUpper
    exact absurd (congrArg List.getLast? hUpper) (by simp)

/-- Below a directory from the root nothing has the components of a path that begins with a tilde and a backslash. -/
theorem components_join_ne_backslash {home : Path} (hHome : home.isAbsolute = true) (rest rest' : String) :
    (home.join rest).components ≠ Path.components ("~\\" ++ rest') := by
  intro h
  have hRoot := Path.head?_components_root.mpr (Path.isAbsolute_join hHome rest)
  rw [h, Path.head?_components_root, Path.isAbsolute, String.toList_append] at hRoot
  cases hRoot

/-- A text that is not blank is the path of the flags when a variable has it. -/
theorem completionPath_of_variable (hTrimmed : Text.trim s = s) (hSome : s ≠ "")
    (hVariable : env.value? "LUMEN_COMPLETION_PATH" = some s) : completionPath env = expandTilde env s := by
  have hText : (!Text.isAllBlank s) = true := by
    rw [Bool.not_eq_true', Bool.eq_false_iff]
    intro hBlank
    -- of a blank text nothing is left without the blanks around it
    refine hSome (hTrimmed.symm.trans ?_)
    have hStart : Text.trimStart s.toList = [] := List.dropWhile_eq_nil_iff.mpr (List.all_eq_true.mp hBlank)
    rw [Text.trim, hStart]
    rfl
  rw [completionPath, configFile, hVariable, Option.filter_some, if_pos hText]

/-- The two expansions of a text without blanks around it agree, unless it begins with a tilde and a backslash: it is
then left as it is when it is a path. Where they agree, a store that is opened at the path has the same file as one that
finds the path in the variable. Where they do not, the paths go through other components, if the home directory is one
from the root. -/
theorem expandTildePath_eq_iff (env : Environment) {s : String} (hTrimmed : Text.trim s = s) :
    (expandTildePath env s = expandTilde env s ↔ ∀ rest, s ≠ "~\\" ++ rest) ∧
      (∀ rest, s = "~\\" ++ rest → expandTildePath env s = s ∧ expandTilde env s = env.home.join rest ∧
        (env.home.isAbsolute = true → (expandTildePath env s).components ≠ (expandTilde env s).components)) ∧
      (s ≠ "" → env.value? "LUMEN_COMPLETION_PATH" = some s → (∀ rest, s ≠ "~\\" ++ rest) →
        ∀ d, Completion.Store.openFor env d (some s) = Completion.Store.openFor env d none) := by
  refine ⟨⟨?_, expandTildePath_of_not_backslash env hTrimmed⟩, ?_, ?_⟩
  · rintro hSame rest rfl
    rw [expandTildePath_backslash, expandTilde_tilded (.inr hTrimmed)] at hSame
    exact join_ne_backslash env.home rest hSame.symm
  · rintro rest rfl
    have hText : expandTilde env ("~\\" ++ rest) = env.home.join rest := expandTilde_tilded (.inr hTrimmed)
    have hPath := expandTildePath_backslash env rest
    refine ⟨hPath, hText, fun hHome => ?_⟩
    rw [hPath, hText]
    exact (components_join_ne_backslash hHome rest rest).symm
  · intro hSome hVariable hOther d
    show Completion.Store.openAt d (expandTildePath env s) = Completion.Store.openAt d (completionPath env)
    rw [completionPath_of_variable hTrimmed hSome hVariable, expandTildePath_of_not_backslash env hTrimmed hOther]

/-- A path below the home directory, both given and in the variable. -/
theorem expandTildePath_eq_iff_state :
    let env : Environment := ⟨("LUMEN_COMPLETION_PATH", "~/state.json") :: homely.bindings, none⟩
    Text.trim "~/state.json" = "~/state.json" ∧ expandTildePath env "~/state.json" = "/home/lumen/state.json" ∧
      ∀ d, Completion.Store.openFor env d (some "~/state.json") = Completion.Store.openFor env d none := by
  intro env
  have hTrimmed : Text.trim "~/state.json" = "~/state.json" := by decide +kernel
  obtain ⟨hAgree, -, hOpen⟩ := expandTildePath_eq_iff env hTrimmed
  have hOther : ∀ rest, "~/state.json" ≠ "~\\" ++ rest := ne_append (by decide)
  have hResult : expandTilde env "~/state.json" = "/home/lumen/state.json" := by decide +kernel
  exact ⟨hTrimmed, (hAgree.mpr hOther).trans hResult, hOpen (by decide) rfl hOther⟩

/-- A backslash behind the tilde makes two files of one text. -/
theorem backslash_parts : Text.trim "~\\win\\x" = "~\\win\\x" ∧
    expandTildePath homely "~\\win\\x" = "~\\win\\x" ∧
    expandTilde homely "~\\win\\x" = "/home/lumen/win\\x" := by
  decide +kernel

end GuidedTour.Storage
