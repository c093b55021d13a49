import JoinPlan.Proofs.Naming.Words
import JoinPlan.Proofs.Path

/-!
# Singulars of paths

By the rules of English the singular of a path has the fields around the last name as they are, and
a single name for the last one (`Naming.english_keepsPaths`).  For inflection acts on the last word
of a name, which begins after the last dot at the earliest (`splitLastWord_append_dot`), and neither
the case of the word nor its ending is changed to anything with a dot (`dot_notMem_inflectLast`).
-/

namespace JoinPlan

/-- The singular of a path is the path with the singular of its last name, which is a name. -/
structure Naming.KeepsPaths (naming : Naming) : Prop where
  singularize_child : ∀ parent name, naming.singularize (Path.child (some parent) name) =
    Path.child (some parent) (naming.singularize name)
  undotted_singularize : ∀ name, '.' ∉ name.toList → '.' ∉ (naming.singularize name).toList

/-- So the fields around the last name stay. -/
theorem Naming.KeepsPaths.around_singularize {naming : Naming} (h : naming.KeepsPaths)
    (path : String) : Path.around (naming.singularize path) = Path.around path := by
  rcases Path.undotted_or_child_last path with hpath | ⟨parent, name, hname, rfl⟩
  · rw [Path.around_of_undotted hpath, Path.around_of_undotted (h.undotted_singularize path hpath)]
  · rw [h.singularize_child, Path.around_child parent hname,
      Path.around_child parent (h.undotted_singularize name hname)]

/-- And the last name is the singular of the last name. -/
theorem Naming.KeepsPaths.lastName_singularize {naming : Naming} (h : naming.KeepsPaths)
    (path : String) :
    Path.lastName (naming.singularize path) = naming.singularize (Path.lastName path) := by
  rcases Path.undotted_or_child_last path with hpath | ⟨parent, name, hname, rfl⟩
  · rw [Path.lastName_of_undotted hpath,
      Path.lastName_of_undotted (h.undotted_singularize path hpath)]
  · rw [h.singularize_child, Path.lastName_child parent hname,
      Path.lastName_child parent (h.undotted_singularize name hname)]

namespace English

open Text

/-! ### Last words -/

/-- The last word of a path is that of its last name. -/
theorem splitLastWord_append_dot (parent name : List Char) :
    splitLastWord (parent ++ '.' :: name) =
      (parent ++ '.' :: (splitLastWord name).1, (splitLastWord name).2) := by
  induction parent with
  | nil =>
    rw [List.nil_append, List.nil_append, splitLastWord]
    obtain ⟨front, word⟩ := splitLastWord name
    cases front <;> rfl
  | cons c rest ih =>
    rw [List.cons_append, splitLastWord, ih]
    cases rest <;> rfl

/-- Nothing is lost when a name is split before its last word. -/
theorem append_splitLastWord (name : List Char) :
    (splitLastWord name).1 ++ (splitLastWord name).2 = name := by
  induction name with
  | nil => rfl
  | cons c rest ih =>
    rw [splitLastWord]
    obtain ⟨front, word, hparts⟩ : ∃ front word, splitLastWord rest = (front, word) := ⟨_, _, rfl⟩
    rw [hparts] at ih ⊢
    have hname := congrArg (c :: ·) ih
    cases front with
    | nil =>
      dsimp only
      split
      · exact hname
      · exact hname
    | cons d front => exact hname

/-- Inflecting a path is inflecting its last name. -/
theorem inflectLast_append_dot (inflect : List Char → List Char) (parent name : List Char) :
    inflectLast inflect (parent ++ '.' :: name) = parent ++ '.' :: inflectLast inflect name := by
  unfold inflectLast
  rw [splitLastWord_append_dot]
  obtain ⟨front, word⟩ := splitLastWord name
  cases word with
  | nil => rfl
  | cons c rest => simp

/-- An inflection that makes no dots makes none at the end of a name. -/
theorem dot_notMem_inflectLast {inflect : List Char → List Char}
    (hinflect : ∀ word, '.' ∉ word → '.' ∉ inflect word) {name : List Char} (h : '.' ∉ name) :
    '.' ∉ inflectLast inflect name := by
  have hparts : '.' ∉ (splitLastWord name).1 ∧ '.' ∉ (splitLastWord name).2 := by
    rw [← not_or, ← List.mem_append, append_splitLastWord]
    exact h
  have hinflected := hinflect _ (dot_notMem_lowercase hparts.2)
  unfold inflectLast
  dsimp only
  split
  · exact h
  · rw [List.mem_append, not_or]
    refine ⟨hparts.1, ?_⟩
    unfold matchCase
    split
    · exact dot_notMem_capitalize hinflected
    · exact hinflected

/-! ### Singulars -/

theorem dot_notMem_singular {word : List Char} (h : '.' ∉ word) : '.' ∉ singular word := by
  intro hmem
  rcases mem_singular hmem with hdot | hlower
  · exact h hdot
  · exact absurd hlower (by decide)

end English

/-- **By the rules of English the singular of a path is in the same place.** -/
theorem Naming.english_keepsPaths : Naming.english.KeepsPaths where
  singularize_child parent name := by
    apply String.toList_injective
    rw [Path.toList_child]
    show (String.ofList (English.singularize _)).toList = _ ++ '.' :: (String.ofList _).toList
    rw [String.toList_ofList, String.toList_ofList, Path.toList_child]
    exact English.inflectLast_append_dot English.singular parent.toList name.toList
  undotted_singularize name hname := by
    show '.' ∉ (String.ofList (English.singularize name.toList)).toList
    rw [String.toList_ofList]
    exact English.dot_notMem_inflectLast (fun _ => English.dot_notMem_singular) hname

end JoinPlan
