import JoinPlan.Path
import Mathlib.Data.List.Basic

/-!
# Paths and their names

A path is read from the front, name by name (`segments_of_undotted`, `segments_child`), and every
path is either a single name or a path inside a field at the top (`undotted_or_child`).  So what is
defined by the names on a path can be followed from the outermost field inwards.  At the other end
stands the last name, and the others tell the fields around it (`undotted_or_child_last`, `lastName`,
`around`).
-/

namespace JoinPlan.Path

variable {name name' rest rest' : String}

/-! ### Names on a path -/

theorem segments_ne_nil (path : String) : segments path ≠ [] := by
  intro h
  exact List.splitOn_ne_nil _ _ (List.map_eq_nil_iff.mp h)

/-- A path without dots is a single name. -/
theorem segments_of_undotted (h : '.' ∉ name.toList) : segments name = [name] := by
  unfold segments
  rw [List.splitOn_eq_singleton h, List.map_singleton, String.ofList_toList]

theorem toList_child (name rest : String) :
    (child (some name) rest).toList = name.toList ++ '.' :: rest.toList := by
  simp [child]

/-- The names on a path inside a field are those inside it, after the name of the field. -/
theorem segments_child (h : '.' ∉ name.toList) (rest : String) :
    segments (child (some name) rest) = name :: segments rest := by
  unfold segments
  rw [toList_child, List.splitOn_append_cons_self_of_not_mem h, List.map_cons,
    String.ofList_toList]

/-- In any case they are those of the field, and then those inside it. -/
theorem segments_child_append (parent rest : String) :
    segments (child (some parent) rest) = segments parent ++ segments rest := by
  unfold segments
  rw [toList_child, List.splitOn_append_cons_self, List.map_append]

/-- The names on a path tell the path. -/
theorem segments_injective : Function.Injective segments := by
  intro path path' h
  have hparts : path.toList.splitOn '.' = path'.toList.splitOn '.' :=
    List.map_injective_iff.mpr (fun _ _ => String.ofList_injective) h
  have hlist := congrArg (['.'].intercalate ·) hparts
  simp only [List.intercalate_splitOn] at hlist
  exact String.toList_injective hlist

/-! ### Paths inside fields -/

theorem child_child (parent : Option String) (name rest : String) :
    child (some (child parent name)) rest = child parent (child (some name) rest) := by
  cases parent <;> simp [child, String.append_assoc]

theorem dotted_child (name rest : String) : '.' ∈ (child (some name) rest).toList := by
  rw [toList_child]
  exact List.mem_append_right _ List.mem_cons_self

/-- Paths inside the same field differ where they go on. -/
theorem child_injective (parent : String) : Function.Injective (child (some parent)) := by
  intro rest rest' heq
  have hlist := congrArg String.toList heq
  rw [toList_child, toList_child, List.append_cancel_left_eq, List.cons.injEq] at hlist
  exact String.toList_injective hlist.2

theorem child_inj (h : '.' ∉ name.toList) (h' : '.' ∉ name'.toList) :
    child (some name) rest = child (some name') rest' ↔ name = name' ∧ rest = rest' := by
  constructor
  · intro heq
    have hsegments := congrArg segments heq
    rw [segments_child h, segments_child h', List.cons.injEq] at hsegments
    exact ⟨hsegments.1, segments_injective hsegments.2⟩
  · rintro ⟨rfl, rfl⟩
    rfl

/-- Every path is a name, or leads on from the first name on it. -/
theorem undotted_or_child (path : String) :
    '.' ∉ path.toList ∨
      ∃ name rest, '.' ∉ name.toList ∧ path = child (some name) rest := by
  by_cases h : '.' ∈ path.toList
  · obtain ⟨front, back, hsplit, hfront⟩ := List.eq_append_cons_of_mem h
    refine Or.inr ⟨String.ofList front, String.ofList back, by simpa using hfront, ?_⟩
    apply String.toList_injective
    rw [toList_child, hsplit, String.toList_ofList, String.toList_ofList]
  · exact Or.inl h

/-- Every path is a name, or leads to the last name on it. -/
theorem undotted_or_child_last (path : String) :
    '.' ∉ path.toList ∨
      ∃ parent name, '.' ∉ name.toList ∧ path = child (some parent) name := by
  by_cases h : '.' ∈ path.toList
  · obtain ⟨back, front, hsplit, hback⟩ := List.eq_append_cons_of_mem (List.mem_reverse.mpr h)
    refine Or.inr
      ⟨String.ofList front.reverse, String.ofList back.reverse, by simpa using hback, ?_⟩
    have hpath := congrArg List.reverse hsplit
    rw [List.reverse_reverse, List.reverse_append, List.reverse_cons] at hpath
    apply String.toList_injective
    rw [toList_child, hpath, String.toList_ofList, String.toList_ofList, List.append_assoc,
      List.singleton_append]
  · exact Or.inl h

/-! ### The last name -/

/-- The last name on a path. -/
def lastName (path : String) : String :=
  (segments path).getLast (segments_ne_nil path)

theorem lastName_of_undotted (h : '.' ∉ name.toList) : lastName name = name := by
  simp only [lastName, segments_of_undotted h, List.getLast_singleton]

theorem lastName_child (parent : String) (h : '.' ∉ name.toList) :
    lastName (child (some parent) name) = name := by
  simp only [lastName, segments_child_append, segments_of_undotted h, List.getLast_concat]

/-- The last name on a path is empty if the path is, or if it ends in a dot. -/
theorem lastName_eq_empty_iff {path : String} :
    lastName path = "" ↔ path = "" ∨ path.toList.getLast? = some '.' := by
  rcases undotted_or_child_last path with hpath | ⟨parent, name, hname, rfl⟩
  · rw [lastName_of_undotted hpath]
    refine (or_iff_left fun hlast => ?_).symm
    exact hpath (List.mem_of_getLast? hlast)
  · have hne : child (some parent) name ≠ "" := by
      intro hempty
      have hdot := dotted_child parent name
      rw [hempty] at hdot
      cases hdot
    rw [lastName_child parent hname, or_iff_right hne, toList_child, List.getLast?_append,
      List.getLast?_cons]
    constructor
    · rintro rfl
      rfl
    · intro hlast
      cases hlist : name.toList.getLast? with
      | none => exact String.toList_eq_nil_iff.mp (List.getLast?_eq_none_iff.mp hlist)
      | some c =>
        rw [hlist] at hlast
        obtain rfl : c = '.' := by simpa using hlast
        exact absurd (List.mem_of_getLast? hlist) hname

/-! ### Fields around a field -/

/-- The names on a path before the last one. -/
def around (path : String) : List String :=
  (segments path).dropLast

theorem around_of_undotted (h : '.' ∉ name.toList) : around name = [] := by
  rw [around, segments_of_undotted h, List.dropLast_singleton]

theorem around_child (parent : String) (h : '.' ∉ name.toList) :
    around (child (some parent) name) = segments parent := by
  rw [around, segments_child_append, segments_of_undotted h, List.dropLast_concat]

/-- A path leads to the field at another path or to one around it: the other path begins with all
of its names. -/
def Encloses (outer path : String) : Prop :=
  outer = path ∨ ∃ rest, path = child (some outer) rest

theorem encloses_iff_of_undotted {outer : String} (h : '.' ∉ name.toList) :
    Encloses outer name ↔ outer = name := by
  refine or_iff_left ?_
  rintro ⟨rest, rfl⟩
  exact h (dotted_child _ _)

/-- Around a field inside another one there are the other one and those around it there. -/
theorem encloses_child_iff {outer : String} (h : '.' ∉ name.toList) (rest : String) :
    Encloses outer (child (some name) rest) ↔
      outer = name ∨ ∃ inner, Encloses inner rest ∧ outer = child (some name) inner := by
  constructor
  · rintro (rfl | ⟨tail, htail⟩)
    · exact Or.inr ⟨rest, Or.inl rfl, rfl⟩
    · -- What goes on from `outer` begins with `name`, which is all of `outer` or its first name.
      rcases undotted_or_child outer with hname | ⟨name', inner, hname', rfl⟩
      · exact Or.inl ((child_inj h hname).mp htail).1.symm
      · rw [child_child, child_inj h hname'] at htail
        obtain ⟨rfl, rfl⟩ := htail
        exact Or.inr ⟨inner, Or.inr ⟨tail, rfl⟩, rfl⟩
  · rintro (rfl | ⟨inner, rfl | ⟨tail, rfl⟩, rfl⟩)
    · exact Or.inr ⟨rest, rfl⟩
    · exact Or.inl rfl
    · exact Or.inr ⟨tail, (child_child (some name) inner tail).symm⟩

end JoinPlan.Path
