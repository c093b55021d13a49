import JoinPlan.Proofs.Join.Parts
import JoinPlan.Proofs.Naming.LastNames

/-!
# Names that singulars are blank for

By the rules of English one name only loses all of its letters when it is made singular, that is
`s`, in lowercase or not (`English.singularize_eq_nil_iff`).  The other endings are taken off words
that have more letters than the ending (`English.regularSingular_eq_nil_iff`), words that are looked
up have singulars, and a word is not emptied by casing.

So the field that receives joined documents has a name, as far as nobody overrides it, unless it is
the singular of an unwound list with that last name (`JoinRequest.output_filled_iff`).
-/

namespace JoinPlan

namespace English

open Text

variable {word name : List Char}

/-! ### Words -/

/-- An ending comes off a word that is longer, unless the word is a single `s`. -/
theorem regularSingular_eq_nil_iff : regularSingular word = [] ↔ word = [] ∨ word = ['s'] := by
  constructor
  · intro h
    rcases regularSingular_cases word with hword | hsettled | ⟨hword, _⟩
    · exact .inl (hword.symm.trans h)
    · rw [h] at hsettled
      exact absurd hsettled (by decide)
    · rw [h, List.nil_append] at hword
      exact .inr hword
  · rintro (rfl | rfl) <;> decide

/-- Only the word `s` has an empty singular. -/
theorem singular_eq_nil_iff : singular word = [] ↔ word = [] ∨ word = ['s'] := by
  by_cases hknown : word ∈ knownWords
  · have hword := (isLower_of_known hknown).1
    have hsingular := singular_mem_knownSingulars hknown
    refine iff_of_false (fun h => ?_) ?_
    · rw [h] at hsingular
      exact absurd (isLower_of_known (mem_knownWords_of_singular hsingular)).1 (by decide)
    · rintro (rfl | rfl) <;> exact absurd hword (by decide)
  · rw [singular_of_unknown hknown]
    exact regularSingular_eq_nil_iff

/-! ### Names -/

theorem matchCase_eq_nil_iff {original inflected : List Char} :
    matchCase original inflected = [] ↔ inflected = [] := by
  unfold matchCase
  split
  · exact capitalize_eq_nil_iff
  · exact Iff.rfl

/-- **Only the name `s`, in lowercase or not, has an empty singular.** -/
theorem singularize_eq_nil_iff :
    singularize name = [] ↔ name = [] ∨ name = ['s'] ∨ name = ['S'] := by
  constructor
  · intro h
    unfold singularize inflectLast at h
    dsimp only at h
    split at h
    · exact .inl h
    · rename_i hword
      rw [List.append_eq_nil_iff, matchCase_eq_nil_iff, singular_eq_nil_iff,
        lowercase_eq_nil_iff, lowercase_eq_s_iff] at h
      obtain ⟨hfront, hnil | hs⟩ := h
      · exact absurd (List.isEmpty_iff.mpr hnil) hword
      · -- Nothing stands before the word, so that the name is the word.
        have hname := append_splitLastWord name
        rw [hfront, List.nil_append] at hname
        rw [← hname]
        exact .inr hs
  · rintro (rfl | rfl | rfl) <;> decide +kernel

end English

theorem Naming.english_singularize_eq_empty_iff {name : String} :
    Naming.english.singularize name = "" ↔ name = "" ∨ name = "s" ∨ name = "S" := by
  have hname : ∀ other : String, name.toList = other.toList ↔ name = other :=
    fun _ => String.toList_inj
  show String.ofList (English.singularize name.toList) = String.ofList [] ↔ _
  rw [String.ofList_inj, English.singularize_eq_nil_iff]
  exact or_congr (hname "") (or_congr (hname "s") (hname "S"))

/-! ### Outputs -/

/-- A variable is neither bare nor does it end in a dot exactly if its path has a last name. -/
theorem Path.variableName_filled_iff {path : String} :
    variableName path ≠ "$" ∧ (variableName path).toList.getLast? ≠ some '.' ↔
      lastName path ≠ "" := by
  have hlist : (variableName path).toList = '$' :: path.toList := by simp [variableName]
  have hbare : variableName path = "$" ↔ path = "" := by
    rw [← String.toList_inj, hlist, ← String.toList_eq_nil_iff]
    exact ⟨fun h => (List.cons.inj h).2, fun h => by rw [h]; rfl⟩
  have hlast : (variableName path).toList.getLast? = some '.' ↔
      path.toList.getLast? = some '.' := by
    rw [hlist, List.getLast?_cons]
    cases path.toList.getLast? <;> simp
  rw [← not_or, hbare, hlast, ← lastName_eq_empty_iff]

namespace JoinRequest

variable {request : JoinRequest}

/-- The request is for an unwound list whose last name is `s`, in lowercase or not. -/
def IsBlank (request : JoinRequest) : Prop :=
  request.multi = true ∧ request.unwound = true ∧
    (Path.lastName request.path = "s" ∨ Path.lastName request.path = "S")

/-- The last name of the output is empty for an unwound list with the last name `s` alone. -/
theorem lastName_output_eq_empty_iff (hname : Path.lastName request.path ≠ "")
    (houtput : request.overrides.output = none) :
    Path.lastName (request.output .english) = "" ↔ request.IsBlank := by
  unfold output IsBlank
  rw [houtput, Option.getD_none]
  by_cases hsingular : (request.multi && request.unwound) = true
  · obtain ⟨hmulti, hunwound⟩ := Bool.and_eq_true_iff.mp hsingular
    rw [if_pos hsingular, Naming.english_keepsPaths.lastName_singularize,
      Naming.english_singularize_eq_empty_iff, or_iff_right hname, hmulti, hunwound]
    simp
  · rw [if_neg hsingular]
    refine iff_of_false hname fun hblank => hsingular ?_
    rw [hblank.1, hblank.2.1]
    rfl

/-- **Computed outputs are never blank but for the name `s`.**  By the rules of English, whatever
collections are registered, an output that no author overrides is not empty and has a last name,
and the variable that is unwound, if no author names another, is neither bare nor ends in a dot,
unless the request is for an unwound list with the last name `s`, in lowercase or not.  For such a
list none of this holds. -/
theorem output_filled_iff (registered : String → Option String)
    (hname : Path.lastName request.path ≠ "") (houtput : request.overrides.output = none) :
    let d := request.descriptor ⟨.english, registered⟩
    (d.output ≠ "" ∧ Path.lastName d.output ≠ "" ↔ ¬ request.IsBlank) ∧
      ∀ unwind, d.unwind = some unwind →
        (∀ settings ∈ request.overrides.unwind.bind (·.settings?), settings.path = none) →
          (unwind.path ≠ "$" ∧ unwind.path.toList.getLast? ≠ some '.' ↔ ¬ request.IsBlank) := by
  intro d
  have hlast : Path.lastName d.output ≠ "" ↔ ¬ request.IsBlank :=
    not_congr (lastName_output_eq_empty_iff hname houtput)
  constructor
  · rw [← hlast]
    refine and_iff_right_of_imp fun hfilled hempty => hfilled ?_
    exact Path.lastName_eq_empty_iff.mpr (.inl hempty)
  · intro unwind hunwind hpath
    have hpart : request.unwind? .english = some unwind := hunwind
    rw [unwind?_eq .english hpath] at hpart
    split at hpart
    · rw [← Option.some.inj hpart]
      exact Path.variableName_filled_iff.trans hlast
    · cases hpart

/-- A list inside another field, of which only the unwinding is overridden. -/
theorem output_filled_boxes :
    let path := Path.child (some "shelf") "Boxes"
    let request : JoinRequest := ⟨path, some "Box", true, { unwind := some (.flag true) }⟩
    let d := request.descriptor ⟨.english, fun _ => none⟩
    Path.lastName request.path ≠ "" ∧ request.overrides.output = none ∧ ¬ request.IsBlank ∧
      d.output = "shelf.Box" ∧ d.output ≠ "" ∧ Path.lastName d.output ≠ "" := by
  intro path request d
  have hlast : Path.lastName request.path = "Boxes" := Path.lastName_child "shelf" (by decide)
  have hname : Path.lastName request.path ≠ "" := by
    rw [hlast]
    decide
  have hblank : ¬ request.IsBlank := by
    rintro ⟨_, _, hs⟩
    rw [hlast] at hs
    revert hs
    decide
  exact ⟨hname, rfl, hblank, by decide +kernel,
    (output_filled_iff (fun _ => none) hname rfl).1.mpr hblank⟩

/-- An unwound list with the name `s`, and one inside another field. -/
theorem output_blank_s :
    let overrides : Overrides := { unwind := some (.flag true) }
    let targets : Targets := ⟨.english, fun _ => none⟩
    let d := (JoinRequest.mk "s" (some "Person") true overrides).descriptor targets
    let inner := (JoinRequest.mk "a.S" (some "Person") true overrides).descriptor targets
    d.output = "" ∧ d.unwind = some ⟨"$", true⟩ ∧
      inner.output = "a." ∧ inner.unwind = some ⟨"$a.", true⟩ := by
  intro overrides targets d inner
  decide +kernel

end JoinRequest

end JoinPlan
