import JoinPlan.Proofs.Naming.LastNames

/-!
# Inflection of last words

A word begins at the front of a name, after a dot and at a capital (`English.IsBorder`).  What
stands before such a place has no part in inflection: the last word of the name is that of the part
behind it (`English.splitLastWord_append`), so that only this part is inflected
(`Naming.english_append`).  It may hold one word, several or none.
-/

namespace JoinPlan

namespace English

variable {front rest : List Char}

/-- A word begins between the parts of a name: they meet at its front, after a dot or at a
capital. -/
def IsBorder (front rest : List Char) : Prop :=
  front = [] ∨ front.getLast? = some '.' ∨ isCapitalized rest = true

/-- Where the rest begins with a capital, the last word begins there or later. -/
theorem splitLastWord_append_capital (h : isCapitalized rest = true) (front : List Char) :
    splitLastWord (front ++ rest) = (front ++ (splitLastWord rest).1, (splitLastWord rest).2) := by
  induction front with
  | nil => rfl
  | cons c middle ih =>
    rw [List.cons_append, splitLastWord, ih]
    cases hfront : middle ++ (splitLastWord rest).1 with
    | cons d others => rw [List.cons_append, hfront]
    | nil =>
      -- Nothing of the name comes between `c` and the capital, so that the word ends here.
      obtain ⟨rfl, hnone⟩ := List.append_eq_nil_iff.mp hfront
      have hword : (splitLastWord rest).2 = rest := by
        have hparts := append_splitLastWord rest
        rwa [hnone, List.nil_append] at hparts
      rw [hword, hnone]
      dsimp only
      rw [h, Bool.or_true, if_pos rfl, List.append_nil]

/-- The last word of a name is that of any part that begins with a word. -/
theorem splitLastWord_append (h : IsBorder front rest) :
    splitLastWord (front ++ rest) = (front ++ (splitLastWord rest).1, (splitLastWord rest).2) := by
  rcases h with rfl | hdot | hcapital
  · rfl
  · obtain ⟨parent, rfl⟩ := List.getLast?_eq_some_iff.mp hdot
    rw [List.append_assoc, List.singleton_append, splitLastWord_append_dot, List.append_assoc,
      List.singleton_append]
  · exact splitLastWord_append_capital hcapital front

/-- Inflecting a name is inflecting any part at its end that begins with a word. -/
theorem inflectLast_append (inflect : List Char → List Char) (h : IsBorder front rest) :
    inflectLast inflect (front ++ rest) = front ++ inflectLast inflect rest := by
  unfold inflectLast
  rw [splitLastWord_append h]
  obtain ⟨others, word⟩ := splitLastWord rest
  cases word with
  | nil => rfl
  | cons c letters => simp

end English

/-- **Inflection touches the last word only.**  A name is cut where a word begins: at its front,
after a dot or at a capital.  Then its plural and its singular are those of the part behind the cut,
after the other part as it is. -/
theorem Naming.english_append {front rest : String}
    (h : front = "" ∨ front.toList.getLast? = some '.' ∨
      English.isCapitalized rest.toList = true) :
    Naming.english.pluralize (front ++ rest) = front ++ Naming.english.pluralize rest ∧
      Naming.english.singularize (front ++ rest) = front ++ Naming.english.singularize rest := by
  have hborder : English.IsBorder front.toList rest.toList :=
    h.imp_left String.toList_eq_nil_iff.mpr
  have hinflect (inflect : List Char → List Char) :
      String.ofList (English.inflectLast inflect (front ++ rest).toList) =
        front ++ String.ofList (English.inflectLast inflect rest.toList) := by
    rw [String.toList_append, English.inflectLast_append inflect hborder, String.ofList_append,
      String.ofList_toList]
  exact ⟨hinflect English.plural, hinflect English.singular⟩

/-- A capital outside the alphabet, and a field inside another one. -/
theorem Naming.english_append_boxes :
    let naming := Naming.english
    English.isCapitalized "Übungen".toList = true ∧
      naming.singularize ("straße.alt" ++ "Übungen") =
        "straße.alt" ++ naming.singularize "Übungen" ∧
      "möbel.".toList.getLast? = some '.' ∧
      naming.pluralize ("möbel." ++ "toolBox") = "möbel." ++ naming.pluralize "toolBox" := by
  intro naming
  have hcapital : English.isCapitalized "Übungen".toList = true := by decide
  have hdot : "möbel.".toList.getLast? = some '.' := by decide
  exact ⟨hcapital, (Naming.english_append (.inr (.inr hcapital))).2, hdot,
    (Naming.english_append (.inr (.inl hdot))).1⟩

end JoinPlan
