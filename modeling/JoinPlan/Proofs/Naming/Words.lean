import JoinPlan.Naming.English
import JoinPlan.Proofs.Text.Casing
import Mathlib.Data.List.Infix

/-!
# Words and their endings

What the rules of English do to a single word.

* Two endings of one word are endings of one another (`endsIn_of_endsIn`), so that most exclude each
  other; and an ending is there behind another text exactly when its front part was there before
  (`endsIn_append`).
* Hence regular singulars in terms of what stands before the final `s` (`regularSingular_append_s`);
  a word without a final `s` is its own regular singular (`regularSingular_of_not_endsIn_s`).
* The irregular words come in three lists.  A word on one of them has a singular on the first two,
  and those are singulars of themselves (`singular_mem_knownSingulars`, `singular_of_known`).
* The letters of plurals and singulars come from the word, or are lowercase letters (`mem_plural`,
  `mem_singular`).  A word of lowercase letters is inflected as it stands
  (`inflectLast_of_isLower`).
-/

namespace JoinPlan

namespace English

open Text

variable {word : List Char}

/-! ### Endings -/

theorem endsIn_iff {ending : String} : endsIn word ending = true ↔ ending.toList <:+ word :=
  List.isSuffixOf_iff_suffix

theorem length_le_of_endsIn {ending : String} (h : endsIn word ending = true) :
    ending.toList.length ≤ word.length :=
  (endsIn_iff.mp h).length_le

/-- Of two endings of a word one is an ending of the other. -/
theorem endsIn_of_endsIn {ending other : String} (h : endsIn word ending = true)
    (hother : endsIn word other = true) :
    endsIn ending.toList other = true ∨ endsIn other.toList ending = true := by
  simp only [endsIn_iff] at h hother ⊢
  exact List.suffix_or_suffix_of_suffix hother h

/-- So an ending rules out every other that it does not go together with. -/
theorem endsIn_eq_false {ending other : String} (h : endsIn word ending = true)
    (hother : endsIn ending.toList other = false ∧ endsIn other.toList ending = false) :
    endsIn word other = false := by
  by_contra hends
  rw [Bool.not_eq_false] at hends
  rcases endsIn_of_endsIn h hends with h | h
  · exact ne_true_of_eq_false hother.1 h
  · exact ne_true_of_eq_false hother.2 h

theorem any_endsIn_eq_false {ending : String} {others : List String}
    (h : endsIn word ending = true) (hothers : ∀ other ∈ others,
      endsIn ending.toList other = false ∧ endsIn other.toList ending = false) :
    others.any (endsIn word) = false := by
  rw [List.any_eq_false]
  exact fun other hmem => ne_true_of_eq_false (endsIn_eq_false h (hothers other hmem))

/-- A word ends in whatever is appended to it. -/
theorem endsIn_append_self {ending : String} {tail : List Char} (h : ending.toList = tail)
    (word : List Char) : endsIn (word ++ tail) ending = true := by
  rw [endsIn_iff, h]
  exact List.suffix_append word tail

/-- What an ending ends in, the word ends in. -/
theorem endsIn_trans {ending other : String} (h : endsIn word ending = true)
    (hother : endsIn ending.toList other = true) : endsIn word other = true := by
  rw [endsIn_iff] at *
  exact hother.trans h

/-- What is appended to a word and to an ending changes nothing. -/
theorem isSuffixOf_append (ending word tail : List Char) :
    (ending ++ tail).isSuffixOf (word ++ tail) = ending.isSuffixOf word := by
  rw [Bool.eq_iff_iff, List.isSuffixOf_iff_suffix, List.isSuffixOf_iff_suffix,
    List.suffix_append_self_iff]

theorem endsIn_append (ending : String) {whole : String} {tail : List Char}
    (h : whole.toList = ending.toList ++ tail) (word : List Char) :
    endsIn (word ++ tail) whole = endsIn word ending := by
  unfold endsIn
  rw [h, isSuffixOf_append]

theorem any_endsIn_append (endings : List String) {wholes : List String} {tail : List Char}
    (h : wholes.map String.toList = endings.map (·.toList ++ tail)) (word : List Char) :
    wholes.any (endsIn (word ++ tail)) = endings.any (endsIn word) := by
  have hany (endings : List String) (word : List Char) :
      endings.any (endsIn word) = (endings.map String.toList).any (·.isSuffixOf word) := by
    rw [List.any_map]
    rfl
  rw [hany, h, List.any_map]
  congr 1
  exact funext fun ending => isSuffixOf_append ending.toList word tail

/-! ### Regular singulars -/

/-- The endings behind which `es` comes off. -/
def sibilants : List String :=
  ["ss", "x", "z", "ch", "sh"]

/-- The endings behind which a final `s` stays. -/
def keptEndings : List String :=
  ["s", "u", "i"]

/-- The endings of words that lose an `e` together with a final `s`. -/
def sibilantsWithE : List String :=
  ["sse", "xe", "ze", "che", "she"]

/-- Only a final `s` makes a regular plural. -/
theorem regularSingular_of_not_endsIn_s (h : endsIn word "s" = false) :
    regularSingular word = word := by
  have hnone (endings : List String)
      (hendings : ∀ ending ∈ endings, endsIn ending.toList "s" = true) :
      endings.any (endsIn word) = false := by
    rw [List.any_eq_false]
    intro ending hmem hends
    exact ne_true_of_eq_false h (endsIn_trans hends (hendings ending hmem))
  have hies : endsIn word "ies" = false := by
    simpa using hnone ["ies"] (by decide)
  unfold regularSingular
  rw [hies, Bool.false_and, if_neg Bool.false_ne_true, hnone _ (by decide),
    if_neg Bool.false_ne_true, hnone _ (by decide), if_neg Bool.false_ne_true, h,
    if_neg Bool.false_ne_true]

/-- The regular singular of a word with a final `s`, by what stands before it. -/
theorem regularSingular_append_s (word : List Char) :
    regularSingular (word ++ ['s']) =
      if endsIn word "ie" && 2 < word.length then word.take (word.length - 2) ++ ['y']
      else if sibilantsWithE.any (endsIn word) then word.dropLast
      else if keptEndings.any (endsIn word) then word ++ ['s']
      else word := by
  have hlength : (word ++ ['s']).length = word.length + 1 := by simp
  have hstem : (word ++ ['s']).take (word.length + 1 - 3) = word.take (word.length - 2) :=
    List.take_append_of_le_length (by omega)
  have hfront : (word ++ ['s']).take (word.length + 1 - 2) = word.dropLast := by
    rw [List.dropLast_eq_take]
    exact List.take_append_of_le_length (by omega)
  have hlong : decide (3 < word.length + 1) = decide (2 < word.length) := by
    rw [decide_eq_decide]
    omega
  have hs : endsIn (word ++ ['s']) "s" = true := endsIn_append_self (by decide) word
  unfold regularSingular
  rw [endsIn_append "ie" (by decide), hlength, hstem, hfront, hlong,
    any_endsIn_append sibilantsWithE (by decide),
    any_endsIn_append keptEndings (by decide), hs, if_pos rfl,
    List.dropLast_concat]

/-- Before `es` a sibilant is left alone, and another ending keeps the `e`. -/
theorem regularSingular_append_es (h : endsIn word "i" = false) :
    regularSingular (word ++ "es".toList) =
      if sibilants.any (endsIn word) then word else word ++ ['e'] := by
  have hletter : endsIn (word ++ ['e']) "e" = true := endsIn_append_self (by decide) word
  have hword : word ++ "es".toList = word ++ ['e'] ++ ['s'] := by
    rw [List.append_assoc]
    rfl
  rw [hword, regularSingular_append_s, endsIn_append "i" (by decide), h, Bool.false_and,
    if_neg Bool.false_ne_true,
    any_endsIn_append sibilants (by decide), List.dropLast_concat,
    any_endsIn_eq_false hletter (by decide), if_neg Bool.false_ne_true]

/-- Behind an `s` a final `s` belongs to the singular, and so it does behind a `u` or an `i`. -/
theorem regularSingular_append_s_of_kept (h : keptEndings.any (endsIn word) = true) :
    regularSingular (word ++ ['s']) = word ++ ['s'] := by
  obtain ⟨ending, hmem, hends⟩ := List.any_eq_true.mp h
  have hexclusive : ∀ ending ∈ keptEndings, ∀ other ∈ "ie" :: sibilantsWithE,
      endsIn ending.toList other = false ∧ endsIn other.toList ending = false := by
    decide
  have hie := endsIn_eq_false hends (hexclusive ending hmem "ie" List.mem_cons_self)
  have hsibilant : sibilantsWithE.any (endsIn word) = false :=
    any_endsIn_eq_false hends fun other hother =>
      hexclusive ending hmem other (List.mem_cons_of_mem _ hother)
  rw [regularSingular_append_s, hie, Bool.false_and, if_neg Bool.false_ne_true, hsibilant,
    if_neg Bool.false_ne_true, if_pos h]

/-- Words that end in `y` or in a sibilant are singulars. -/
theorem regularSingular_of_settled (h : ("y" :: sibilants).any (endsIn word) = true) :
    regularSingular word = word := by
  obtain ⟨ending, hmem, hends⟩ := List.any_eq_true.mp h
  by_cases hdouble : endsIn word "ss" = true
  · obtain ⟨stem, rfl⟩ := endsIn_iff.mp hdouble
    have hword : stem ++ "ss".toList = stem ++ ['s'] ++ ['s'] := by
      rw [List.append_assoc]
      rfl
    have hkept : keptEndings.any (endsIn (stem ++ ['s'])) = true :=
      List.any_eq_true.mpr ⟨"s", List.mem_cons_self, endsIn_append_self (by decide) stem⟩
    rw [hword, regularSingular_append_s_of_kept hkept]
  · have hexclusive : ∀ ending ∈ "y" :: sibilants, ending = "ss" ∨
        endsIn ending.toList "s" = false ∧ endsIn "s".toList ending = false := by
      decide
    rcases hexclusive ending hmem with rfl | hnot
    · exact absurd hends hdouble
    · exact regularSingular_of_not_endsIn_s (endsIn_eq_false hends hnot)

/-- The regular singular is the word itself, or ends in `y` or a sibilant, or it is what stands
before a single final `s`. -/
theorem regularSingular_cases (word : List Char) :
    regularSingular word = word ∨
      ("y" :: sibilants).any (endsIn (regularSingular word)) = true ∨
      word = regularSingular word ++ ['s'] ∧ endsIn (regularSingular word) "s" = false := by
  by_cases hs : endsIn word "s" = true
  · obtain ⟨stem, rfl⟩ := endsIn_iff.mp hs
    have hs : "s".toList = ['s'] := rfl
    rw [hs, regularSingular_append_s]
    split
    · -- A consonant has its `y` again.
      exact .inr (.inl (List.any_eq_true.mpr
        ⟨"y", List.mem_cons_self, endsIn_append_self (by decide) _⟩))
    split
    · -- A sibilant has lost `es`.
      rename_i hsibilant
      obtain ⟨ending, hmem, hends⟩ := List.any_eq_true.mp hsibilant
      have hletter : ∀ ending ∈ sibilantsWithE, endsIn ending.toList "e" = true := by decide
      obtain ⟨front, rfl⟩ := endsIn_iff.mp (endsIn_trans hends (hletter ending hmem))
      have hfront : (front ++ "e".toList).dropLast = front := List.dropLast_concat
      rw [any_endsIn_append sibilants (by decide)] at hsibilant
      rw [hfront, List.any_cons, hsibilant, Bool.or_true]
      exact .inr (.inl rfl)
    split
    · exact .inl rfl
    · rename_i hkept
      refine .inr (.inr ⟨rfl, Bool.eq_false_iff.mpr fun hends => hkept ?_⟩)
      exact List.any_eq_true.mpr ⟨"s", List.mem_cons_self, hends⟩
  · exact .inl (regularSingular_of_not_endsIn_s (Bool.eq_false_iff.mpr hs))

/-- **What the endings make singular has no other singular by them.** -/
theorem regularSingular_regularSingular (word : List Char) :
    regularSingular (regularSingular word) = regularSingular word := by
  rcases regularSingular_cases word with hword | hsettled | ⟨_, hends⟩
  · rw [hword, hword]
  · exact regularSingular_of_settled hsettled
  · exact regularSingular_of_not_endsIn_s hends

/-! ### Words on the lists -/

/-- The words that are listed as singulars. -/
def knownSingulars : List (List Char) :=
  uncountable ++ irregularSingulars

/-- The words that are listed, as singulars or as plurals. -/
def knownWords : List (List Char) :=
  knownSingulars ++ irregularPlurals

theorem mem_knownWords_of_singular (h : word ∈ knownSingulars) : word ∈ knownWords :=
  List.mem_append_left _ h

/-- The words on the lists are words of several lowercase letters. -/
theorem isLower_of_known (h : word ∈ knownWords) :
    1 < word.length ∧ ∀ c ∈ word, c.isLower = true := by
  have htable : ∀ known ∈ knownWords, 1 < known.length ∧ known.all Char.isLower = true := by
    decide
  exact (htable word h).imp_right List.all_eq_true.mp

/-- The irregular words: a singular comes back from its plural, a plural is no singular and ends in
nothing that only singulars end in, and if it ends in no `s` it is the singular of itself with an
`s`. -/
theorem irregular_table : ∀ entry ∈ irregular, singular (plural entry.1) = entry.1 ∧
    singular entry.2 ≠ entry.2 ∧ ("y" :: sibilants).any (endsIn entry.2) = false ∧
      (endsIn entry.2 "s" = false → singular (entry.2 ++ ['s']) = entry.2) := by
  decide +kernel

theorem singular_of_known (h : word ∈ knownSingulars) : singular word = word := by
  unfold singular
  rw [if_pos]
  simpa [knownSingulars] using h

theorem singular_of_irregularPlural (h : word ∈ irregularPlurals) (hknown : word ∉ knownSingulars) :
    singular word ∈ irregularSingulars := by
  simp only [knownSingulars, List.mem_append, not_or] at hknown
  obtain ⟨entry, hentry, hplural⟩ := List.mem_map.mp h
  have hsome : (irregular.find? (·.2 == word)).isSome = true :=
    List.find?_isSome.mpr ⟨entry, hentry, beq_iff_eq.mpr hplural⟩
  obtain ⟨found, hfound⟩ := Option.isSome_iff_exists.mp hsome
  unfold singular
  rw [if_neg (by simp [hknown.1, hknown.2]), hfound]
  exact List.mem_map.mpr ⟨found, List.mem_of_find?_eq_some hfound, rfl⟩

/-- A word on the lists has its singular there. -/
theorem singular_mem_knownSingulars (h : word ∈ knownWords) : singular word ∈ knownSingulars := by
  by_cases hknown : word ∈ knownSingulars
  · rwa [singular_of_known hknown]
  · have hplural := (List.mem_append.mp h).resolve_left hknown
    exact List.mem_append_right _ (singular_of_irregularPlural hplural hknown)

theorem singular_plural_of_known (h : word ∈ knownSingulars) : singular (plural word) = word := by
  rcases List.mem_append.mp h with huncountable | hsingular
  · have hplural : plural word = word := by
      unfold plural
      rw [if_pos (by simp [huncountable])]
    rw [hplural, singular_of_known h]
  · obtain ⟨entry, hentry, rfl⟩ := List.mem_map.mp hsingular
    exact (irregular_table entry hentry).1

theorem plural_of_irregularPlural (h : word ∈ irregularPlurals) : plural word = word := by
  unfold plural
  rw [if_pos (by simp [h])]

/-- For the other words the ending decides. -/
theorem singular_of_unknown (h : word ∉ knownWords) : singular word = regularSingular word := by
  simp only [knownWords, knownSingulars, List.mem_append, not_or] at h
  obtain ⟨⟨huncountable, hsingular⟩, hplural⟩ := h
  have hnone : irregular.find? (·.2 == word) = none := by
    rw [List.find?_eq_none]
    intro entry hentry heq
    exact hplural (List.mem_map.mpr ⟨entry, hentry, beq_iff_eq.mp heq⟩)
  unfold singular
  rw [if_neg (by simp [huncountable, hsingular]), hnone]
  rfl

theorem singular_nil : singular [] = [] := by
  have hunknown : [] ∉ knownWords := fun h => absurd (isLower_of_known h).1 (by decide)
  rw [singular_of_unknown hunknown, regularSingular_of_not_endsIn_s (by decide)]

theorem plural_of_unknown (h : word ∉ knownWords) : plural word = regularPlural word := by
  simp only [knownWords, knownSingulars, List.mem_append, not_or] at h
  obtain ⟨⟨huncountable, hsingular⟩, hplural⟩ := h
  have hnone : irregular.lookup word = none := by
    rw [List.lookup_eq_none_iff]
    intro entry hentry
    rw [bne_iff_ne]
    exact fun heq => hsingular (List.mem_map.mpr ⟨entry, hentry, heq.symm⟩)
  unfold plural
  rw [if_neg (by simp [huncountable, hplural]), hnone]
  rfl

/-! ### Letters -/

theorem mem_regularSingular {c : Char} (h : c ∈ regularSingular word) : c ∈ word ∨ c = 'y' := by
  unfold regularSingular at h
  split at h
  · rw [List.mem_append, List.mem_singleton] at h
    exact h.imp_left List.mem_of_mem_take
  split at h
  · exact .inl (List.mem_of_mem_take h)
  split at h
  · exact .inl h
  split at h
  · exact .inl (List.mem_of_mem_dropLast h)
  · exact .inl h

theorem mem_regularPlural {c : Char} (h : c ∈ regularPlural word) :
    c ∈ word ∨ c.isLower = true := by
  have hletters {ending : List Char} (hending : ending.all Char.isLower = true) (hc : c ∈ ending) :
      c.isLower = true :=
    List.all_eq_true.mp hending c hc
  unfold regularPlural at h
  split at h
  · rw [List.mem_append] at h
    exact h.imp List.mem_of_mem_dropLast (hletters (by decide))
  split at h
  · rw [List.mem_append] at h
    exact h.imp_right (hletters (by decide))
  · rw [List.mem_append] at h
    exact h.imp_right (hletters (by decide))

/-- The letters of a singular come from the word, or are lowercase letters. -/
theorem mem_singular {c : Char} (h : c ∈ singular word) : c ∈ word ∨ c.isLower = true := by
  unfold singular at h
  split at h
  · exact .inl h
  · cases hfind : irregular.find? (·.2 == word) with
    | none =>
      rw [hfind] at h
      exact (mem_regularSingular h).imp_right fun hy => by rw [hy]; decide
    | some entry =>
      rw [hfind] at h
      have hentry := List.mem_map_of_mem (f := (·.1)) (List.mem_of_find?_eq_some hfind)
      have hknown := mem_knownWords_of_singular (List.mem_append_right uncountable hentry)
      exact .inr ((isLower_of_known hknown).2 c h)

/-- The letters of a plural come from the word, or are lowercase letters. -/
theorem mem_plural {c : Char} (h : c ∈ plural word) : c ∈ word ∨ c.isLower = true := by
  unfold plural at h
  split at h
  · exact .inl h
  · cases hlookup : irregular.lookup word with
    | none =>
      rw [hlookup] at h
      exact mem_regularPlural h
    | some known =>
      rw [hlookup] at h
      obtain ⟨front, back, hentries, _⟩ := List.lookup_eq_some_iff.mp hlookup
      have hentry : (word, known) ∈ irregular := by
        rw [hentries]
        simp
      have hplural := List.mem_map_of_mem (f := (·.2)) hentry
      exact .inr ((isLower_of_known (List.mem_append_right knownSingulars hplural)).2 c h)

/-! ### Words of lowercase letters -/

/-- A text of lowercase letters is a single word. -/
theorem splitLastWord_of_isLower (h : ∀ c ∈ word, c.isLower = true) :
    splitLastWord word = ([], word) := by
  induction word with
  | nil => rfl
  | cons c rest ih =>
    rw [List.forall_mem_cons] at h
    have hdot : c ≠ '.' := fun hc => absurd h.1 (by rw [hc]; decide)
    have hcapital : isCapitalized rest = false := by
      cases rest with
      | nil => rfl
      | cons d others => exact (casing_of_isLower (h.2 d List.mem_cons_self)).1
    rw [splitLastWord, ih h.2]
    dsimp only
    rw [hcapital, Bool.or_false, if_neg (by simpa using hdot)]

/-- So it is inflected as it stands. -/
theorem inflectLast_of_isLower (inflect : List Char → List Char) (h : ∀ c ∈ word, c.isLower = true)
    (hnil : word ≠ []) : inflectLast inflect word = inflect word := by
  have hcapital : isCapitalized word = false := by
    cases word with
    | nil => rfl
    | cons c rest => exact (casing_of_isLower (h c List.mem_cons_self)).1
  unfold inflectLast matchCase
  rw [splitLastWord_of_isLower h]
  dsimp only
  rw [if_neg (by simpa using hnil), hcapital, if_neg Bool.false_ne_true, lowercase_of_isLower h,
    List.nil_append]

end English

/-- The plural of a word of lowercase letters. -/
theorem Naming.english_pluralize_of_isLower {word : String} (hword : word ≠ "")
    (h : ∀ c ∈ word.toList, c.isLower = true) :
    Naming.english.pluralize word = String.ofList (English.plural word.toList) :=
  congrArg String.ofList (English.inflectLast_of_isLower English.plural h
    fun hnil => hword (String.toList_eq_nil_iff.mp hnil))

/-- Its singular. -/
theorem Naming.english_singularize_of_isLower {word : String}
    (h : ∀ c ∈ word.toList, c.isLower = true) :
    Naming.english.singularize word = String.ofList (English.singular word.toList) := by
  by_cases hword : word.toList = []
  · show String.ofList (English.singularize word.toList) = _
    rw [hword, English.singular_nil]
    rfl
  · exact congrArg String.ofList (English.inflectLast_of_isLower English.singular h hword)

end JoinPlan
