import JoinPlan.Proofs.Naming.Words

/-!
# Plurals undone and singulars repeated

Which words of lowercase letters are the singulars of their plurals
(`Naming.english_singularize_pluralize_iff`), and which have a singular that is a plural in turn
(`Naming.english_singularize_singularize_iff`).

Both are settled for the endings first.  The regular plural of a word shows the word unless it is
taken for a plural of another kind (`English.regularSingular_regularPlural_iff`), and the endings
make no singular that they would change again (`English.regularSingular_regularSingular`).  Then the
listed words come in: they have listed singulars, so that a word that is not listed is not the
singular of a listed one, and only a listed plural that an ending has made is changed again.
-/

namespace JoinPlan

namespace English

variable {word : List Char}

/-! ### Plurals undone -/

/-- Endings with which another word is taken for the singular of the regular plural. -/
def lostEndings : List String :=
  ["s", "u", "i", "sse", "xe", "ze", "che", "she"]

/-- An `s` behind the word comes off again and takes nothing with it. -/
def BearsPluralS (word : List Char) : Prop :=
  (∀ ending ∈ lostEndings, endsIn word ending = false) ∧
    ∀ stem, stem ≠ [] → word ≠ stem ++ "ie".toList

/-- The regular plural of a word shows the word: it ends in `ss`, or its `s` comes off. -/
def ShowsInPlural (word : List Char) : Prop :=
  endsIn word "ss" = true ∨ BearsPluralS word

theorem long_ie_iff : (endsIn word "ie" && decide (2 < word.length)) = true ↔
    ∃ stem, stem ≠ [] ∧ word = stem ++ "ie".toList := by
  rw [Bool.and_eq_true, decide_eq_true_eq, endsIn_iff]
  constructor
  · rintro ⟨⟨stem, rfl⟩, hlength⟩
    refine ⟨stem, ?_, rfl⟩
    rintro rfl
    exact absurd hlength (by decide)
  · rintro ⟨stem, hstem, rfl⟩
    refine ⟨List.suffix_append _ _, ?_⟩
    have hpositive := List.length_pos_iff.mpr hstem
    have hending : "ie".toList.length = 2 := rfl
    rw [List.length_append]
    omega

theorem regularSingular_append_ies {stem : List Char} (h : stem ≠ []) :
    regularSingular (stem ++ "ies".toList) = stem ++ ['y'] := by
  have hword : stem ++ "ies".toList = stem ++ "ie".toList ++ ['s'] := by
    rw [List.append_assoc]
    rfl
  have hending : "ie".toList.length = 2 := rfl
  have hstem : (stem ++ "ie".toList).take ((stem ++ "ie".toList).length - 2) = stem := by
    rw [List.length_append, hending, Nat.add_sub_cancel, List.take_left]
  rw [hword, regularSingular_append_s, if_pos (long_ie_iff.mpr ⟨stem, h, rfl⟩), hstem]

/-- An ending that goes with none of the lost ones keeps a word from being lost. -/
theorem bearsPluralS_of_endsIn {ending : String} (h : endsIn word ending = true)
    (hothers : ∀ other ∈ "ie" :: lostEndings,
      endsIn ending.toList other = false ∧ endsIn other.toList ending = false) :
    BearsPluralS word := by
  constructor
  · intro other hmem
    exact endsIn_eq_false h (hothers other (List.mem_cons_of_mem _ hmem))
  · rintro stem _ rfl
    have hie := endsIn_eq_false h (hothers "ie" List.mem_cons_self)
    exact ne_true_of_eq_false hie (endsIn_append_self rfl stem)

theorem bearsPluralS_iff : BearsPluralS word ↔
    (endsIn word "ie" && decide (2 < word.length)) = false ∧
      sibilantsWithE.any (endsIn word) = false ∧ keptEndings.any (endsIn word) = false := by
  have hparts : lostEndings = keptEndings ++ sibilantsWithE := rfl
  have hlost : (∀ ending ∈ lostEndings, endsIn word ending = false) ↔
      keptEndings.any (endsIn word) = false ∧ sibilantsWithE.any (endsIn word) = false := by
    rw [hparts, List.forall_mem_append]
    simp only [List.any_eq_false, Bool.not_eq_true]
  have hie : (∀ stem, stem ≠ [] → word ≠ stem ++ "ie".toList) ↔
      (endsIn word "ie" && decide (2 < word.length)) = false := by
    rw [← Bool.not_eq_true, long_ie_iff]
    simp only [not_exists, not_and, ne_eq]
  rw [BearsPluralS, hlost, hie]
  tauto

theorem regularSingular_append_s_eq_iff :
    regularSingular (word ++ ['s']) = word ↔ BearsPluralS word := by
  have hlength {other : List Char} (h : other.length ≠ word.length) : other ≠ word :=
    fun heq => h (congrArg List.length heq)
  rw [regularSingular_append_s, bearsPluralS_iff]
  -- Each rule but the last one gives a word of another length.
  split
  · rename_i hie
    have hlong := of_decide_eq_true (Bool.and_eq_true_iff.mp hie).2
    refine iff_of_false (hlength ?_) fun h => ne_true_of_eq_false h.1 hie
    rw [List.length_append, List.length_take, List.length_singleton]
    omega
  rename_i hie
  split
  · rename_i hsibilant
    obtain ⟨ending, hmem, hends⟩ := List.any_eq_true.mp hsibilant
    have hlong : ∀ ending ∈ sibilantsWithE, 0 < ending.toList.length := by decide
    have hending := hlong ending hmem
    have hword := length_le_of_endsIn hends
    refine iff_of_false (hlength ?_) fun h => ne_true_of_eq_false h.2.1 hsibilant
    rw [List.length_dropLast]
    omega
  rename_i hsibilant
  split
  · rename_i hkept
    exact iff_of_false (hlength (by simp)) fun h => ne_true_of_eq_false h.2.2 hkept
  · rename_i hkept
    rw [Bool.not_eq_true] at hie hsibilant hkept
    exact iff_of_true rfl ⟨hie, hsibilant, hkept⟩

/-- The endings before which a regular plural has an `e` go with none of the lost ones but `s`. -/
theorem showsInPlural_iff_of_sibilant
    (h : ["s", "x", "z", "ch", "sh"].any (endsIn word) = true) :
    ShowsInPlural word ↔ sibilants.any (endsIn word) = true := by
  obtain ⟨ending, hmem, hends⟩ := List.any_eq_true.mp h
  have hexclusive : ∀ ending ∈ ["s", "x", "z", "ch", "sh"], ending = "s" ∨
      ending ∈ sibilants ∧ ∀ other ∈ "ie" :: lostEndings,
        endsIn ending.toList other = false ∧ endsIn other.toList ending = false := by
    decide
  rcases hexclusive ending hmem with rfl | ⟨hsibilant, hothers⟩
  · have hnot : ¬ BearsPluralS word := fun hbears =>
      ne_true_of_eq_false (hbears.1 "s" List.mem_cons_self) hends
    have hsibilants : ∀ other ∈ sibilants.tail,
        endsIn "s".toList other = false ∧ endsIn other.toList "s" = false := by
      decide
    have hdouble : sibilants.any (endsIn word) = endsIn word "ss" := by
      show (endsIn word "ss" || sibilants.tail.any (endsIn word)) = _
      rw [any_endsIn_eq_false hends hsibilants, Bool.or_false]
    rw [ShowsInPlural, or_iff_left hnot, hdouble]
  · exact iff_of_true (.inr (bearsPluralS_of_endsIn hends hothers))
      (List.any_eq_true.mpr ⟨ending, hsibilant, hends⟩)

/-- **Which words their regular plurals show.** -/
theorem regularSingular_regularPlural_iff :
    regularSingular (regularPlural word) = word ↔ ShowsInPlural word := by
  unfold regularPlural
  split
  · -- A `y` behind a consonant becomes `ies`, and `ies` becomes `y`.
    rename_i hy
    obtain ⟨hends, hconsonant⟩ := Bool.and_eq_true_iff.mp hy
    obtain ⟨stem, rfl⟩ := endsIn_iff.mp hends
    have hstem : (stem ++ "y".toList).dropLast = stem := List.dropLast_concat
    rw [hstem] at hconsonant ⊢
    have hnil : stem ≠ [] := by
      rintro rfl
      cases hconsonant
    exact iff_of_true (regularSingular_append_ies hnil)
      (.inr (bearsPluralS_of_endsIn hends (by decide)))
  split
  · -- The `e` that the plural has before its `s` comes off behind a sibilant only.
    rename_i hes
    obtain ⟨ending, hmem, hends⟩ := List.any_eq_true.mp hes
    have hexclusive : ∀ ending ∈ ["s", "x", "z", "ch", "sh"],
        endsIn ending.toList "i" = false ∧ endsIn "i".toList ending = false := by
      decide
    rw [showsInPlural_iff_of_sibilant hes,
      regularSingular_append_es (endsIn_eq_false hends (hexclusive ending hmem))]
    split
    · rename_i hsibilant
      exact iff_of_true rfl hsibilant
    · rename_i hsibilant
      exact iff_of_false (by simp) hsibilant
  · -- The plural has the word before its `s`.
    rename_i hes
    have hdouble : endsIn word "ss" = false := by
      refine Bool.eq_false_iff.mpr fun hends => hes (List.any_eq_true.mpr ?_)
      exact ⟨"s", List.mem_cons_self, endsIn_trans hends (by decide)⟩
    rw [regularSingular_append_s_eq_iff, ShowsInPlural, hdouble]
    exact (or_iff_right Bool.false_ne_true).symm

/-- **Which words are the singulars of their plurals**: the words that are listed as singulars, and
of the others those that show in a plural that is not listed. -/
theorem singular_plural_iff : singular (plural word) = word ↔
    word ∈ knownSingulars ∨ plural word ∉ knownWords ∧ ShowsInPlural word := by
  by_cases hsingular : word ∈ knownSingulars
  · exact iff_of_true (singular_plural_of_known hsingular) (.inl hsingular)
  rw [or_iff_right hsingular]
  by_cases hlisted : plural word ∈ knownWords
  · refine iff_of_false (fun h => hsingular ?_) fun h => h.1 hlisted
    rw [← h]
    exact singular_mem_knownSingulars hlisted
  · have hword : word ∉ knownWords := by
      intro hknown
      have hplural := (List.mem_append.mp hknown).resolve_left hsingular
      exact hlisted (by rwa [plural_of_irregularPlural hplural])
    rw [and_iff_right hlisted, singular_of_unknown hlisted, plural_of_unknown hword,
      regularSingular_regularPlural_iff]

/-! ### Singulars repeated -/

/-- **Which singulars are singulars of themselves**: those of all words but the listed plurals
without a final `s` that are followed by one. -/
theorem singular_singular_iff : singular (singular word) = singular word ↔
    ∀ known ∈ irregularPlurals, endsIn known "s" = false → word ≠ known ++ ['s'] := by
  constructor
  · rintro h known hknown hends rfl
    obtain ⟨entry, hentry, rfl⟩ := List.mem_map.mp hknown
    obtain ⟨_, hplural, _, hsingular⟩ := irregular_table entry hentry
    rw [hsingular hends] at h
    exact hplural h
  · intro hword
    by_cases hlisted : word ∈ knownWords
    · exact singular_of_known (singular_mem_knownSingulars hlisted)
    rw [singular_of_unknown hlisted]
    by_cases hagain : regularSingular word ∈ knownWords
    · rcases List.mem_append.mp hagain with hsingular | hplural
      · exact singular_of_known hsingular
      · have hunsettled : ("y" :: sibilants).any (endsIn (regularSingular word)) = false := by
          obtain ⟨entry, hentry, heq⟩ := List.mem_map.mp hplural
          rw [← heq]
          exact (irregular_table entry hentry).2.2.1
        rcases regularSingular_cases word with heq | hsettled | ⟨heq, hends⟩
        · exact absurd (heq ▸ hagain) hlisted
        · exact absurd hsettled (ne_true_of_eq_false hunsettled)
        · exact absurd heq (hword _ hplural hends)
    · rw [singular_of_unknown hagain, regularSingular_regularSingular]

end English

/-! ### Names -/

/-- **Which words come back from their plurals.**  A non-empty word of lowercase letters is the
singular of its plural exactly when it is listed as a singular, or when its plural is not listed and
the word ends in `ss`, or else in none of the lost endings and not in `ie` after other letters. -/
theorem Naming.english_singularize_pluralize_iff {word : String} (hword : word ≠ "")
    (hlower : ∀ c ∈ word.toList, c.isLower = true) :
    Naming.english.singularize (Naming.english.pluralize word) = word ↔
      word.toList ∈ English.knownSingulars ∨
        (Naming.english.pluralize word).toList ∉ English.knownWords ∧
          English.ShowsInPlural word.toList := by
  have hplural : ∀ c ∈ (String.ofList (English.plural word.toList)).toList, c.isLower = true := by
    rw [String.toList_ofList]
    exact fun c hc => (English.mem_plural hc).elim (hlower c) id
  rw [Naming.english_pluralize_of_isLower hword hlower,
    Naming.english_singularize_of_isLower hplural, String.toList_ofList,
    ← English.singular_plural_iff, ← String.toList_inj, String.toList_ofList]

/-- An uncountable word comes back, and a word in `u` does not: its plural looks like a singular. -/
theorem Naming.english_singularize_pluralize_sheep :
    let naming := Naming.english
    naming.singularize (naming.pluralize "sheep") = "sheep" ∧
      naming.singularize (naming.pluralize "menu") ≠ "menu" := by
  intro naming
  have hsheep : ∀ c ∈ "sheep".toList, c.isLower = true := List.all_eq_true.mp (by decide)
  have hmenu : ∀ c ∈ "menu".toList, c.isLower = true := List.all_eq_true.mp (by decide)
  constructor
  · refine (Naming.english_singularize_pluralize_iff (by decide) hsheep).mpr (.inl ?_)
    simp [English.knownSingulars, English.uncountable]
  · intro h
    rcases (Naming.english_singularize_pluralize_iff (by decide) hmenu).mp h with hknown | hshows
    · exact absurd hknown (by decide)
    · rcases hshows.2 with hdouble | hbears
      · exact absurd hdouble (by decide)
      · exact absurd (hbears.1 "u" (by decide)) (by decide)

/-- **Which words have a singular that stays.**  The singular of a word of lowercase letters is its
own singular, unless the word is an irregular plural without a final `s` that is followed by one. -/
theorem Naming.english_singularize_singularize_iff {word : String}
    (hlower : ∀ c ∈ word.toList, c.isLower = true) :
    Naming.english.singularize (Naming.english.singularize word) = Naming.english.singularize word ↔
      ¬ ∃ known ∈ English.irregularPlurals,
        English.endsIn known "s" = false ∧ word.toList = known ++ ['s'] := by
  have hsingular : ∀ c ∈ (String.ofList (English.singular word.toList)).toList,
      c.isLower = true := by
    rw [String.toList_ofList]
    exact fun c hc => (English.mem_singular hc).elim (hlower c) id
  rw [Naming.english_singularize_of_isLower hlower, Naming.english_singularize_of_isLower hsingular,
    String.toList_ofList, String.ofList_inj, English.singular_singular_iff]
  simp only [not_exists, not_and]

/-- The singular of `peoples` is a plural, and that of `geese` is none. -/
theorem Naming.english_singularize_singularize_peoples :
    let naming := Naming.english
    naming.singularize (naming.singularize "peoples") ≠ naming.singularize "peoples" ∧
      naming.singularize (naming.singularize "geese") = naming.singularize "geese" := by
  intro naming
  have hpeoples : ∀ c ∈ "peoples".toList, c.isLower = true := List.all_eq_true.mp (by decide)
  have hgeese : ∀ c ∈ "geese".toList, c.isLower = true := List.all_eq_true.mp (by decide)
  constructor
  · intro h
    refine (Naming.english_singularize_singularize_iff hpeoples).mp h ⟨"people".toList, ?_⟩
    exact ⟨by decide, by decide, by decide⟩
  · refine (Naming.english_singularize_singularize_iff hgeese).mpr ?_
    rintro ⟨known, _, _, hword⟩
    have hlast := congrArg List.getLast? hword
    rw [List.getLast?_concat] at hlast
    exact absurd hlast (by decide)

end JoinPlan
