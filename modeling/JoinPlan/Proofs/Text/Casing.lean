import JoinPlan.Text.Casing

/-!
# What casing leaves and makes

Casing leaves dots alone and makes none: the tables map no other character to a dot.  So a text
without dots has none in lowercase (`dot_notMem_lowercase`) or with a capital
(`dot_notMem_capitalize`).

Nor does it make a text empty (`lowercase_eq_nil_iff`, `capitalize_eq_nil_iff`), since every
character is mapped to one at least.  What a single letter may come from is a question to the
tables: of all texts, only `s` and `S` are `s` in lowercase (`lowercase_eq_s_iff`).  A text of the
lowercase letters from `a` to `z` stays as it is (`lowercase_of_isLower`).
-/

namespace JoinPlan.Text

/-! ### Code points -/

/-- What a mapping reaches it has left there, or moved there with one of its runs. -/
theorem CodeShift.apply_eq {shifts : List CodeShift} {target code : Nat}
    (h : CodeShift.apply shifts code = target) : code = target ∨
      ∃ shift ∈ shifts, shift.run.contains code = true ∧ (code + shift.amount).toNat = target := by
  induction shifts with
  | nil => exact .inl h
  | cons shift rest ih =>
    rw [CodeShift.apply] at h
    split at h
    · exact .inl h
    · split at h
      · rename_i hrun
        exact .inr ⟨shift, List.mem_cons_self, hrun, h⟩
      · exact (ih h).imp_right fun ⟨other, hother, hmoved⟩ =>
          ⟨other, List.mem_cons_of_mem _ hother, hmoved⟩

/-- A mapping whose runs all go beyond a code point reaches the code point from itself alone. -/
theorem CodeShift.apply_ne {shifts : List CodeShift} {target code : Nat}
    (hshifts : ∀ shift ∈ shifts, (target : Int) < shift.run.first + shift.amount)
    (hcode : code ≠ target) : CodeShift.apply shifts code ≠ target := by
  intro h
  obtain ⟨shift, hshift, hrun, hmoved⟩ := (CodeShift.apply_eq h).resolve_left hcode
  have hbeyond := hshifts shift hshift
  simp only [CodeRun.contains, Bool.and_eq_true, decide_eq_true_eq] at hrun
  omega

/-- A character other than the null character has one code point. -/
theorem eq_toNat_of_ofNat_eq {code : Nat} {c : Char} (hc : c ≠ Char.ofNat 0)
    (h : Char.ofNat code = c) : code = c.toNat := by
  by_cases hvalid : code.isValidChar
  · have hchar : Char.ofNat code = Char.ofNatAux code hvalid := dif_pos hvalid
    rw [hchar] at h
    exact congrArg Char.toNat h
  · have hzero : Char.ofNat code = Char.ofNat 0 := dif_neg hvalid
    exact absurd (h.symm.trans hzero) hc

/-! ### Dots -/

/-- No character but a dot is mapped to a dot, if the tables have none. -/
theorem dot_notMem_mapCase {expansions : List (Nat × List Nat)} {shifts : List CodeShift}
    (hexpansions : ∀ expansion ∈ expansions, ∀ code ∈ expansion.2, code ≠ '.'.toNat)
    (hshifts : ∀ shift ∈ shifts, ('.'.toNat : Int) < shift.run.first + shift.amount)
    {c : Char} (hc : c ≠ '.') : '.' ∉ mapCase expansions shifts c := by
  have hcode : c.toNat ≠ '.'.toNat := fun h => hc (Char.toNat_inj.mp h)
  intro hmem
  unfold mapCase at hmem
  split at hmem
  · rename_i codes hlookup
    obtain ⟨code, hmem, hdot⟩ := List.mem_map.mp hmem
    obtain ⟨front, back, rfl, _⟩ := List.lookup_eq_some_iff.mp hlookup
    have hcodes := hexpansions (c.toNat, codes) (by simp)
    exact hcodes code hmem (eq_toNat_of_ofNat_eq (by decide) hdot)
  · have hdot := List.mem_singleton.mp hmem
    exact CodeShift.apply_ne hshifts hcode (eq_toNat_of_ofNat_eq (by decide) hdot.symm)

theorem dot_notMem_toUpper {c : Char} (hc : c ≠ '.') : '.' ∉ toUpper c :=
  dot_notMem_mapCase (by decide +kernel) (by decide +kernel) hc

theorem dot_notMem_toLower {c : Char} (hc : c ≠ '.') : '.' ∉ toLower c :=
  dot_notMem_mapCase (by decide +kernel) (by decide +kernel) hc

/-- In lowercase a text has no dots that it did not have. -/
theorem dot_notMem_lowercase {cs : List Char} (h : '.' ∉ cs) : '.' ∉ lowercase cs := by
  suffices hafter : ∀ before, '.' ∉ lowercaseAfter before cs from hafter []
  induction cs with
  | nil => exact fun _ => List.not_mem_nil
  | cons c rest ih =>
    intro before
    rw [List.mem_cons, not_or] at h
    have hrest := ih h.2 (c :: before)
    rw [lowercaseAfter, List.mem_append, not_or]
    refine ⟨?_, hrest⟩
    split
    · unfold lowerSigma
      split <;> decide
    · exact dot_notMem_toLower (Ne.symm h.1)

/-- With a capital a text has no dots that it did not have. -/
theorem dot_notMem_capitalize {cs : List Char} (h : '.' ∉ cs) : '.' ∉ capitalize cs := by
  cases cs with
  | nil => exact h
  | cons c rest =>
    rw [List.mem_cons, not_or] at h
    rw [capitalize, List.mem_append, not_or]
    exact ⟨dot_notMem_toUpper (Ne.symm h.1), h.2⟩

/-! ### Single letters -/

/-- Every character is mapped to one at least, if every expansion has one. -/
theorem mapCase_ne_nil {expansions : List (Nat × List Nat)} {shifts : List CodeShift}
    (hexpansions : ∀ expansion ∈ expansions, expansion.2 ≠ []) (c : Char) :
    mapCase expansions shifts c ≠ [] := by
  unfold mapCase
  split
  · rename_i codes hlookup
    obtain ⟨front, back, rfl, _⟩ := List.lookup_eq_some_iff.mp hlookup
    have hcodes := hexpansions (c.toNat, codes) (by simp)
    exact fun hnil => hcodes (List.map_eq_nil_iff.mp hnil)
  · exact List.cons_ne_nil _ _

/-- One character comes from a code point that is moved to its own, if every expansion has more. -/
theorem apply_of_mapCase_eq_singleton {expansions : List (Nat × List Nat)}
    {shifts : List CodeShift} (hexpansions : ∀ expansion ∈ expansions, expansion.2.length ≠ 1)
    {c d : Char} (hd : d ≠ Char.ofNat 0) (h : mapCase expansions shifts c = [d]) :
    CodeShift.apply shifts c.toNat = d.toNat := by
  unfold mapCase at h
  split at h
  · rename_i codes hlookup
    obtain ⟨front, back, rfl, _⟩ := List.lookup_eq_some_iff.mp hlookup
    have hcodes := hexpansions (c.toNat, codes) (by simp)
    have hlength := congrArg List.length h
    rw [List.length_map] at hlength
    exact absurd hlength hcodes
  · exact eq_toNat_of_ofNat_eq hd (List.singleton_inj.mp h)

theorem toLower_ne_nil (c : Char) : toLower c ≠ [] :=
  mapCase_ne_nil (by decide) c

theorem toUpper_ne_nil (c : Char) : toUpper c ≠ [] :=
  mapCase_ne_nil (by decide +kernel) c

/-- The letters that are `s` in lowercase. -/
theorem eq_of_toLower_eq_s {c : Char} (h : toLower c = ['s']) : c = 's' ∨ c = 'S' := by
  have htable : ∀ shift ∈ lowercaseShifts,
      shift.run.contains ('s'.toNat - shift.amount).toNat = true →
        ('s'.toNat - shift.amount).toNat = 'S'.toNat := by
    decide +kernel
  have hcode := apply_of_mapCase_eq_singleton (by decide) (by decide) h
  rcases CodeShift.apply_eq hcode with hstays | ⟨shift, hshift, hrun, hmoved⟩
  · exact .inl (Char.toNat_inj.mp hstays)
  · have hpositive : 0 < 's'.toNat := by decide
    have hfrom : c.toNat = ('s'.toNat - shift.amount).toNat := by omega
    rw [hfrom] at hrun
    exact .inr (Char.toNat_inj.mp (hfrom.trans (htable shift hshift hrun)))

/-! ### Short texts -/

theorem lowercaseAfter_eq_nil_iff {before cs : List Char} :
    lowercaseAfter before cs = [] ↔ cs = [] := by
  cases cs with
  | nil => exact iff_of_true rfl rfl
  | cons c rest =>
    refine iff_of_false (fun h => ?_) (List.cons_ne_nil _ _)
    rw [lowercaseAfter, List.append_eq_nil_iff] at h
    obtain ⟨hfirst, _⟩ := h
    split at hfirst
    · cases hfirst
    · exact toLower_ne_nil c hfirst

/-- In lowercase only the empty text is empty. -/
theorem lowercase_eq_nil_iff {cs : List Char} : lowercase cs = [] ↔ cs = [] :=
  lowercaseAfter_eq_nil_iff

/-- With a capital only the empty text is empty. -/
theorem capitalize_eq_nil_iff {cs : List Char} : capitalize cs = [] ↔ cs = [] := by
  cases cs with
  | nil => exact iff_of_true rfl rfl
  | cons c rest =>
    refine iff_of_false (fun h => ?_) (List.cons_ne_nil _ _)
    exact toUpper_ne_nil c (List.append_eq_nil_iff.mp h).1

/-- The texts that are `s` in lowercase. -/
theorem lowercase_eq_s_iff {cs : List Char} : lowercase cs = ['s'] ↔ cs = ['s'] ∨ cs = ['S'] := by
  constructor
  · intro h
    cases cs with
    | nil => cases h
    | cons c rest =>
      rw [lowercase, lowercaseAfter] at h
      -- The first character is mapped to one at least, so that there is no second one.
      split at h
      · exact absurd (List.cons.inj h).1 (by unfold lowerSigma; split <;> decide)
      · rcases List.append_eq_singleton_iff.mp h with ⟨hnil, _⟩ | ⟨hfirst, hrest⟩
        · exact absurd hnil (toLower_ne_nil c)
        · rw [lowercaseAfter_eq_nil_iff.mp hrest]
          exact (eq_of_toLower_eq_s hfirst).imp (congrArg ([·])) (congrArg ([·]))
  · rintro (rfl | rfl) <;> decide +kernel

/-! ### Lowercase letters -/

/-- A lowercase letter is one of the 26. -/
theorem exists_of_isLower {c : Char} (h : c.isLower = true) :
    ∃ n < 26, c = Char.ofNat ('a'.toNat + n) := by
  have hvalue : (decide ('a'.val ≤ c.val) && decide (c.val ≤ 'z'.val)) = true := h
  have hbounds : 'a'.toNat ≤ c.toNat ∧ c.toNat ≤ 'z'.toNat := by
    rwa [Bool.and_eq_true, decide_eq_true_eq, decide_eq_true_eq, UInt32.le_iff_toNat_le,
      UInt32.le_iff_toNat_le] at hvalue
  have hlast : 'z'.toNat = 'a'.toNat + 25 := rfl
  refine ⟨c.toNat - 'a'.toNat, by omega, ?_⟩
  rw [Nat.add_sub_cancel' hbounds.1, Char.ofNat_toNat]

/-- It is no uppercase letter, and its own lowercase form. -/
theorem casing_of_isLower {c : Char} (h : c.isLower = true) :
    isUppercase c = false ∧ toLower c = [c] := by
  have hletters : ∀ n < 26, isUppercase (Char.ofNat ('a'.toNat + n)) = false ∧
      toLower (Char.ofNat ('a'.toNat + n)) = [Char.ofNat ('a'.toNat + n)] := by
    decide
  obtain ⟨n, hn, rfl⟩ := exists_of_isLower h
  exact hletters n hn

/-- Lowercase letters stay in lowercase. -/
theorem lowercase_of_isLower {cs : List Char} (h : ∀ c ∈ cs, c.isLower = true) :
    lowercase cs = cs := by
  suffices hafter : ∀ before, lowercaseAfter before cs = cs from hafter []
  induction cs with
  | nil => exact fun _ => rfl
  | cons c rest ih =>
    intro before
    rw [List.forall_mem_cons] at h
    have hsigma : c ≠ 'Σ' := fun hc => absurd h.1 (by rw [hc]; decide)
    rw [lowercaseAfter, if_neg hsigma, (casing_of_isLower h.1).2, ih h.2, List.singleton_append]

end JoinPlan.Text
