import JoinPlan.Proofs.Json.Delimited

/-!
# Zeros and their signs

Values that are the same may differ in the signs of their zeros, and in nothing else: with the same
signs they are equal (`Json.eq_of_same_of_zeroSigns_eq`).  The text of a value shows the signs, so
that values that are the same and written alike are equal too (`Json.eq_of_same_of_chars_eq`).
-/

namespace JoinPlan

/-! ### Signs -/

/-- The sign of a number, if it is a zero that has one. -/
def JsonNumber.zeroSigns : JsonNumber → List Bool
  | .int _ => []
  | .float x => if x.significand = 0 then [x.negative] else []

mutual

/-- The signs of the zeros in a value, in the order in which they are written. -/
def Json.zeroSigns : Json → List Bool
  | .null => []
  | .bool _ => []
  | .number n => n.zeroSigns
  | .string _ => []
  | .array items => itemZeroSigns items
  | .object members => memberZeroSigns members

/-- The signs of the zeros in the items of an array. -/
def itemZeroSigns : List Json → List Bool
  | [] => []
  | item :: rest => item.zeroSigns ++ itemZeroSigns rest

/-- The signs of the zeros in the members of an object. -/
def memberZeroSigns : List (String × Json) → List Bool
  | [] => []
  | (_, value) :: rest => value.zeroSigns ++ memberZeroSigns rest

end

/-! ### Numbers -/

namespace Binary64

variable {x y : Binary64}

theorem same_iff_parts : x.same y = true ↔
    x.significand = y.significand ∧ x.scale = y.scale ∧
      (x.negative = y.negative ∨ x.significand = 0) := by
  simp [same, and_assoc]

theorem eq_of_same (h : x.same y = true) (hsign : x.negative = y.negative) : x = y := by
  obtain ⟨hsignificand, hscale, _⟩ := same_iff_parts.mp h
  obtain ⟨_, _, _, _, _, _⟩ := x
  obtain ⟨_, _, _, _, _, _⟩ := y
  simp_all

/-- The text of a zero begins with its sign. -/
theorem negative_eq_of_text_eq (hx : x.significand = 0) (hy : y.significand = 0)
    (h : x.text = y.text) : x.negative = y.negative := by
  rw [text, text, if_pos hx, if_pos hy, List.append_left_inj] at h
  cases hnegative : x.negative <;> cases hnegative' : y.negative <;>
    simp [hnegative, hnegative'] at h ⊢

end Binary64

namespace JsonNumber

variable {m n : JsonNumber}

theorem length_zeroSigns_of_same (h : m.same n = true) :
    m.zeroSigns.length = n.zeroSigns.length := by
  cases m <;> cases n <;> simp only [same, Bool.false_eq_true] at h
  case int.int => rfl
  case float.float x y =>
    rw [zeroSigns, zeroSigns, (Binary64.same_iff_parts.mp h).1]
    split <;> rfl

theorem eq_of_same_of_zeroSigns_eq (h : m.same n = true) (hsigns : m.zeroSigns = n.zeroSigns) :
    m = n := by
  cases m <;> cases n <;> simp only [same, Bool.false_eq_true] at h
  case int.int => rw [beq_iff_eq.mp h]
  case float.float x y =>
    obtain ⟨hsignificand, _, hsign⟩ := Binary64.same_iff_parts.mp h
    rw [Binary64.eq_of_same h]
    rcases hsign with hsign | hzero
    · exact hsign
    · rw [zeroSigns, zeroSigns, if_pos hzero, if_pos (hsignificand ▸ hzero)] at hsigns
      exact List.singleton_inj.mp hsigns

theorem eq_of_same_of_text_eq (h : m.same n = true) (htext : m.text = n.text) : m = n := by
  cases m <;> cases n <;> simp only [same, Bool.false_eq_true] at h
  case int.int => rw [beq_iff_eq.mp h]
  case float.float x y =>
    obtain ⟨hsignificand, _, hsign⟩ := Binary64.same_iff_parts.mp h
    rw [Binary64.eq_of_same h]
    rcases hsign with hsign | hzero
    · exact hsign
    · exact Binary64.negative_eq_of_text_eq hzero (hsignificand ▸ hzero) htext

end JsonNumber

/-! ### Values -/

mutual

/-- Values that are the same have as many zeros. -/
theorem Json.length_zeroSigns_of_same : ∀ {a b : Json}, a.same b = true →
    a.zeroSigns.length = b.zeroSigns.length
  | .null, .null, _ | .bool _, .bool _, _ | .string _, .string _, _ => rfl
  | .number _, .number _, h => JsonNumber.length_zeroSigns_of_same h
  | .array _, .array _, h => length_itemZeroSigns_of_same h
  | .object _, .object _, h => length_memberZeroSigns_of_same h

theorem length_itemZeroSigns_of_same : ∀ {xs ys : List Json}, sameItems xs ys = true →
    (itemZeroSigns xs).length = (itemZeroSigns ys).length
  | [], [], _ => rfl
  | x :: xs, y :: ys, h => by
    obtain ⟨hitem, hrest⟩ := Bool.and_eq_true_iff.mp h
    rw [itemZeroSigns, itemZeroSigns, List.length_append, List.length_append,
      Json.length_zeroSigns_of_same hitem, length_itemZeroSigns_of_same hrest]

theorem length_memberZeroSigns_of_same : ∀ {ms ns : List (String × Json)},
    sameMembers ms ns = true → (memberZeroSigns ms).length = (memberZeroSigns ns).length
  | [], [], _ => rfl
  | (_, value) :: ms, (_, value') :: ns, h => by
    obtain ⟨hmember, hrest⟩ := Bool.and_eq_true_iff.mp h
    have hvalue := (Bool.and_eq_true_iff.mp hmember).2
    rw [memberZeroSigns, memberZeroSigns, List.length_append, List.length_append,
      Json.length_zeroSigns_of_same hvalue, length_memberZeroSigns_of_same hrest]

end

mutual

/-- **Values that are the same are equal if their zeros have the same signs.** -/
theorem Json.eq_of_same_of_zeroSigns_eq : ∀ {a b : Json}, a.same b = true →
    a.zeroSigns = b.zeroSigns → a = b
  | .null, .null, _, _ => rfl
  | .bool _, .bool _, h, _ => by rw [beq_iff_eq.mp h]
  | .string _, .string _, h, _ => by rw [beq_iff_eq.mp h]
  | .number _, .number _, h, hsigns => by rw [JsonNumber.eq_of_same_of_zeroSigns_eq h hsigns]
  | .array _, .array _, h, hsigns => by rw [items_eq_of_same_of_zeroSigns_eq h hsigns]
  | .object _, .object _, h, hsigns => by rw [members_eq_of_same_of_zeroSigns_eq h hsigns]

theorem items_eq_of_same_of_zeroSigns_eq : ∀ {xs ys : List Json}, sameItems xs ys = true →
    itemZeroSigns xs = itemZeroSigns ys → xs = ys
  | [], [], _, _ => rfl
  | x :: xs, y :: ys, h, hsigns => by
    obtain ⟨hitem, hrest⟩ := Bool.and_eq_true_iff.mp h
    obtain ⟨hfirst, hothers⟩ := List.append_inj hsigns (Json.length_zeroSigns_of_same hitem)
    rw [Json.eq_of_same_of_zeroSigns_eq hitem hfirst,
      items_eq_of_same_of_zeroSigns_eq hrest hothers]

theorem members_eq_of_same_of_zeroSigns_eq : ∀ {ms ns : List (String × Json)},
    sameMembers ms ns = true → memberZeroSigns ms = memberZeroSigns ns → ms = ns
  | [], [], _, _ => rfl
  | (_, value) :: ms, (_, value') :: ns, h, hsigns => by
    obtain ⟨hmember, hrest⟩ := Bool.and_eq_true_iff.mp h
    obtain ⟨hkey, hvalue⟩ := Bool.and_eq_true_iff.mp hmember
    obtain ⟨hfirst, hothers⟩ := List.append_inj hsigns (Json.length_zeroSigns_of_same hvalue)
    rw [beq_iff_eq.mp hkey, Json.eq_of_same_of_zeroSigns_eq hvalue hfirst,
      members_eq_of_same_of_zeroSigns_eq hrest hothers]

end

/-! ### Texts of values -/

mutual

/-- **Values that are the same are equal if they are written alike.** -/
theorem Json.eq_of_same_of_chars_eq : ∀ {a b : Json}, a.same b = true → a.chars = b.chars → a = b
  | .null, .null, _, _ => rfl
  | .bool _, .bool _, h, _ => by rw [beq_iff_eq.mp h]
  | .string _, .string _, h, _ => by rw [beq_iff_eq.mp h]
  | .number _, .number _, h, hchars => by rw [JsonNumber.eq_of_same_of_text_eq h hchars]
  | .array _, .array _, h, hchars => by
    rw [items_eq_of_same_of_chars_eq h (itemChars_eq_of_chars_eq hchars)]
  | .object _, .object _, h, hchars => by
    rw [members_eq_of_same_of_chars_eq h (memberChars_eq_of_chars_eq hchars)]

theorem items_eq_of_same_of_chars_eq : ∀ {xs ys : List Json}, sameItems xs ys = true →
    itemChars xs = itemChars ys → xs = ys
  | [], [], _, _ => rfl
  | x :: xs, y :: ys, h, hchars => by
    obtain ⟨hitem, hrest⟩ := Bool.and_eq_true_iff.mp h
    obtain ⟨hfirst, hothers⟩ := List.cons.inj hchars
    rw [Json.eq_of_same_of_chars_eq hitem hfirst, items_eq_of_same_of_chars_eq hrest hothers]

theorem members_eq_of_same_of_chars_eq : ∀ {ms ns : List (String × Json)},
    sameMembers ms ns = true → memberChars ms = memberChars ns → ms = ns
  | [], [], _, _ => rfl
  | (_, value) :: ms, (_, value') :: ns, h, hchars => by
    obtain ⟨hmember, hrest⟩ := Bool.and_eq_true_iff.mp h
    obtain ⟨_, hvalue⟩ := Bool.and_eq_true_iff.mp hmember
    obtain ⟨hfirst, hothers⟩ := List.cons.inj hchars
    obtain ⟨hkey, htext⟩ := quoted_append_inj hfirst
    rw [hkey, Json.eq_of_same_of_chars_eq hvalue (List.cons.inj htext).2,
      members_eq_of_same_of_chars_eq hrest hothers]

end

end JoinPlan
