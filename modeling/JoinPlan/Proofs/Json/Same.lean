import JoinPlan.Json.Basic

/-!
# Values that are the same

Two values are the same exactly when they are equal once zero has lost its sign everywhere in them
(`Json.same_iff`).  So being the same is an equivalence, and two values that are both the same as a
third are the same as each other (`Json.same_of_same_right`).
-/

namespace JoinPlan

/-! ### Numbers -/

/-- The number, without a sign if it is zero. -/
def Binary64.canonical (x : Binary64) : Binary64 :=
  if x.significand = 0 then { x with negative := false } else x

theorem Binary64.same_iff (x y : Binary64) : x.same y = true ↔ x.canonical = y.canonical := by
  obtain ⟨negative, significand, scale, _, _, _⟩ := x
  obtain ⟨negative', significand', scale', _, _, _⟩ := y
  simp only [same, canonical, Bool.and_eq_true, Bool.or_eq_true, beq_iff_eq]
  by_cases hx : significand = 0
  · by_cases hy : significand' = 0
    · simp [hx, hy]
    · have hne : 0 ≠ significand' := fun h => hy h.symm
      simp [hx, hy, hne]
  · by_cases hy : significand' = 0
    · simp [hx, hy]
    · simp [hx, hy, and_comm]

/-- The number, without a sign if it is a zero that may have one. -/
def JsonNumber.canonical : JsonNumber → JsonNumber
  | .int value => .int value
  | .float value => .float value.canonical

theorem JsonNumber.same_iff (x y : JsonNumber) : x.same y = true ↔ x.canonical = y.canonical := by
  cases x <;> cases y <;> simp [same, canonical, Binary64.same_iff]

/-! ### Values -/

mutual

/-- The value with every zero in it unsigned. -/
def Json.canonical : Json → Json
  | .null => .null
  | .bool b => .bool b
  | .number n => .number n.canonical
  | .string s => .string s
  | .array items => .array (canonicalItems items)
  | .object members => .object (canonicalMembers members)

/-- The items of an array, each in its canonical form. -/
def canonicalItems : List Json → List Json
  | [] => []
  | item :: rest => item.canonical :: canonicalItems rest

/-- The members of an object, each value in its canonical form. -/
def canonicalMembers : List (String × Json) → List (String × Json)
  | [] => []
  | (key, value) :: rest => (key, value.canonical) :: canonicalMembers rest

end

mutual

/-- **Being the same is equality of canonical forms.** -/
theorem Json.same_iff (a b : Json) : a.same b = true ↔ a.canonical = b.canonical := by
  cases a with
  | null => cases b <;> simp [Json.same, Json.canonical]
  | bool => cases b <;> simp [Json.same, Json.canonical]
  | number => cases b <;> simp [Json.same, Json.canonical, JsonNumber.same_iff]
  | string => cases b <;> simp [Json.same, Json.canonical]
  | array xs => cases b <;> simp [Json.same, Json.canonical, sameItems_iff xs]
  | object xs => cases b <;> simp [Json.same, Json.canonical, sameMembers_iff xs]

theorem sameItems_iff (xs ys : List Json) :
    sameItems xs ys = true ↔ canonicalItems xs = canonicalItems ys := by
  cases xs with
  | nil => cases ys <;> simp [sameItems, canonicalItems]
  | cons x xs =>
    cases ys <;> simp [sameItems, canonicalItems, Json.same_iff x, sameItems_iff xs]

theorem sameMembers_iff (xs ys : List (String × Json)) :
    sameMembers xs ys = true ↔ canonicalMembers xs = canonicalMembers ys := by
  cases xs with
  | nil => cases ys <;> simp [sameMembers, canonicalMembers]
  | cons x xs =>
    obtain ⟨key, value⟩ := x
    cases ys <;>
      simp [sameMembers, canonicalMembers, Json.same_iff value, sameMembers_iff xs, and_assoc]

end

namespace Json

variable {a b c : Json}

@[simp] theorem same_refl (a : Json) : a.same a = true :=
  (same_iff a a).mpr rfl

theorem same_comm (a b : Json) : a.same b = b.same a := by
  rw [Bool.eq_iff_iff, same_iff, same_iff]
  exact eq_comm

/-- Values that are the same as a third are the same as each other. -/
theorem same_of_same_right (ha : a.same c = true) (hb : b.same c = true) : a.same b = true := by
  rw [same_iff] at ha hb ⊢
  rw [ha, hb]

end Json

end JoinPlan
