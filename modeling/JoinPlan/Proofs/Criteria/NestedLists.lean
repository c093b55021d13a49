import JoinPlan.Proofs.Criteria.Typing

/-!
# Values of nested lists

Where lists of lists are declared, down to items of a scalar kind, a value may be an array of arrays
and may leave levels out: a list takes any value but an array for an item.  So what decides is how
deep the arrays of the value go and what stands in them, not at which level it stands
(`castValue_lists_eq_ok_iff`).

Depth, leaves and the replacement of leaves are folds over the arrays of a value
(`Json.foldArrays`); each is described for an array and for any other value, and these are the two
cases of casting by a list.
-/

namespace JoinPlan

namespace Json

/-! ### Arrays of arrays -/

mutual

/-- Puts together what a value holds that is not an array, array by array. -/
def foldArrays {α : Type} (leaf : Json → α) (array : List α → α) : Json → α
  | .array items => array (foldItems leaf array items)
  | value => leaf value

/-- The same for each of some items. -/
def foldItems {α : Type} (leaf : Json → α) (array : List α → α) : List Json → List α
  | [] => []
  | item :: rest => item.foldArrays leaf array :: foldItems leaf array rest

end

/-- How deep arrays are nested in a value; objects are not looked into. -/
def depth : Json → Nat :=
  foldArrays (fun _ => 0) fun depths => depths.foldr max 0 + 1

/-- What the arrays of a value hold that is not an array itself, in order. -/
def leaves : Json → List Json :=
  foldArrays (fun value => [value]) List.flatten

/-- The value with other leaves in the same arrays. -/
def mapLeaves (f : Json → Json) : Json → Json :=
  foldArrays f .array

section

variable {α : Type} {leaf : Json → α} {array : List α → α} {items : List Json} {value : Json}

theorem foldItems_eq_map : ∀ items : List Json,
    foldItems leaf array items = items.map (foldArrays leaf array)
  | [] => by rw [foldItems, List.map_nil]
  | item :: rest => by rw [foldItems, foldItems_eq_map rest, List.map_cons]

theorem foldArrays_array :
    foldArrays leaf array (.array items) = array (items.map (foldArrays leaf array)) := by
  rw [foldArrays, foldItems_eq_map]

theorem foldArrays_other (h : ∀ items, value ≠ .array items) :
    foldArrays leaf array value = leaf value := by
  cases value with
  | array items => exact absurd rfl (h items)
  | _ => rw [foldArrays]; simp

theorem depth_other (h : ∀ items, value ≠ .array items) : value.depth = 0 :=
  foldArrays_other h

theorem depth_array :
    (Json.array items).depth = (items.map depth).foldr max 0 + 1 :=
  foldArrays_array

theorem depth_array_le_iff {n : Nat} :
    (Json.array items).depth ≤ n + 1 ↔ ∀ item ∈ items, item.depth ≤ n := by
  rw [depth_array, Nat.add_le_add_iff_right]
  induction items with
  | nil => simp
  | cons item rest ih =>
    rw [List.map_cons, List.foldr_cons, Nat.max_le, List.forall_mem_cons, ih]

theorem leaves_other (h : ∀ items, value ≠ .array items) : value.leaves = [value] :=
  foldArrays_other h

theorem forall_leaves_array {P : Json → Prop} : (∀ leaf ∈ (Json.array items).leaves, P leaf) ↔
    ∀ item ∈ items, ∀ leaf ∈ item.leaves, P leaf := by
  have hleaves : (Json.array items).leaves = (items.map leaves).flatten := foldArrays_array
  rw [hleaves]
  simp only [List.forall_mem_flatten, List.forall_mem_map]

theorem mapLeaves_other (h : ∀ items, value ≠ .array items) (f : Json → Json) :
    value.mapLeaves f = f value :=
  foldArrays_other h

theorem mapLeaves_array (f : Json → Json) :
    (Json.array items).mapLeaves f = .array (items.map (mapLeaves f)) :=
  foldArrays_array

end

end Json

/-! ### Casting by lists of lists -/

/-- Lists of lists down to items of a scalar kind, with what is said of the items of each list, the
outermost first. -/
def Kind.lists (type : Scalar) : List Options → Kind
  | [] => .scalar type
  | options :: inner => .list ⟨Kind.lists type inner, options⟩

/-- The value can be cast to a scalar kind. -/
def Scalar.Takes (type : Scalar) (value : Json) : Prop :=
  (type.convert? value).isSome = true

/-- What the value becomes in a scalar kind that takes it. -/
def Scalar.cast (type : Scalar) (value : Json) : Json :=
  (type.convert? value).getD value

theorem castScalar_eq_ok_iff {path : String} {type : Scalar} {value cast : Json} :
    castScalar path type value = .ok cast ↔ type.Takes value ∧ cast = type.cast value := by
  unfold castScalar Scalar.Takes Scalar.cast
  cases type.convert? value with
  | none => simp
  | some converted => simp [eq_comm]

/-- No scalar kind takes arrays. -/
theorem Scalar.not_takes_array (type : Scalar) (items : List Json) :
    ¬ type.Takes (.array items) := by
  cases type <;> exact Bool.false_ne_true

/-- **Casting by lists of lists.**  A value is cast exactly when its arrays go no deeper than the
lists that are declared and the scalar kind takes every leaf, and then it becomes the value with its
leaves cast, in the same arrays. -/
theorem castValue_lists_eq_ok_iff (path : String) (type : Scalar) (layers : List Options)
    (value cast : Json) :
    castValue path (.lists type layers) value = .ok cast ↔
      (value.depth ≤ layers.length ∧ ∀ leaf ∈ value.leaves, type.Takes leaf) ∧
        cast = value.mapLeaves type.cast := by
  induction layers generalizing value cast with
  | nil =>
    rw [Kind.lists, castValue, castScalar_eq_ok_iff, List.length_nil, Nat.le_zero]
    rcases value.array_or_ne with ⟨items, rfl⟩ | hleaf
    · refine iff_of_false (fun h => type.not_takes_array items h.1) fun h => ?_
      rw [Json.depth_array] at h
      exact Nat.succ_ne_zero _ h.1.1
    · rw [Json.depth_other hleaf, Json.leaves_other hleaf, Json.mapLeaves_other hleaf,
        List.forall_mem_singleton, and_iff_right rfl]
  | cons options inner ih =>
    rw [Kind.lists, List.length_cons]
    rcases value.array_or_ne with ⟨items, rfl⟩ | hitem
    · -- The list takes the outermost array, and the lists inside it take the items.
      have hitems (casts : List Json) :
          (items.mapM fun item => castValue path (.lists type inner) item) = .ok casts ↔
            (∀ item ∈ items, item.depth ≤ inner.length ∧ ∀ leaf ∈ item.leaves, type.Takes leaf) ∧
              casts = items.map (Json.mapLeaves type.cast) :=
        mapM_eq_ok_iff_map fun item cast => ih item cast
      rw [castValue, map_eq_ok_iff, Json.depth_array_le_iff, Json.forall_leaves_array,
        Json.mapLeaves_array, ← forall₂_and]
      constructor
      · rintro ⟨casts, hcasts, rfl⟩
        obtain ⟨htaken, rfl⟩ := (hitems casts).mp hcasts
        exact ⟨htaken, rfl⟩
      · rintro ⟨htaken, rfl⟩
        exact ⟨_, (hitems _).mpr ⟨htaken, rfl⟩, rfl⟩
    · rw [castValue_item hitem, ih, Json.depth_other hitem]
      simp only [Nat.zero_le]

/-- A ragged array and a single value, of which the lists are left out. -/
example : castValue "tags" (.lists .text [{}, {}])
    (.array [.array [.number (.int 1), .null], .bool true, .array []]) =
      .ok (.array [.array [.string "1", .null], .string "true", .array []]) := rfl

end JoinPlan
