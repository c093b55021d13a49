import JoinPlan.Proofs.Criteria.Typing

/-!
# Cast criteria are fixed points

Criteria that casting gives are cast to themselves (`bySchema_fixed`).  Casting gives typed criteria
only (`Schema.criteriaTyped_of_castCriteria`), and whatever is typed is already what casting makes
of it.  That is shown level by level along the typing relations:

* a value that a scalar kind admits is converted to itself (`Scalar.convert?_of_admits`);
* in a list, items that are fixed make a fixed array, and a typed value is an array exactly when the
  value was that it stands for, so that it is taken the same way again
  (`Kind.ValueTyped.ne_array`);
* a typed condition is an object of operators exactly when the condition was that it stands for: its
  operators are the same, and a value becomes an object only if it is that object, so that without
  operators it stays without (`Kind.ValueTyped.isDirect`).
-/

namespace JoinPlan

/-- Results that are results of themselves. -/
theorem mapM_fixed {ε α : Type} {f : α → Except ε α} {R : α → α → Prop} {items results : List α}
    (h : List.Forall₂ R items results) (hf : ∀ item result, R item result → f result = .ok result) :
    results.mapM f = .ok results := by
  rw [mapM_eq_ok_iff, List.forall₂_same]
  intro result hresult
  obtain ⟨i, hi, rfl⟩ := List.getElem_of_mem hresult
  have hlength := h.length_eq
  exact hf items[i] _ (h.get (by omega) hi)

/-! ### Values -/

theorem Scalar.convert?_of_admits {type : Scalar} {value : Json} (h : type.admits value = true) :
    type.convert? value = some value := by
  unfold admits at h
  split at h
  case h_9 => cases h
  all_goals rfl

theorem castScalar_of_valueTyped (path : String) {type : Scalar} {value cast : Json}
    (h : (Kind.scalar type).ValueTyped value cast) : castScalar path type cast = .ok cast := by
  unfold castScalar
  rw [Kind.ValueTyped] at h
  rcases h with ⟨_, rfl⟩ | hadmits
  · cases type <;> rfl
  · rw [Scalar.convert?_of_admits hadmits]

namespace Kind

/-- Only an array becomes an array. -/
theorem ValueTyped.ne_array : ∀ {kind : Kind} {value cast : Json}, kind.ValueTyped value cast →
    (∀ items, value ≠ .array items) → ∀ casts, cast ≠ .array casts
  | .scalar type, value, cast, h, _, casts => by
    rintro rfl
    rw [ValueTyped] at h
    rcases h with ⟨_, hnull⟩ | hadmits
    · cases hnull
    · cases type <;> cases hadmits
  | .mixed, value, cast, h, hvalue, casts => by
    rw [ValueTyped] at h
    rw [h]
    exact hvalue casts
  | .embedded _, value, cast, h, hvalue, casts => by
    rw [ValueTyped] at h
    rw [h]
    exact hvalue casts
  | .list ⟨kind, _⟩, value, cast, h, hvalue, casts =>
    ValueTyped.ne_array ((valueTyped_item hvalue).mp h) hvalue casts

/-- What becomes an object is the object itself. -/
theorem ValueTyped.eq_object : ∀ {kind : Kind} {value : Json} {members : Fields},
    kind.ValueTyped value (.object members) → value = .object members
  | .scalar type, value, members, h => by
    rw [ValueTyped] at h
    rcases h with ⟨_, hnull⟩ | hadmits
    · cases hnull
    · cases type <;> cases hadmits
  | .mixed, value, members, h => by
    rw [ValueTyped] at h
    exact h.symm
  | .embedded _, value, members, h => by
    rw [ValueTyped] at h
    exact h.symm
  | .list ⟨kind, _⟩, value, members, h => by
    rcases value.array_or_ne with ⟨items, rfl⟩ | hitem
    · rw [ValueTyped] at h
      obtain ⟨_, hcast, _⟩ := h
      cases hcast
    · exact ValueTyped.eq_object ((valueTyped_item hitem).mp h)

end Kind

/-- **A typed value is cast to itself.** -/
theorem castValue_of_valueTyped (path : String) : ∀ (kind : Kind) {value cast : Json},
    kind.ValueTyped value cast → castValue path kind cast = .ok cast
  | .scalar type, value, cast, h => by
    rw [castValue]
    exact castScalar_of_valueTyped path h
  | .mixed, value, cast, _ => by rw [castValue]
  | .embedded _, value, cast, _ => by rw [castValue]
  | .list ⟨kind, _⟩, value, cast, h => by
    rcases value.array_or_ne with ⟨items, rfl⟩ | hitem
    · rw [Kind.ValueTyped] at h
      obtain ⟨casts, rfl, hitems⟩ := h
      have hfixed : casts.mapM (fun item => castValue path kind item) = .ok casts :=
        mapM_fixed hitems fun _ _ hitem => castValue_of_valueTyped path kind hitem
      rw [castValue, hfixed]
      rfl
    · have hvalue := (Kind.valueTyped_item hitem).mp h
      rw [castValue_item (hvalue.ne_array hitem)]
      exact castValue_of_valueTyped path kind hvalue

/-! ### Direct values -/

/-- The value is not an object with operators. -/
def Json.IsDirect (value : Json) : Prop :=
  ∀ members, value = .object members → ∀ member ∈ members, isOperator member.1 = false

theorem Kind.ValueTyped.isDirect {kind : Kind} {value cast : Json} (h : kind.ValueTyped value cast)
    (hdirect : value.IsDirect) : cast.IsDirect := by
  rintro members rfl
  exact hdirect members h.eq_object

/-- As a condition a direct value is cast as a value. -/
theorem castCondition_of_isDirect (path : String) (kind : Kind) {value : Json}
    (h : value.IsDirect) : castCondition path kind value = castValue path kind value := by
  unfold castCondition
  split
  · rename_i members
    have hnone : (members.any fun member => isOperator member.1) = false :=
      List.any_eq_false.mpr fun member hmember => by rw [h members rfl member hmember]; decide
    rw [hnone, if_neg Bool.false_ne_true]
  · rfl

/-! ### Conditions -/

theorem castOperand_of_operandTyped (path : String) {kind : Kind} {operator : String}
    {operand cast : Json} (h : kind.OperandTyped operator operand cast) :
    castOperand path kind operator cast = .ok cast := by
  unfold castOperand
  cases h with
  | comparison known value =>
    rw [if_pos (List.contains_iff_mem.mpr known)]
    exact castValue_of_valueTyped path kind value
  | list known values =>
    have hother : comparisonOperators.contains operator = false := by
      unfold listOperators at known
      simp only [List.mem_cons, List.not_mem_nil, or_false] at known
      rcases known with rfl | rfl <;> decide
    have hfixed := mapM_fixed values fun _ _ hitem => castValue_of_valueTyped path kind hitem
    rw [hother, if_neg Bool.false_ne_true, if_pos (List.contains_iff_mem.mpr known)]
    show (Except.map Json.array (List.mapM _ _)) = _
    rw [hfixed]
    rfl
  | «exists» flag =>
    have hcomparison : comparisonOperators.contains "$exists" = false := by decide
    have hlist : listOperators.contains "$exists" = false := by decide
    rw [hcomparison, hlist, if_neg Bool.false_ne_true, if_neg Bool.false_ne_true, if_pos rfl]
    exact castScalar_of_valueTyped path flag

theorem castOperands_of_forall₂ (path : String) {kind : Kind} {members casts : Fields}
    (h : List.Forall₂
      (fun member cast => cast.1 = member.1 ∧ kind.OperandTyped member.1 member.2 cast.2)
      members casts) :
    castOperands path kind casts = .ok casts := by
  induction h with
  | nil => rfl
  | @cons member cast _ _ htyped _ ih =>
    obtain ⟨key, value⟩ := cast
    obtain ⟨hkey, hoperand⟩ := htyped
    obtain rfl : key = member.1 := hkey
    rw [castOperands, castOperand_of_operandTyped path hoperand, ih]
    rfl

/-- The same keys are operators or not. -/
theorem any_isOperator_eq {members casts : Fields} {R : String × Json → String × Json → Prop}
    (h : List.Forall₂ R members casts) (hkey : ∀ member cast, R member cast → cast.1 = member.1) :
    (casts.any fun cast => isOperator cast.1) = members.any fun member => isOperator member.1 := by
  induction h with
  | nil => rfl
  | cons htyped _ ih => rw [List.any_cons, List.any_cons, ih, hkey _ _ htyped]

/-- **A typed condition is cast to itself.** -/
theorem castCondition_of_conditionTyped (path : String) {kind : Kind} {condition cast : Json}
    (h : kind.ConditionTyped condition cast) : castCondition path kind cast = .ok cast := by
  cases h with
  | @operators members casts operator operands =>
    have hoperator : (casts.any fun cast => isOperator cast.1) = true := by
      rw [any_isOperator_eq operands fun _ _ htyped => htyped.1]
      exact List.any_eq_true.mpr operator
    unfold castCondition
    simp only [hoperator, if_true, castOperands_of_forall₂ path operands]
    rfl
  | value direct value =>
    rw [castCondition_of_isDirect path kind (value.isDirect direct)]
    exact castValue_of_valueTyped path kind value

/-! ### Criteria -/

namespace Schema

variable {schema : Schema}

/-- Under a key that is not a logical operator everything is a condition. -/
theorem castEntry_of_notMem {key : String} (hpath : key ∉ logicalOperators) (condition : Json) :
    castEntry schema key condition = schema.castAt key condition := by
  have hcontains : logicalOperators.contains key = false := by
    rw [Bool.eq_false_iff]
    exact fun h => hpath (List.contains_iff_mem.mp h)
  cases condition with
  | array branches => rw [castEntry, hcontains, if_neg Bool.false_ne_true]
  | _ => rw [castEntry_condition (by simp), hcontains, if_neg Bool.false_ne_true]

mutual

/-- **Typed criteria are cast to themselves.** -/
theorem castCriteria_of_criteriaTyped : ∀ {criteria cast : Criteria},
    schema.CriteriaTyped criteria cast → castCriteria schema cast = .ok cast
  | _, _, .nil => by rw [castCriteria]
  | _, _, .cons entry others => by
    rw [castCriteria, castEntry_of_entryTyped entry, castCriteria_of_criteriaTyped others]
    rfl

theorem castEntry_of_entryTyped : ∀ {key : String} {condition cast : Json},
    schema.EntryTyped key condition cast → castEntry schema key cast = .ok cast
  | key, _, _, .logical operator each => by
    have hbranches := castBranches_of_branchesTyped key each
    rw [castEntry, if_pos (List.contains_iff_mem.mpr operator), hbranches]
    rfl
  | key, _, _, .unknown path kind => by
    rw [castEntry_of_notMem path, castAt, kind]
  | key, _, _, .known path kindAt typed => by
    rw [castEntry_of_notMem path, castAt, kindAt]
    exact castCondition_of_conditionTyped key typed

theorem castBranches_of_branchesTyped : ∀ (operator : String) {branches casts : List Json},
    schema.BranchesTyped branches casts → castBranches schema operator casts = .ok casts
  | _, _, _, .nil => by rw [castBranches]
  | operator, _, _, .cons criteria others => by
    rw [castBranches, castBranch, castCriteria_of_criteriaTyped criteria,
      castBranches_of_branchesTyped operator others]
    rfl

end

end Schema

/-- **Casting is idempotent**: criteria that casting by a schema gives are cast to themselves,
unchanged and without error. -/
theorem bySchema_fixed {schema : Schema} {criteria cast : Criteria}
    (h : Caster.bySchema schema criteria = .ok cast) : Caster.bySchema schema cast = .ok cast :=
  Schema.castCriteria_of_criteriaTyped (Schema.criteriaTyped_of_castCriteria h)

/-- A number given by text and a truth value given by a number under a logical operator, an object
with an operator among unchecked items, and a list of lists with an item in place of an array. -/
theorem bySchema_fixed_article :
    let schema : Schema := ⟨"Article", none,
      [⟨"price", .scalar .int, {}⟩, ⟨"sold", .scalar .bool, {}⟩, ⟨"notes", .list ⟨.mixed, {}⟩, {}⟩,
        ⟨"tags", .list ⟨.list ⟨.scalar .text, {}⟩, {}⟩, {}⟩]⟩
    let criteria : Criteria :=
      [("$nor", .array [.object [("price", .object [("$in", .array [.string " -07", .null])])],
          .object [("sold", .number (.int 1))]]),
        ("notes", .array [.object [("$gt", .string "7")], .array [.bool true]]),
        ("tags", .array [.array [.number (.int 7)], .bool true])]
    let cast : Criteria :=
      [("$nor", .array [.object [("price", .object [("$in", .array [.number (.int (-7)), .null])])],
          .object [("sold", .bool true)]]),
        ("notes", .array [.object [("$gt", .string "7")], .array [.bool true]]),
        ("tags", .array [.array [.string "7"], .string "true"])]
    Caster.bySchema schema criteria = .ok cast ∧ Caster.bySchema schema cast = .ok cast := by
  intro schema criteria cast
  have hcast : Caster.bySchema schema criteria = .ok cast := rfl
  exact ⟨hcast, bySchema_fixed hcast⟩

end JoinPlan
