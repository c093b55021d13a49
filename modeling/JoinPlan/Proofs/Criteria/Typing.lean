import JoinPlan.Criteria.Cast
import JoinPlan.Proofs.Success

/-!
# Cast criteria are typed

What casting makes of criteria has their shape, and its values are of the kinds that the schema
declares (`criteriaTyped_of_bySchema`).  The relation that says so follows the criteria inwards:

* `Schema.CriteriaTyped`: the same keys, each with what may stand under it.  Under a logical
  operator that is again criteria, one for each branch;
* `Kind.ConditionTyped`: under a path of known kind an object of operators keeps its operators, and
  any other condition is a value;
* `Kind.OperandTyped`: only the nine operators occur, with operands of the shape that each takes;
* `Kind.ValueTyped`: a value is of its kind, item by item where a list is declared.

Each of them is established for the function that casts at its level, from the innermost outwards.
-/

namespace JoinPlan

/-! ### Typed values -/

/-- The values that are of a scalar kind as they stand. -/
def Scalar.admits : Scalar → Json → Bool
  | .id, .string _ => true
  | .reference, .string _ => true
  | .text, .string _ => true
  | .int, .number (.int _) => true
  | .float, .number _ => true
  | .bool, .bool _ => true
  | .timestamp, .string _ => true
  | .timestamp, .number (.int _) => true
  | _, _ => false

namespace Kind

/-- `cast` is of this kind and may stand for `value`.  Only `null` becomes `null`, unchecked and
embedded values stay as they are, and a list takes an array item by item and any other value for an
item. -/
def ValueTyped : Kind → Json → Json → Prop
  | .scalar type, value, cast => (value = .null ∧ cast = .null) ∨ type.admits cast = true
  | .mixed, value, cast => cast = value
  | .embedded _, value, cast => cast = value
  | .list ⟨kind, _⟩, .array items, cast =>
    ∃ casts, cast = .array casts ∧
      List.Forall₂ (fun item cast => kind.ValueTyped item cast) items casts
  | .list ⟨kind, _⟩, value, cast => kind.ValueTyped value cast
termination_by structural kind => kind

/-- `cast` may stand for `operand` under an operator on a value of this kind. -/
inductive OperandTyped (kind : Kind) : String → Json → Json → Prop
  | comparison {operator : String} {operand cast : Json} (known : operator ∈ comparisonOperators)
      (value : kind.ValueTyped operand cast) : OperandTyped kind operator operand cast
  | list {operator : String} {items casts : List Json} (known : operator ∈ listOperators)
      (values : List.Forall₂ kind.ValueTyped items casts) :
      OperandTyped kind operator (.array items) (.array casts)
  | exists {operand cast : Json} (flag : (Kind.scalar .bool).ValueTyped operand cast) :
      OperandTyped kind "$exists" operand cast

/-- `cast` may stand for a condition on a value of this kind. -/
inductive ConditionTyped (kind : Kind) : Json → Json → Prop
  | operators {members casts : Fields} (operator : ∃ member ∈ members, isOperator member.1 = true)
      (operands : List.Forall₂
        (fun member cast => cast.1 = member.1 ∧ kind.OperandTyped member.1 member.2 cast.2)
        members casts) :
      ConditionTyped kind (.object members) (.object casts)
  | value {condition cast : Json}
      (direct : ∀ members, condition = .object members →
        ∀ member ∈ members, isOperator member.1 = false)
      (value : kind.ValueTyped condition cast) : ConditionTyped kind condition cast

end Kind

/-! ### Typed criteria -/

namespace Schema

mutual

/-- `cast` may stand for criteria: the same keys in the same order, each with a typed entry. -/
inductive CriteriaTyped (schema : Schema) : Criteria → Criteria → Prop
  | nil : CriteriaTyped schema [] []
  | cons {key : String} {condition cast : Json} {rest rest' : Criteria}
      (entry : EntryTyped schema key condition cast) (others : CriteriaTyped schema rest rest') :
      CriteriaTyped schema ((key, condition) :: rest) ((key, cast) :: rest')

/-- `cast` may stand for `condition` under a key. -/
inductive EntryTyped (schema : Schema) : String → Json → Json → Prop
  | logical {key : String} {branches casts : List Json} (operator : key ∈ logicalOperators)
      (each : BranchesTyped schema branches casts) :
      EntryTyped schema key (.array branches) (.array casts)
  | unknown {key : String} {condition : Json} (path : key ∉ logicalOperators)
      (kind : schema.kindAt key = none) : EntryTyped schema key condition condition
  | known {key : String} {kind : Kind} {condition cast : Json} (path : key ∉ logicalOperators)
      (kindAt : schema.kindAt key = some kind) (typed : kind.ConditionTyped condition cast) :
      EntryTyped schema key condition cast

/-- `casts` may stand for the branches of a logical operator, branch by branch. -/
inductive BranchesTyped (schema : Schema) : List Json → List Json → Prop
  | nil : BranchesTyped schema [] []
  | cons {branch cast : Criteria} {rest rest' : List Json}
      (criteria : CriteriaTyped schema branch cast)
      (others : BranchesTyped schema rest rest') :
      BranchesTyped schema (.object branch :: rest) (.object cast :: rest')

end

end Schema

/-! ### Casting values -/

theorem Scalar.valueTyped_of_convert? {type : Scalar} {value cast : Json}
    (h : type.convert? value = some cast) : (Kind.scalar type).ValueTyped value cast := by
  rw [Kind.ValueTyped]
  unfold convert? at h
  split at h
  case h_1 => exact Or.inl ⟨rfl, (Option.some.inj h).symm⟩
  all_goals right
  -- A text that is read as a number.
  case h_10 | h_12 =>
    obtain ⟨n, _, rfl⟩ := Option.map_eq_some_iff.mp h
    rfl
  -- A text or an integer that stands for a truth value.
  case h_14 | h_15 =>
    split at h
    · rw [← Option.some.inj h]
      rfl
    · split at h
      · rw [← Option.some.inj h]
        rfl
      · cases h
  case h_16 => cases h
  all_goals
    rw [← Option.some.inj h]
    rfl

theorem valueTyped_of_castScalar {path : String} {type : Scalar} {value cast : Json}
    (h : castScalar path type value = .ok cast) : (Kind.scalar type).ValueTyped value cast := by
  unfold castScalar at h
  split at h
  · rename_i converted hconvert
    rw [← Except.ok.inj h]
    exact Scalar.valueTyped_of_convert? hconvert
  · cases h

/-- Where a list is declared, a value other than an array is cast as an item. -/
theorem castValue_item {path : String} {kind : Kind} {options : Options} {value : Json}
    (h : ∀ items, value ≠ .array items) :
    castValue path (.list ⟨kind, options⟩) value = castValue path kind value := by
  cases value with
  | array items => exact absurd rfl (h items)
  | _ => rw [castValue]; simp

theorem Kind.valueTyped_item {kind : Kind} {options : Options} {value cast : Json}
    (h : ∀ items, value ≠ .array items) :
    (Kind.list ⟨kind, options⟩).ValueTyped value cast ↔ kind.ValueTyped value cast := by
  cases value with
  | array items => exact absurd rfl (h items)
  | _ => rw [Kind.ValueTyped]; simp

theorem valueTyped_of_castValue (path : String) : ∀ (kind : Kind) {value cast : Json},
    castValue path kind value = .ok cast → kind.ValueTyped value cast
  | .scalar type, value, cast, h => by
    rw [castValue] at h
    exact valueTyped_of_castScalar h
  | .mixed, value, cast, h => by
    rw [castValue] at h
    rw [Kind.ValueTyped, Except.ok.inj h]
  | .embedded _, value, cast, h => by
    rw [castValue] at h
    rw [Kind.ValueTyped, Except.ok.inj h]
  | .list ⟨kind, _⟩, value, cast, h => by
    rcases value.array_or_ne with ⟨items, rfl⟩ | hitem
    · rw [castValue] at h
      obtain ⟨casts, hitems, rfl⟩ := map_eq_ok_iff.mp h
      rw [Kind.ValueTyped]
      refine ⟨casts, rfl, (mapM_eq_ok_iff.mp hitems).imp fun item cast hitem => ?_⟩
      exact valueTyped_of_castValue path kind hitem
    · rw [castValue_item hitem] at h
      rw [Kind.valueTyped_item hitem]
      exact valueTyped_of_castValue path kind h

/-! ### Casting conditions -/

theorem operandTyped_of_castOperand {path : String} {kind : Kind} {operator : String}
    {operand cast : Json} (h : castOperand path kind operator operand = .ok cast) :
    kind.OperandTyped operator operand cast := by
  unfold castOperand at h
  split at h
  · rename_i hknown
    exact .comparison (List.contains_iff_mem.mp hknown) (valueTyped_of_castValue path kind h)
  · split at h
    · rename_i hknown
      split at h
      · obtain ⟨casts, hitems, rfl⟩ := map_eq_ok_iff.mp h
        exact .list (List.contains_iff_mem.mp hknown)
          ((mapM_eq_ok_iff.mp hitems).imp fun _ _ hitem => valueTyped_of_castValue path kind hitem)
      · cases h
    · split at h
      · rename_i hexists
        rw [hexists]
        exact .exists (valueTyped_of_castScalar h)
      · cases h

theorem forall₂_of_castOperands {path : String} {kind : Kind} {members casts : Fields}
    (h : castOperands path kind members = .ok casts) :
    List.Forall₂ (fun member cast => cast.1 = member.1 ∧ kind.OperandTyped member.1 member.2 cast.2)
      members casts := by
  induction members generalizing casts with
  | nil =>
    rw [← Except.ok.inj h]
    exact .nil
  | cons member rest ih =>
    obtain ⟨operator, operand⟩ := member
    rw [castOperands] at h
    obtain ⟨cast, hoperand, htail⟩ := bind_eq_ok_iff.mp h
    obtain ⟨others, hrest, hpure⟩ := bind_eq_ok_iff.mp htail
    rw [← Except.ok.inj hpure]
    exact .cons ⟨rfl, operandTyped_of_castOperand hoperand⟩ (ih hrest)

theorem conditionTyped_of_castCondition {path : String} {kind : Kind} {condition cast : Json}
    (h : castCondition path kind condition = .ok cast) : kind.ConditionTyped condition cast := by
  unfold castCondition at h
  split at h
  · rename_i members
    split at h
    · rename_i hoperator
      obtain ⟨casts, hcasts, rfl⟩ := map_eq_ok_iff.mp h
      exact .operators (List.any_eq_true.mp hoperator) (forall₂_of_castOperands hcasts)
    · rename_i hdirect
      refine .value (fun members' heq member hmember => ?_) (valueTyped_of_castValue path kind h)
      rw [Json.object.inj heq] at hdirect
      rw [List.any_eq_true] at hdirect
      exact Bool.eq_false_iff.mpr fun hoperator => hdirect ⟨member, hmember, hoperator⟩
  · rename_i hother
    exact .value (fun members heq => absurd heq (hother members))
      (valueTyped_of_castValue path kind h)

/-! ### Casting criteria -/

namespace Schema

variable {schema : Schema}

/-- Only an array can be the branches of a logical operator. -/
theorem castEntry_condition {key : String} {condition : Json}
    (h : ∀ branches, condition ≠ .array branches) :
    castEntry schema key condition =
      if logicalOperators.contains key then .error (.logicalShape key)
      else schema.castAt key condition := by
  cases condition with
  | array branches => exact absurd rfl (h branches)
  | _ => rw [castEntry]; simp

theorem entryTyped_of_castAt {key : String} {condition cast : Json} (hpath : key ∉ logicalOperators)
    (h : schema.castAt key condition = .ok cast) : schema.EntryTyped key condition cast := by
  unfold castAt at h
  split at h
  · rename_i kind hkind
    exact .known hpath hkind (conditionTyped_of_castCondition h)
  · rename_i hkind
    rw [← Except.ok.inj h]
    exact .unknown hpath hkind

theorem entryTyped_of_castEntry_condition {key : String} {condition cast : Json}
    (hcondition : ∀ branches, condition ≠ .array branches)
    (h : castEntry schema key condition = .ok cast) : schema.EntryTyped key condition cast := by
  rw [castEntry_condition hcondition] at h
  split at h
  · cases h
  · rename_i hpath
    exact entryTyped_of_castAt (fun hmem => hpath (List.contains_iff_mem.mpr hmem)) h

mutual

theorem criteriaTyped_of_castCriteria : ∀ {criteria cast : Criteria},
    castCriteria schema criteria = .ok cast → schema.CriteriaTyped criteria cast
  | [], cast, h => by
    rw [castCriteria] at h
    rw [← Except.ok.inj h]
    exact .nil
  | (key, condition) :: rest, cast, h => by
    rw [castCriteria] at h
    obtain ⟨entry, hentry, htail⟩ := bind_eq_ok_iff.mp h
    obtain ⟨others, hrest, hpure⟩ := bind_eq_ok_iff.mp htail
    rw [← Except.ok.inj hpure]
    exact .cons (entryTyped_of_castEntry hentry) (criteriaTyped_of_castCriteria hrest)

theorem entryTyped_of_castEntry : ∀ {key : String} {condition cast : Json},
    castEntry schema key condition = .ok cast → schema.EntryTyped key condition cast
  | key, .array branches, cast, h => by
    rw [castEntry] at h
    split at h
    · rename_i hlogical
      obtain ⟨casts, hbranches, rfl⟩ := map_eq_ok_iff.mp h
      exact .logical (List.contains_iff_mem.mp hlogical) (branchesTyped_of_castBranches hbranches)
    · rename_i hpath
      exact entryTyped_of_castAt (fun hmem => hpath (List.contains_iff_mem.mpr hmem)) h
  | _, .null, _, h | _, .bool _, _, h | _, .number _, _, h | _, .string _, _, h
  | _, .object _, _, h => entryTyped_of_castEntry_condition (by simp) h

theorem branchesTyped_of_castBranches : ∀ {operator : String} {branches casts : List Json},
    castBranches schema operator branches = .ok casts → schema.BranchesTyped branches casts
  | operator, [], casts, h => by
    rw [castBranches] at h
    rw [← Except.ok.inj h]
    exact .nil
  | operator, .object criteria :: rest, casts, h => by
    rw [castBranches] at h
    obtain ⟨entry, hentry, htail⟩ := bind_eq_ok_iff.mp h
    obtain ⟨others, hrest, hpure⟩ := bind_eq_ok_iff.mp htail
    rw [castBranch] at hentry
    obtain ⟨cast, hcriteria, rfl⟩ := map_eq_ok_iff.mp hentry
    rw [← Except.ok.inj hpure]
    exact .cons (criteriaTyped_of_castCriteria hcriteria) (branchesTyped_of_castBranches hrest)
  | _, .null :: _, _, h | _, .bool _ :: _, _, h | _, .number _ :: _, _, h
  | _, .string _ :: _, _, h | _, .array _ :: _, _, h => by
    rw [castBranches] at h
    obtain ⟨_, hbranch, _⟩ := bind_eq_ok_iff.mp h
    cases hbranch

end

end Schema

/-- **Cast criteria are typed**: when criteria are cast by a schema, the result has their shape, and
its values are of the kinds that the schema declares. -/
theorem criteriaTyped_of_bySchema {schema : Schema} {criteria cast : Criteria}
    (h : Caster.bySchema schema criteria = .ok cast) : schema.CriteriaTyped criteria cast :=
  Schema.criteriaTyped_of_castCriteria h

/-- Branches inside a branch, operators on a list and on an integer, and a path that the schema does
not know. -/
theorem criteriaTyped_nested :
    let schema : Schema := ⟨"Person", none,
      [⟨"age", .scalar .int, {}⟩, ⟨"names", .list ⟨.list ⟨.scalar .text, {}⟩, {}⟩, {}⟩]⟩
    let criteria : Criteria :=
      [("$or", .array [
          .object [("$nor", .array [.object [("age", .object
            [("$in", .array [.string " 7 ", .null])])]])],
          .object [("names", .array [.array [.number (.int 1)], .bool true])]]),
        ("_id", .object [("$exists", .number (.int 1))]),
        ("height", .object [("$near", .null)])]
    let cast : Criteria :=
      [("$or", .array [
          .object [("$nor", .array [.object [("age", .object
            [("$in", .array [.number (.int 7), .null])])]])],
          .object [("names", .array [.array [.string "1"], .string "true"])]]),
        ("_id", .object [("$exists", .bool true)]),
        ("height", .object [("$near", .null)])]
    Caster.bySchema schema criteria = .ok cast ∧ schema.CriteriaTyped criteria cast := by
  intro schema criteria cast
  have hcast : Caster.bySchema schema criteria = .ok cast := rfl
  exact ⟨hcast, criteriaTyped_of_bySchema hcast⟩

end JoinPlan
