import JoinPlan.Proofs.Criteria.Positions
import JoinPlan.Proofs.Criteria.Typing

/-!
# Where casting fails

Casting succeeds when every demand that it makes is met, and otherwise fails at the first place
where one is not; what the error says is so of that place (`bySchema_first_failure`).

* The error of a computation put together of others is that of the first part that has one
  (`errorOf_pair`, `errorOf_mapM`), and so is the first failure in places put together
  (`firstFailure_append`, `firstFailure_itemPlaces`).
* So the two agree for each function that casts, from the innermost outwards (`errorOf_castScalar`
  to `Schema.errorOf_castCriteria`).
* Where a place is tells what its error says (`Schema.Located.accurate`).
-/

namespace JoinPlan

/-! ### The first failure -/

/-- The failure at a place, if its demand is not met. -/
def Place.failure? (place : Place) : Option CastError :=
  if place.isMet then none else some place.error

/-- The first failure among places. -/
def firstFailure (places : List Place) : Option CastError :=
  places.findSome? Place.failure?

theorem firstFailure_append (places others : List Place) :
    firstFailure (places ++ others) = (firstFailure places).or (firstFailure others) :=
  List.findSome?_append

theorem firstFailure_cons_of_met {place : Place} (h : place.isMet = true) (others : List Place) :
    firstFailure (place :: others) = firstFailure others := by
  unfold firstFailure Place.failure?
  rw [List.findSome?_cons, h, if_pos rfl]

theorem firstFailure_cons_of_unmet {place : Place} (h : place.isMet = false)
    (others : List Place) : firstFailure (place :: others) = some place.error := by
  unfold firstFailure Place.failure?
  rw [List.findSome?_cons, h, if_neg Bool.false_ne_true]

/-- A failure does not tell the way to its place. -/
theorem Place.failure?_under (route : Json.Route) (place : Place) :
    (place.under route).failure? = place.failure? := by
  obtain ⟨_, key, demand, value⟩ := place
  cases demand <;> rfl

theorem firstFailure_under (route : Json.Route) (places : List Place) :
    firstFailure (places.map (.under route)) = firstFailure places := by
  unfold firstFailure
  rw [List.findSome?_map, Function.comp_def]
  simp only [Place.failure?_under]

theorem firstFailure_itemPlaces (places : Json → List Place) : ∀ (index : Nat) (items : List Json),
    firstFailure (itemPlaces places index items) =
      items.findSome? fun item => firstFailure (places item)
  | _, [] => rfl
  | index, item :: rest => by
    rw [itemPlaces, firstFailure_append, firstFailure_under,
      firstFailure_itemPlaces places (index + 1) rest, List.findSome?_cons]
    cases firstFailure (places item) <;> rfl

theorem firstFailure_eq_none_iff {places : List Place} :
    firstFailure places = none ↔ ∀ place ∈ places, place.isMet = true := by
  unfold firstFailure Place.failure?
  simp [List.findSome?_eq_none_iff]

theorem firstFailure_eq_some_iff {places : List Place} {error : CastError} :
    firstFailure places = some error ↔ ∃ before place after, places = before ++ place :: after ∧
      (∀ earlier ∈ before, earlier.isMet = true) ∧ place.isMet = false ∧ error = place.error := by
  unfold firstFailure Place.failure?
  rw [List.findSome?_eq_some_iff]
  constructor
  · rintro ⟨before, place, after, rfl, herror, hbefore⟩
    have hunmet : place.isMet = false := by
      by_contra hmet
      rw [Bool.not_eq_false] at hmet
      rw [hmet] at herror
      cases herror
    rw [hunmet, if_neg Bool.false_ne_true] at herror
    refine ⟨before, place, after, rfl, ?_, hunmet, (Option.some.inj herror).symm⟩
    intro earlier hearlier
    by_contra hnot
    have hsome := hbefore earlier hearlier
    rw [if_neg hnot] at hsome
    cases hsome
  · rintro ⟨before, place, after, rfl, hbefore, hunmet, rfl⟩
    refine ⟨before, place, after, rfl, ?_, fun earlier hearlier => ?_⟩
    · rw [hunmet, if_neg Bool.false_ne_true]
    · exact if_pos (hbefore earlier hearlier)

/-! ### Errors of computations -/

section Errors

variable {ε α β γ : Type}

/-- The error of a computation, if it fails. -/
def errorOf : Except ε α → Option ε
  | .ok _ => none
  | .error error => some error

theorem errorOf_eq_some_iff {x : Except ε α} {error : ε} :
    errorOf x = some error ↔ x = .error error := by
  cases x <;> simp [errorOf]

theorem errorOf_eq_none_iff {x : Except ε α} : errorOf x = none ↔ ∃ a, x = .ok a := by
  cases x <;> simp [errorOf]

theorem errorOf_map (f : α → β) (x : Except ε α) : errorOf (x.map f) = errorOf x := by
  cases x <;> rfl

/-- Two computations in a row fail with the error of the first, or else with that of the second. -/
theorem errorOf_pair (f : α → β → γ) (x : Except ε α) (y : Except ε β) :
    errorOf (do let a ← x; return f a (← y)) = (errorOf x).or (errorOf y) := by
  cases x <;> cases y <;> rfl

/-- Items fail with the error of the first one that fails. -/
theorem errorOf_mapM (f : α → Except ε β) (items : List α) :
    errorOf (items.mapM f) = items.findSome? fun item => errorOf (f item) := by
  induction items with
  | nil => rfl
  | cons item rest ih =>
    rw [List.mapM_cons, errorOf_pair, ih, List.findSome?_cons]
    cases errorOf (f item) <;> rfl

end Errors

/-! ### Casting fails first where a demand is not met -/

theorem errorOf_castScalar (key : String) (type : Scalar) (value : Json) :
    errorOf (castScalar key type value) = firstFailure [⟨[], key, .scalar type, value⟩] := by
  unfold castScalar
  cases hconvert : type.convert? value with
  | some cast =>
    rw [firstFailure_cons_of_met (by simp [Place.isMet, Demand.isMetBy, hconvert])]
    rfl
  | none =>
    rw [firstFailure_cons_of_unmet (by simp [Place.isMet, Demand.isMetBy, hconvert])]
    rfl

theorem errorOf_castItems {key : String} {kind : Kind}
    (h : ∀ item, errorOf (castValue key kind item) = firstFailure (kind.places key item))
    (items : List Json) :
    errorOf ((items.mapM fun item => castValue key kind item).map Json.array) =
      firstFailure (itemPlaces (kind.places key) 0 items) := by
  rw [errorOf_map, errorOf_mapM, firstFailure_itemPlaces]
  simp only [h]

theorem errorOf_castValue (key : String) : ∀ (kind : Kind) (value : Json),
    errorOf (castValue key kind value) = firstFailure (kind.places key value)
  | .scalar type, value => by
    rw [castValue, Kind.places]
    exact errorOf_castScalar key type value
  | .mixed, value => by
    rw [castValue, Kind.places]
    rfl
  | .embedded _, value => by
    rw [castValue, Kind.places]
    rfl
  | .list ⟨kind, _⟩, value => by
    rcases value.array_or_ne with ⟨items, rfl⟩ | hitem
    · rw [castValue, Kind.places]
      exact errorOf_castItems (fun item => errorOf_castValue key kind item) items
    · rw [castValue_item hitem, Kind.places_item hitem]
      exact errorOf_castValue key kind value

theorem contains_fieldOperators (operator : String) :
    fieldOperators.contains operator = (comparisonOperators.contains operator ||
      listOperators.contains operator || operator == "$exists") := by
  simp only [fieldOperators, List.contains_append, List.contains_cons, List.contains_nil,
    Bool.or_false]

theorem errorOf_castOperand (key : String) (kind : Kind) (operator : String) (operand : Json) :
    errorOf (castOperand key kind operator operand) =
      firstFailure (kind.operandPlaces key operator operand) := by
  have hmet : Place.isMet ⟨[], key, .operator operator, operand⟩ =
      fieldOperators.contains operator := rfl
  rw [contains_fieldOperators] at hmet
  unfold castOperand Kind.operandPlaces
  by_cases hcomparison : comparisonOperators.contains operator = true
  · rw [firstFailure_cons_of_met (by rw [hmet, hcomparison]; rfl), if_pos hcomparison,
      if_pos hcomparison]
    exact errorOf_castValue key kind operand
  · rw [Bool.not_eq_true] at hcomparison
    rw [hcomparison, if_neg Bool.false_ne_true, if_neg Bool.false_ne_true]
    by_cases hlist : listOperators.contains operator = true
    · rw [firstFailure_cons_of_met (by rw [hmet, hcomparison, hlist]; rfl), if_pos hlist,
        if_pos hlist]
      cases operand with
      | array items =>
        rw [firstFailure_cons_of_met rfl]
        exact errorOf_castItems (errorOf_castValue key kind) items
      | _ =>
        rw [firstFailure_cons_of_unmet rfl]
        rfl
    · rw [Bool.not_eq_true] at hlist
      rw [hlist, if_neg Bool.false_ne_true, if_neg Bool.false_ne_true]
      by_cases hexists : operator = "$exists"
      · have hpresence : (operator == "$exists") = true := beq_iff_eq.mpr hexists
        rw [firstFailure_cons_of_met (by rw [hmet, hcomparison, hlist, hpresence]; rfl),
          if_pos hexists, if_pos hexists]
        exact errorOf_castScalar key .bool operand
      -- An unknown operator is refused before its operand is looked at.
      · have hpresence : (operator == "$exists") = false := beq_eq_false_iff_ne.mpr hexists
        rw [firstFailure_cons_of_unmet (by rw [hmet, hcomparison, hlist, hpresence]; rfl),
          if_neg hexists]
        rfl

theorem errorOf_castOperands (key : String) (kind : Kind) (members : Fields) :
    errorOf (castOperands key kind members) =
      firstFailure (memberPlaces (kind.operandPlaces key) members) := by
  induction members with
  | nil => rfl
  | cons member rest ih =>
    obtain ⟨operator, operand⟩ := member
    rw [castOperands, errorOf_pair, ih, errorOf_castOperand, memberPlaces, firstFailure_append,
      firstFailure_under]

theorem errorOf_castCondition (key : String) (kind : Kind) (condition : Json) :
    errorOf (castCondition key kind condition) =
      firstFailure (kind.conditionPlaces key condition) := by
  unfold castCondition Kind.conditionPlaces
  cases condition with
  | object members =>
    dsimp only
    by_cases hoperator : (members.any fun member => isOperator member.1) = true
    · rw [if_pos hoperator, if_pos hoperator, errorOf_map]
      exact errorOf_castOperands key kind members
    · rw [if_neg hoperator, if_neg hoperator]
      exact errorOf_castValue key kind (.object members)
  | _ => exact errorOf_castValue key kind _

namespace Schema

variable {schema : Schema}

theorem errorOf_castAt (key : String) (condition : Json) :
    errorOf (schema.castAt key condition) = firstFailure (schema.placesAt key condition) := by
  unfold castAt placesAt
  cases schema.kindAt key with
  | some kind => exact errorOf_castCondition key kind condition
  | none => rfl

theorem errorOf_castEntry_condition {key : String} {condition : Json}
    (h : ∀ branches, condition ≠ .array branches) :
    errorOf (castEntry schema key condition) = firstFailure (entryPlaces schema key condition) := by
  rw [castEntry_condition h, entryPlaces_condition h]
  split
  · have hunmet : Place.isMet ⟨[], key, .branches, condition⟩ = false := by
      cases condition with
      | array branches => exact absurd rfl (h branches)
      | _ => rfl
    rw [firstFailure_cons_of_unmet hunmet]
    rfl
  · exact errorOf_castAt key condition

mutual

theorem errorOf_castCriteria : ∀ (criteria : Criteria),
    errorOf (castCriteria schema criteria) = firstFailure (schema.places criteria)
  | [] => by
    rw [castCriteria, places]
    rfl
  | (key, condition) :: rest => by
    rw [castCriteria, places, errorOf_pair, firstFailure_append, firstFailure_under,
      errorOf_castEntry key condition, errorOf_castCriteria rest]

theorem errorOf_castEntry : ∀ (key : String) (condition : Json),
    errorOf (castEntry schema key condition) = firstFailure (entryPlaces schema key condition)
  | key, .array branches => by
    rw [castEntry, entryPlaces]
    split
    · rw [errorOf_map, errorOf_castBranches key 0 branches, firstFailure_cons_of_met rfl]
    · exact errorOf_castAt key (.array branches)
  | _, .null | _, .bool _ | _, .number _ | _, .string _ | _, .object _ =>
    errorOf_castEntry_condition (by simp)

theorem errorOf_castBranches : ∀ (operator : String) (index : Nat) (branches : List Json),
    errorOf (castBranches schema operator branches) =
      firstFailure (branchesPlaces schema operator index branches)
  | operator, index, [] => by
    rw [castBranches, branchesPlaces]
    rfl
  | operator, index, .object criteria :: rest => by
    rw [castBranches, branchesPlaces, errorOf_pair, firstFailure_append, firstFailure_under,
      castBranch, branchPlaces, errorOf_map, errorOf_castCriteria criteria,
      errorOf_castBranches operator (index + 1) rest, firstFailure_cons_of_met rfl]
  | operator, index, .null :: rest | operator, index, .bool _ :: rest
  | operator, index, .number _ :: rest | operator, index, .string _ :: rest
  | operator, index, .array _ :: rest => by
    rw [castBranches, branchesPlaces, errorOf_pair, firstFailure_append, firstFailure_under,
      castBranch, branchPlaces, errorOf_castBranches operator (index + 1) rest,
      firstFailure_cons_of_unmet rfl]
    · rfl
    · simp
    · simp

end

end Schema

/-! ### What an error says -/

/-- What an error says is so where a way leads.

* A value that cannot be cast stands under its path, which is of some kind.  An array is expected of
  the operand of `$in` or `$nin`, a truth value of that of `$exists`, and otherwise what the items
  of lists come down to.
* An unsupported operator is a key of an object with operators.
* A logical operator that is said to hold no array of criteria holds no array, or an item that is no
  object. -/
inductive Schema.Accurate (schema : Schema) (criteria : Criteria) (route : Json.Route) :
    CastError → Prop
  | invalidValue {way inner : Json.Route} {path : String} {kind : Kind} {condition found : Json}
      {expected : Expected} (constrains : schema.Constrains criteria way path kind condition)
      (split : route = way ++ inner) (reaches : condition.Reaches inner found)
      (array : expected.label = "array" ↔ found.isArray = false ∧
        ∃ name ∈ listOperators, inner = [.member name] ∧ condition.HasOperand name found)
      (presence : inner = [.member "$exists"] → condition.HasOperand "$exists" found →
        expected.label = "bool")
      (otherwise : expected.label ≠ "array" →
        ¬ (inner = [.member "$exists"] ∧ condition.HasOperand "$exists" found) →
          expected.label = kind.innermost.label)
      (scalar : expected.label ∉ ["list", "embedded", "mixed"]) :
      Accurate schema criteria route (.invalidValue path expected found)
  | unsupportedOperator {way : Json.Route} {path name : String} {kind : Kind}
      {condition operand : Json} (constrains : schema.Constrains criteria way path kind condition)
      (split : route = way ++ [.member name]) (has : condition.HasOperand name operand)
      (unknown : name ∉ fieldOperators) :
      Accurate schema criteria route (.unsupportedOperator path name)
  | notArray {operator : String} {value : Json} (logical : operator ∈ logicalOperators)
      (entry : criteria.HasEntry route operator value) (shape : value.isArray = false) :
      Accurate schema criteria route (.logicalShape operator)
  | notObject {way : Json.Route} {operator : String} {branches : List Json} {index : Nat}
      {branch : Json} (logical : operator ∈ logicalOperators)
      (entry : criteria.HasEntry way operator (.array branches))
      (get : branches[index]? = some branch) (split : route = way ++ [.item index])
      (shape : branch.isObject = false) : Accurate schema criteria route (.logicalShape operator)

/-- A scalar is neither called an array nor one of the other kinds. -/
theorem Scalar.label_notMem (type : Scalar) :
    type.label ∉ ["array", "list", "embedded", "mixed"] := by
  cases type <;> decide

/-- A value that a condition compares with is a whole operand only under a comparison. -/
theorem Json.Compares.comparison {condition value operand : Json} {route : Route} {name : String}
    (h : condition.Compares route value) (hroute : route = [.member name])
    (has : condition.HasOperand name operand) : name ∈ comparisonOperators := by
  cases h with
  | value direct _ =>
    obtain ⟨members, hmembers, ⟨member, hmem, hoperator⟩, _⟩ := has
    rw [direct members hmembers member hmem] at hoperator
    cases hoperator
  | operand comparison _ _ =>
    obtain ⟨hname, _⟩ := List.cons.inj hroute
    rwa [← Step.member.inj hname]
  | item _ _ _ _ => cases hroute

namespace Schema

variable {schema : Schema} {criteria : Criteria} {place : Place}

theorem Located.accurate (h : schema.Located criteria place) (hunmet : place.isMet = false) :
    schema.Accurate criteria place.route place.error := by
  have hnone : ∀ name ∈ listOperators, name ∉ comparisonOperators ∧ name ≠ "$exists" := by decide
  cases h with
  | branches logical entry => exact .notArray logical entry hunmet
  | branch logical entry get => exact .notObject logical entry get rfl hunmet
  | operator constrains has =>
    refine .unsupportedOperator constrains rfl has fun hmem => ?_
    rw [Place.isMet, Demand.isMetBy, List.contains_iff_mem.mpr hmem] at hunmet
    cases hunmet
  | items constrains list has =>
    refine .invalidValue constrains rfl has.reaches
      ⟨fun _ => ⟨hunmet, _, list, rfl, has⟩, fun _ => rfl⟩ (fun hexists _ => ?_)
      (fun hlabel _ => absurd rfl hlabel) (by decide)
    obtain ⟨hname, _⟩ := List.cons.inj hexists
    exact absurd (Json.Step.member.inj hname) (hnone _ list).2
  | presence constrains has =>
    refine .invalidValue constrains rfl has.reaches
      ⟨fun hlabel => absurd hlabel (by decide), fun ⟨_, name, hlist, hroute, _⟩ => ?_⟩
      (fun _ _ => rfl) (fun _ hnot => absurd ⟨rfl, has⟩ hnot) (by decide)
    obtain ⟨hname, _⟩ := List.cons.inj hroute
    exact absurd (Json.Step.member.inj hname).symm (hnone name hlist).2
  | scalar constrains innermost compares =>
    rename_i type _ _
    have hlabel := type.label_notMem
    rw [List.mem_cons, not_or] at hlabel
    -- No scalar stands where an operand of `$in`, `$nin` or `$exists` does: what a condition
    -- compares with is a whole operand under comparisons only.
    refine .invalidValue constrains rfl compares.reaches
      ⟨fun harray => absurd harray hlabel.1, fun ⟨_, name, hlist, hroute, has⟩ => ?_⟩
      (fun hroute has => ?_) (fun _ _ => by rw [innermost]; rfl) hlabel.2
    · exact absurd (compares.comparison hroute has) (hnone name hlist).1
    · exact absurd (compares.comparison hroute has) (by decide)

end Schema

/-- **Cast errors are accurate and first**: casting by a schema succeeds when every demand is met,
and otherwise the error is that of the first place whose demand is not, and is so of that place.
Every place is one in the criteria, and if the members of objects stand in the order of their keys,
the places stand in depth-first order. -/
theorem bySchema_first_failure (schema : Schema) (criteria : Criteria) :
    ((∃ cast, Caster.bySchema schema criteria = .ok cast) ↔
      ∀ place ∈ schema.places criteria, place.isMet = true) ∧
    (∀ error, Caster.bySchema schema criteria = .error error ↔
      ∃ before place after, schema.places criteria = before ++ place :: after ∧
        (∀ earlier ∈ before, earlier.isMet = true) ∧ place.isMet = false ∧
        error = place.error ∧ schema.Accurate criteria place.route error) ∧
    (∀ place ∈ schema.places criteria,
      (Json.object criteria).Reaches place.route place.value) ∧
    ((Json.object criteria).ObjectsOrdered → DepthFirstOrder (schema.places criteria)) := by
  have hcast : errorOf (Caster.bySchema schema criteria) = firstFailure (schema.places criteria) :=
    Schema.errorOf_castCriteria criteria
  refine ⟨?_, fun error => ?_, fun place hmem => (Schema.located_of_mem_places hmem).reaches,
    Schema.depthFirstOrder_places⟩
  · rw [← errorOf_eq_none_iff, hcast, firstFailure_eq_none_iff]
  · rw [← errorOf_eq_some_iff, hcast, firstFailure_eq_some_iff]
    constructor
    · rintro ⟨before, place, after, hplaces, hbefore, hunmet, rfl⟩
      have hmem : place ∈ schema.places criteria := by
        rw [hplaces]
        exact List.mem_append_right _ List.mem_cons_self
      have haccurate := (Schema.located_of_mem_places hmem).accurate hunmet
      exact ⟨before, place, after, hplaces, hbefore, hunmet, rfl, haccurate⟩
    · rintro ⟨before, place, after, hplaces, hbefore, hunmet, herror, _⟩
      exact ⟨before, place, after, hplaces, hbefore, hunmet, herror⟩

/-- A text that is no integer, in a list under an operator in a branch: the entries before it are
cast, and neither the branch that is no object nor the unknown operator behind it is come to. -/
theorem bySchema_first_failure_person :
    let schema : Schema := ⟨"Person", none, [⟨"age", .scalar .int, {}⟩]⟩
    let criteria : Criteria :=
      [("$or", .array [
          .object [("age", .object [("$gt", .string "7"), ("$in", .array [.null, .string "old"])])],
          .bool true]),
        ("age", .object [("$near", .null)])]
    let error : CastError := .invalidValue "age" (.scalar .int) (.string "old")
    Caster.bySchema schema criteria = .error error ∧
      DepthFirstOrder (schema.places criteria) ∧
      ∃ before place after, schema.places criteria = before ++ place :: after ∧
        (∀ earlier ∈ before, earlier.isMet = true) ∧ place.isMet = false ∧
        error = place.error ∧ schema.Accurate criteria place.route error := by
  intro schema criteria error
  have herror : Caster.bySchema schema criteria = .error error := rfl
  have hordered : (Json.object criteria).ObjectsOrdered := by
    simp only [criteria, Json.objectsOrdered_object, Json.objectsOrdered_array, Fields.Ordered,
      List.pairwise_cons, List.Pairwise.nil, List.forall_mem_cons, List.not_mem_nil, false_imp_iff,
      forall_const, and_true, true_and]
    refine ⟨by decide, ⟨⟨by decide, ?_, ?_, ?_⟩, ?_⟩, ?_⟩ <;>
      exact Json.objectsOrdered_other (by simp) (by simp)
  obtain ⟨_, hfailure, _, horder⟩ := bySchema_first_failure schema criteria
  exact ⟨herror, horder hordered, (hfailure error).mp herror⟩

end JoinPlan
