import JoinPlan.Criteria.Cast

/-!
# The demands of casting

Casting makes demands of the values in criteria: that the value of a logical operator is an array,
that a value can be taken for a number, and so on.  `Schema.places` lists the places where a demand
is made, each with the way to it from the whole of the criteria (`Json.Route`), in the order in
which casting comes to them.  Lists, unchecked values and embedded schemas make no demand of their
own, so that they have no place in it.
-/

namespace JoinPlan

/-! ### Demands -/

/-- The operators on a field. -/
def fieldOperators : List String :=
  comparisonOperators ++ listOperators ++ ["$exists"]

/-- What casting demands of a value. -/
inductive Demand where
  /-- What stands under a logical operator is an array. -/
  | branches
  /-- A branch of a logical operator is an object. -/
  | branch
  /-- The operator of an operand is one of those on a field. -/
  | operator (name : String)
  /-- The operand of `$in` or `$nin` is an array. -/
  | items
  /-- The operand of `$exists` can be taken for a truth value. -/
  | presence
  /-- The value can be taken for one of a scalar kind. -/
  | scalar (type : Scalar)

/-- A step into a value: to the member of an object under a key, or to an item of an array. -/
inductive Json.Step where
  | member (key : String)
  | item (index : Nat)

/-- The way from a value to one inside it. -/
abbrev Json.Route := List Json.Step

/-- A value under a key of criteria, the way to it, and what is demanded of it. -/
structure Place where
  route : Json.Route
  key : String
  demand : Demand
  value : Json

namespace Json

/-- Whether a value is an array. -/
def isArray : Json → Bool
  | .array _ => true
  | _ => false

/-- Whether a value is an object. -/
def isObject : Json → Bool
  | .object _ => true
  | _ => false

end Json

/-- Whether a value meets a demand. -/
def Demand.isMetBy : Demand → Json → Bool
  | .branches, value => value.isArray
  | .branch, value => value.isObject
  | .operator name, _ => fieldOperators.contains name
  | .items, value => value.isArray
  | .presence, value => (Scalar.bool.convert? value).isSome
  | .scalar type, value => (type.convert? value).isSome

namespace Place

/-- Whether the demand is met. -/
def isMet (place : Place) : Bool :=
  place.demand.isMetBy place.value

/-- The error that there is if the demand is not met. -/
def error : Place → CastError
  | ⟨_, key, .branches, _⟩ => .logicalShape key
  | ⟨_, key, .branch, _⟩ => .logicalShape key
  | ⟨_, key, .operator name, _⟩ => .unsupportedOperator key name
  | ⟨_, key, .items, value⟩ => .invalidValue key .array value
  | ⟨_, key, .presence, value⟩ => .invalidValue key (.scalar .bool) value
  | ⟨_, key, .scalar type, value⟩ => .invalidValue key (.scalar type) value

/-- The same place in a larger value, from which there is a way to the value that it is in. -/
def under (route : Json.Route) (place : Place) : Place :=
  { place with route := route ++ place.route }

end Place

/-! ### Places in order -/

/-- The places in items, item by item, where the first of them is at an index. -/
def itemPlaces (places : Json → List Place) : Nat → List Json → List Place
  | _, [] => []
  | index, item :: rest =>
    (places item).map (.under [.item index]) ++ itemPlaces places (index + 1) rest

/-- The places in members, member by member. -/
def memberPlaces (places : String → Json → List Place) : Fields → List Place
  | [] => []
  | (key, value) :: rest =>
    (places key value).map (.under [.member key]) ++ memberPlaces places rest

/-- The places in a value under a key of known kind: one for each scalar. -/
def Kind.places (key : String) : Kind → Json → List Place
  | .scalar type, value => [⟨[], key, .scalar type, value⟩]
  | .mixed, _ => []
  | .embedded _, _ => []
  | .list ⟨kind, _⟩, .array items => itemPlaces (fun item => kind.places key item) 0 items
  | .list ⟨kind, _⟩, value => kind.places key value
termination_by structural kind => kind

namespace Kind

/-- The places in an operand, that of its operator first. -/
def operandPlaces (key : String) (kind : Kind) (operator : String) (operand : Json) : List Place :=
  ⟨[], key, .operator operator, operand⟩ ::
    if comparisonOperators.contains operator then kind.places key operand
    else if listOperators.contains operator then
      ⟨[], key, .items, operand⟩ ::
        match operand with
        | .array items => itemPlaces (kind.places key) 0 items
        | _ => []
    else if operator = "$exists" then [⟨[], key, .presence, operand⟩]
    else []

/-- The places in a condition: those in the operands of an object with operators, or else those in a
value. -/
def conditionPlaces (key : String) (kind : Kind) (condition : Json) : List Place :=
  match condition with
  | .object members =>
    if members.any fun member => isOperator member.1 then
      memberPlaces (kind.operandPlaces key) members
    else kind.places key condition
  | value => kind.places key value

end Kind

namespace Schema

/-- The places in a condition, of which nothing is demanded if the schema does not know the path. -/
def placesAt (schema : Schema) (path : String) (condition : Json) : List Place :=
  match schema.kindAt path with
  | some kind => kind.conditionPlaces path condition
  | none => []

mutual

/-- The places in criteria, entry by entry. -/
def places (schema : Schema) : List (String × Json) → List Place
  | [] => []
  | (key, condition) :: rest =>
    (entryPlaces schema key condition).map (.under [.member key]) ++ places schema rest

/-- The places in what stands under a key. -/
def entryPlaces (schema : Schema) (key : String) : Json → List Place
  | .array branches =>
    if logicalOperators.contains key then
      ⟨[], key, .branches, .array branches⟩ :: branchesPlaces schema key 0 branches
    else schema.placesAt key (.array branches)
  | condition =>
    if logicalOperators.contains key then [⟨[], key, .branches, condition⟩]
    else schema.placesAt key condition

/-- The places in the branches of a logical operator, branch by branch. -/
def branchesPlaces (schema : Schema) (operator : String) : Nat → List Json → List Place
  | _, [] => []
  | index, branch :: rest =>
    (branchPlaces schema operator branch).map (.under [.item index]) ++
      branchesPlaces schema operator (index + 1) rest

/-- The places in a branch, that of the branch itself first. -/
def branchPlaces (schema : Schema) (operator : String) : Json → List Place
  | .object criteria => ⟨[], operator, .branch, .object criteria⟩ :: places schema criteria
  | other => [⟨[], operator, .branch, other⟩]

end

end Schema

/-! ### Places put together -/

theorem Place.under_here (route : Json.Route) (key : String) (demand : Demand) (value : Json) :
    Place.under route ⟨[], key, demand, value⟩ = ⟨route, key, demand, value⟩ := by
  rw [Place.under, List.append_nil]

theorem mem_itemPlaces {places : Json → List Place} {place : Place} :
    ∀ {index : Nat} {items : List Json}, place ∈ itemPlaces places index items →
      ∃ i item inner, items[i]? = some item ∧ inner ∈ places item ∧
        place = inner.under [.item (index + i)]
  | index, [], h => by cases h
  | index, head :: rest, h => by
    rw [itemPlaces, List.mem_append] at h
    rcases h with h | h
    · obtain ⟨inner, hinner, rfl⟩ := List.mem_map.mp h
      exact ⟨0, head, inner, rfl, hinner, rfl⟩
    · obtain ⟨i, item, inner, hget, hinner, hplace⟩ := mem_itemPlaces h
      refine ⟨i + 1, item, inner, hget, hinner, ?_⟩
      rw [hplace, Nat.add_right_comm, Nat.add_assoc]

theorem mem_memberPlaces {places : String → Json → List Place} {place : Place} :
    ∀ {members : Fields}, place ∈ memberPlaces places members →
      ∃ key value inner, (key, value) ∈ members ∧ inner ∈ places key value ∧
        place = inner.under [.member key]
  | [], h => by cases h
  | (key, value) :: rest, h => by
    rw [memberPlaces, List.mem_append] at h
    rcases h with h | h
    · obtain ⟨inner, hinner, rfl⟩ := List.mem_map.mp h
      exact ⟨key, value, inner, List.mem_cons_self, hinner, rfl⟩
    · obtain ⟨other, value', inner, hmem, hinner, hplace⟩ := mem_memberPlaces h
      exact ⟨other, value', inner, List.mem_cons_of_mem _ hmem, hinner, hplace⟩

theorem Kind.places_item {key : String} {kind : Kind} {options : Options} {value : Json}
    (h : ∀ items, value ≠ .array items) :
    (Kind.list ⟨kind, options⟩).places key value = kind.places key value := by
  cases value with
  | array items => exact absurd rfl (h items)
  | _ => rw [Kind.places]; simp

namespace Schema

variable {schema : Schema}

theorem places_eq_memberPlaces (criteria : Criteria) :
    schema.places criteria = memberPlaces (entryPlaces schema) criteria := by
  induction criteria with
  | nil =>
    rw [places]
    rfl
  | cons entry rest ih => rw [places, memberPlaces, ih]

theorem branchesPlaces_eq_itemPlaces (operator : String) (index : Nat) (branches : List Json) :
    branchesPlaces schema operator index branches =
      itemPlaces (branchPlaces schema operator) index branches := by
  induction branches generalizing index with
  | nil =>
    rw [branchesPlaces]
    rfl
  | cons branch rest ih => rw [branchesPlaces, itemPlaces, ih]

theorem entryPlaces_condition {key : String} {condition : Json}
    (h : ∀ branches, condition ≠ .array branches) :
    entryPlaces schema key condition =
      if logicalOperators.contains key then [⟨[], key, .branches, condition⟩]
      else schema.placesAt key condition := by
  cases condition with
  | array branches => exact absurd rfl (h branches)
  | _ => rw [entryPlaces]; simp

theorem branchPlaces_other {operator : String} {branch : Json}
    (h : ∀ criteria, branch ≠ .object criteria) :
    branchPlaces schema operator branch = [⟨[], operator, .branch, branch⟩] := by
  cases branch with
  | object criteria => exact absurd rfl (h criteria)
  | _ => rw [branchPlaces]; simp

end Schema

end JoinPlan
