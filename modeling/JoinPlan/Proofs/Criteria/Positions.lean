import JoinPlan.Proofs.Criteria.Places

/-!
# Where the demands of casting are made

Every place is one in the criteria: its value stands where the place says, under its key, in the
position in which the demand is made (`Schema.located_of_mem_places`).  If the members of objects
stand in the order of their keys, the places stand in depth-first order
(`Schema.depthFirstOrder_places`).

Both are shown for the lists of places that are put together from those of members and items
(`mem_memberPlaces`, `depthFirstOrder_memberPlaces` and the like), from the innermost outwards.  For
the criteria in branches of logical operators that is an induction over values (`Json.induct`): what
stands under a key and what stands as a branch are parts of the same value.
-/

namespace JoinPlan

/-! ### Ways into values -/

namespace Json

/-- The value stands at the end of the way from the whole. -/
inductive Reaches : Json → Route → Json → Prop
  | here (value : Json) : Reaches value [] value
  | member {members : Fields} {key : String} {value inner : Json} {route : Route}
      (mem : (key, value) ∈ members) (rest : Reaches value route inner) :
      Reaches (.object members) (.member key :: route) inner
  | item {items : List Json} {index : Nat} {value inner : Json} {route : Route}
      (get : items[index]? = some value) (rest : Reaches value route inner) :
      Reaches (.array items) (.item index :: route) inner

/-- The first way ends where the second one does, or at a value that comes before in depth-first
order: a value comes before what is inside it, members come in the order of their keys, and items
in theirs. -/
inductive DepthFirst : Route → Route → Prop
  | whole (route : Route) : DepthFirst [] route
  | same (step : Step) {route other : Route} (rest : DepthFirst route other) :
      DepthFirst (step :: route) (step :: other)
  | member {key otherKey : String} (before : key < otherKey) (route other : Route) :
      DepthFirst (.member key :: route) (.member otherKey :: other)
  | item {index otherIndex : Nat} (before : index < otherIndex) (route other : Route) :
      DepthFirst (.item index :: route) (.item otherIndex :: other)

/-- Every object inside the value has its members in the order of their keys. -/
def ObjectsOrdered (value : Json) : Prop :=
  ∀ route (members : Fields), value.Reaches route (.object members) → members.Ordered

theorem Reaches.trans {value middle inner : Json} {route other : Route}
    (h : value.Reaches route middle) (hinner : middle.Reaches other inner) :
    value.Reaches (route ++ other) inner := by
  induction h with
  | here => exact hinner
  | member mem _ ih => exact .member mem (ih hinner)
  | item get _ ih => exact .item get (ih hinner)

theorem DepthFirst.append {route other : Route} (h : DepthFirst route other) (common : Route) :
    DepthFirst (common ++ route) (common ++ other) := by
  induction common with
  | nil => exact h
  | cons step _ ih => exact .same step ih

theorem objectsOrdered_object {members : Fields} : (object members).ObjectsOrdered ↔
    members.Ordered ∧ ∀ member ∈ members, member.2.ObjectsOrdered := by
  constructor
  · intro h
    refine ⟨h [] members (.here _), fun member hmem route inner hreaches => ?_⟩
    exact h (.member member.1 :: route) inner (.member hmem hreaches)
  · rintro ⟨hordered, hmembers⟩ route inner hreaches
    cases hreaches with
    | here => exact hordered
    | member hmem hrest => exact hmembers _ hmem _ inner hrest

theorem objectsOrdered_array {items : List Json} :
    (array items).ObjectsOrdered ↔ ∀ item ∈ items, item.ObjectsOrdered := by
  constructor
  · intro h item hmem route inner hreaches
    obtain ⟨index, hget⟩ := List.getElem?_of_mem hmem
    exact h (.item index :: route) inner (.item hget hreaches)
  · intro hitems route inner hreaches
    cases hreaches with
    | item hget hrest => exact hitems _ (List.mem_of_getElem? hget) _ inner hrest

theorem objectsOrdered_other {value : Json} (harray : ∀ items, value ≠ .array items)
    (hobject : ∀ members, value ≠ .object members) : value.ObjectsOrdered := by
  intro route inner hreaches
  cases hreaches with
  | here => exact absurd rfl (hobject inner)
  | member => exact absurd rfl (hobject _)
  | item => exact absurd rfl (harray _)

/-- Induction over values: what holds of the items of arrays and of the values of members holds of
arrays and objects. -/
theorem induct {motive : Json → Prop}
    (array : ∀ items, (∀ item ∈ items, motive item) → motive (.array items))
    (object : ∀ members : Fields, (∀ member ∈ members, motive member.2) → motive (.object members))
    (other : ∀ value, (∀ items, value ≠ .array items) → (∀ members, value ≠ .object members) →
      motive value) (value : Json) : motive value :=
  Json.rec (motive_1 := motive) (motive_2 := fun items => ∀ item ∈ items, motive item)
    (motive_3 := fun members => ∀ member ∈ members, motive member.2)
    (motive_4 := fun member => motive member.2)
    (other _ (by simp) (by simp)) (fun _ => other _ (by simp) (by simp))
    (fun _ => other _ (by simp) (by simp)) (fun _ => other _ (by simp) (by simp))
    array object
    (by simp) (fun _ _ head tail => List.forall_mem_cons.mpr ⟨head, tail⟩)
    (by simp) (fun _ _ head tail => List.forall_mem_cons.mpr ⟨head, tail⟩)
    (fun _ _ value => value) value

end Json

/-! ### Where the places are -/

/-- The way leads to an entry of the criteria, or of the criteria in a branch of a logical operator,
at any depth. -/
inductive Criteria.HasEntry : Criteria → Json.Route → String → Json → Prop
  | here {criteria : Criteria} {key : String} {condition : Json}
      (mem : (key, condition) ∈ criteria) : HasEntry criteria [.member key] key condition
  | nested {criteria branch : Criteria} {operator key : String} {branches : List Json}
      {index : Nat} {route : Json.Route} {condition : Json} (logical : operator ∈ logicalOperators)
      (mem : (operator, .array branches) ∈ criteria)
      (get : branches[index]? = some (.object branch)) (inner : HasEntry branch route key condition) :
      HasEntry criteria (.member operator :: .item index :: route) key condition

theorem Criteria.HasEntry.of_subset {criteria larger : Criteria} {route : Json.Route} {key : String}
    {condition : Json} (h : HasEntry criteria route key condition) (hsub : criteria ⊆ larger) :
    HasEntry larger route key condition := by
  cases h with
  | here mem => exact .here (hsub mem)
  | nested logical mem get inner => exact .nested logical (hsub mem) get inner

namespace Json

/-- The condition is an object with operators, and this is the operand of one of its keys. -/
def HasOperand (condition : Json) (operator : String) (operand : Json) : Prop :=
  ∃ members, condition = .object members ∧ (∃ member ∈ members, isOperator member.1 = true) ∧
    (operator, operand) ∈ members

/-- The way leads to a value that a condition compares with, or to a part of it: of the condition
itself, if that is not an object with operators, of the operand of a comparison, or of an item of an
operand. -/
inductive Compares (condition : Json) : Route → Json → Prop
  | value {route : Route} {value : Json}
      (direct : ∀ members, condition = .object members →
        ∀ member ∈ members, isOperator member.1 = false)
      (reaches : condition.Reaches route value) : Compares condition route value
  | operand {operator : String} {operand value : Json} {route : Route}
      (comparison : operator ∈ comparisonOperators) (has : condition.HasOperand operator operand)
      (reaches : operand.Reaches route value) :
      Compares condition (.member operator :: route) value
  | item {operator : String} {items : List Json} {index : Nat} {item value : Json} {route : Route}
      (list : operator ∈ listOperators) (has : condition.HasOperand operator (.array items))
      (get : items[index]? = some item) (reaches : item.Reaches route value) :
      Compares condition (.member operator :: .item index :: route) value

end Json

/-- The kind of the items of a list, of their items where these are lists, and so on. -/
def Kind.innermost : Kind → Kind
  | .list ⟨kind, _⟩ => kind.innermost
  | .scalar type => .scalar type
  | .mixed => .mixed
  | .embedded schema => .embedded schema

namespace Schema

/-- The way leads to the condition on a path of this kind. -/
structure Constrains (schema : Schema) (criteria : Criteria) (route : Json.Route) (path : String)
    (kind : Kind) (condition : Json) : Prop where
  entry : criteria.HasEntry route path condition
  not_logical : path ∉ logicalOperators
  known : schema.kindAt path = some kind

/-- A place is where it says: the way leads to its value, which stands under its key in the position
in which the demand is made. -/
inductive Located (schema : Schema) (criteria : Criteria) : Place → Prop
  | branches {route : Json.Route} {operator : String} {value : Json}
      (logical : operator ∈ logicalOperators) (entry : criteria.HasEntry route operator value) :
      Located schema criteria ⟨route, operator, .branches, value⟩
  | branch {route : Json.Route} {operator : String} {branches : List Json} {index : Nat}
      {value : Json} (logical : operator ∈ logicalOperators)
      (entry : criteria.HasEntry route operator (.array branches))
      (get : branches[index]? = some value) :
      Located schema criteria ⟨route ++ [.item index], operator, .branch, value⟩
  | operator {route : Json.Route} {path name : String} {kind : Kind} {condition operand : Json}
      (constrains : schema.Constrains criteria route path kind condition)
      (has : condition.HasOperand name operand) :
      Located schema criteria ⟨route ++ [.member name], path, .operator name, operand⟩
  | items {route : Json.Route} {path name : String} {kind : Kind} {condition operand : Json}
      (constrains : schema.Constrains criteria route path kind condition)
      (list : name ∈ listOperators) (has : condition.HasOperand name operand) :
      Located schema criteria ⟨route ++ [.member name], path, .items, operand⟩
  | presence {route : Json.Route} {path : String} {kind : Kind} {condition operand : Json}
      (constrains : schema.Constrains criteria route path kind condition)
      (has : condition.HasOperand "$exists" operand) :
      Located schema criteria ⟨route ++ [.member "$exists"], path, .presence, operand⟩
  | scalar {route inner : Json.Route} {path : String} {kind : Kind} {type : Scalar}
      {condition value : Json} (constrains : schema.Constrains criteria route path kind condition)
      (innermost : kind.innermost = .scalar type) (compares : condition.Compares inner value) :
      Located schema criteria ⟨route ++ inner, path, .scalar type, value⟩

end Schema

/-! ### The way leads to the value -/

theorem Criteria.HasEntry.reaches {criteria : Criteria} {route : Json.Route} {key : String}
    {condition : Json} (h : HasEntry criteria route key condition) :
    (Json.object criteria).Reaches route condition := by
  induction h with
  | here mem => exact .member mem (.here _)
  | nested _ mem get _ ih => exact .member mem (.item get ih)

theorem Json.HasOperand.reaches {condition operand : Json} {operator : String}
    (h : condition.HasOperand operator operand) : condition.Reaches [.member operator] operand := by
  obtain ⟨members, rfl, _, hmem⟩ := h
  exact .member hmem (.here operand)

theorem Json.Compares.reaches {condition value : Json} {route : Route}
    (h : condition.Compares route value) : condition.Reaches route value := by
  cases h with
  | value _ reaches => exact reaches
  | operand _ has reaches => exact has.reaches.trans reaches
  | item _ has get reaches => exact has.reaches.trans (.item get reaches)

theorem Schema.Located.reaches {schema : Schema} {criteria : Criteria} {place : Place}
    (h : schema.Located criteria place) :
    (Json.object criteria).Reaches place.route place.value := by
  cases h with
  | branches _ entry => exact entry.reaches
  | branch _ entry get => exact entry.reaches.trans (.item get (.here _))
  | operator constrains has => exact constrains.entry.reaches.trans has.reaches
  | items constrains _ has => exact constrains.entry.reaches.trans has.reaches
  | presence constrains has => exact constrains.entry.reaches.trans has.reaches
  | scalar constrains _ compares => exact constrains.entry.reaches.trans compares.reaches

/-! ### Every place is located -/

/-- The places in a value are scalars inside it. -/
theorem Kind.mem_places {key : String} : ∀ {kind : Kind} {value : Json} {place : Place},
    place ∈ kind.places key value → ∃ route type found, place = ⟨route, key, .scalar type, found⟩ ∧
      kind.innermost = .scalar type ∧ value.Reaches route found
  | .scalar type, value, place, h => by
    rw [Kind.places] at h
    exact ⟨[], type, value, List.mem_singleton.mp h, rfl, .here value⟩
  | .mixed, value, place, h => by
    rw [Kind.places] at h
    cases h
  | .embedded _, value, place, h => by
    rw [Kind.places] at h
    cases h
  | .list ⟨kind, _⟩, value, place, h => by
    rw [Kind.innermost]
    rcases value.array_or_ne with ⟨items, rfl⟩ | hitem
    · rw [Kind.places] at h
      obtain ⟨i, item, inner, hget, hinner, rfl⟩ := mem_itemPlaces h
      rw [Nat.zero_add]
      obtain ⟨route, type, found, rfl, hinnermost, hreaches⟩ := Kind.mem_places hinner
      exact ⟨.item i :: route, type, found, rfl, hinnermost, .item hget hreaches⟩
    · rw [Kind.places_item hitem] at h
      exact Kind.mem_places h

namespace Schema

variable {schema : Schema} {criteria : Criteria} {route : Json.Route} {key : String} {kind : Kind}
  {condition : Json} {place : Place}

/-- Places in some criteria are places in any that lead to the same entries. -/
theorem Located.under {larger : Criteria} (h : schema.Located criteria place)
    (hentry : ∀ inner key condition, criteria.HasEntry inner key condition →
      larger.HasEntry (route ++ inner) key condition) :
    schema.Located larger (place.under route) := by
  have hconstrains : ∀ {inner path kind condition},
      schema.Constrains criteria inner path kind condition →
        schema.Constrains larger (route ++ inner) path kind condition :=
    fun h => ⟨hentry _ _ _ h.entry, h.not_logical, h.known⟩
  cases h with
  | branches logical entry => exact .branches logical (hentry _ _ _ entry)
  | branch logical entry get =>
    rw [Place.under, ← List.append_assoc]
    exact .branch logical (hentry _ _ _ entry) get
  | operator constrains has =>
    rw [Place.under, ← List.append_assoc]
    exact .operator (hconstrains constrains) has
  | items constrains list has =>
    rw [Place.under, ← List.append_assoc]
    exact .items (hconstrains constrains) list has
  | presence constrains has =>
    rw [Place.under, ← List.append_assoc]
    exact .presence (hconstrains constrains) has
  | scalar constrains innermost compares =>
    rw [Place.under, ← List.append_assoc]
    exact .scalar (hconstrains constrains) innermost compares

theorem located_of_mem_operandPlaces
    (hconstrains : schema.Constrains criteria route key kind condition) {operator : String}
    {operand : Json} (has : condition.HasOperand operator operand)
    (h : place ∈ kind.operandPlaces key operator operand) :
    schema.Located criteria (place.under (route ++ [.member operator])) := by
  unfold Kind.operandPlaces at h
  rcases List.mem_cons.mp h with rfl | h
  · rw [Place.under_here]
    exact .operator hconstrains has
  split at h
  · rename_i hcomparison
    obtain ⟨inner, type, found, rfl, hinnermost, hreaches⟩ := Kind.mem_places h
    rw [Place.under, List.append_assoc]
    exact .scalar hconstrains hinnermost
      (.operand (List.contains_iff_mem.mp hcomparison) has hreaches)
  split at h
  · rename_i hcontains
    have hlist := List.contains_iff_mem.mp hcontains
    rcases List.mem_cons.mp h with rfl | h
    · rw [Place.under_here]
      exact .items hconstrains hlist has
    · split at h
      · obtain ⟨i, item, inner, hget, hinner, rfl⟩ := mem_itemPlaces h
        rw [Nat.zero_add]
        obtain ⟨inner, type, found, rfl, hinnermost, hreaches⟩ := Kind.mem_places hinner
        rw [Place.under, List.append_assoc]
        exact .scalar hconstrains hinnermost (.item hlist has hget hreaches)
      · cases h
  split at h
  · rename_i hexists
    rw [List.mem_singleton.mp h, Place.under_here, hexists]
    exact .presence hconstrains (hexists ▸ has)
  · cases h

theorem located_of_mem_conditionPlaces
    (hconstrains : schema.Constrains criteria route key kind condition)
    (h : place ∈ kind.conditionPlaces key condition) :
    schema.Located criteria (place.under route) := by
  have hvalue : (∀ members, condition = .object members →
      ∀ member ∈ members, isOperator member.1 = false) →
      place ∈ kind.places key condition → schema.Located criteria (place.under route) := by
    intro hdirect hplace
    obtain ⟨inner, type, found, rfl, hinnermost, hreaches⟩ := Kind.mem_places hplace
    exact .scalar hconstrains hinnermost (.value hdirect hreaches)
  unfold Kind.conditionPlaces at h
  split at h
  · rename_i members
    split at h
    · rename_i hoperator
      obtain ⟨operator, operand, inner, hmem, hinner, rfl⟩ := mem_memberPlaces h
      have has : (Json.object members).HasOperand operator operand :=
        ⟨members, rfl, List.any_eq_true.mp hoperator, hmem⟩
      have hlocated := located_of_mem_operandPlaces hconstrains has hinner
      rwa [Place.under, List.append_assoc] at hlocated
    · rename_i hnone
      refine hvalue (fun members' heq member hmember => ?_) h
      rw [Json.object.inj heq] at hnone
      exact Bool.eq_false_iff.mpr fun hoperator =>
        hnone (List.any_eq_true.mpr ⟨member, hmember, hoperator⟩)
  · rename_i hother
    exact hvalue (fun members heq => absurd heq (hother members)) h

theorem located_of_mem_placesAt (hpath : key ∉ logicalOperators)
    (hentry : criteria.HasEntry route key condition) (h : place ∈ schema.placesAt key condition) :
    schema.Located criteria (place.under route) := by
  unfold placesAt at h
  split at h
  · rename_i kind hkind
    exact located_of_mem_conditionPlaces ⟨hentry, hpath, hkind⟩ h
  · cases h

theorem located_of_mem_entryPlaces_condition (hcondition : ∀ branches, condition ≠ .array branches)
    (h : place ∈ entryPlaces schema key condition) :
    schema.Located [(key, condition)] (place.under [.member key]) := by
  rw [entryPlaces_condition hcondition] at h
  split at h
  · rename_i hlogical
    rw [List.mem_singleton.mp h]
    exact .branches (List.contains_iff_mem.mp hlogical) (.here List.mem_cons_self)
  · rename_i hpath
    exact located_of_mem_placesAt (fun hmem => hpath (List.contains_iff_mem.mpr hmem))
      (.here List.mem_cons_self) h

/-- A place in a branch of a logical operator is that of the branch, or one in its criteria. -/
def LocatedInBranch (schema : Schema) (operator : String) (branch : Json) (place : Place) : Prop :=
  place = ⟨[], operator, .branch, branch⟩ ∨
    ∃ criteria, branch = .object criteria ∧ schema.Located criteria place

theorem located_of_mem_entryPlaces_array {branches : List Json}
    (hbranches : ∀ branch ∈ branches, ∀ inner ∈ branchPlaces schema key branch,
      schema.LocatedInBranch key branch inner)
    (h : place ∈ entryPlaces schema key (.array branches)) :
    schema.Located [(key, .array branches)] (place.under [.member key]) := by
  rw [entryPlaces] at h
  split at h
  · rename_i hcontains
    have hlogical := List.contains_iff_mem.mp hcontains
    rcases List.mem_cons.mp h with rfl | h
    · exact .branches hlogical (.here List.mem_cons_self)
    · rw [branchesPlaces_eq_itemPlaces] at h
      obtain ⟨i, branch, inner, hget, hinner, rfl⟩ := mem_itemPlaces h
      rw [Nat.zero_add]
      -- The place is that of the branch itself, or one in its criteria.
      rcases hbranches branch (List.mem_of_getElem? hget) inner hinner with rfl | hcriteria
      · exact .branch hlogical (.here List.mem_cons_self) hget
      · obtain ⟨criteria, rfl, hlocated⟩ := hcriteria
        have hnested : schema.Located [(key, .array branches)]
            (inner.under [.member key, .item i]) :=
          hlocated.under fun _ _ _ hentry => .nested hlogical List.mem_cons_self hget hentry
        exact hnested
  · rename_i hpath
    exact located_of_mem_placesAt (fun hmem => hpath (List.contains_iff_mem.mpr hmem))
      (.here List.mem_cons_self) h

theorem located_of_mem_entries
    (hentries : ∀ entry ∈ criteria, ∀ inner ∈ entryPlaces schema entry.1 entry.2,
      schema.Located [entry] (inner.under [.member entry.1]))
    (h : place ∈ schema.places criteria) : schema.Located criteria place := by
  rw [places_eq_memberPlaces] at h
  obtain ⟨key, condition, inner, hmem, hinner, rfl⟩ := mem_memberPlaces h
  have hlocated : schema.Located criteria ((inner.under [.member key]).under []) := by
    refine (hentries (key, condition) hmem inner hinner).under fun _ _ _ hentry => ?_
    exact hentry.of_subset (List.cons_subset.mpr ⟨hmem, List.nil_subset _⟩)
  -- The way from the criteria to themselves is empty.
  exact hlocated

/-- Both as what stands under a key and as a branch, a value has located places only. -/
theorem located_of_mem_parts (value : Json) :
    (∀ key, ∀ place ∈ entryPlaces schema key value,
      schema.Located [(key, value)] (place.under [.member key])) ∧
    ∀ operator, ∀ place ∈ branchPlaces schema operator value,
      schema.LocatedInBranch operator value place := by
  induction value using Json.induct with
  | array items ih =>
    constructor
    · intro key place h
      exact located_of_mem_entryPlaces_array (fun branch hmem => (ih branch hmem).2 key) h
    · intro operator place h
      rw [branchPlaces_other (by simp)] at h
      exact .inl (List.mem_singleton.mp h)
  | object members ih =>
    constructor
    · intro key place h
      exact located_of_mem_entryPlaces_condition (by simp) h
    · intro operator place h
      rw [branchPlaces] at h
      rcases List.mem_cons.mp h with h | h
      · exact .inl h
      · refine .inr ⟨members, rfl, located_of_mem_entries (fun entry hmem => ?_) h⟩
        exact (ih entry hmem).1 entry.1
  | other value harray hobject =>
    constructor
    · intro key place h
      exact located_of_mem_entryPlaces_condition harray h
    · intro operator place h
      rw [branchPlaces_other hobject] at h
      exact .inl (List.mem_singleton.mp h)

theorem located_of_mem_places (h : place ∈ schema.places criteria) :
    schema.Located criteria place :=
  located_of_mem_entries (fun entry _ => (located_of_mem_parts entry.2).1 entry.1) h

end Schema

/-! ### The places are in depth-first order -/

/-- Each place comes before those that follow it, or leads to the same value. -/
def DepthFirstOrder (places : List Place) : Prop :=
  places.Pairwise fun place later => Json.DepthFirst place.route later.route

theorem depthFirstOrder_under {places : List Place} (h : DepthFirstOrder places)
    (route : Json.Route) : DepthFirstOrder (places.map (.under route)) :=
  List.pairwise_map.mpr (h.imp fun hroute => hroute.append route)

theorem depthFirstOrder_cons {places : List Place} (h : DepthFirstOrder places) (key : String)
    (demand : Demand) (value : Json) : DepthFirstOrder (⟨[], key, demand, value⟩ :: places) :=
  List.pairwise_cons.mpr ⟨fun place _ => .whole place.route, h⟩

theorem depthFirstOrder_itemPlaces {places : Json → List Place} : ∀ {items : List Json},
    (∀ item ∈ items, DepthFirstOrder (places item)) →
      ∀ index, DepthFirstOrder (itemPlaces places index items)
  | [], _, _ => .nil
  | item :: rest, h, index => by
    obtain ⟨hitem, hrest⟩ := List.forall_mem_cons.mp h
    refine List.pairwise_append.mpr ⟨depthFirstOrder_under hitem [.item index],
      depthFirstOrder_itemPlaces hrest (index + 1), fun place hplace later hlater => ?_⟩
    -- The ways part at the item, wherever in it they lead.
    obtain ⟨inner, _, rfl⟩ := List.mem_map.mp hplace
    obtain ⟨i, _, other, _, _, rfl⟩ := mem_itemPlaces hlater
    exact .item (by omega) inner.route other.route

theorem depthFirstOrder_memberPlaces {places : String → Json → List Place} :
    ∀ {members : Fields}, members.Ordered →
      (∀ member ∈ members, DepthFirstOrder (places member.1 member.2)) →
        DepthFirstOrder (memberPlaces places members)
  | [], _, _ => .nil
  | (key, value) :: rest, hordered, h => by
    obtain ⟨hmember, hrest⟩ := List.forall_mem_cons.mp h
    obtain ⟨hkey, htail⟩ := List.pairwise_cons.mp hordered
    refine List.pairwise_append.mpr ⟨depthFirstOrder_under hmember [.member key],
      depthFirstOrder_memberPlaces htail hrest, fun place hplace later hlater => ?_⟩
    obtain ⟨inner, _, rfl⟩ := List.mem_map.mp hplace
    obtain ⟨otherKey, value', other, hmem, _, rfl⟩ := mem_memberPlaces hlater
    exact .member (hkey (otherKey, value') hmem) inner.route other.route

namespace Kind

theorem depthFirstOrder_places (key : String) : ∀ (kind : Kind) (value : Json),
    DepthFirstOrder (kind.places key value)
  | .scalar type, value => by
    rw [Kind.places]
    exact List.pairwise_singleton _ _
  | .mixed, value => by
    rw [Kind.places]
    exact .nil
  | .embedded _, value => by
    rw [Kind.places]
    exact .nil
  | .list ⟨kind, _⟩, value => by
    rcases value.array_or_ne with ⟨items, rfl⟩ | hitem
    · rw [Kind.places]
      exact depthFirstOrder_itemPlaces (fun item _ => depthFirstOrder_places key kind item) 0
    · rw [Kind.places_item hitem]
      exact depthFirstOrder_places key kind value

theorem depthFirstOrder_operandPlaces (key : String) (kind : Kind) (operator : String)
    (operand : Json) : DepthFirstOrder (kind.operandPlaces key operator operand) := by
  unfold Kind.operandPlaces
  refine depthFirstOrder_cons ?_ key _ operand
  split
  · exact kind.depthFirstOrder_places key operand
  split
  · refine depthFirstOrder_cons ?_ key _ operand
    split
    · exact depthFirstOrder_itemPlaces (fun item _ => kind.depthFirstOrder_places key item) 0
    · exact .nil
  split
  · exact List.pairwise_singleton _ _
  · exact .nil

theorem depthFirstOrder_conditionPlaces (key : String) (kind : Kind) {condition : Json}
    (h : condition.ObjectsOrdered) : DepthFirstOrder (kind.conditionPlaces key condition) := by
  unfold Kind.conditionPlaces
  split
  · rename_i members
    split
    · exact depthFirstOrder_memberPlaces (Json.objectsOrdered_object.mp h).1 fun member _ =>
        kind.depthFirstOrder_operandPlaces key member.1 member.2
    · exact kind.depthFirstOrder_places key _
  · exact kind.depthFirstOrder_places key _

end Kind

namespace Schema

variable {schema : Schema} {criteria : Criteria} {condition : Json}

theorem depthFirstOrder_placesAt (key : String) (h : condition.ObjectsOrdered) :
    DepthFirstOrder (schema.placesAt key condition) := by
  unfold placesAt
  split
  · exact Kind.depthFirstOrder_conditionPlaces key _ h
  · exact .nil

theorem depthFirstOrder_entryPlaces_condition (hcondition : ∀ branches, condition ≠ .array branches)
    (key : String) (h : condition.ObjectsOrdered) :
    DepthFirstOrder (entryPlaces schema key condition) := by
  rw [entryPlaces_condition hcondition]
  split
  · exact List.pairwise_singleton _ _
  · exact depthFirstOrder_placesAt key h

theorem depthFirstOrder_entries (h : criteria.Ordered)
    (hentries : ∀ entry ∈ criteria, DepthFirstOrder (entryPlaces schema entry.1 entry.2)) :
    DepthFirstOrder (schema.places criteria) := by
  rw [places_eq_memberPlaces]
  exact depthFirstOrder_memberPlaces h hentries

/-- Both as what stands under a key and as a branch, a value has its places in depth-first order. -/
theorem depthFirstOrder_parts (value : Json) (h : value.ObjectsOrdered) :
    (∀ key, DepthFirstOrder (entryPlaces schema key value)) ∧
      ∀ operator, DepthFirstOrder (branchPlaces schema operator value) := by
  induction value using Json.induct with
  | array items ih =>
    constructor
    · intro key
      rw [entryPlaces]
      split
      · refine depthFirstOrder_cons ?_ key _ _
        rw [branchesPlaces_eq_itemPlaces]
        have hitems := Json.objectsOrdered_array.mp h
        exact depthFirstOrder_itemPlaces
          (fun item hmem => (ih item hmem (hitems item hmem)).2 key) 0
      · exact depthFirstOrder_placesAt key h
    · intro operator
      rw [branchPlaces_other (by simp)]
      exact List.pairwise_singleton _ _
  | object members ih =>
    constructor
    · intro key
      exact depthFirstOrder_entryPlaces_condition (by simp) key h
    · intro operator
      obtain ⟨hordered, hmembers⟩ := Json.objectsOrdered_object.mp h
      rw [branchPlaces]
      refine depthFirstOrder_cons (depthFirstOrder_entries hordered ?_) operator _ _
      intro entry hmem
      exact (ih entry hmem (hmembers entry hmem)).1 entry.1
  | other value harray hobject =>
    constructor
    · intro key
      exact depthFirstOrder_entryPlaces_condition harray key h
    · intro operator
      rw [branchPlaces_other hobject]
      exact List.pairwise_singleton _ _

theorem depthFirstOrder_places (h : (Json.object criteria).ObjectsOrdered) :
    DepthFirstOrder (schema.places criteria) := by
  obtain ⟨hordered, hentries⟩ := Json.objectsOrdered_object.mp h
  refine depthFirstOrder_entries hordered fun entry hmem => ?_
  exact (depthFirstOrder_parts entry.2 (hentries entry hmem)).1 entry.1

end Schema

end JoinPlan
