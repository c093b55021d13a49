import JoinPlan.Proofs.Criteria.FixedPoints
import JoinPlan.Proofs.Criteria.Positions

/-!
# Criteria that stay as they are

Casting returns criteria unchanged exactly when it could do so entry by entry
(`bySchema_eq_self_iff`): under each logical operator, at any depth, stands an array of criteria,
and each condition on a known path may stand for itself.

On a path of unchecked kind every value may stand for itself, but not every object with operators:
its keys are taken for operators, whatever the kind is.  An operator compares with unchecked values
and leaves them alone, asks for an array, asks whether there is a value, which has to be said by a
truth value, or is not known (`Kind.conditionTyped_mixed_iff`).  So criteria in which the schema
checks no path are left alone exactly when the operators in them are of that sort
(`bySchema_unchecked_eq_self_iff`).
-/

namespace JoinPlan

/-! ### Entry by entry -/

namespace Schema

/-- The entry may stand for itself, as long as the entries in its branches may. -/
structure Keeps (schema : Schema) (key : String) (condition : Json) : Prop where
  branches : key ∈ logicalOperators →
    ∃ branches, condition = .array branches ∧ ∀ branch ∈ branches, branch.isObject = true
  condition : key ∉ logicalOperators → ∀ kind, schema.kindAt key = some kind →
    kind.ConditionTyped condition condition

variable {schema : Schema} {criteria : Criteria} {key : String} {condition : Json}

theorem Keeps.entryTyped (h : schema.Keeps key condition) (hpath : key ∉ logicalOperators) :
    schema.EntryTyped key condition condition := by
  cases hkind : schema.kindAt key with
  | none => exact .unknown hpath hkind
  | some kind => exact .known hpath hkind (h.condition hpath kind hkind)

/-- Each branch that may stand for itself is criteria that may. -/
theorem BranchesTyped.of_mem {branches : List Json} (h : schema.BranchesTyped branches branches)
    {branch : Json} (hmem : branch ∈ branches) :
    ∃ criteria, branch = .object criteria ∧ schema.CriteriaTyped criteria criteria := by
  induction branches with
  | nil => cases hmem
  | cons first rest ih =>
    cases h with
    | cons hfirst hrest =>
      rcases List.mem_cons.mp hmem with rfl | hmem
      · exact ⟨_, rfl, hfirst⟩
      · exact ih hrest hmem

theorem CriteriaTyped.entryTyped_of_mem (h : schema.CriteriaTyped criteria criteria)
    (hmem : (key, condition) ∈ criteria) : schema.EntryTyped key condition condition := by
  induction criteria with
  | nil => cases hmem
  | cons entry rest ih =>
    cases h with
    | cons hentry hrest =>
      rcases List.mem_cons.mp hmem with heq | hmem
      · obtain ⟨rfl, rfl⟩ := Prod.mk.inj heq
        exact hentry
      · exact ih hrest hmem

theorem EntryTyped.keeps (h : schema.EntryTyped key condition condition) :
    schema.Keeps key condition := by
  cases h with
  | @logical _ branches _ operator each =>
    refine ⟨fun _ => ⟨branches, rfl, fun branch hmem => ?_⟩, fun hpath => absurd operator hpath⟩
    obtain ⟨criteria, rfl, _⟩ := each.of_mem hmem
    rfl
  | unknown path kind =>
    refine ⟨fun hlogical => absurd hlogical path, fun _ kind' hkind => ?_⟩
    rw [kind] at hkind
    cases hkind
  | known path kindAt typed =>
    refine ⟨fun hlogical => absurd hlogical path, fun _ kind' hkind => ?_⟩
    rw [kindAt] at hkind
    rw [← Option.some.inj hkind]
    exact typed

/-- An entry of criteria that may stand for themselves may do so too, at any depth. -/
theorem CriteriaTyped.keeps {route : Json.Route} (hentry : criteria.HasEntry route key condition) :
    schema.CriteriaTyped criteria criteria → schema.Keeps key condition := by
  induction hentry with
  | here mem => exact fun h => (h.entryTyped_of_mem mem).keeps
  | nested logical mem get _ ih =>
    intro h
    cases h.entryTyped_of_mem mem with
    | logical _ each =>
      obtain ⟨branch, hbranch, htyped⟩ := each.of_mem (List.mem_of_getElem? get)
      obtain rfl := Json.object.inj hbranch
      exact ih htyped
    | unknown path => exact absurd logical path
    | known path => exact absurd logical path

mutual

/-- Criteria may stand for themselves if their entries, at any depth, may. -/
theorem criteriaTyped_of_keeps : ∀ {criteria : Criteria},
    (∀ route key condition, criteria.HasEntry route key condition → schema.Keeps key condition) →
      schema.CriteriaTyped criteria criteria
  | [], _ => .nil
  | (key, condition) :: rest, h => by
    refine .cons (entryTyped_of_keeps fun route inner value hentry => ?_)
      (criteriaTyped_of_keeps fun route inner value hentry => ?_)
    · exact h route inner value (hentry.of_subset (by simp))
    · exact h route inner value (hentry.of_subset (List.subset_cons_self _ _))

theorem entryTyped_of_keeps : ∀ {key : String} {condition : Json},
    (∀ route inner value, Criteria.HasEntry [(key, condition)] route inner value →
      schema.Keeps inner value) → schema.EntryTyped key condition condition
  | key, .array branches, h => by
    have hkeeps := h _ _ _ (.here List.mem_cons_self)
    by_cases hlogical : key ∈ logicalOperators
    · obtain ⟨_, heq, hobjects⟩ := hkeeps.branches hlogical
      obtain rfl := Json.array.inj heq
      refine .logical hlogical (branchesTyped_of_keeps hobjects fun criteria hmem => ?_)
      intro route inner value hentry
      obtain ⟨index, hget⟩ := List.getElem?_of_mem hmem
      exact h _ _ _ (.nested hlogical List.mem_cons_self hget hentry)
    · exact hkeeps.entryTyped hlogical
  | _, .null, h | _, .bool _, h | _, .number _, h | _, .string _, h | _, .object _, h => by
    have hkeeps := h _ _ _ (.here List.mem_cons_self)
    refine hkeeps.entryTyped fun hlogical => ?_
    obtain ⟨_, heq, _⟩ := hkeeps.branches hlogical
    cases heq

theorem branchesTyped_of_keeps : ∀ {branches : List Json},
    (∀ branch ∈ branches, branch.isObject = true) →
    (∀ criteria, .object criteria ∈ branches → ∀ route inner value,
      Criteria.HasEntry criteria route inner value → schema.Keeps inner value) →
      schema.BranchesTyped branches branches
  | [], _, _ => .nil
  | .object criteria :: _, hobjects, h =>
    .cons (criteriaTyped_of_keeps (h criteria List.mem_cons_self))
      (branchesTyped_of_keeps (fun branch hmem => hobjects branch (List.mem_cons_of_mem _ hmem))
        fun criteria hmem => h criteria (List.mem_cons_of_mem _ hmem))
  | .null :: _, hobjects, _ | .bool _ :: _, hobjects, _ | .number _ :: _, hobjects, _
  | .string _ :: _, hobjects, _ | .array _ :: _, hobjects, _ =>
    nomatch hobjects _ List.mem_cons_self

end

end Schema

/-- **Criteria are cast to themselves exactly when each entry in them, at any depth, may stand for
itself.** -/
theorem bySchema_eq_self_iff {schema : Schema} {criteria : Criteria} :
    Caster.bySchema schema criteria = .ok criteria ↔
      ∀ route key condition, criteria.HasEntry route key condition →
        schema.Keeps key condition := by
  constructor
  · intro h route key condition hentry
    exact Schema.CriteriaTyped.keeps hentry (Schema.criteriaTyped_of_castCriteria h)
  · intro h
    exact Schema.castCriteria_of_criteriaTyped (Schema.criteriaTyped_of_keeps h)

/-! ### Unchecked values -/

/-- The operator takes the operand as it is, if the values are unchecked. -/
inductive Json.LeftBy : String → Json → Prop
  | comparison {operator : String} {operand : Json} (known : operator ∈ comparisonOperators) :
      LeftBy operator operand
  | list {operator : String} {items : List Json} (known : operator ∈ listOperators) :
      LeftBy operator (.array items)
  | absence : LeftBy "$exists" .null
  | presence (flag : Bool) : LeftBy "$exists" (.bool flag)

namespace Kind

theorem operandTyped_mixed_iff {operator : String} {operand : Json} :
    Kind.mixed.OperandTyped operator operand operand ↔ operand.LeftBy operator := by
  constructor
  · intro h
    cases h with
    | comparison known => exact .comparison known
    | list known => exact .list known
    | «exists» flag =>
      rw [ValueTyped] at flag
      rcases flag with ⟨rfl, _⟩ | hadmits
      · exact .absence
      · cases operand with
        | bool flag => exact .presence flag
        | _ => cases hadmits
  · intro h
    cases h with
    | comparison known => exact .comparison known (by rw [ValueTyped])
    | list known => exact .list known (List.forall₂_same.mpr fun _ _ => by rw [ValueTyped])
    | absence => exact .exists (by rw [ValueTyped]; exact .inl ⟨rfl, rfl⟩)
    | presence flag => exact .exists (by rw [ValueTyped]; exact .inr rfl)

/-- On a path of unchecked kind a condition may stand for itself exactly when its operators, if it is
an object with operators, take their operands as they are. -/
theorem conditionTyped_mixed_iff {condition : Json} :
    Kind.mixed.ConditionTyped condition condition ↔
      ∀ operator operand, condition.HasOperand operator operand → operand.LeftBy operator := by
  constructor
  · intro h operator operand has
    obtain ⟨members, rfl, ⟨member, hmember, hoperator⟩, hmem⟩ := has
    cases h with
    | operators _ operands =>
      exact operandTyped_mixed_iff.mp (List.forall₂_same.mp operands (operator, operand) hmem).2
    | value direct =>
      rw [direct members rfl member hmember] at hoperator
      cases hoperator
  · intro h
    by_cases hoperator : ∃ members, condition = .object members ∧
        ∃ member ∈ members, isOperator member.1 = true
    · obtain ⟨members, rfl, hmember⟩ := hoperator
      refine .operators hmember (List.forall₂_same.mpr fun member hmem => ⟨rfl, ?_⟩)
      exact operandTyped_mixed_iff.mpr (h member.1 member.2 ⟨members, rfl, hmember, hmem⟩)
    · refine .value (fun members heq member hmem => ?_) (by rw [ValueTyped])
      exact Bool.eq_false_iff.mpr fun htrue => hoperator ⟨members, heq, member, hmem, htrue⟩

end Kind

/-! ### Unchecked criteria -/

/-- Under each logical operator, at any depth, stands an array of criteria. -/
def Criteria.WellBranched (criteria : Criteria) : Prop :=
  ∀ route operator value, criteria.HasEntry route operator value → operator ∈ logicalOperators →
    ∃ branches, value = .array branches ∧ ∀ branch ∈ branches, branch.isObject = true

/-- Each key other than logical operators, at any depth, is a path that the schema does not know or
one of unchecked kind. -/
def Schema.ChecksNone (schema : Schema) (criteria : Criteria) : Prop :=
  ∀ route path condition, criteria.HasEntry route path condition → path ∉ logicalOperators →
    schema.kindAt path = none ∨ schema.kindAt path = some .mixed

/-- **Criteria in which the schema checks no path are left alone exactly when the operators on paths
of unchecked kind take their operands as they are.**  Casting succeeds and changes nothing if, and
only if, each operator on a path of unchecked kind is a comparison, `$in` or `$nin` with an array,
or `$exists` with a truth value or `null`.  What stands on a path that the schema does not know does
not matter, and neither does a value of unchecked kind that has no key like an operator. -/
theorem bySchema_unchecked_eq_self_iff {schema : Schema} {criteria : Criteria}
    (hbranches : criteria.WellBranched) (hunchecked : schema.ChecksNone criteria) :
    Caster.bySchema schema criteria = .ok criteria ↔
      ∀ route path condition, schema.Constrains criteria route path .mixed condition →
        ∀ operator operand, condition.HasOperand operator operand → operand.LeftBy operator := by
  rw [bySchema_eq_self_iff]
  constructor
  · intro h route path condition hconstrains
    have hkeeps := h route path condition hconstrains.entry
    exact Kind.conditionTyped_mixed_iff.mp
      (hkeeps.condition hconstrains.not_logical .mixed hconstrains.known)
  · intro h route key condition hentry
    refine ⟨hbranches route key condition hentry, fun hpath kind hkind => ?_⟩
    rcases hunchecked route key condition hentry hpath with hnone | hmixed
    · rw [hnone] at hkind
      cases hkind
    · rw [hmixed] at hkind
      obtain rfl := Option.some.inj hkind
      exact Kind.conditionTyped_mixed_iff.mpr (h route key condition ⟨hentry, hpath, hmixed⟩)

/-- Operators on an unchecked path and an unknown operator on an unknown path, in branches. -/
theorem bySchema_unchecked_branches :
    let schema : Schema := ⟨"Account", none, [⟨"extra", .mixed, {}⟩]⟩
    let operators : Json := .object [("$exists", .bool true), ("$in", .array [.null])]
    let criteria : Criteria :=
      [("$nor", .array [.object [("extra", operators)],
          .object [("shade", .object [("$near", .string "red")])]]),
        ("extra", .object [("of", .object [("$near", .null)])])]
    criteria.WellBranched ∧ schema.ChecksNone criteria ∧
      Caster.bySchema schema criteria = .ok criteria := by
  intro schema operators criteria
  have hentries : ∀ route key condition, criteria.HasEntry route key condition →
      (key, condition) ∈ criteria ∨ key = "extra" ∧ condition = operators ∨ key = "shade" := by
    intro route key condition hentry
    cases hentry with
    | here mem => exact .inl mem
    | nested logical mem get inner =>
      simp only [criteria, List.mem_cons, Prod.mk.injEq, Json.array.injEq, List.not_mem_nil,
        reduceCtorEq, and_false, or_false] at mem
      obtain ⟨rfl, rfl⟩ := mem
      have hbranch := List.mem_of_getElem? get
      simp only [List.mem_cons, Json.object.injEq, List.not_mem_nil, or_false] at hbranch
      cases inner with
      | here mem => rcases hbranch with rfl | rfl <;> simp_all
      | nested _ mem => rcases hbranch with rfl | rfl <;> simp [operators] at mem
  have hbranches : criteria.WellBranched := by
    intro route operator value hentry hlogical
    rcases hentries route operator value hentry with hmem | ⟨rfl, _⟩ | rfl
    · simp only [criteria, List.mem_cons, Prod.mk.injEq, List.not_mem_nil, or_false] at hmem
      rcases hmem with ⟨_, rfl⟩ | ⟨rfl, _⟩
      · exact ⟨_, rfl, by simp [Json.isObject]⟩
      · exact absurd hlogical (by decide)
    · exact absurd hlogical (by decide)
    · exact absurd hlogical (by decide)
  have hunchecked : schema.ChecksNone criteria := by
    intro route path condition hentry hpath
    rcases hentries route path condition hentry with hmem | ⟨rfl, _⟩ | rfl
    · simp only [criteria, List.mem_cons, Prod.mk.injEq, List.not_mem_nil, or_false] at hmem
      rcases hmem with ⟨rfl, _⟩ | ⟨rfl, _⟩
      · exact absurd (by decide) hpath
      · exact .inr rfl
    · exact .inr rfl
    · exact .inl rfl
  refine ⟨hbranches, hunchecked,
    (bySchema_unchecked_eq_self_iff hbranches hunchecked).mpr ?_⟩
  rintro route path condition hconstrains operator operand ⟨members, hobject, hoperator, hmem⟩
  rcases hentries route path condition hconstrains.entry with hentry | ⟨rfl, rfl⟩ | rfl
  · simp only [criteria, List.mem_cons, Prod.mk.injEq, List.not_mem_nil, or_false] at hentry
    rcases hentry with ⟨rfl, _⟩ | ⟨rfl, rfl⟩
    · exact absurd (by decide) hconstrains.not_logical
    · obtain rfl := Json.object.inj hobject
      exact absurd hoperator (by decide)
  · obtain rfl := Json.object.inj hobject
    simp only [List.mem_cons, Prod.mk.injEq, List.not_mem_nil, or_false] at hmem
    rcases hmem with ⟨rfl, rfl⟩ | ⟨rfl, rfl⟩
    · exact .presence true
    · exact .list (by decide)
  · have hknown : none = some Kind.mixed := hconstrains.known
    cases hknown

/-- A value of unchecked kind with keys that are no operators here, and one with an operator whose
operand is not a truth value. -/
theorem bySchema_unchecked_reference :
    let schema : Schema := ⟨"Account", none, [⟨"extra", .mixed, {}⟩]⟩
    let link : Json := .object [("$id", .string "p1"), ("$ref", .string "people")]
    schema.kindAt "extra" = some .mixed ∧
      Caster.bySchema schema [("extra", link)] = .error (.unsupportedOperator "extra" "$id") ∧
      Caster.bySchema schema [("extra", .object [("$exists", .number (.int 1))])] =
        .ok [("extra", .object [("$exists", .bool true)])] := by
  intro schema link
  exact ⟨rfl, rfl, rfl⟩

end JoinPlan
