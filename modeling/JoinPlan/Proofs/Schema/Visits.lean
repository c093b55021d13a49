import JoinPlan.Proofs.Path
import JoinPlan.Schema.Visit

/-!
# Visits level by level

The visitor of a schema goes down with the path and the list flag of the fields around it, so that
an embedded schema is visited under what it is embedded in.  The visits there are those of the
embedded schema by itself, put inside the field (`visitsUnder_eq_map`).  That makes the visits of a
schema a recursion over its levels: each field, and after it the visits of the schema embedded in
its kind (`visits_eq`, `Field.visits_top_eq`, `mem_visits_iff`).
-/

namespace JoinPlan

/-! ### Levels of embedding -/

theorem Kind.sizeOf_schema?_lt :
    {kind : Kind} → {inner : Schema} → kind.schema? = some inner → sizeOf inner < sizeOf kind
  | .embedded schema, inner, h => by
    obtain rfl : schema = inner := Option.some.inj h
    simp
  | .list ⟨kind, options⟩, inner, h => by
    have hlt : sizeOf inner < sizeOf kind := sizeOf_schema?_lt h
    simp only [list.sizeOf_spec, Item.mk.sizeOf_spec]
    omega

theorem Schema.sizeOf_embedded_lt {schema inner : Schema} {field : Field}
    (hfield : field ∈ schema.fields) (hinner : field.kind.schema? = some inner) :
    sizeOf inner < sizeOf schema := by
  have hkind := Kind.sizeOf_schema?_lt hinner
  have hlt := List.sizeOf_lt_of_mem hfield
  obtain ⟨name, kind, options⟩ := field
  obtain ⟨entity, collection, fields⟩ := schema
  simp only [Field.mk.sizeOf_spec] at hkind hlt
  simp only [Schema.mk.sizeOf_spec]
  omega

/-- What holds of a schema when it holds of the schemas embedded in its fields holds of all. -/
theorem Schema.induct {motive : Schema → Prop}
    (step : ∀ schema : Schema,
      (∀ field ∈ schema.fields, ∀ inner, field.kind.schema? = some inner → motive inner) →
        motive schema)
    (schema : Schema) : motive schema := by
  refine step schema fun field hfield inner hinner => ?_
  have hlt := sizeOf_embedded_lt hfield hinner
  exact induct step inner
termination_by sizeOf schema

/-! ### Visits under a field -/

/-- The field as it is met at the top of a schema. -/
def Field.atTop (field : Field) : Visited :=
  ⟨field.name, field.kind, field.kind.merge field.options, field.kind.isList⟩

/-- What is met in a schema, when the schema is embedded at `parent`. -/
def Visited.within (parent : Option String) (inList : Bool) (visit : Visited) : Visited :=
  { visit with path := Path.child parent visit.path, multi := inList || visit.multi }

theorem Visited.within_within (parent : Option String) (inList inner : Bool) (name : String)
    (visit : Visited) :
    (visit.within (some name) inner).within parent inList =
      visit.within (some (Path.child parent name)) (inList || inner) := by
  simp [within, Path.child_child, Bool.or_assoc]

theorem Kind.visitsInside_eq (path : String) (multi : Bool) :
    (kind : Kind) → kind.visitsInside path multi =
      kind.schema?.toList.flatMap fun inner => inner.visitsUnder (some path) multi
  | .embedded _ => (List.append_nil _).symm
  | .list ⟨kind, _⟩ => kind.visitsInside_eq path multi
  | .scalar _ => rfl
  | .mixed => rfl

theorem fieldVisits_eq (parent : Option String) (inList : Bool) (fields : List Field) :
    fieldVisits parent inList fields = fields.flatMap (·.visits parent inList) := by
  induction fields with
  | nil => rfl
  | cons field rest ih => rw [fieldVisits, ih, List.flatMap_cons]

theorem Field.visits_eq (parent : Option String) (inList : Bool) (field : Field) :
    field.visits parent inList =
      field.atTop.within parent inList :: field.kind.schema?.toList.flatMap fun inner =>
        inner.visitsUnder (some (Path.child parent field.name)) (inList || field.kind.isList) := by
  obtain ⟨name, kind, options⟩ := field
  rw [visits, Kind.visitsInside_eq]
  rfl

namespace Schema

theorem visitsUnder_eq (parent : Option String) (inList : Bool) (schema : Schema) :
    schema.visitsUnder parent inList = schema.fields.flatMap (·.visits parent inList) := by
  obtain ⟨entity, collection, fields⟩ := schema
  exact fieldVisits_eq parent inList fields

/-- **Visiting an embedded schema is visiting the schema by itself**, with the path and the list
flag of the field around it put in front. -/
theorem visitsUnder_eq_map (schema : Schema) (parent : Option String) (inList : Bool) :
    schema.visitsUnder parent inList = schema.visits.map (·.within parent inList) := by
  induction schema using Schema.induct generalizing parent inList with
  | step schema ih =>
    rw [visits, visitsUnder_eq, visitsUnder_eq, List.map_flatMap]
    apply List.flatMap_congr
    intro field hfield
    rw [Field.visits_eq, Field.visits_eq, List.map_cons, List.map_flatMap]
    congr 1
    apply List.flatMap_congr
    intro inner hinner
    rw [Option.mem_toList] at hinner
    -- By itself or under the parent, an embedded schema is visited below its field, so the
    -- hypothesis is needed at two paths.
    rw [ih field hfield inner hinner, ih field hfield inner hinner, List.map_map]
    apply List.map_congr_left
    intro visit _
    exact (visit.within_within parent inList _ field.name).symm

end Schema

/-! ### Visits from the top -/

/-- What is met at a field: the field, and what is met in the schema embedded in it. -/
theorem Field.visits_top_eq (field : Field) :
    field.visits none false = field.atTop :: field.kind.schema?.toList.flatMap fun inner =>
      inner.visits.map (·.within (some field.name) field.kind.isList) := by
  rw [visits_eq]
  congr 1
  apply List.flatMap_congr
  intro inner _
  exact inner.visitsUnder_eq_map (some field.name) _

theorem Field.map_path_visits_top (field : Field) :
    (field.visits none false).map (·.path) = field.name ::
      field.kind.schema?.toList.flatMap fun inner =>
        (inner.visits.map (·.path)).map (Path.child (some field.name)) := by
  rw [visits_top_eq, List.map_cons, List.map_flatMap]
  simp only [List.map_map]
  rfl

namespace Schema

/-- Fields are visited one after the other. -/
theorem visits_eq (schema : Schema) :
    schema.visits = schema.fields.flatMap (·.visits none false) :=
  visitsUnder_eq none false schema

theorem mem_visits_iff {schema : Schema} {visit : Visited} :
    visit ∈ schema.visits ↔ ∃ field ∈ schema.fields, visit = field.atTop ∨
      ∃ inner, field.kind.schema? = some inner ∧
        ∃ deeper ∈ inner.visits, visit = deeper.within (some field.name) field.kind.isList := by
  rw [visits_eq]
  simp only [Field.visits_top_eq, List.mem_flatMap, List.mem_cons, Option.mem_toList, List.mem_map,
    eq_comm (b := visit)]

/-! ### Fields at any depth -/

/-- A field of a schema, or of a schema embedded at any depth in one of its fields, and the path
that leads to it. -/
inductive HasField : Schema → String → Field → Prop
  | top {schema : Schema} {field : Field} (here : field ∈ schema.fields) :
      schema.HasField field.name field
  | inside {schema inner : Schema} {outer field : Field} {path : String}
      (around : outer ∈ schema.fields) (embedded : outer.kind.schema? = some inner)
      (deeper : inner.HasField path field) :
      schema.HasField (Path.child (some outer.name) path) field

variable {schema : Schema} {path : String}

/-- Every field at any depth is met, at its path and with the options in force for it. -/
theorem HasField.exists_visit {field : Field} (h : schema.HasField path field) :
    ∃ visit ∈ schema.visits,
      visit.path = path ∧ visit.options = field.kind.merge field.options := by
  induction h with
  | @top schema field here =>
    exact ⟨field.atTop, mem_visits_iff.mpr ⟨field, here, Or.inl rfl⟩, rfl, rfl⟩
  | @inside schema inner outer field path around embedded _ ih =>
    obtain ⟨deeper, hdeeper, rfl, hoptions⟩ := ih
    refine ⟨deeper.within (some outer.name) outer.kind.isList, ?_, rfl, hoptions⟩
    exact mem_visits_iff.mpr ⟨outer, around, Or.inr ⟨inner, embedded, deeper, hdeeper, rfl⟩⟩

/-- All that is met is a field at some depth. -/
theorem exists_hasField_of_mem_visits {visit : Visited} (h : visit ∈ schema.visits) :
    ∃ field, schema.HasField visit.path field ∧
      visit.options = field.kind.merge field.options := by
  induction schema using Schema.induct generalizing visit with
  | step schema ih =>
    obtain ⟨field, hfield, rfl | ⟨inner, hinner, deeper, hdeeper, rfl⟩⟩ := mem_visits_iff.mp h
    · exact ⟨field, .top hfield, rfl⟩
    · obtain ⟨deepest, hdeepest, hoptions⟩ := ih field hfield inner hinner hdeeper
      exact ⟨deepest, .inside hfield hinner hdeepest, hoptions⟩

/-- What can be said of the options met at a path can be said of the options in force for a field
there. -/
theorem exists_visit_iff (schema : Schema) (path : String) (P : Options → Prop) :
    (∃ visit ∈ schema.visits, visit.path = path ∧ P visit.options) ↔
      ∃ field, schema.HasField path field ∧ P (field.kind.merge field.options) := by
  constructor
  · rintro ⟨visit, hvisit, rfl, hP⟩
    obtain ⟨field, hfield, hoptions⟩ := exists_hasField_of_mem_visits hvisit
    exact ⟨field, hfield, hoptions ▸ hP⟩
  · rintro ⟨field, hfield, hP⟩
    obtain ⟨visit, hvisit, hpath, hoptions⟩ := hfield.exists_visit
    exact ⟨visit, hvisit, hpath, hoptions ▸ hP⟩

end Schema

end JoinPlan
