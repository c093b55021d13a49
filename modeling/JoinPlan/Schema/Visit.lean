import JoinPlan.Path
import JoinPlan.Schema.Basic

/-!
# The fields of a schema in order

`Schema.visits` lists every field of a schema, those of embedded schemas right after the field that
embeds them, each with its path, the options in force and whether a list lies on its path.  A
`FieldSource` is any such list under the name of an entity.
-/

namespace JoinPlan

/-- A field as it is met in a schema: its path, kind and options, and whether its path holds several
values because it or a field around it is a list. -/
structure Visited where
  path : String
  kind : Kind
  options : Options
  multi : Bool

/-- The fields of an entity, in the order in which they are met. -/
structure FieldSource where
  entity : String
  fields : List Visited

mutual

/-- The fields of a schema that is embedded at `parent`. -/
def Schema.visitsUnder (parent : Option String) (inList : Bool) : Schema → List Visited
  | ⟨_, _, fields⟩ => fieldVisits parent inList fields

/-- Fields in order, each followed by those inside it. -/
def fieldVisits (parent : Option String) (inList : Bool) : List Field → List Visited
  | [] => []
  | field :: rest => field.visits parent inList ++ fieldVisits parent inList rest

/-- A field and the fields inside it. -/
def Field.visits (parent : Option String) (inList : Bool) : Field → List Visited
  | ⟨name, kind, options⟩ =>
    let path := Path.child parent name
    let multi := inList || kind.isList
    ⟨path, kind, kind.merge options, multi⟩ :: kind.visitsInside path multi

/-- The fields inside a field of this kind. -/
def Kind.visitsInside (path : String) (multi : Bool) : Kind → List Visited
  | .embedded schema => schema.visitsUnder (some path) multi
  | .list ⟨kind, _⟩ => kind.visitsInside path multi
  | .scalar _ | .mixed => []

end

/-- Every field of a schema, in order. -/
def Schema.visits (schema : Schema) : List Visited :=
  schema.visitsUnder none false

/-- A schema as a source of fields. -/
def Schema.source (schema : Schema) : FieldSource :=
  ⟨schema.entity, schema.visits⟩

end JoinPlan
