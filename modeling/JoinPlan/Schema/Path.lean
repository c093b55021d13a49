import JoinPlan.Path
import JoinPlan.Schema.Basic

/-!
# Kinds of paths

`Schema.kindAt path` is the kind of the field that a path leads to.  A path runs through embedded
schemas, and through lists of them as if each list were its item.  At every level `_id` is an
identifier, whatever the schema says.
-/

namespace JoinPlan.Schema

/-- The kind of the field that these names lead to. -/
def kindAtNames : List String → Schema → Option Kind
  | [], _ => none
  | [name], schema =>
    if name = Path.identity then some (.scalar .id) else (schema.field? name).map (·.kind)
  | name :: rest, schema => do
    let field ← schema.field? name
    kindAtNames rest (← field.kind.schema?)

/-- The kind of the field at a path. -/
def kindAt (schema : Schema) (path : String) : Option Kind :=
  kindAtNames (Path.segments path) schema

end JoinPlan.Schema
