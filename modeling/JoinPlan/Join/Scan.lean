import JoinPlan.Event
import JoinPlan.Join.Table
import JoinPlan.Schema.Visit

/-!
# Scanning for joins

The joins of an entity are collected from its fields.  A field with an enabled mark gives a
descriptor if it refers to an entity or its author names a collection, and is reported as skipped if
neither is the case.  Fields without an enabled mark have no part in it.
-/

namespace JoinPlan

namespace Visited

/-- The join that a field asks for: its mark is enabled and there is something to join with. -/
def request? (field : Visited) : Option JoinRequest :=
  match field.options.mark? with
  | none => none
  | some mark =>
    if field.options.target?.isNone && mark.overrides.collection.isNone then none
    else some ⟨field.path, field.options.target?, field.multi, mark.overrides⟩

/-- Whether a field asks for a join and has nothing to join with. -/
def isSkipped (field : Visited) : Bool :=
  field.options.mark?.isSome && field.request?.isNone

end Visited

/-- The result of a scan: the joins found, and a report of the fields skipped. -/
structure Scan where
  table : Table
  events : List Event

namespace FieldSource

/-- The descriptors of the fields that ask for a join, in order. -/
def descriptors (source : FieldSource) (targets : Targets) : List Descriptor :=
  (source.fields.filterMap (·.request?)).map (·.descriptor targets)

/-- Collects the joins of an entity. -/
def scan (source : FieldSource) (targets : Targets) : Scan where
  table := Table.ofList (source.descriptors targets)
  events := (source.fields.filter (·.isSkipped)).map fun field =>
    .fieldSkipped source.entity field.path

end FieldSource

end JoinPlan
