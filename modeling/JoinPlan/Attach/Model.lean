import JoinPlan.Attach.Settings
import JoinPlan.Failure
import JoinPlan.Join.Scan
import JoinPlan.Pipeline.Compile

/-!
# Models

A `Model` is a schema made ready for lookups: its collection is settled and its joins are collected,
once, when it is attached.
-/

namespace JoinPlan

/-- An attached schema.  When `traced`, its lookups are reported. -/
structure Model where
  schema : Schema
  collection : String
  table : Table
  settings : Settings
  traced : Bool

namespace Model

variable {σ ε : Type}

/-- The entity that a model is for. -/
def entity (model : Model) : String :=
  model.schema.entity

/-- The model of a schema.  Its collection is the declared one, or else the one that the naming
derives from the entity. -/
def ofSchema (schema : Schema) (targets : Targets) (settings : Settings) (traced : Bool) :
    Model where
  schema := schema
  collection := schema.collection.getD (targets.naming.collectionName schema.entity)
  table := (schema.source.scan targets).table
  settings := settings
  traced := traced

/-- The report of attaching a schema: the fields skipped, then the model. -/
def attachEvents (schema : Schema) (targets : Targets) (traced : Bool) : List Event :=
  let scan := schema.source.scan targets
  if traced then scan.events ++ [.attached schema.entity scan.table.size] else []

/-- Makes the model of a schema, and reports it. -/
def attachM (schema : Schema) (targets : Targets) (settings : Settings) (traced : Bool) :
    Observed σ ε Model := do
  modify (·.tell (attachEvents schema targets traced))
  return ofSchema schema targets settings traced

/-- What lookups on a model are compiled from. -/
def context (model : Model) (targets : Targets) (caster : Caster) : CompileContext where
  schema := model.schema
  collection := model.collection
  table := model.table
  targets := targets
  caster := caster
  allowDiskUse := model.settings.allowDiskUse
  traced := model.traced

/-- Compiles a lookup. -/
def lookupM (model : Model) (targets : Targets) (caster : Caster) (criteria : Option Criteria)
    (options : LookupOptions) : Observed σ Failure Pipeline :=
  ((model.context targets caster).compileM criteria options).adaptExcept .criteria

/-- Compiles a lookup to a pipeline and its report. -/
def lookup (model : Model) (targets : Targets) (caster : Caster) (criteria : Option Criteria)
    (options : LookupOptions) : Except Failure Compiled :=
  Compiled.of (model.lookupM targets caster criteria options)

end Model

end JoinPlan
