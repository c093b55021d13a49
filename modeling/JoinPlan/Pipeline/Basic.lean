import JoinPlan.Join.Descriptor
import JoinPlan.Json.Printer

/-!
# Pipelines

A `Pipeline` is what a store executes on one of its collections: a list of stages, each of which
selects documents, adds joined ones to each document, or spreads a document over the items of an
array.  `Pipeline.toJson` is its written form, an object with a single member for each stage.
-/

namespace JoinPlan

/-! ### Stages -/

/-- Adds to each document, as `output`, those documents of a collection whose `foreignField`
shares a value with its `localField`. -/
structure Lookup where
  collection : String
  localField : String
  foreignField : String
  output : String
deriving DecidableEq, Repr

/-- One step of a pipeline. -/
inductive Stage where
  | select (criteria : Criteria)
  | join (lookup : Lookup)
  | unwind (spec : Unwind)

/-- The lookup that a descriptor describes. -/
def Descriptor.lookup (d : Descriptor) : Lookup :=
  ⟨d.collection, d.localField, d.foreignField, d.output⟩

/-- The stages of a join: the lookup and, where there is one, the unwinding of its result. -/
def Descriptor.stages (d : Descriptor) : List Stage :=
  .join d.lookup :: d.unwind.toList.map .unwind

/-- Stages to be executed one after the other on the documents of a collection, with or without
leave to use the disk. -/
structure Pipeline where
  collection : String
  stages : List Stage
  allowDiskUse : Bool

/-! ### Written form -/

/-- The operator of a stage. -/
def Stage.operator : Stage → String
  | .select _ => "$match"
  | .join _ => "$lookup"
  | .unwind _ => "$unwind"

/-- A lookup as an object. -/
def Lookup.toJson (lookup : Lookup) : Json :=
  .object [("as", .string lookup.output), ("foreignField", .string lookup.foreignField),
    ("from", .string lookup.collection), ("localField", .string lookup.localField)]

/-- The operand of a stage's operator. -/
def Stage.operand : Stage → Json
  | .select criteria => .object criteria
  | .join lookup => lookup.toJson
  | .unwind spec => spec.toJson

/-- A stage as an object of its operator and operand. -/
def Stage.toJson (stage : Stage) : Json :=
  .object [(stage.operator, stage.operand)]

namespace Pipeline

/-- A pipeline without stages. -/
def onCollection (collection : String) : Pipeline :=
  ⟨collection, [], false⟩

/-- The operators of the stages, in order. -/
def operators (pipeline : Pipeline) : List String :=
  pipeline.stages.map (·.operator)

/-- The stages as an array. -/
def toJson (pipeline : Pipeline) : Json :=
  .array (pipeline.stages.map (·.toJson))

end Pipeline

end JoinPlan
