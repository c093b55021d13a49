import JoinPlan.Join.Overrides
import JoinPlan.Naming.Basic
import JoinPlan.Path

/-!
# Join descriptors

A `Descriptor` says completely how one field is joined.  It is derived from a `JoinRequest`: the
path of the field, the entity that it refers to, whether it holds several values, and what the
author overrides.  Each part has a default and each override replaces one part alone.  A single
value is unwound and a list is not; the joined documents go where the reference stood, except
that an unwound list goes to the singular of its name; the foreign field is the identity.
-/

namespace JoinPlan

/-- How a field is joined.  `pinned` tells that the author names the collection, which then stays,
whatever the reference leads to later. -/
structure Descriptor where
  path : String
  reference : Option String
  collection : String
  localField : String
  foreignField : String
  output : String
  multi : Bool
  unwind : Option Unwind
  pinned : Bool
deriving DecidableEq, Repr

namespace Descriptor

/-- Whether there is something to join with: an entity or a collection. -/
def isResolvable (d : Descriptor) : Bool :=
  d.reference.any (· ≠ "") || d.collection ≠ ""

/-- Whether a name stands for this join: its output or the field that it reads. -/
def isAddressedBy (d : Descriptor) (name : String) : Bool :=
  d.output = name || d.localField = name

/-- The descriptor with the collection that its reference leads to now. -/
def rebind (targets : Targets) (d : Descriptor) : Descriptor :=
  match d.pinned, d.reference with
  | false, some reference => { d with collection := targets.resolve reference }
  | _, _ => d

end Descriptor

/-- What a join is derived from. -/
structure JoinRequest where
  path : String
  reference : Option String
  multi : Bool
  overrides : Overrides
deriving DecidableEq, Repr

namespace JoinRequest

/-- Whether the joined documents are unwound. -/
def unwound (request : JoinRequest) : Bool :=
  match request.overrides.unwind with
  | some choice => choice.wanted
  | none => !request.multi

/-- The field that receives the joined documents. -/
def output (naming : Naming) (request : JoinRequest) : String :=
  request.overrides.output.getD
    (if request.multi && request.unwound then naming.singularize request.path else request.path)

/-- The unwinding, if there is one. -/
def unwind? (naming : Naming) (request : JoinRequest) : Option Unwind :=
  let settings := (request.overrides.unwind.bind (·.settings?)).getD {}
  if request.unwound then
    some {
      path := settings.path.getD (Path.variableName (request.output naming))
      preserveEmpty := settings.preserveEmpty.getD true }
  else none

/-- The entity referred to; an empty name refers to none. -/
def target? (request : JoinRequest) : Option String :=
  request.reference.filter (· ≠ "")

/-- The collection joined: the author's, or the one that the reference leads to, or none. -/
def collection (targets : Targets) (request : JoinRequest) : String :=
  request.overrides.collection.getD ((request.target?.map targets.resolve).getD "")

/-- The complete join that a request amounts to. -/
def descriptor (targets : Targets) (request : JoinRequest) : Descriptor where
  path := request.path
  reference := request.target?
  collection := request.collection targets
  localField := request.overrides.localField.getD request.path
  foreignField := request.overrides.foreignField.getD Path.identity
  output := request.output targets.naming
  multi := request.multi
  unwind := request.unwind? targets.naming
  pinned := request.overrides.collection.isSome

end JoinRequest

/-! ### Written form -/

/-- An unwinding as an object. -/
def Unwind.toJson (unwind : Unwind) : Json :=
  .object [("path", .string unwind.path),
    ("preserveNullAndEmptyArrays", .bool unwind.preserveEmpty)]

/-- A descriptor as an object.  Whether it is pinned is not written, and absent parts are left
out. -/
def Descriptor.toFields (d : Descriptor) : Fields :=
  [("as", .string d.output), ("foreignField", .string d.foreignField),
    ("from", .string d.collection), ("isArray", .bool d.multi),
    ("localField", .string d.localField), ("pathName", .string d.path)] ++
  d.reference.toList.map (fun reference => ("ref", .string reference)) ++
  d.unwind.toList.map fun unwind => ("unwind", unwind.toJson)

end JoinPlan
