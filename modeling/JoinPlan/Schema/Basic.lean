import JoinPlan.Join.Overrides

/-!
# Schemas

A `Schema` describes the documents of one entity: named fields, each of some `Kind`.  A kind is a
scalar, an unchecked value, a list of items or an embedded schema, so that kinds and schemas nest.
Fields and the items of lists may refer to another entity and may be marked as joinable; what the
author says of a field goes before what is said of its items.
-/

namespace JoinPlan

/-! ### Kinds -/

/-- Values without inner structure. -/
inductive Scalar where
  | bool
  | float
  | id
  | int
  | reference
  | text
  | timestamp
deriving DecidableEq, Repr

/-- The name of a scalar kind. -/
def Scalar.label : Scalar → String
  | .bool => "bool"
  | .float => "float"
  | .id => "id"
  | .int => "int"
  | .reference => "reference"
  | .text => "text"
  | .timestamp => "timestamp"

/-- What an author says of a field or item besides its kind: the entity that it refers to, and
whether and how to join it. -/
structure Options where
  reference : Option String := none
  joinable : Option JoinMark := none
deriving DecidableEq, Repr

mutual

/-- The kind of a field or item. -/
inductive Kind where
  | scalar (type : Scalar)
  | mixed
  | list (item : Item)
  | embedded (schema : Schema)

/-- The items of a list. -/
structure Item where
  kind : Kind
  options : Options

/-- A field of a schema. -/
structure Field where
  name : String
  kind : Kind
  options : Options

/-- The fields of an entity, and the collection of its documents where the author names one. -/
structure Schema where
  entity : String
  collection : Option String
  fields : List Field

end

namespace Kind

/-- The name of a kind. -/
def label : Kind → String
  | .scalar type => type.label
  | .mixed => "mixed"
  | .list _ => "list"
  | .embedded _ => "embedded"

/-- Whether a field of this kind holds a list. -/
def isList : Kind → Bool
  | .list _ => true
  | _ => false

/-- The schema embedded in a kind, directly or as the items of a list. -/
def schema? : Kind → Option Schema
  | .embedded schema => some schema
  | .list ⟨kind, _⟩ => kind.schema?
  | _ => none

end Kind

/-! ### Options -/

namespace Options

/-- The options, completed by those of a fallback. -/
def or (options fallback : Options) : Options where
  reference := options.reference.or fallback.reference
  joinable := options.joinable.or fallback.joinable

/-- The entity referred to; an empty name refers to none. -/
def target? (options : Options) : Option String :=
  options.reference.filter (· ≠ "")

/-- The mark, if it is an enabled one. -/
def mark? (options : Options) : Option JoinMark :=
  options.joinable.filter (·.enabled)

end Options

/-- The options in force for a field of this kind: those of a list's items complete its own. -/
def Kind.merge (kind : Kind) (options : Options) : Options :=
  match kind with
  | .list item => options.or item.options
  | _ => options

/-! ### Fields -/

/-- The field of a schema with this name; of several the first. -/
def Schema.field? (schema : Schema) (name : String) : Option Field :=
  schema.fields.find? (·.name = name)

/-- A field that holds a list of references to an entity. -/
def Field.referenceList (name : String) (options : Options) : Field :=
  ⟨name, .list ⟨.scalar .reference, {}⟩, options⟩

end JoinPlan
