import JoinPlan.Attach.Model

/-!
# Registries

A `Registry` holds the models attached so far, in order, each under the name of its entity.  It is
also what references are resolved by: an attached entity leads to its model's collection, any other
to the one that the naming derives.
-/

namespace JoinPlan

/-- Attached models by name, and the naming that they share.  When `traced`, what happens is
reported. -/
structure Registry where
  naming : Naming
  entries : List (String × Model)
  traced : Bool

namespace Registry

variable {σ : Type}

/-- A registry without models. -/
def empty (naming : Naming) (traced : Bool) : Registry :=
  ⟨naming, [], traced⟩

/-- The models, in the order in which they were attached. -/
def models (registry : Registry) : List Model :=
  registry.entries.map (·.2)

/-- The model of an entity. -/
def get? (registry : Registry) (entity : String) : Option Model :=
  registry.entries.lookup entity

/-- The model of an entity, or the failure that there is none. -/
def tryGet (registry : Registry) (entity : String) : Except Failure Model :=
  match registry.get? entity with
  | some model => .ok model
  | none => .error (.registry (.notAttached entity))

/-- The registry with one more model, under a name. -/
def insert (registry : Registry) (entity : String) (model : Model) : Registry :=
  { registry with entries := registry.entries ++ [(entity, model)] }

/-- What references are resolved by. -/
def targets (registry : Registry) : Targets where
  naming := registry.naming
  registered entity := (registry.get? entity).map (·.collection)

/-- Why an entity cannot be attached, if it cannot. -/
def refusal? (registry : Registry) (entity : String) : Option RegistryError :=
  if entity = "" then some .emptyEntityName
  else if (registry.get? entity).isSome then some (.alreadyAttached entity)
  else none

/-- Attaches a schema.  Its references are resolved by the models attached before, and it is not
looked at before its name is found to be a new one. -/
def attachM (schema : Schema) (settings : Settings) : Observed Registry Failure Model := do
  let registry := (← get).state
  match registry.refusal? schema.entity with
  | some error => throw (.registry error)
  | none =>
    let model ← Model.attachM schema registry.targets settings registry.traced
    modify fun watched => { watched with state := watched.state.insert schema.entity model }
    return model

/-- Compiles a lookup on an entity. -/
def lookupM (registry : Registry) (entity : String) (caster : Caster) (criteria : Option Criteria)
    (options : LookupOptions) : Observed σ Failure Pipeline := do
  let model ← ofExcept (registry.tryGet entity)
  model.lookupM registry.targets caster criteria options

/-! ### Results -/

/-- A registry after a model was attached, with that model and the report. -/
structure Attached where
  registry : Registry
  model : Model
  events : List Event

/-- What attaching a schema gives when it succeeds. -/
def attach (registry : Registry) (schema : Schema) (settings : Settings) :
    Except Failure Attached :=
  match (attachM schema settings).run ⟨registry, []⟩ with
  | .ok model watched => .ok ⟨watched.state, model, watched.told⟩
  | .error failure _ => .error failure

/-- Compiles a lookup on an entity to a pipeline and its report. -/
def lookup (registry : Registry) (entity : String) (caster : Caster) (criteria : Option Criteria)
    (options : LookupOptions) : Except Failure Compiled :=
  Compiled.of (registry.lookupM entity caster criteria options)

end Registry

end JoinPlan
