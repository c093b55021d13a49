import JoinPlan.Attach.Registry
import JoinPlan.Store.Exec

/-!
# Sessions

A `Session` is a registry and a store in use.  A step is an action on it (`Session.perform`), and
`Session.step` tells what it leads to: the next session, the answer and the report, whether or not
it fails.
-/

namespace JoinPlan

/-- A lookup as it is asked for. -/
structure Query where
  entity : String
  caster : Caster
  criteria : Option Criteria
  options : LookupOptions

/-- One thing to do in a session. -/
inductive Step where
  | attach (schema : Schema) (settings : Settings)
  | lookup (query : Query)
  | exec (query : Query)
  | insert (collection : String) (documents : List Document)
  | get (entity : String)
  | tryGet (entity : String)
  | list
  | resolve (reference : String)

/-- What a step answers. -/
inductive Answer where
  | model (model : Model)
  | pipeline (pipeline : Pipeline)
  | documents (documents : List Document)
  | inserted
  | found (model : Option Model)
  | models (models : List Model)
  | resolved (registered : Option String) (collection : String)
  | failed (failure : Failure)
  | storeFailed (error : StoreError)

/-- A registry and a store in use. -/
structure Session where
  registry : Registry
  store : Store

/-- What a step leads to. -/
structure Outcome where
  session : Session
  answer : Answer
  events : List Event

namespace Session

/-- A session in which nothing is attached or stored. -/
def start (naming : Naming) (traced : Bool) : Session :=
  ⟨Registry.empty naming traced, Store.empty⟩

/-- Does something to the registry of a session. -/
def onRegistry {ε α : Type} (action : Observed Registry ε α) : Observed Session ε α :=
  fun ⟨session, told⟩ =>
    match action ⟨session.registry, told⟩ with
    | .ok result after => .ok result ⟨{ session with registry := after.state }, after.told⟩
    | .error error after => .error error ⟨{ session with registry := after.state }, after.told⟩

/-- Compiles a query. -/
def compileM (query : Query) : Observed Session Failure Pipeline := do
  (← get).state.registry.lookupM query.entity query.caster query.criteria query.options

/-- Performs a step. -/
def perform : Step → Observed Session Failure Answer
  | .attach schema settings => do
    return .model (← onRegistry (Registry.attachM schema settings))
  | .lookup query => do
    return .pipeline (← compileM query)
  | .exec query => do
    let pipeline ← compileM query
    match (← get).state.store.exec pipeline with
    | .ok documents => return .documents documents
    | .error error => return .storeFailed error
  | .insert collection documents => do
    modify fun watched => { watched with
      state.store := watched.state.store.insert collection documents }
    return .inserted
  | .get entity => do
    return .found ((← get).state.registry.get? entity)
  | .tryGet entity => do
    return .model (← ofExcept ((← get).state.registry.tryGet entity))
  | .list => do
    return .models (← get).state.registry.models
  | .resolve reference => do
    let targets := (← get).state.registry.targets
    return .resolved (targets.registered reference) (targets.resolve reference)

/-- Performs a step and tells what it leads to. -/
def step (session : Session) (step : Step) : Outcome :=
  match (perform step).run ⟨session, []⟩ with
  | .ok answer after => ⟨after.state, answer, after.told⟩
  | .error failure after => ⟨after.state, .failed failure, after.told⟩

end Session

end JoinPlan
