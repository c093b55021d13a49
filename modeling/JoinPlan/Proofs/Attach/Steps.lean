import JoinPlan.Proofs.Attach.Reached
import JoinPlan.Session

/-!
# What a step comes to

A step is performed on a session under observation, and may fail on its way.  Here each sort of step
is told by its outcome: attaching comes to a longer registry or to a refusal (`step_attach`), a query
to what it compiles to, or further to what the store makes of that (`step_lookup`, `step_exec`).  A
refused step and a query that does not compile leave everything as it is, and nothing of them has
been reported.
-/

namespace JoinPlan.Session

variable (session : Session)

/-! ### Attaching -/

/-- What attaching a schema comes to.  The model of the schema, as references lead now, is answered
and comes last, under the name of its entity. -/
def attaching (schema : Schema) (settings : Settings) : Outcome :=
  let registry := session.registry
  let model := Model.ofSchema schema registry.targets settings registry.traced
  { session := { session with
      registry.entries := registry.entries ++ [(schema.entity, model)] }
    answer := .model model
    events := Model.attachEvents schema registry.targets registry.traced }

theorem run_onRegistry {ε α : Type} (action : Observed Registry ε α) (watched : Watched Session) :
    (onRegistry action).run watched =
      match action.run ⟨watched.state.registry, watched.told⟩ with
      | .ok result after => .ok result ⟨{ watched.state with registry := after.state }, after.told⟩
      | .error error after =>
        .error error ⟨{ watched.state with registry := after.state }, after.told⟩ :=
  rfl

theorem step_attach (schema : Schema) (settings : Settings) :
    session.step (.attach schema settings) =
      match session.registry.refusal? schema.entity with
      | some error => ⟨session, .failed (.registry error), []⟩
      | none => session.attaching schema settings := by
  unfold step perform
  rw [EStateM.run_bind, run_onRegistry, Registry.run_attachM]
  dsimp only
  cases session.registry.refusal? schema.entity <;> rfl

/-! ### Queries -/

/-- What a query compiles to. -/
def compiled (query : Query) : Except Failure Compiled :=
  session.registry.lookup query.entity query.caster query.criteria query.options

/-- A query does not compile if its entity is not attached, or if its criteria cannot be cast. -/
theorem exists_compiled_eq_error_iff (query : Query) :
    (∃ failure, session.compiled query = .error failure) ↔
      ∀ model, session.registry.get? query.entity = some model → ∃ error,
        (model.context session.registry.targets query.caster).cast query.criteria = .error error := by
  unfold compiled
  rw [Registry.lookup_eq, Registry.tryGet]
  cases session.registry.get? query.entity with
  | none =>
    refine ⟨fun _ model hmodel => ?_, fun _ => ⟨.registry (.notAttached query.entity), rfl⟩⟩
    cases hmodel
  | some model =>
    simp only [Option.some.injEq, forall_eq']
    show (∃ failure, model.lookup _ _ _ _ = .error failure) ↔ _
    -- The cast is the one part of a compilation that can fail.
    rw [model.lookup_eq, CompileContext.compile_eq]
    cases (model.context session.registry.targets query.caster).cast query.criteria <;>
      simp [Except.map, Except.mapError]

theorem run_compileM (query : Query) (watched : Watched Session) :
    (compileM query).run watched = watched.after (watched.state.compiled query) := by
  unfold compileM
  rw [EStateM.run_bind, EStateM.run_get]
  exact watched.state.registry.run_lookupM query.entity query.caster query.criteria query.options
    watched

theorem step_lookup (query : Query) :
    session.step (.lookup query) =
      match session.compiled query with
      | .ok compiled => ⟨session, .pipeline compiled.pipeline, compiled.events⟩
      | .error failure => ⟨session, .failed failure, []⟩ := by
  unfold step perform
  rw [EStateM.run_bind, run_compileM]
  dsimp only
  cases session.compiled query <;> rfl

/-- A query is executed if it compiles, and is reported then, whether or not the store has its
collection. -/
theorem step_exec (query : Query) :
    session.step (.exec query) =
      match session.compiled query with
      | .ok compiled =>
        { session := session
          answer := match session.store.exec compiled.pipeline with
            | .ok documents => .documents documents
            | .error error => .storeFailed error
          events := compiled.events }
      | .error failure => ⟨session, .failed failure, []⟩ := by
  unfold step perform
  rw [EStateM.run_bind, run_compileM]
  dsimp only
  cases session.compiled query with
  | error failure => rfl
  | ok compiled =>
    unfold Watched.after
    dsimp only
    rw [EStateM.run_bind, EStateM.run_get]
    dsimp only [Watched.state_tell]
    cases session.store.exec compiled.pipeline <;> rfl

/-! ### Storing and reading -/

theorem step_insert (collection : String) (documents : List Document) :
    session.step (.insert collection documents) =
      ⟨{ session with store := session.store.insert collection documents }, .inserted, []⟩ :=
  rfl

theorem step_get (entity : String) :
    session.step (.get entity) = ⟨session, .found (session.registry.get? entity), []⟩ :=
  rfl

theorem step_tryGet (entity : String) :
    session.step (.tryGet entity) =
      match session.registry.get? entity with
      | some model => ⟨session, .model model, []⟩
      | none => ⟨session, .failed (.registry (.notAttached entity)), []⟩ := by
  unfold step perform
  rw [EStateM.run_bind, EStateM.run_get]
  dsimp only
  unfold Registry.tryGet
  cases session.registry.get? entity <;> rfl

theorem step_list : session.step .list = ⟨session, .models session.registry.models, []⟩ :=
  rfl

theorem step_resolve (reference : String) :
    session.step (.resolve reference) =
      ⟨session, .resolved (session.registry.targets.registered reference)
        (session.registry.targets.resolve reference), []⟩ :=
  rfl

end JoinPlan.Session
