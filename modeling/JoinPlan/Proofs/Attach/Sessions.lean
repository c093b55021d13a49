import JoinPlan.Proofs.Attach.Steps

/-!
# Sessions step by step

What holds of a session after any steps from the start (`Session.holds_after_start`): its registry
lists the models that the successful attach steps answered, in that order and as they were then
(`Session.attachedDuring`), and what can be attached, retrieved and looked up is told by these models
alone.

What one step may lead to is said once (`Session.Transition`).  A transition adds to the models
listed what it answers as attached, and nothing else, and it keeps the registry well formed; both
carry over to runs by induction on the steps.  One that fails leaves the session as it was, and
reports nothing if it fails before it comes to the store.
-/

namespace JoinPlan

/-! ### Runs -/

/-- The model that a step attached, going by its answer. -/
def Step.attached? : Step → Answer → Option Model
  | .attach _ _, .model model => some model
  | _, _ => none

/-- Whether a step failed, by itself or in the store. -/
inductive Outcome.Failed : Outcome → Prop
  | failed (session : Session) (failure : Failure) (events : List Event) :
      Failed ⟨session, .failed failure, events⟩
  | storeFailed (session : Session) (error : StoreError) (events : List Event) :
      Failed ⟨session, .storeFailed error, events⟩

namespace Session

/-- The session after some steps. -/
def after (session : Session) : List Step → Session
  | [] => session
  | step :: rest => (session.step step).session.after rest

/-- The models that the successful attach steps among some steps answer, in order. -/
def attachedDuring (session : Session) : List Step → List Model
  | [] => []
  | step :: rest =>
    (step.attached? (session.step step).answer).toList ++
      (session.step step).session.attachedDuring rest

/-! ### One step -/

/-- What a step may lead to: a schema is attached or refused, documents are inserted, or else the
session stays as it is, and unless the step fails before it comes to the store there may be
something to report. -/
inductive Transition (session : Session) : Step → Outcome → Prop
  | attached {schema : Schema} {settings : Settings} (named : schema.entity ≠ "")
      (new : schema.entity ∉ session.registry.names) :
      Transition session (.attach schema settings) (session.attaching schema settings)
  | refused {schema : Schema} {settings : Settings}
      (cause : schema.entity = "" ∨ schema.entity ∈ session.registry.names) (failure : Failure) :
      Transition session (.attach schema settings) ⟨session, .failed failure, []⟩
  | inserted (collection : String) (documents : List Document) :
      Transition session (.insert collection documents)
        ⟨{ session with store := session.store.insert collection documents }, .inserted, []⟩
  | failed {step : Step} (other : ∀ schema settings, step ≠ .attach schema settings)
      (failure : Failure) : Transition session step ⟨session, .failed failure, []⟩
  | answered {step : Step} (other : ∀ schema settings, step ≠ .attach schema settings)
      {answer : Answer} (success : ∀ failure, answer ≠ .failed failure) (events : List Event) :
      Transition session step ⟨session, answer, events⟩

/-- Every step is one of these transitions. -/
theorem transition_step (session : Session) (step : Step) :
    session.Transition step (session.step step) := by
  cases step with
  | attach schema settings =>
    rw [step_attach]
    cases hrefusal : session.registry.refusal? schema.entity with
    | none =>
      obtain ⟨hnamed, hnew⟩ := Registry.refusal?_eq_none_iff.mp hrefusal
      exact .attached hnamed hnew
    | some error =>
      refine .refused ?_ (.registry error)
      -- Were the name one and new, there would be no cause to refuse.
      by_contra hnot
      rw [Registry.refusal?_eq_none_iff.mpr (not_or.mp hnot)] at hrefusal
      cases hrefusal
  | lookup query =>
    rw [step_lookup]
    cases session.compiled query with
    | ok compiled => exact .answered (by simp) (by simp) _
    | error failure => exact .failed (by simp) _
  | exec query =>
    rw [step_exec]
    cases session.compiled query with
    | ok compiled =>
      dsimp only
      cases session.store.exec compiled.pipeline with
      | ok documents => exact .answered (by simp) (by simp) _
      | error error => exact .answered (by simp) (by simp) _
    | error failure => exact .failed (by simp) _
  | tryGet entity =>
    rw [step_tryGet]
    cases session.registry.get? entity with
    | some model => exact .answered (by simp) (by simp) _
    | none => exact .failed (by simp) _
  | insert collection documents =>
    rw [step_insert]
    exact .inserted collection documents
  | get | list | resolve => exact .answered (by simp) (by simp) _

variable {session : Session} {step : Step} {outcome : Outcome}

theorem attached?_of_ne (h : ∀ schema settings, step ≠ .attach schema settings) (answer : Answer) :
    step.attached? answer = none := by
  cases step with
  | attach schema settings => exact absurd rfl (h schema settings)
  | _ => rfl

/-- **A step lists what it attaches**, behind what was listed, and changes nothing else there. -/
theorem Transition.models_eq (h : session.Transition step outcome) :
    outcome.session.registry.models =
      session.registry.models ++ (step.attached? outcome.answer).toList := by
  cases h with
  | attached => exact List.map_append
  | refused | inserted => exact (List.append_nil _).symm
  | failed other | answered other =>
    rw [attached?_of_ne other]
    exact (List.append_nil _).symm

theorem Transition.wellFormed (h : session.Transition step outcome)
    (hbefore : session.registry.WellFormed) : outcome.session.registry.WellFormed := by
  cases h with
  | attached named new =>
    exact hbefore.attach (Registry.attach_eq_ok_iff.mpr ⟨named, new, rfl⟩)
  | _ => exact hbefore

theorem Transition.session_of_failed (h : session.Transition step outcome)
    (hfailed : outcome.Failed) : outcome.session = session := by
  cases h with
  | attached | inserted => cases hfailed
  | _ => rfl

/-- What fails before it comes to the store is not reported. -/
theorem Transition.events_of_failed {failure : Failure} (h : session.Transition step outcome)
    (hfailed : outcome.answer = .failed failure) : outcome.events = [] := by
  cases h with
  | attached => cases hfailed
  | answered _ success => exact absurd hfailed (success failure)
  | _ => rfl

/-- Only attaching changes the registry, -/
theorem Transition.registry_eq (h : session.Transition step outcome)
    (hstep : ∀ schema settings, step ≠ .attach schema settings) :
    outcome.session.registry = session.registry := by
  cases h with
  | attached => exact absurd rfl (hstep _ _)
  | _ => rfl

/-- and only inserting the store. -/
theorem Transition.store_eq (h : session.Transition step outcome)
    (hstep : ∀ collection documents, step ≠ .insert collection documents) :
    outcome.session.store = session.store := by
  cases h with
  | inserted => exact absurd rfl (hstep _ _)
  | _ => rfl

/-- A lookup fails just when its query does not compile. -/
theorem failed_lookup_iff (session : Session) (query : Query) :
    (session.step (.lookup query)).Failed ↔ ∃ failure, session.compiled query = .error failure := by
  rw [step_lookup]
  cases session.compiled query with
  | ok compiled =>
    constructor
    · intro hfailed
      cases hfailed
    · rintro ⟨failure, herror⟩
      cases herror
  | error failure => exact ⟨fun _ => ⟨failure, rfl⟩, fun _ => .failed session failure []⟩

section

variable {schema : Schema} {settings : Settings}

/-- An attach step fails just when the entity has no name or is listed already. -/
theorem Transition.failed_attach_iff (h : session.Transition (.attach schema settings) outcome) :
    outcome.Failed ↔ schema.entity = "" ∨ schema.entity ∈ session.registry.names := by
  cases h with
  | attached named new =>
    constructor
    · intro hfailed
      cases hfailed
    · rintro (hempty | hold)
      · exact absurd hempty named
      · exact absurd hold new
  | refused cause => exact ⟨fun _ => cause, fun _ => .failed session _ []⟩
  | failed other | answered other => exact absurd rfl (other schema settings)

/-- If it does not fail, the schema is attached. -/
theorem Transition.eq_attaching (h : session.Transition (.attach schema settings) outcome)
    (hok : ¬ outcome.Failed) : outcome = session.attaching schema settings := by
  cases h with
  | attached => rfl
  | refused => exact absurd (.failed session _ []) hok
  | failed other | answered other => exact absurd rfl (other schema settings)

end

/-! ### Runs of steps -/

theorem models_after (session : Session) (steps : List Step) :
    (session.after steps).registry.models =
      session.registry.models ++ session.attachedDuring steps := by
  induction steps generalizing session with
  | nil => exact (List.append_nil _).symm
  | cons step rest ih =>
    rw [after, attachedDuring, ih, (session.transition_step step).models_eq, List.append_assoc]

theorem wellFormed_after {session : Session} (h : session.registry.WellFormed)
    (steps : List Step) : (session.after steps).registry.WellFormed := by
  induction steps generalizing session with
  | nil => exact h
  | cons step rest ih => exact ih ((session.transition_step step).wellFormed h)

end Session

/-! ### What holds after steps -/

/-- The registry holds these models and no others. -/
structure Registry.Holds (registry : Registry) (models : List Model) : Prop where
  /-- They are listed in this order, as they were attached, each under the name of its entity. -/
  listed : registry.models = models
  keyed : registry.entries = models.map fun model => (model.entity, model)
  named : ∀ model ∈ models, model.entity ≠ ""
  distinct : (models.map Model.entity).Nodup
  /-- Each is retrieved by the name of its entity, and by no other. -/
  retrieved : ∀ entity model,
    registry.get? entity = some model ↔ model ∈ models ∧ model.entity = entity

namespace Session

/-- The steps that read the registry of the session go by these models. -/
structure ReadsFrom (session : Session) (models : List Model) : Prop where
  listed : (session.step .list).answer = .models models
  found : ∀ entity found, (session.step (.get entity)).answer = .found found ↔
    ∀ model, found = some model ↔ model ∈ models ∧ model.entity = entity
  required : ∀ entity model, (session.step (.tryGet entity)).answer = .model model ↔
    model ∈ models ∧ model.entity = entity
  missing : ∀ entity,
    (session.step (.tryGet entity)).answer = .failed (.registry (.notAttached entity)) ↔
      entity ∉ models.map Model.entity
  /-- A reference leads to the collection of its model, and without one to that of the naming. -/
  resolved : ∀ reference, ∃ registered,
    (session.step (.resolve reference)).answer = .resolved registered
      (registered.getD (session.registry.naming.collectionName reference)) ∧
    ∀ collection, registered = some collection ↔
      ∃ model ∈ models, model.entity = reference ∧ model.collection = collection
  /-- A lookup fails just when its entity has no model, or when its criteria cannot be cast. -/
  unqueried : ∀ query, (session.step (.lookup query)).Failed ↔
    ∀ model ∈ models, model.entity = query.entity → ∃ error,
      (model.context session.registry.targets query.caster).cast query.criteria = .error error
  /-- Otherwise it answers what the model of its entity compiles, and reports that. -/
  queried : ∀ query, ∀ model ∈ models, model.entity = query.entity → ∀ compiled,
    (model.context session.registry.targets query.caster).compile query.criteria query.options =
      .ok compiled →
    session.step (.lookup query) = ⟨session, .pipeline compiled.pipeline, compiled.events⟩
  /-- An execution goes on with the pipeline of the lookup, or fails with it. -/
  executed : ∀ query, (session.step (.exec query)).answer =
    match (session.step (.lookup query)).answer with
    | .pipeline pipeline =>
      match session.store.exec pipeline with
      | .ok documents => .documents documents
      | .error error => .storeFailed error
    | answer => answer

/-- What holds of a session in which these models, and no others, have been attached. -/
structure Holds (session : Session) (models : List Model) : Prop where
  registry : session.registry.Holds models
  reads : session.ReadsFrom models
  /-- An attach step fails just when the entity has no name or has a model. -/
  refused : ∀ schema settings, (session.step (.attach schema settings)).Failed ↔
    schema.entity = "" ∨ schema.entity ∈ models.map Model.entity
  /-- One that does not fail attaches: it answers the model of its schema, its settings and the
  targets of now, and the registry has this model last, under the name of its entity. -/
  attached : ∀ schema settings, ¬ (session.step (.attach schema settings)).Failed →
    session.step (.attach schema settings) = session.attaching schema settings
  /-- Nothing else changes the registry, and nothing but inserting changes the store. -/
  steady : ∀ step, (∀ schema settings, step ≠ .attach schema settings) →
    (session.step step).session.registry = session.registry
  stored : ∀ step, (∀ collection documents, step ≠ .insert collection documents) →
    (session.step step).session.store = session.store
  /-- A step that fails changes neither, and reports nothing unless it fails in the store. -/
  unchanged : ∀ step, (session.step step).Failed → (session.step step).session = session
  silent : ∀ step failure, (session.step step).answer = .failed failure →
    (session.step step).events = []

end Session

/-- A well-formed registry holds the models that it lists. -/
theorem Registry.WellFormed.holds {registry : Registry} (h : registry.WellFormed) :
    registry.Holds registry.models where
  listed := rfl
  keyed := h.keyed
  named := h.named
  distinct := h.distinct
  retrieved entity model := by
    rw [h.get?_eq]
    exact find?_key_eq_some_iff h.distinct

namespace Registry.Holds

variable {session : Session} {models : List Model} (h : session.registry.Holds models)

include h

theorem names_eq : session.registry.names = models.map Model.entity := by
  unfold names
  rw [h.keyed, List.map_map]
  rfl

/-- **What is read is told by the models** that the registry holds. -/
theorem readsFrom : session.ReadsFrom models where
  listed := by
    rw [Session.step_list, h.listed]
  found entity found := by
    rw [Session.step_get, Answer.found.injEq]
    constructor
    · rintro rfl model
      exact h.retrieved entity model
    · intro hfound
      ext model
      rw [h.retrieved, hfound]
  required entity model := by
    rw [Session.step_tryGet, ← h.retrieved]
    cases session.registry.get? entity <;> simp
  missing entity := by
    rw [Session.step_tryGet, ← h.names_eq, ← session.registry.isSome_get?]
    cases session.registry.get? entity <;> simp
  resolved reference := by
    rw [Session.step_resolve]
    refine ⟨session.registry.targets.registered reference, rfl, fun collection => ?_⟩
    show (session.registry.get? reference).map (·.collection) = some collection ↔ _
    simp only [Option.map_eq_some_iff, h.retrieved, and_assoc]
  unqueried query := by
    rw [session.failed_lookup_iff, session.exists_compiled_eq_error_iff]
    simp only [h.retrieved, and_imp]
  queried query model hmodel hentity compiled hcompile := by
    have hget := (h.retrieved query.entity model).mpr ⟨hmodel, hentity⟩
    rw [Session.step_lookup, Session.compiled, Registry.lookup_of_get? hget, hcompile]
    rfl
  executed query := by
    rw [Session.step_exec, Session.step_lookup]
    cases session.compiled query <;> rfl

end Registry.Holds

/-- **Whatever the steps from the start**, what holds of the session is told by the models that its
successful attach steps have answered. -/
theorem Session.holds_after_start (naming : Naming) (traced : Bool) (steps : List Step) :
    ((start naming traced).after steps).Holds ((start naming traced).attachedDuring steps) := by
  have hmodels : ((start naming traced).after steps).registry.models =
      (start naming traced).attachedDuring steps :=
    models_after (start naming traced) steps
  have hwellFormed : ((start naming traced).after steps).registry.WellFormed :=
    wellFormed_after (Registry.wellFormed_empty naming traced) steps
  have hholds := hwellFormed.holds
  rw [hmodels] at hholds
  -- The steps before have led to the registry; what the next one does is told by its transition.
  exact {
    registry := hholds
    reads := hholds.readsFrom
    refused := fun _ _ => hholds.names_eq ▸ (transition_step _ _).failed_attach_iff
    attached := fun _ _ => (transition_step _ _).eq_attaching
    steady := fun _ => (transition_step _ _).registry_eq
    stored := fun _ => (transition_step _ _).store_eq
    unchanged := fun _ => (transition_step _ _).session_of_failed
    silent := fun _ _ => (transition_step _ _).events_of_failed }

end JoinPlan
