import JoinPlan.Attach.Registry
import JoinPlan.Proofs.Keyed
import JoinPlan.Proofs.Pipeline.LateBinding
import Mathlib.Data.List.Nodup

/-!
# Registries that attaching leads to

What holds of every registry that attaching schemas leads to (`Registry.Reached`): its entities have
distinct names other than the empty one, and each model is the model of its schema under targets
with the registry's naming, namely those of the moment when it was attached (`Reached.wellFormed`).

Which collections those targets knew is forgotten as soon as the model is rebound, so a lookup is a
function of the declared schemas, their settings and the targets of now (`WellFormed.lookup_eq`).
-/

namespace JoinPlan

/-! ### Models -/

namespace Model

variable (model : Model) (targets : Targets)

/-- The schema and the settings that a model is made from. -/
def declared : Schema × Settings :=
  (model.schema, model.settings)

/-- The model with its table rebound. -/
def rebind : Model :=
  { model with table := model.table.rebind targets }

/-- The model is that of its schema under some targets with this naming. -/
def ScannedBy (naming : Naming) : Prop :=
  ∃ known, model = ofSchema model.schema ⟨naming, known⟩ model.settings model.traced

variable {model}

theorem ScannedBy.collection_eq {naming : Naming} (h : model.ScannedBy naming) :
    model.collection =
      model.schema.collection.getD (naming.collectionName model.schema.entity) := by
  obtain ⟨known, hmodel⟩ := h
  exact congrArg collection hmodel

theorem ScannedBy.named {naming : Naming} (h : model.ScannedBy naming) : model.table.Named := by
  obtain ⟨known, hmodel⟩ := h
  rw [hmodel]
  exact model.schema.source.named_scan _

/-- Rebinding a model is scanning its schema afresh. -/
theorem ScannedBy.rebind_eq {naming : Naming} (h : model.ScannedBy naming) :
    model.rebind targets =
      ofSchema model.schema (targets.under naming) model.settings model.traced := by
  obtain ⟨known, hmodel⟩ := h
  have htable : model.table = (model.schema.source.scan ⟨naming, known⟩).table :=
    congrArg table hmodel
  unfold rebind
  rw [htable, FieldSource.rebind_scan, ScannedBy.collection_eq ⟨known, hmodel⟩]
  rfl

variable (caster : Caster) (criteria : Option Criteria) (options : LookupOptions)

section

variable (model) {σ : Type}

theorem run_lookupM_eq (watched : Watched σ) :
    (model.lookupM targets caster criteria options).run watched = watched.after
      (((model.context targets caster).compile criteria options).mapError .criteria) := by
  unfold lookupM
  rw [EStateM.run_adaptExcept, CompileContext.run_compileM]
  cases (model.context targets caster).compile criteria options <;> rfl

/-- A lookup is compiled in the context of the model. -/
theorem lookup_eq : model.lookup targets caster criteria options =
    ((model.context targets caster).compile criteria options).mapError .criteria :=
  Compiled.of_eq (model.run_lookupM_eq targets caster criteria options)

theorem run_lookupM (watched : Watched σ) :
    (model.lookupM targets caster criteria options).run watched =
      watched.after (model.lookup targets caster criteria options) := by
  rw [run_lookupM_eq, lookup_eq]

end

theorem lookup_rebind (h : model.table.Named) :
    (model.rebind targets).lookup targets caster criteria options =
      model.lookup targets caster criteria options := by
  rw [lookup_eq, lookup_eq, ← (model.context targets caster).compile_rebound criteria options h]
  rfl

/-- An observer does not change the pipeline. -/
theorem pipeline_lookup_traced (schema : Schema) (S : Targets) (settings : Settings)
    (traced traced' : Bool) :
    ((ofSchema schema S settings traced).lookup targets caster criteria options).map (·.pipeline) =
      ((ofSchema schema S settings traced').lookup targets caster criteria options).map
        (·.pipeline) := by
  let ctx := (ofSchema schema S settings traced).context targets caster
  rw [lookup_eq, lookup_eq]
  show ((ctx.compile criteria options).mapError Failure.criteria).map Compiled.pipeline =
    (({ ctx with traced := traced' }.compile criteria options).mapError Failure.criteria).map
      Compiled.pipeline
  rw [ctx.compile_traced criteria options traced']
  cases ctx.compile criteria options <;> rfl

end Model

namespace Registry

/-! ### Names -/

/-- The names under which there are models. -/
def names (registry : Registry) : List String :=
  registry.entries.map (·.1)

theorem isSome_get? (registry : Registry) (entity : String) :
    (registry.get? entity).isSome = true ↔ entity ∈ registry.names := by
  rw [get?, List.lookup_isSome_iff]
  simp [names]

/-- There is only one way for a model to be found: under a name. -/
theorem mem_entries_of_get? {registry : Registry} {entity : String} {model : Model}
    (h : registry.get? entity = some model) : (entity, model) ∈ registry.entries := by
  obtain ⟨before, after, hentries, _⟩ := List.lookup_eq_some_iff.mp h
  rw [hentries]
  simp

theorem mem_models_of_get? {registry : Registry} {entity : String} {model : Model}
    (h : registry.get? entity = some model) : model ∈ registry.models :=
  List.mem_map_of_mem (mem_entries_of_get? h)

/-! ### Attaching -/

theorem models_insert (registry : Registry) (entity : String) (model : Model) :
    (registry.insert entity model).models = registry.models ++ [model] :=
  List.map_append

/-- What attaching a schema comes to when it succeeds. -/
def extended (registry : Registry) (schema : Schema) (settings : Settings) : Attached :=
  let model := Model.ofSchema schema registry.targets settings registry.traced
  { registry := registry.insert schema.entity model
    model := model
    events := Model.attachEvents schema registry.targets registry.traced }

/-- **What attaching comes to.**  When it fails, the registry is left alone and nothing has been
reported. -/
theorem run_attachM (schema : Schema) (settings : Settings) (watched : Watched Registry) :
    (attachM schema settings).run watched =
      match watched.state.refusal? schema.entity with
      | some error => .error (.registry error) watched
      | none =>
        let attached := watched.state.extended schema settings
        .ok attached.model ⟨attached.registry, watched.told ++ attached.events⟩ := by
  unfold attachM
  rw [EStateM.run_bind, EStateM.run_get]
  dsimp only
  cases watched.state.refusal? schema.entity <;> rfl

theorem refusal?_eq_none_iff {registry : Registry} {entity : String} :
    registry.refusal? entity = none ↔ entity ≠ "" ∧ entity ∉ registry.names := by
  rw [← isSome_get?]
  unfold refusal?
  split
  · simp_all
  · split <;> simp_all

/-- Attaching succeeds just when the entity has a name and the name is new. -/
theorem attach_eq_ok_iff {registry : Registry} {schema : Schema} {settings : Settings}
    {attached : Attached} :
    registry.attach schema settings = .ok attached ↔
      schema.entity ≠ "" ∧ schema.entity ∉ registry.names ∧
        attached = registry.extended schema settings := by
  unfold attach
  rw [run_attachM, ← and_assoc, ← refusal?_eq_none_iff]
  dsimp only
  cases registry.refusal? schema.entity with
  | some error => simp
  | none =>
    rw [List.nil_append]
    simp [eq_comm]

/-- The registries that attaching schemas to an empty one leads to. -/
inductive Reached : Registry → Prop
  | empty (naming : Naming) (traced : Bool) : Reached (Registry.empty naming traced)
  | attach {registry : Registry} {schema : Schema} {settings : Settings} {attached : Attached}
      (before : Reached registry) (step : registry.attach schema settings = .ok attached) :
      Reached attached.registry

/-! ### The invariant -/

/-- The models are of distinct entities with names, each is kept under the name of its entity, and
each is as scanned by the naming and traced as the registry is. -/
structure WellFormed (registry : Registry) : Prop where
  keyed : registry.entries = registry.models.map fun model => (model.entity, model)
  named : ∀ model ∈ registry.models, model.entity ≠ ""
  distinct : (registry.models.map Model.entity).Nodup
  scanned : ∀ model ∈ registry.models, model.ScannedBy registry.naming
  traced : ∀ model ∈ registry.models, model.traced = registry.traced

theorem wellFormed_empty (naming : Naming) (traced : Bool) :
    (Registry.empty naming traced).WellFormed := by
  constructor <;> simp [Registry.empty, models]

section

variable {registry : Registry} (h : registry.WellFormed)

include h

theorem WellFormed.names_eq : registry.names = registry.models.map Model.entity := by
  unfold names
  rw [h.keyed, List.map_map]
  rfl

theorem WellFormed.get?_eq (entity : String) :
    registry.get? entity = registry.models.find? (·.entity = entity) := by
  unfold get?
  rw [h.keyed]
  exact lookup_map_key _ entity

end

/-- Attaching keeps the invariant. -/
theorem WellFormed.attach {registry : Registry} {schema : Schema} {settings : Settings}
    {attached : Attached} (h : registry.WellFormed)
    (hattach : registry.attach schema settings = .ok attached) : attached.registry.WellFormed := by
  obtain ⟨hname, hnew, rfl⟩ := attach_eq_ok_iff.mp hattach
  have hmodels : (registry.extended schema settings).registry.models =
      registry.models ++ [(registry.extended schema settings).model] :=
    registry.models_insert schema.entity _
  have hforall {P : Model → Prop} (hold : ∀ model ∈ registry.models, P model)
      (hlast : P (registry.extended schema settings).model) :
      ∀ model ∈ (registry.extended schema settings).registry.models, P model := by
    intro model hmodel
    rcases List.mem_append.mp (hmodels ▸ hmodel) with hmem | hmem
    · exact hold model hmem
    · rw [List.mem_singleton.mp hmem]
      exact hlast
  constructor
  · rw [hmodels, List.map_append, ← h.keyed]
    rfl
  · exact hforall h.named hname
  · rw [hmodels, List.map_append]
    exact h.distinct.append (List.nodup_singleton _)
      (List.disjoint_singleton.mpr (h.names_eq ▸ hnew))
  · exact hforall h.scanned ⟨registry.targets.registered, rfl⟩
  · exact hforall h.traced rfl

theorem Reached.wellFormed {registry : Registry} (h : registry.Reached) : registry.WellFormed := by
  induction h with
  | empty naming traced => exact wellFormed_empty naming traced
  | attach _ step ih => exact ih.attach step

/-! ### Lookups -/

section

variable (registry : Registry) (entity : String) (caster : Caster) (criteria : Option Criteria)
  (options : LookupOptions)

theorem run_lookupM_eq {σ : Type} (watched : Watched σ) :
    (registry.lookupM entity caster criteria options).run watched =
      watched.after (registry.tryGet entity >>= fun model =>
        model.lookup registry.targets caster criteria options) := by
  unfold lookupM
  rw [EStateM.run_bind]
  cases registry.tryGet entity with
  | error failure => rfl
  | ok model => exact model.run_lookupM registry.targets caster criteria options watched

/-- A lookup on an entity is one on its model. -/
theorem lookup_eq : registry.lookup entity caster criteria options =
    registry.tryGet entity >>= fun model =>
      model.lookup registry.targets caster criteria options :=
  Compiled.of_eq (registry.run_lookupM_eq entity caster criteria options)

/-- The pipeline and its report tell all that a lookup does. -/
theorem run_lookupM {σ : Type} (watched : Watched σ) :
    (registry.lookupM entity caster criteria options).run watched =
      watched.after (registry.lookup entity caster criteria options) := by
  rw [run_lookupM_eq, lookup_eq]

end

/-- A lookup on an attached entity is compiled in the context of its model. -/
theorem lookup_of_get? {registry : Registry} {entity : String} {model : Model}
    (h : registry.get? entity = some model) (caster : Caster) (criteria : Option Criteria)
    (options : LookupOptions) : registry.lookup entity caster criteria options =
      ((model.context registry.targets caster).compile criteria options).mapError .criteria := by
  rw [lookup_eq, tryGet, h]
  exact model.lookup_eq registry.targets caster criteria options

/-- The schema and the settings declared for an entity. -/
def declared? (registry : Registry) (entity : String) : Option (Schema × Settings) :=
  (registry.models.map Model.declared).find? (·.1.entity = entity)

section

variable {registry : Registry} (h : registry.WellFormed)

include h

theorem WellFormed.declared?_eq (entity : String) :
    registry.declared? entity = (registry.get? entity).map Model.declared := by
  unfold declared?
  rw [List.find?_map, h.get?_eq]
  rfl

theorem WellFormed.registered_eq (entity : String) :
    registry.targets.registered entity = (registry.declared? entity).map fun declared =>
      declared.1.collection.getD (registry.naming.collectionName declared.1.entity) := by
  rw [h.declared?_eq]
  show (registry.get? entity).map (·.collection) = _
  cases hget : registry.get? entity with
  | none => rfl
  | some model =>
    exact congrArg some (h.scanned model (mem_models_of_get? hget)).collection_eq

/-- **What a lookup depends on**: the schema and the settings declared for the entity, the naming,
and where references lead now. -/
theorem WellFormed.lookup_eq (entity : String) (caster : Caster) (criteria : Option Criteria)
    (options : LookupOptions) :
    registry.lookup entity caster criteria options =
      match registry.declared? entity with
      | some (schema, settings) =>
        (Model.ofSchema schema (registry.targets.under registry.naming) settings
          registry.traced).lookup registry.targets caster criteria options
      | none => .error (.registry (.notAttached entity)) := by
  rw [h.declared?_eq, Registry.lookup_eq, tryGet]
  cases hget : registry.get? entity with
  | none => rfl
  | some model =>
    have hmodel := mem_models_of_get? hget
    have hscanned := h.scanned model hmodel
    have hrebind := hscanned.rebind_eq registry.targets
    rw [h.traced model hmodel] at hrebind
    show model.lookup registry.targets caster criteria options =
      (Model.ofSchema model.schema (registry.targets.under registry.naming) model.settings
        registry.traced).lookup registry.targets caster criteria options
    rw [← hrebind, Model.lookup_rebind _ _ _ _ hscanned.named]

end

end Registry

end JoinPlan
