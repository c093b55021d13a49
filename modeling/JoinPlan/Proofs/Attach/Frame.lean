import JoinPlan.Proofs.Attach.Reached

/-!
# What attaching leaves alone

Attaching a schema adds a model behind those that are there, with their tables as they are.  Their
lookups change as far as references lead elsewhere, and only references to the new entity can
(`resolve_extended`).  Before, these led to the collection that the naming derives; now they lead to
the new model's, which is the same one if the schema declares none (`resolve_extended_of_none`).

In a pipeline the change is that of single joins (`Descriptor.redirect`): those that refer to the
new entity and whose author names no collection look in the new one (`rebind_eq_redirect`).
Everything else in a pipeline, and whether a lookup fails, does not depend on where references lead
(`CompileContext.compile_retarget`).
-/

namespace JoinPlan

/-! ### Redirected joins -/

namespace Descriptor

/-- The descriptor with another collection, if its own comes from a reference to the entity. -/
def redirect (entity collection : String) (d : Descriptor) : Descriptor :=
  if d.pinned = false ∧ d.reference = some entity then { d with collection := collection } else d

variable {S S' : Targets} (d : Descriptor)

/-- Under targets that differ for one entity alone, a descriptor is redirected at most. -/
theorem rebind_eq_redirect {entity : String}
    (h : ∀ reference, reference ≠ entity → S'.resolve reference = S.resolve reference) :
    d.rebind S' = (d.rebind S).redirect entity (S'.resolve entity) := by
  unfold redirect
  cases hp : d.pinned with
  | true =>
    rw [d.rebind_of_pinned S hp, d.rebind_of_pinned S' hp, if_neg (by simp [hp])]
  | false =>
    cases hr : d.reference with
    | none =>
      rw [d.rebind_of_reference_none S hr, d.rebind_of_reference_none S' hr, if_neg (by simp [hr])]
    | some reference =>
      rw [d.rebind_of_reference S hp hr, d.rebind_of_reference S' hp hr]
      by_cases heq : reference = entity
      · rw [if_pos ⟨hp, by rw [← heq]; exact hr⟩, heq]
      · rw [if_neg fun hand => heq (Option.some.inj (hr.symm.trans hand.2)), h reference heq]

theorem rebind_congr (h : ∀ reference, S'.resolve reference = S.resolve reference) :
    d.rebind S' = d.rebind S := by
  unfold rebind
  split
  · rw [h]
  · rfl

end Descriptor

/-- Two pipelines that differ in the collections of joins alone: in those joins of the first whose
collection comes from a reference to the entity. -/
structure Redirected (entity collection : String) (joins : List Descriptor)
    (before after : Pipeline) : Prop where
  collection_eq : after.collection = before.collection
  allowDiskUse_eq : after.allowDiskUse = before.allowDiskUse
  stages_eq : ∃ cast : Option Criteria,
    before.stages = cast.toList.map .select ++ joins.flatMap Descriptor.stages ∧
    after.stages = cast.toList.map .select ++
      joins.flatMap fun d => (d.redirect entity collection).stages

namespace CompileContext

variable (ctx : CompileContext) (criteria : Option Criteria) (options : LookupOptions)

/-- The same context with references leading elsewhere. -/
def retarget (targets : Targets) : CompileContext :=
  { ctx with targets := targets }

/-- Only joins that refer to the entity are redirected. -/
theorem redirected_assemble {targets : Targets} {entity : String}
    (h : ∀ reference, reference ≠ entity →
      targets.resolve reference = ctx.targets.resolve reference) (cast : Option Criteria) :
    Redirected entity (targets.resolve entity) ((ctx.kept options).map (·.rebind ctx.targets))
      (ctx.assemble cast options) ((ctx.retarget targets).assemble cast options) := by
  refine ⟨rfl, rfl, cast, ?_, ?_⟩
  · rw [List.flatMap_map]
    rfl
  · rw [List.flatMap_map]
    refine congrArg (_ ++ ·) (List.flatMap_congr fun d _ => ?_)
    exact congrArg Descriptor.stages (d.rebind_eq_redirect h)

theorem cast_retarget (targets : Targets) : (ctx.retarget targets).cast criteria =
    ctx.cast criteria := by
  cases criteria <;> rfl

/-- Where references lead has no say in whether a lookup compiles, nor in anything but its joins. -/
theorem compile_retarget (targets : Targets) :
    (∃ error, ctx.compile criteria options = .error error ∧
      (ctx.retarget targets).compile criteria options = .error error) ∨
    ∃ cast before after, ctx.compile criteria options = .ok before ∧
      (ctx.retarget targets).compile criteria options = .ok after ∧
      before.pipeline = ctx.assemble cast options ∧
      after.pipeline = (ctx.retarget targets).assemble cast options := by
  rw [compile_eq, compile_eq, cast_retarget]
  cases ctx.cast criteria with
  | error error => exact .inl ⟨error, rfl, rfl⟩
  | ok cast => exact .inr ⟨cast, _, _, rfl, rfl, rfl, rfl⟩

/-- Targets under which every reference leads to the same collection compile to the same. -/
theorem compile_retarget_of_resolve_eq {targets : Targets}
    (h : ∀ reference, targets.resolve reference = ctx.targets.resolve reference) :
    (ctx.retarget targets).compile criteria options = ctx.compile criteria options := by
  have hstages : (ctx.retarget targets).joinStages options = ctx.joinStages options := by
    apply List.flatMap_congr
    intro d _
    exact congrArg Descriptor.stages (d.rebind_congr h)
  have hassemble : ∀ cast,
      (ctx.retarget targets).assemble cast options = ctx.assemble cast options := by
    intro cast
    unfold assemble
    rw [hstages]
    rfl
  rw [compile_eq, compile_eq]
  simp only [cast_retarget, hassemble]
  rfl

end CompileContext

/-! ### Registries -/

namespace Registry

variable {registry : Registry} {schema : Schema} (settings : Settings)

theorem get?_eq_none {entity : String} (h : entity ∉ registry.names) :
    registry.get? entity = none := by
  rw [← Option.not_isSome_iff_eq_none, isSome_get?]
  exact h

/-- The new model comes into play where there was none. -/
theorem get?_extended (entity : String) :
    (registry.extended schema settings).registry.get? entity =
      (registry.get? entity).or (if schema.entity = entity then
        some (registry.extended schema settings).model else none) := by
  show (registry.entries ++ [(schema.entity, _)]).lookup entity = _
  rw [List.lookup_append, List.lookup_cons, List.lookup_nil]
  congr 1
  by_cases heq : schema.entity = entity
  · rw [if_pos heq, heq, beq_self_eq_true]
    rfl
  · rw [if_neg heq, beq_eq_false_iff_ne.mpr (Ne.symm heq)]

/-- Where references lead: to the new model's collection if they refer to the new entity, and to the
same collection as before otherwise. -/
theorem resolve_extended (h : schema.entity ∉ registry.names)
    (reference : String) :
    (registry.extended schema settings).registry.targets.resolve reference =
      if schema.entity = reference then (registry.extended schema settings).model.collection
      else registry.targets.resolve reference := by
  show (((registry.extended schema settings).registry.get? reference).map (·.collection)).getD _ = _
  rw [get?_extended]
  by_cases heq : schema.entity = reference
  · rw [if_pos heq, if_pos heq, get?_eq_none (heq ▸ h)]
    rfl
  · rw [if_neg heq, if_neg heq, Option.or_none]
    rfl

/-- A schema that declares no collection gets the one to which its references led before. -/
theorem resolve_extended_of_none (h : schema.entity ∉ registry.names)
    (hcollection : schema.collection = none) (reference : String) :
    (registry.extended schema settings).registry.targets.resolve reference =
      registry.targets.resolve reference := by
  rw [resolve_extended settings h]
  split
  · rename_i heq
    -- Both are the name that the naming derives: the model's for want of a declared one, and the
    -- reference's for want of a model.
    show schema.collection.getD _ = ((registry.get? reference).map (·.collection)).getD _
    rw [hcollection, get?_eq_none (heq ▸ h), heq]
    rfl
  · rfl

/-- **Attaching changes existing lookups only where it must.**  The models attached before stay as
they are, tables included.  A lookup on one of them still fails for the same reason, or it gives the
same pipeline but for joins that refer to the new entity and whose author names no collection: these
now look in the new model's collection.  If the new schema declares no collection, the lookup is the
same altogether. -/
theorem lookup_attach_frame {attached : Attached}
    (hattach : registry.attach schema settings = .ok attached) {entity : String} {model : Model}
    (hmodel : registry.get? entity = some model) (caster : Caster) (criteria : Option Criteria)
    (options : LookupOptions) :
    attached.registry.models = registry.models ++ [attached.model] ∧
    attached.registry.get? entity = some model ∧
    ((∃ failure, registry.lookup entity caster criteria options = .error failure ∧
        attached.registry.lookup entity caster criteria options = .error failure) ∨
      ∃ (before after : Compiled) (entries : List Descriptor),
        registry.lookup entity caster criteria options = .ok before ∧
        attached.registry.lookup entity caster criteria options = .ok after ∧
        entries.Sublist model.table.entries ∧
        Redirected schema.entity attached.model.collection
          (entries.map (·.rebind registry.targets)) before.pipeline after.pipeline) ∧
    (schema.collection = none → attached.registry.lookup entity caster criteria options =
      registry.lookup entity caster criteria options) := by
  obtain ⟨_, hnew, rfl⟩ := attach_eq_ok_iff.mp hattach
  set after := registry.extended schema settings
  have hget : after.registry.get? entity = some model := by
    rw [get?_extended, hmodel, Option.some_or]
  let ctx := model.context registry.targets caster
  have hbefore : registry.lookup entity caster criteria options =
      (ctx.compile criteria options).mapError .criteria :=
    lookup_of_get? hmodel caster criteria options
  have hafter : after.registry.lookup entity caster criteria options =
      ((ctx.retarget after.registry.targets).compile criteria options).mapError .criteria :=
    lookup_of_get? hget caster criteria options
  refine ⟨registry.models_insert _ _, hget, ?_, ?_⟩
  · rw [hbefore, hafter]
    rcases ctx.compile_retarget criteria options after.registry.targets with
      ⟨error, herror, herror'⟩ | ⟨cast, compiled, compiled', hok, hok', hpipeline, hpipeline'⟩
    · rw [herror, herror']
      exact .inl ⟨.criteria error, rfl, rfl⟩
    · rw [hok, hok']
      have hother : ∀ reference, reference ≠ schema.entity →
          after.registry.targets.resolve reference = registry.targets.resolve reference :=
        fun reference hne => by rw [resolve_extended settings hnew, if_neg hne.symm]
      have hself : after.registry.targets.resolve schema.entity = after.model.collection := by
        rw [resolve_extended settings hnew, if_pos rfl]
      refine .inr ⟨compiled, compiled', ctx.kept options, rfl, rfl, List.filter_sublist, ?_⟩
      rw [hpipeline, hpipeline', ← hself]
      exact ctx.redirected_assemble options hother cast
  · intro hcollection
    rw [hbefore, hafter, ctx.compile_retarget_of_resolve_eq criteria options
      (resolve_extended_of_none settings hnew hcollection)]

/-- A person whose pet is joined, and a stray one in a collection that the author names, where the
collections are called like their entities.  Once pets are attached as `animals`, only the former
join is redirected. -/
theorem lookup_attach_pet :
    let person : Schema := ⟨"Person", none,
      [⟨"pet", .scalar .reference, ⟨some "Pet", some ⟨true, {}⟩⟩⟩,
        ⟨"stray", .scalar .reference, ⟨some "Pet", some ⟨true, { collection := some "strays" }⟩⟩⟩]⟩
    let pet : Schema := ⟨"Pet", some "animals", []⟩
    let persons := (Registry.empty ⟨id, id, id⟩ false).extended person {}
    let attached := persons.registry.extended pet {}
    let pipeline (collection : String) : Pipeline :=
      ⟨"Person", [.join ⟨collection, "pet", "_id", "pet"⟩, .unwind ⟨"$pet", true⟩,
        .join ⟨"strays", "stray", "_id", "stray"⟩, .unwind ⟨"$stray", true⟩], true⟩
    persons.registry.attach pet {} = .ok attached ∧
      persons.registry.get? "Person" = some persons.model ∧
      persons.registry.lookup "Person" .bySchema none {} = .ok ⟨pipeline "Pet", []⟩ ∧
      attached.registry.lookup "Person" .bySchema none {} = .ok ⟨pipeline "animals", []⟩ ∧
      ∃ entries : List Descriptor, entries.Sublist persons.model.table.entries ∧
        Redirected "Pet" "animals" (entries.map (·.rebind persons.registry.targets))
          (pipeline "Pet") (pipeline "animals") := by
  intro person pet persons attached pipeline
  have hattach : persons.registry.attach pet {} = .ok attached := rfl
  have hmodel : persons.registry.get? "Person" = some persons.model := rfl
  have hbefore : persons.registry.lookup "Person" .bySchema none {} =
      .ok ⟨pipeline "Pet", []⟩ := rfl
  have hafter : attached.registry.lookup "Person" .bySchema none {} =
      .ok ⟨pipeline "animals", []⟩ := rfl
  obtain ⟨_, _, hframe, _⟩ := lookup_attach_frame {} hattach hmodel .bySchema none {}
  rw [hbefore, hafter] at hframe
  rcases hframe with ⟨_, herror, _⟩ | ⟨_, _, entries, hok, hok', hsub, hredirected⟩
  · cases herror
  · cases hok
    cases hok'
    exact ⟨hattach, hmodel, hbefore, hafter, entries, hsub, hredirected⟩

end Registry

end JoinPlan
