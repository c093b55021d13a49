import JoinPlan.Proofs.Attach.Reached
import Mathlib.Data.List.Find

/-!
# The order of attaching

A schema that refers to an entity may be attached before or after it.  In the first case the table
of the model holds a collection that the naming made up, in the second case the one that the entity
has, so the tables depend on the order; lookups do not (`lookup_attachAll_perm`).  They depend on
what is declared for each entity (`WellFormed.lookup_eq`), and that is read from the models by name:

* all schemas of a list with distinct names can be attached, and the models then declare the list
  (`attachAll_eq_ok`);
* an entry is found by its name wherever it stands (`declared?_eq_of_perm`).
-/

namespace JoinPlan.Registry

/-! ### Attaching in a row -/

/-- Attaches schemas one after the other, up to the first failure. -/
def attachAll : Registry → List (Schema × Settings) → Except Failure Registry
  | registry, [] => .ok registry
  | registry, (schema, settings) :: rest => do
    let attached ← registry.attach schema settings
    attached.registry.attachAll rest

/-- Schemas of new entities with distinct names are all attached, in their order. -/
theorem attachAll_eq_ok (entries : List (Schema × Settings)) {registry : Registry}
    (h : registry.WellFormed) (hnames : ∀ entry ∈ entries, entry.1.entity ≠ "")
    (hdistinct : ((registry.models.map Model.declared ++ entries).map (·.1.entity)).Nodup) :
    ∃ result, registry.attachAll entries = .ok result ∧ result.WellFormed ∧
      result.naming = registry.naming ∧ result.traced = registry.traced ∧
      result.models.map Model.declared = registry.models.map Model.declared ++ entries := by
  induction entries generalizing registry with
  | nil => exact ⟨registry, rfl, h, rfl, rfl, (List.append_nil _).symm⟩
  | cons entry rest ih =>
    obtain ⟨schema, settings⟩ := entry
    have hnew : schema.entity ∉ registry.names := by
      rw [h.names_eq]
      intro hmem
      rw [List.map_append, List.nodup_append, List.map_map] at hdistinct
      exact hdistinct.2.2 _ hmem _ (List.mem_map_of_mem List.mem_cons_self) rfl
    have hattach : registry.attach schema settings = .ok (registry.extended schema settings) :=
      attach_eq_ok_iff.mpr ⟨hnames _ List.mem_cons_self, hnew, rfl⟩
    have hdeclared : (registry.extended schema settings).registry.models.map Model.declared =
        registry.models.map Model.declared ++ [(schema, settings)] := by
      show (registry.insert schema.entity _).models.map Model.declared = _
      rw [models_insert, List.map_append]
      rfl
    obtain ⟨result, hrest, hwell, hnaming, htraced, hmodels⟩ := ih (h.attach hattach)
      (fun entry hentry => hnames entry (List.mem_cons_of_mem _ hentry))
      (by rw [hdeclared, List.append_assoc]; exact hdistinct)
    refine ⟨result, ?_, hwell, hnaming, htraced, ?_⟩
    · rw [attachAll, hattach]
      exact hrest
    · rw [hmodels, hdeclared, List.append_assoc]
      rfl

/-! ### Registries that declare the same -/

variable {registry registry' : Registry}

/-- Where an entry stands does not matter for finding it. -/
theorem declared?_eq_of_perm (h : registry.WellFormed)
    (hperm : (registry.models.map Model.declared).Perm (registry'.models.map Model.declared))
    (entity : String) : registry.declared? entity = registry'.declared? entity := by
  have hdistinct : ((registry.models.map Model.declared).map (·.1.entity)).Nodup := by
    rw [List.map_map]
    exact h.distinct
  apply List.find?_eq_find?_of_perm hperm
  rintro first ⟨hfirst, hfirst'⟩ second ⟨hsecond, hsecond'⟩
  apply List.inj_on_of_nodup_map hdistinct hfirst hsecond
  rw [of_decide_eq_true hfirst', of_decide_eq_true hsecond']

/-- What is declared decides where references lead. -/
theorem targets_eq_of_perm (h : registry.WellFormed) (h' : registry'.WellFormed)
    (hnaming : registry.naming = registry'.naming)
    (hperm : (registry.models.map Model.declared).Perm (registry'.models.map Model.declared)) :
    registry.targets = registry'.targets := by
  have hregistered : registry.targets.registered = registry'.targets.registered := by
    funext entity
    rw [h.registered_eq, h'.registered_eq, declared?_eq_of_perm h hperm, hnaming]
  show Targets.mk registry.naming registry.targets.registered =
    Targets.mk registry'.naming registry'.targets.registered
  rw [hnaming, hregistered]

/-- What is declared decides what a lookup is compiled to. -/
theorem lookup_eq_of_perm (h : registry.WellFormed) (h' : registry'.WellFormed)
    (hnaming : registry.naming = registry'.naming)
    (hperm : (registry.models.map Model.declared).Perm (registry'.models.map Model.declared))
    (htraced : registry.traced = registry'.traced) (entity : String) (caster : Caster)
    (criteria : Option Criteria) (options : LookupOptions) :
    registry.lookup entity caster criteria options =
      registry'.lookup entity caster criteria options := by
  rw [h.lookup_eq, h'.lookup_eq, declared?_eq_of_perm h hperm, hnaming, htraced,
    targets_eq_of_perm h h' hnaming hperm]

/-- The pipeline is the same even where only one of the registries is observed. -/
theorem pipeline_eq_of_perm (h : registry.WellFormed) (h' : registry'.WellFormed)
    (hnaming : registry.naming = registry'.naming)
    (hperm : (registry.models.map Model.declared).Perm (registry'.models.map Model.declared))
    (entity : String) (caster : Caster) (criteria : Option Criteria) (options : LookupOptions) :
    (registry.lookup entity caster criteria options).map (·.pipeline) =
      (registry'.lookup entity caster criteria options).map (·.pipeline) := by
  rw [h.lookup_eq, h'.lookup_eq, declared?_eq_of_perm h hperm, hnaming,
    targets_eq_of_perm h h' hnaming hperm]
  cases registry'.declared? entity with
  | none => rfl
  | some declared => exact Model.pipeline_lookup_traced _ _ _ _ _ _ _ _ _

/-! ### Permutations -/

/-- **The order of attaching does not matter.**  Schemas of entities with distinct names, attached
in two orders, all get attached; every lookup then gives the same pipeline or fails for the same
reason, and every reference leads to the same collection.  Under the same observation the reports
agree too. -/
theorem lookup_attachAll_perm (naming : Naming) (traced traced' : Bool)
    {entries entries' : List (Schema × Settings)} (hperm : entries.Perm entries')
    (hnames : ∀ entry ∈ entries, entry.1.entity ≠ "")
    (hdistinct : (entries.map (·.1.entity)).Nodup) :
    ∃ registry registry',
      (Registry.empty naming traced).attachAll entries = .ok registry ∧
      (Registry.empty naming traced').attachAll entries' = .ok registry' ∧
      (∀ entity caster criteria options,
        (registry.lookup entity caster criteria options).map (·.pipeline) =
          (registry'.lookup entity caster criteria options).map (·.pipeline)) ∧
      (traced = traced' → ∀ entity caster criteria options,
        registry.lookup entity caster criteria options =
          registry'.lookup entity caster criteria options) ∧
      ∀ reference, registry.targets.resolve reference = registry'.targets.resolve reference := by
  have hnames' : ∀ entry ∈ entries', entry.1.entity ≠ "" :=
    fun entry hentry => hnames entry (hperm.mem_iff.mpr hentry)
  have hdistinct' : (entries'.map (·.1.entity)).Nodup := (hperm.map _).nodup_iff.mp hdistinct
  obtain ⟨registry, hattach, hwell, hnaming, htraced, hmodels⟩ :=
    attachAll_eq_ok entries (wellFormed_empty naming traced) hnames hdistinct
  obtain ⟨registry', hattach', hwell', hnaming', htraced', hmodels'⟩ :=
    attachAll_eq_ok entries' (wellFormed_empty naming traced') hnames' hdistinct'
  have hsame : registry.naming = registry'.naming := hnaming.trans hnaming'.symm
  have hdeclared : (registry.models.map Model.declared).Perm
      (registry'.models.map Model.declared) := by
    rw [hmodels, hmodels']
    exact hperm.append_left _
  refine ⟨registry, registry', hattach, hattach', ?_, ?_, ?_⟩
  · exact pipeline_eq_of_perm hwell hwell' hsame hdeclared
  · intro heq
    exact lookup_eq_of_perm hwell hwell' hsame hdeclared (by rw [htraced, htraced']; exact heq)
  · intro reference
    rw [targets_eq_of_perm hwell hwell' hsame hdeclared]

/-- A person whose pet is joined, and the pet, attached either way round: attached first, the person
is scanned before the collection `animals` is known. -/
theorem lookup_attachAll_person_pet :
    let person : Schema × Settings :=
      (⟨"Person", some "people",
        [⟨"pet", .scalar .reference, ⟨some "Pet", some ⟨true, {}⟩⟩⟩]⟩, {})
    let pet : Schema × Settings := (⟨"Pet", some "animals", []⟩, ⟨false⟩)
    let pipeline : Pipeline := ⟨"people",
      [.join ⟨"animals", "pet", "_id", "pet"⟩, .unwind ⟨"$pet", true⟩], true⟩
    [person, pet].Perm [pet, person] ∧ (∀ entry ∈ [person, pet], entry.1.entity ≠ "") ∧
      ([person, pet].map (·.1.entity)).Nodup ∧
      ∃ registry registry',
        (Registry.empty (.suffixed "_all") true).attachAll [person, pet] = .ok registry ∧
        (Registry.empty (.suffixed "_all") true).attachAll [pet, person] = .ok registry' ∧
        registry.lookup "Person" .bySchema none {} =
          registry'.lookup "Person" .bySchema none {} ∧
        (registry.lookup "Person" .bySchema none {}).map (·.pipeline) = .ok pipeline ∧
        (registry'.lookup "Person" .bySchema none {}).map (·.pipeline) = .ok pipeline := by
  intro person pet pipeline
  have hperm : [person, pet].Perm [pet, person] := .swap _ _ _
  have hnames : ∀ entry ∈ [person, pet], entry.1.entity ≠ "" := by simp [person, pet]
  have hdistinct : ([person, pet].map (·.1.entity)).Nodup := by simp [person, pet]
  obtain ⟨registry, registry', hattach, hattach', hpipeline, hlookup, _⟩ :=
    lookup_attachAll_perm (.suffixed "_all") true true hperm hnames hdistinct
  -- It is enough to know one of the pipelines: that of the person scanned after the pet.
  let pets := ((Registry.empty (.suffixed "_all") true).extended pet.1 pet.2).registry
  have hafter : registry' = (pets.extended person.1 person.2).registry :=
    Except.ok.inj (hattach'.symm.trans rfl)
  have hpet : (registry'.lookup "Person" .bySchema none {}).map (·.pipeline) = .ok pipeline := by
    rw [hafter]
    rfl
  exact ⟨hperm, hnames, hdistinct, registry, registry', hattach, hattach', hlookup rfl _ _ _ _,
    (hpipeline _ _ _ _).trans hpet, hpet⟩

end JoinPlan.Registry
