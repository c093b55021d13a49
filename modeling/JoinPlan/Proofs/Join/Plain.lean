import JoinPlan.Proofs.Join.Marks
import JoinPlan.Proofs.Join.Rebind

/-!
# Plain schemas

In a plain schema (`Schema.Plain`) only fields at the top are marked as joinable, nothing about
their joins is overridden, and no name of a field could be taken for a path or a variable.  The
joins of a plain schema can be read off its fields (`Plain.entries_scan`): each field that is marked
and refers to an entity (`Field.JoinedWith`) has the default join (`Descriptor.plain`), and there
are no others.

* Nothing is met inside a field that asks for a join (`Plain.requests_eq`).
* A request without overrides is for the default join (`JoinRequest.descriptor_plain`).
* Descriptors of distinct paths make up a table as they stand (`Table.entries_ofList_of_nodup`).
-/

namespace JoinPlan

/-! ### Default joins -/

/-- The join of a field that refers to an entity, with nothing overridden. -/
def Descriptor.plain (targets : Targets) (name reference : String) (multi : Bool) : Descriptor where
  path := name
  reference := some reference
  collection := targets.resolve reference
  localField := name
  foreignField := Path.identity
  output := name
  multi := multi
  unwind := if multi then none else some ⟨Path.variableName name, true⟩
  pinned := false

theorem JoinRequest.descriptor_plain (targets : Targets) (name : String) {reference : String}
    (multi : Bool) (h : reference ≠ "") :
    (JoinRequest.mk name (some reference) multi {}).descriptor targets =
      .plain targets name reference multi := by
  have htarget : (JoinRequest.mk name (some reference) multi {}).target? = some reference :=
    Option.filter_eq_some_iff.mpr ⟨rfl, decide_eq_true h⟩
  unfold descriptor collection
  rw [htarget]
  cases multi <;> rfl

namespace Field

variable (field : Field)

/-- The field is joined with an entity: an enabled mark is in force for it, and the entity is the one
that is first named on the field or on its items, by a name that is not empty. -/
structure JoinedWith (reference : String) : Prop where
  marked : ∃ mark, field.Marked mark
  refers : ∃ level ≤ 1, field.FirstSaid Options.reference level reference
  named : reference ≠ ""

/-- The entity that the field is joined with, if it is joined. -/
def joined? : Option String :=
  if field.atTop.options.mark?.isSome then field.atTop.options.target? else none

/-- The default join of the field, if it is joined. -/
def join? (targets : Targets) : Option Descriptor :=
  field.joined?.map fun reference => .plain targets field.name reference field.kind.isList

variable {field}

theorem joined?_eq_some_iff {reference : String} :
    field.joined? = some reference ↔ field.JoinedWith reference := by
  have hmarked : field.atTop.options.mark?.isSome = true ↔ ∃ mark, field.Marked mark := by
    simp only [Option.isSome_iff_exists, ← mark?_merge_iff]
    rfl
  have htarget : field.atTop.options.target? = some reference ↔
      (∃ level ≤ 1, field.FirstSaid Options.reference level reference) ∧ reference ≠ "" := by
    rw [Options.target?, Option.filter_eq_some_iff, ← reference_merge_iff, decide_eq_true_iff]
    rfl
  unfold joined?
  rw [Option.ite_none_right_eq_some, hmarked, htarget]
  exact ⟨fun ⟨hmark, hrefers, hnamed⟩ => ⟨hmark, hrefers, hnamed⟩,
    fun h => ⟨h.marked, h.refers, h.named⟩⟩

theorem JoinedWith.unique {reference reference' : String} (h : field.JoinedWith reference)
    (h' : field.JoinedWith reference') : reference = reference' :=
  Option.some.inj ((joined?_eq_some_iff.mpr h).symm.trans (joined?_eq_some_iff.mpr h'))

theorem path_of_join? {targets : Targets} {d : Descriptor} (h : field.join? targets = some d) :
    d.path = field.name := by
  obtain ⟨reference, _, rfl⟩ := Option.map_eq_some_iff.mp h
  rfl

/-- A field whose mark overrides nothing asks for a join if it is marked and refers to an entity. -/
theorem request?_atTop (h : ∀ mark, field.Marked mark → mark.overrides = {}) :
    field.atTop.request? =
      field.joined?.map fun reference => ⟨field.name, some reference, field.kind.isList, {}⟩ := by
  unfold Visited.request? joined?
  cases hmark : field.atTop.options.mark? with
  | none => rfl
  | some mark =>
    have hdefault := h mark (mark?_merge_iff.mp hmark)
    cases htarget : field.atTop.options.target? with
    | none => simp [hdefault]
    | some reference => simp [hdefault, atTop]

end Field

/-! ### Tables -/

theorem Descriptor.putInto_of_notMem {d : Descriptor} {entries : List Descriptor}
    (h : d.path ∉ entries.map (·.path)) : d.putInto entries = entries ++ [d] := by
  induction entries with
  | nil => rfl
  | cons e rest ih =>
    rw [List.map_cons, List.mem_cons, not_or] at h
    obtain ⟨hne, hrest⟩ := h
    rw [putInto, if_neg (Ne.symm hne), ih hrest, List.cons_append]

namespace Table

theorem putAll_of_nodup {entries descriptors : List Descriptor}
    (h : ((entries ++ descriptors).map (·.path)).Nodup) :
    putAll entries descriptors = entries ++ descriptors := by
  induction descriptors generalizing entries with
  | nil => exact (List.append_nil entries).symm
  | cons d rest ih =>
    have hnew : d.path ∉ entries.map (·.path) := by
      intro hmem
      rw [List.map_append, List.nodup_append] at h
      exact h.2.2 _ hmem _ (List.mem_map_of_mem List.mem_cons_self) rfl
    have hmove : entries ++ d :: rest = entries ++ [d] ++ rest := by simp
    rw [putAll, Descriptor.putInto_of_notMem hnew, hmove]
    rw [hmove] at h
    exact ih h

/-- Descriptors of distinct paths are all entries, in their order. -/
theorem entries_ofList_of_nodup {descriptors : List Descriptor}
    (h : (descriptors.map (·.path)).Nodup) : (ofList descriptors).entries = descriptors := by
  rw [entries_ofList_eq]
  exact putAll_of_nodup h

end Table

/-! ### Plain schemas -/

/-- The name of the field stands for nothing but itself, a mark of the field overrides nothing, and
no field inside it is marked. -/
structure Field.Plain (field : Field) : Prop where
  undotted : '.' ∉ field.name.toList
  literal : field.name.toList.head? ≠ some '$'
  default : ∀ mark, field.Marked mark → mark.overrides = {}
  shallow : ∀ inner, field.kind.schema? = some inner → ∀ path deeper, inner.HasField path deeper →
    ∀ mark, ¬ deeper.Marked mark

/-- What is met right after a plain field lies inside it and asks for nothing. -/
theorem Field.Plain.filterMap_request? {field : Field} (h : field.Plain) :
    (field.visits none false).filterMap (·.request?) = field.atTop.request?.toList := by
  have hinside : ∀ inner, field.kind.schema? = some inner → ∀ visit ∈ inner.visits,
      (visit.within (some field.name) field.kind.isList).request? = none := by
    intro inner hinner visit hvisit
    -- It is met with the options that are in force for a field inside, which is not marked.
    obtain ⟨deeper, hdeeper, hoptions⟩ := Schema.exists_hasField_of_mem_visits hvisit
    have hunmarked : (visit.within (some field.name) field.kind.isList).options.mark? = none := by
      refine Option.eq_none_iff_forall_ne_some.mpr fun mark hmark => ?_
      exact h.shallow inner hinner _ deeper hdeeper mark
        (mark?_merge_iff.mp (hoptions ▸ hmark))
    rw [Visited.request?, hunmarked]
  rw [visits_top_eq, List.filterMap_cons, List.filterMap_flatMap]
  have hnone : (field.kind.schema?.toList.flatMap fun inner =>
      (inner.visits.map (·.within (some field.name) field.kind.isList)).filterMap (·.request?)) =
        [] := by
    rw [List.flatMap_eq_nil_iff]
    intro inner hinner
    rw [List.filterMap_map, List.filterMap_eq_nil_iff]
    exact hinside inner (Option.mem_toList.mp hinner)
  rw [hnone]
  cases field.atTop.request? <;> rfl

/-- The fields at the top are plain, and have distinct names. -/
structure Schema.Plain (schema : Schema) : Prop where
  fields : ∀ field ∈ schema.fields, field.Plain
  distinct : (schema.fields.map (·.name)).Nodup

namespace Schema.Plain

variable {schema : Schema} (h : schema.Plain) (targets : Targets)

include h

/-- Only fields at the top ask for joins. -/
theorem requests_eq :
    schema.visits.filterMap (·.request?) = schema.fields.filterMap (·.atTop.request?) := by
  have hplain := h.fields
  rw [Schema.visits_eq]
  clear h
  generalize schema.fields = fields at hplain ⊢
  induction fields with
  | nil => rfl
  | cons field rest ih =>
    have hfield := (hplain field List.mem_cons_self).filterMap_request?
    have hrest := ih fun other hother => hplain other (List.mem_cons_of_mem _ hother)
    rw [List.flatMap_cons, List.filterMap_append, hfield, hrest, List.filterMap_cons]
    cases field.atTop.request? <;> rfl

theorem descriptors_eq :
    schema.source.descriptors targets = schema.fields.filterMap (·.join? targets) := by
  unfold FieldSource.descriptors
  show (schema.visits.filterMap (·.request?)).map _ = _
  rw [h.requests_eq, List.map_filterMap]
  apply List.filterMap_congr
  intro field hfield
  rw [Field.request?_atTop (h.fields field hfield).default, Field.join?, Option.map_map]
  cases hjoined : field.joined? with
  | none => rfl
  | some reference =>
    have hnamed := (Field.joined?_eq_some_iff.mp hjoined).named
    exact congrArg some (JoinRequest.descriptor_plain targets field.name _ hnamed)

/-- **The joins of a plain schema are the default joins of its fields.** -/
theorem entries_scan :
    (schema.source.scan targets).table.entries = schema.fields.filterMap (·.join? targets) := by
  show (Table.ofList (schema.source.descriptors targets)).entries = _
  rw [h.descriptors_eq]
  apply Table.entries_ofList_of_nodup
  have hdistinct := h.distinct
  unfold List.Nodup at hdistinct ⊢
  rw [List.pairwise_map] at hdistinct ⊢
  rw [List.pairwise_filterMap]
  refine hdistinct.imp fun {field field'} hne d hd d' hd' => ?_
  rw [Field.path_of_join? hd, Field.path_of_join? hd']
  exact hne

end Schema.Plain

end JoinPlan
