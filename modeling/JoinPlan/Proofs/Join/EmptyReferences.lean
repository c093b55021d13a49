import JoinPlan.Proofs.Join.Occurrences
import JoinPlan.Proofs.Schema.Visits

/-!
# References to the empty name

A reference to the empty name is as good as none.  Leaving out all of them (`Schema.tidied`) should
not change what is scanned, and as a rule it does not.  But whether a reference is empty is asked
only after the options of a field are completed by those of its items.  So an empty reference on a
field hides the one on its items, which is in force once the empty one is left out
(`Field.HidesReference`, `Schema.scan_tidied_members`).

A scan reads only part of what is met: paths, list flags, enabled marks, and the entities that
marked fields refer to (`Visited.read`, `FieldSource.scan_eq_of_read`).  Leaving out empty
references keeps that part at each field that does not hide a reference, and only there
(`Field.read_tidied_iff`), hence for whole schemas (`Schema.map_visits_tidied`).  Where no path is
met twice, a reference that is hidden shows in the scan (`Schema.scan_tidied`).
-/

namespace JoinPlan

/-! ### Leaving out empty references -/

/-- The options without a reference to the empty name. -/
def Options.tidied (options : Options) : Options :=
  { options with reference := options.target? }

mutual

/-- The kind without references to the empty name, at any depth. -/
def Kind.tidied : Kind → Kind
  | .scalar type => .scalar type
  | .mixed => .mixed
  | .list item => .list item.tidied
  | .embedded schema => .embedded schema.tidied

/-- The items without references to the empty name. -/
def Item.tidied : Item → Item
  | ⟨kind, options⟩ => ⟨kind.tidied, options.tidied⟩

/-- The field without references to the empty name, at any depth. -/
def Field.tidied : Field → Field
  | ⟨name, kind, options⟩ => ⟨name, kind.tidied, options.tidied⟩

/-- The fields without references to the empty name. -/
def tidiedFields : List Field → List Field
  | [] => []
  | field :: rest => field.tidied :: tidiedFields rest

/-- The schema without references to the empty name, on fields and on items at any depth. -/
def Schema.tidied : Schema → Schema
  | ⟨entity, collection, fields⟩ => ⟨entity, collection, tidiedFields fields⟩

end

theorem tidiedFields_eq (fields : List Field) : tidiedFields fields = fields.map (·.tidied) := by
  induction fields with
  | nil => rfl
  | cons field rest ih => rw [tidiedFields, ih, List.map_cons]

theorem Schema.fields_tidied (schema : Schema) :
    schema.tidied.fields = schema.fields.map (·.tidied) := by
  obtain ⟨entity, collection, fields⟩ := schema
  exact tidiedFields_eq fields

theorem Schema.entity_tidied (schema : Schema) : schema.tidied.entity = schema.entity := by
  cases schema
  rfl

theorem Field.name_tidied (field : Field) : field.tidied.name = field.name := by
  cases field
  rfl

theorem Field.kind_tidied (field : Field) : field.tidied.kind = field.kind.tidied := by
  cases field
  rfl

theorem Kind.isList_tidied (kind : Kind) : kind.tidied.isList = kind.isList := by
  cases kind <;> rfl

/-- Embedded schemas stay where they are. -/
theorem Kind.schema?_tidied : (kind : Kind) → kind.tidied.schema? = kind.schema?.map (·.tidied)
  | .scalar _ | .mixed | .embedded _ => rfl
  | .list ⟨kind, _⟩ => kind.schema?_tidied

/-- Fields stay where they are. -/
theorem Schema.HasField.tidied {schema : Schema} {path : String} {field : Field}
    (h : schema.HasField path field) : schema.tidied.HasField path field.tidied := by
  induction h with
  | @top schema field here =>
    rw [← field.name_tidied]
    refine .top ?_
    rw [schema.fields_tidied]
    exact List.mem_map_of_mem here
  | @inside schema inner outer field path around embedded _ ih =>
    rw [← outer.name_tidied]
    refine .inside ?_ ?_ ih
    · rw [schema.fields_tidied]
      exact List.mem_map_of_mem around
    · rw [outer.kind_tidied, outer.kind.schema?_tidied, embedded, Option.map_some]

/-! ### What a scan reads -/

/-- The enabled mark, and with one the entity referred to. -/
def Options.read (options : Options) : Options where
  reference := options.mark?.bind fun _ => options.target?
  joinable := options.mark?

/-- All that a scan reads of what is met. -/
def Visited.read (visit : Visited) : Visited :=
  { visit with kind := .mixed, options := visit.options.read }

namespace Options

variable (options fallback : Options)

theorem target?_tidied : options.tidied.target? = options.target? := by
  show (options.reference.filter _).filter _ = options.reference.filter _
  rw [Option.filter_filter]
  simp

theorem mark?_read : options.read.mark? = options.mark? := by
  show (options.joinable.filter _).filter _ = options.joinable.filter _
  rw [Option.filter_filter]
  simp

theorem target?_read {mark : JoinMark} (h : options.mark? = some mark) :
    options.read.target? = options.target? := by
  show (options.mark?.bind fun _ => options.target?).filter _ = _
  rw [h, Option.bind_some]
  exact options.target?_tidied

/-- A reference to the empty name is completed by none of the fallback. -/
theorem target?_or : (options.or fallback).target? =
    if options.reference = some "" then none else options.target?.or fallback.target? := by
  obtain ⟨reference, joinable⟩ := options
  cases reference with
  | none => simp [target?, Options.or]
  | some name => by_cases h : name = "" <;> simp [target?, Options.or, Option.filter, h]

/-- Left out, it is completed by any. -/
theorem target?_or_tidied :
    (options.tidied.or fallback.tidied).target? = options.target?.or fallback.target? := by
  rw [target?_or, target?_tidied, target?_tidied, if_neg]
  intro h
  have hname := (Option.filter_eq_some_iff.mp h).2
  simp at hname

end Options

namespace Visited

variable (visit : Visited)

theorem request?_read : visit.read.request? = visit.request? := by
  have hoptions : visit.read.options = visit.options.read := rfl
  unfold request?
  rw [hoptions, visit.options.mark?_read]
  cases hmark : visit.options.mark? with
  | none => rfl
  | some mark =>
    rw [visit.options.target?_read hmark]
    rfl

theorem isSkipped_read : visit.read.isSkipped = visit.isSkipped := by
  unfold isSkipped
  rw [visit.request?_read]
  show (visit.options.read.mark?.isSome && _) = _
  rw [visit.options.mark?_read]

end Visited

/-- Sources of which a scan reads the same have the same scan. -/
theorem FieldSource.scan_eq_of_read {source source' : FieldSource}
    (hentity : source.entity = source'.entity)
    (hread : source.fields.map (·.read) = source'.fields.map (·.read)) (targets : Targets) :
    source.scan targets = source'.scan targets := by
  have hscan : ∀ source : FieldSource, source.scan targets =
      (FieldSource.mk source.entity (source.fields.map (·.read))).scan targets := by
    rintro ⟨entity, fields⟩
    unfold scan descriptors
    simp only [List.filterMap_map, List.filter_map, List.map_map, Function.comp_def,
      Visited.request?_read, Visited.isSkipped_read]
    rfl
  rw [hscan source, hscan source', hentity, hread]

/-! ### Hidden references -/

/-- The field is marked and refers to the empty name, which hides the entity that its items refer
to. -/
structure Field.HidesReference (field : Field) : Prop where
  marked : (field.kind.merge field.options).mark?.isSome = true
  empty : field.options.reference = some ""
  named : ∃ item, field.kind = .list item ∧ item.options.target?.isSome = true

namespace Field

variable (field : Field)

theorem mark?_merge_tidied : (field.tidied.kind.merge field.tidied.options).mark? =
    (field.kind.merge field.options).mark? := by
  obtain ⟨name, kind, options⟩ := field
  cases kind with
  | list item =>
    cases item
    rfl
  | scalar | mixed | embedded => rfl

/-- Leaving out empty references changes the entity that a field refers to just when it brings a
hidden one to light. -/
theorem target?_merge_tidied_iff :
    (field.tidied.kind.merge field.tidied.options).target? =
        (field.kind.merge field.options).target? ↔
      ¬ (field.options.reference = some "" ∧
        ∃ item, field.kind = .list item ∧ item.options.target?.isSome = true) := by
  obtain ⟨name, kind, options⟩ := field
  cases kind with
  | list item =>
    obtain ⟨kind, inner⟩ := item
    show (options.tidied.or inner.tidied).target? = (options.or inner).target? ↔ _
    rw [Options.target?_or_tidied, Options.target?_or]
    by_cases hempty : options.reference = some ""
    · have hnone : options.target? = none := by
        rw [Options.target?, hempty]
        rfl
      simp [hempty, hnone]
    · simp [hempty]
  | scalar | mixed | embedded =>
    simp [Field.tidied, Kind.tidied, Kind.merge, Options.target?_tidied]

/-- At a field a scan reads the same without empty references, unless the field hides a
reference. -/
theorem read_tidied_iff : (field.tidied.kind.merge field.tidied.options).read =
    (field.kind.merge field.options).read ↔ ¬ field.HidesReference := by
  have hhides : field.HidesReference ↔ (field.kind.merge field.options).mark?.isSome = true ∧
      ¬ (field.tidied.kind.merge field.tidied.options).target? =
        (field.kind.merge field.options).target? := by
    rw [target?_merge_tidied_iff, not_not]
    exact ⟨fun h => ⟨h.marked, h.empty, h.named⟩, fun ⟨hmarked, hempty, hnamed⟩ =>
      ⟨hmarked, hempty, hnamed⟩⟩
  rw [hhides, not_and, not_not, Options.read, Options.read, mark?_merge_tidied, Options.mk.injEq]
  cases (field.kind.merge field.options).mark? with
  | none => simp
  | some mark => simp

/-- So it does at a field at the top. -/
theorem read_atTop_tidied (h : ¬ field.HidesReference) :
    field.tidied.atTop.read = field.atTop.read := by
  have hoptions := field.read_tidied_iff.mpr h
  have hmulti : field.tidied.kind.isList = field.kind.isList := by
    rw [kind_tidied, Kind.isList_tidied]
  unfold atTop Visited.read
  rw [Visited.mk.injEq]
  exact ⟨field.name_tidied, rfl, hoptions, hmulti⟩

end Field

namespace Schema

/-- A view of what is met is the same without empty references, if it is so at each field at any
depth and carries over to what is met inside a field. -/
theorem map_visits_tidied {α : Type} (view : Visited → α) (lift : String → Bool → α → α)
    (hlift : ∀ name inList visit,
      view (visit.within (some name) inList) = lift name inList (view visit))
    (schema : Schema)
    (hfields : ∀ path field, schema.HasField path field →
      view field.tidied.atTop = view field.atTop) :
    schema.tidied.visits.map view = schema.visits.map view := by
  induction schema using Schema.induct with
  | step schema ih =>
    rw [visits_eq, visits_eq, schema.fields_tidied, List.map_flatMap, List.map_flatMap,
      List.flatMap_map]
    apply List.flatMap_congr
    intro field hfield
    rw [Field.visits_top_eq, Field.visits_top_eq, List.map_cons, List.map_cons,
      hfields _ field (.top hfield), field.kind_tidied, field.kind.schema?_tidied,
      field.kind.isList_tidied, field.name_tidied]
    cases hinner : field.kind.schema? with
    | none => rfl
    | some inner =>
      have hdeep := ih field hfield inner hinner fun path deeper hdeeper =>
        hfields _ deeper (.inside hfield hinner hdeeper)
      have hinside : ∀ visits : List Visited,
          (visits.map (·.within (some field.name) field.kind.isList)).map view =
            (visits.map view).map (lift field.name field.kind.isList) := by
        intro visits
        simp only [List.map_map, Function.comp_def, hlift]
      simp only [Option.map_some, Option.toList_some, List.flatMap_singleton, hinside, hdeep]

variable (schema : Schema)

theorem map_path_visits_tidied :
    schema.tidied.visits.map (·.path) = schema.visits.map (·.path) :=
  map_visits_tidied _ (fun name _ => Path.child (some name)) (fun _ _ _ => rfl) schema
    fun _ field _ => field.name_tidied

theorem map_read_visits_tidied
    (h : ∀ path field, schema.HasField path field → ¬ field.HidesReference) :
    schema.tidied.visits.map (·.read) = schema.visits.map (·.read) :=
  map_visits_tidied _ (fun name inList => (·.within (some name) inList)) (fun _ _ _ => rfl) schema
    fun path field hfield => field.read_atTop_tidied (h path field hfield)

end Schema

/-! ### Scans without empty references -/

/-- The join of a marked field refers to what the field refers to. -/
theorem Visited.bind_reference_descriptor {visit : Visited}
    (hmarked : visit.options.mark?.isSome = true) (targets : Targets) :
    (visit.request?.map (·.descriptor targets)).bind (·.reference) = visit.options.target? := by
  obtain ⟨mark, hmark⟩ := Option.isSome_iff_exists.mp hmarked
  rw [request?_of_markedBy (mark?_eq_some_iff.mp hmark)]
  by_cases htarget : visit.HasTarget mark
  · rw [if_pos htarget]
    exact visit.options.target?_tidied
  · rw [if_neg htarget, hasTarget_iff, not_not, Bool.and_eq_true, Option.isNone_iff_eq_none] at *
    exact htarget.1.symm

namespace Schema

variable (schema : Schema) (targets : Targets)

/-- **Empty references count as absent, unless they hide others.**  A schema and the same schema
without references to the empty name have the same scan, if no field at any depth hides a
reference; and where no path is met twice, only then. -/
theorem scan_tidied :
    ((∀ path field, schema.HasField path field → ¬ field.HidesReference) →
      schema.tidied.source.scan targets = schema.source.scan targets) ∧
    ((schema.visits.map (·.path)).Nodup →
      schema.tidied.source.scan targets = schema.source.scan targets →
        ∀ path field, schema.HasField path field → ¬ field.HidesReference) := by
  constructor
  · intro h
    exact FieldSource.scan_eq_of_read schema.entity_tidied (schema.map_read_visits_tidied h) targets
  · intro hnodup hscan path field hfield hhides
    have hnodup' : (schema.tidied.visits.map (·.path)).Nodup :=
      schema.map_path_visits_tidied ▸ hnodup
    obtain ⟨visit, hvisit, rfl, hoptions⟩ := hfield.exists_visit
    obtain ⟨visit', hvisit', hpath, hoptions'⟩ := hfield.tidied.exists_visit
    have hmarked : visit.options.mark?.isSome = true := hoptions ▸ hhides.marked
    have hmarked' : visit'.options.mark?.isSome = true := by
      rw [hoptions', field.mark?_merge_tidied]
      exact hhides.marked
    -- With the scans the joins at the path agree, and so do the entities that they refer to.
    have hjoin := schema.source.get?_scan_of_nodup targets hnodup hvisit
    have hjoin' := schema.tidied.source.get?_scan_of_nodup targets hnodup' hvisit'
    have hget : visit'.request?.map (·.descriptor targets) =
        visit.request?.map (·.descriptor targets) := by
      rw [← hjoin, ← hjoin', hscan, hpath]
    have htarget := congrArg (·.bind (·.reference)) hget
    simp only [Visited.bind_reference_descriptor hmarked,
      Visited.bind_reference_descriptor hmarked', hoptions, hoptions'] at htarget
    exact field.target?_merge_tidied_iff.mp htarget ⟨hhides.empty, hhides.named⟩

/-- An author who refers to the empty name, in a list of posts that is not marked and would hide the
entity of its items, and readers whose items are marked and refer to an entity.  None of them hides
a reference, and the scan is the same without empty references. -/
theorem scan_tidied_posts :
    let author : Field := ⟨"author", .scalar .reference, ⟨some "", some ⟨true, {}⟩⟩⟩
    let reader : Item := ⟨.scalar .reference, ⟨some "Person", some ⟨true, {}⟩⟩⟩
    let readers : Field := ⟨"readers", .list reader, {}⟩
    let post : Schema := ⟨"Post", none, [author, readers]⟩
    let posts : Field := ⟨"posts", .list ⟨.embedded post, ⟨some "Post", none⟩⟩, ⟨some "", none⟩⟩
    let schema : Schema := ⟨"Blog", none, [posts]⟩
    let targets : Targets := ⟨⟨id, id, id⟩, fun _ => none⟩
    (∀ path field, schema.HasField path field → ¬ field.HidesReference) ∧
      (schema.visits.map (·.path)).Nodup ∧
      schema.tidied.source.scan targets = schema.source.scan targets ∧
      (schema.source.scan targets).table.paths = ["posts.readers"] ∧
      (schema.source.scan targets).events = [.fieldSkipped "Blog" "posts.author"] := by
  intro author reader readers post posts schema targets
  have hauthor : ¬ author.HidesReference := by
    rintro ⟨_, _, item, hlist, _⟩
    cases hlist
  have hreaders : ¬ readers.HidesReference := fun hhides => nomatch hhides.empty
  have hposts : ¬ posts.HidesReference := fun hhides => nomatch hhides.marked
  have hnone : ∀ path field, schema.HasField path field → ¬ field.HidesReference := by
    intro path field hfield
    cases hfield with
    | top here =>
      obtain rfl := List.mem_singleton.mp here
      exact hposts
    | inside around embedded deeper =>
      obtain rfl := List.mem_singleton.mp around
      obtain rfl := Option.some.inj embedded
      cases deeper with
      | top here =>
        rcases List.mem_pair.mp here with rfl | rfl
        · exact hauthor
        · exact hreaders
      | inside around embedded _ => rcases List.mem_pair.mp around with rfl | rfl <;> cases embedded
  have hnodup : (schema.visits.map (·.path)).Nodup := by decide
  have hscan := (schema.scan_tidied targets).1 hnone
  exact ⟨(schema.scan_tidied targets).2 hnodup hscan, hnodup, hscan, by decide, by decide⟩

/-- Members who are marked and refer to the empty name, though their items refer to an entity.  They
are skipped, and they are joined when the empty reference is left out. -/
theorem scan_tidied_members :
    let member : Item := ⟨.scalar .reference, ⟨some "Person", none⟩⟩
    let members : Field := ⟨"members", .list member, ⟨some "", some ⟨true, {}⟩⟩⟩
    let schema : Schema := ⟨"Group", none, [members]⟩
    let targets : Targets := ⟨⟨id, id, id⟩, fun _ => none⟩
    let scan := schema.source.scan targets
    let tidied := schema.tidied.source.scan targets
    schema.tidied.fields = [⟨"members", .list member, ⟨none, some ⟨true, {}⟩⟩⟩] ∧
      scan.table.paths = [] ∧ scan.events = [.fieldSkipped "Group" "members"] ∧
      tidied.table.paths = ["members"] ∧ tidied.events = [] ∧ tidied ≠ scan := by
  intro member members schema targets scan tidied
  have hpaths : scan.table.paths = [] := rfl
  have hpaths' : tidied.table.paths = ["members"] := rfl
  refine ⟨rfl, hpaths, rfl, hpaths', rfl, fun hscan => ?_⟩
  rw [hscan, hpaths] at hpaths'
  cases hpaths'

end Schema

end JoinPlan
