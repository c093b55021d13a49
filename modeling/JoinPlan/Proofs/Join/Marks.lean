import JoinPlan.Proofs.Join.Occurrences
import JoinPlan.Proofs.Schema.Visits

/-!
# Marks on fields and on items

A field is marked by a mark of its own or by one on its items, and where the items are lists, on
theirs.  So what is said of a field is said at levels (`Field.levels`), and of the marks at these
levels the outermost goes first (`Field.FirstMarked`); so it is with references.

A scan tells of a path when it has a join for it or reports it as skipped (`Scan.TellsOf`), and it
tells of a path just when an enabled mark is in force there (`FieldSource.tellsOf_iff_marked`).  But
the options in force are put together from two levels only, those of the field and of its items
(`Field.said_merge_iff`).  So marks on the items of items are not told of
(`Schema.tellsOf_scan_iff`, `Schema.not_tellsOf_scan_members`).
-/

namespace JoinPlan

/-! ### Levels of a field -/

/-- The items of the lists of a kind, from the outermost list inwards. -/
def Kind.items : Kind → List Item
  | .list ⟨kind, options⟩ => ⟨kind, options⟩ :: kind.items
  | .scalar _ | .mixed | .embedded _ => []

theorem Kind.items_list (item : Item) : (Kind.list item).items = item :: item.kind.items := by
  cases item
  rfl

namespace Field

/-- What is said of a field, and of the items of its lists, from the field inwards. -/
def levels (field : Field) : List Options :=
  field.options :: field.kind.items.map (·.options)

/-- At a level something is said of the field, and nothing of it at the levels around it. -/
structure FirstSaid {α : Type} (said : Options → Option α) (field : Field) (level : Nat)
    (value : α) : Prop where
  here : ∃ options, field.levels[level]? = some options ∧ said options = some value
  unsaid : ∀ options ∈ field.levels.take level, said options = none

/-- A field has the mark at a level, and none at the levels around it. -/
abbrev FirstMarked (field : Field) (level : Nat) (mark : JoinMark) : Prop :=
  field.FirstSaid Options.joinable level mark

section

variable {α : Type} {said : Options → Option α} {field : Field} {value : α}

/-- On the field itself it is always the first. -/
theorem firstSaid_zero_iff : field.FirstSaid said 0 value ↔ said field.options = some value := by
  constructor
  · rintro ⟨⟨options, hoptions, hsaid⟩, _⟩
    obtain rfl := Option.some.inj hoptions
    exact hsaid
  · intro hsaid
    exact ⟨⟨field.options, rfl, hsaid⟩, fun options hmem => nomatch hmem⟩

/-- On the items it is the first if it is not said on the field. -/
theorem firstSaid_one_iff :
    field.FirstSaid said 1 value ↔ said field.options = none ∧
      ∃ item, field.kind = .list item ∧ said item.options = some value := by
  obtain ⟨name, kind, options⟩ := field
  constructor
  · rintro ⟨⟨inner, hinner, hsaid⟩, hunsaid⟩
    refine ⟨hunsaid options List.mem_cons_self, ?_⟩
    cases kind with
    | list item =>
      rw [levels, Kind.items_list] at hinner
      obtain rfl := Option.some.inj hinner
      exact ⟨item, rfl, hsaid⟩
    | scalar | mixed | embedded => cases hinner
  · rintro ⟨hnone, item, rfl, hsaid⟩
    refine ⟨⟨item.options, by rw [levels, Kind.items_list]; rfl, hsaid⟩, fun inner hmem => ?_⟩
    obtain rfl := List.mem_singleton.mp hmem
    exact hnone

/-- What a fallback completes is in force for a field as it is first said, if that is on the field
or on its items. -/
theorem said_merge_iff (hor : ∀ options fallback : Options,
      said (options.or fallback) = (said options).or (said fallback)) :
    said (field.kind.merge field.options) = some value ↔
      ∃ level ≤ 1, field.FirstSaid said level value := by
  have hlevels : (∃ level ≤ 1, field.FirstSaid said level value) ↔
      field.FirstSaid said 0 value ∨ field.FirstSaid said 1 value := by
    simp only [Nat.le_one_iff_eq_zero_or_eq_one, or_and_right, exists_or, exists_eq_left]
  rw [hlevels, firstSaid_zero_iff, firstSaid_one_iff]
  obtain ⟨name, kind, options⟩ := field
  cases kind with
  | list item =>
    show said (options.or item.options) = some value ↔ _
    rw [hor, Option.or_eq_some_iff]
    simp
  | scalar | mixed | embedded => simp [Kind.merge]

end

variable {field : Field} {mark : JoinMark} {reference : String}

theorem joinable_merge_iff : (field.kind.merge field.options).joinable = some mark ↔
    ∃ level ≤ 1, field.FirstMarked level mark :=
  said_merge_iff fun _ _ => rfl

theorem reference_merge_iff : (field.kind.merge field.options).reference = some reference ↔
    ∃ level ≤ 1, field.FirstSaid Options.reference level reference :=
  said_merge_iff fun _ _ => rfl

/-- The mark is in force for the field: of those on the field and on its items it is the first, and
it is enabled. -/
structure Marked (field : Field) (mark : JoinMark) : Prop where
  first : ∃ level ≤ 1, field.FirstMarked level mark
  enabled : mark.enabled = true

theorem mark?_merge_iff :
    (field.kind.merge field.options).mark? = some mark ↔ field.Marked mark := by
  rw [Options.mark?, Option.filter_eq_some_iff, joinable_merge_iff]
  exact ⟨fun ⟨hfirst, henabled⟩ => ⟨hfirst, henabled⟩, fun h => ⟨h.first, h.enabled⟩⟩

end Field

/-! ### What a scan tells of -/

/-- A scan of an entity tells of a path: it has a join for the path, or reports it as skipped. -/
def Scan.TellsOf (scan : Scan) (entity path : String) : Prop :=
  path ∈ scan.table.paths ∨ .fieldSkipped entity path ∈ scan.events

/-- With an enabled mark a field asks for a join, or has nothing to join with. -/
theorem Visited.joined_or_unjoinable_iff {field : Visited} :
    field.Joined ∨ field.Unjoinable ↔ ∃ mark, field.MarkedBy mark := by
  constructor
  · rintro (⟨mark, hmarked, _⟩ | ⟨mark, hmarked, _⟩)
    · exact ⟨mark, hmarked⟩
    · exact ⟨mark, hmarked⟩
  · rintro ⟨mark, hmarked⟩
    by_cases htarget : field.HasTarget mark
    · exact Or.inl ⟨mark, hmarked, htarget⟩
    · exact Or.inr ⟨mark, hmarked, htarget⟩

/-- A scan tells of the paths at which a field has an enabled mark. -/
theorem FieldSource.tellsOf_iff_marked (source : FieldSource) (targets : Targets) (path : String) :
    (source.scan targets).TellsOf source.entity path ↔
      ∃ visit ∈ source.fields, visit.path = path ∧ ∃ mark, visit.MarkedBy mark := by
  obtain ⟨entity, fields⟩ := source
  unfold Scan.TellsOf
  rw [paths_scan, events_scan, List.mem_eraseDups]
  simp only [← Visited.joined_or_unjoinable_iff, List.mem_map, List.mem_filter, decide_eq_true_iff,
    Event.fieldSkipped.injEq, true_and]
  constructor
  · rintro (⟨visit, ⟨hvisit, hjoined⟩, hpath⟩ | ⟨visit, ⟨hvisit, hunjoinable⟩, hpath⟩)
    · exact ⟨visit, hvisit, hpath, Or.inl hjoined⟩
    · exact ⟨visit, hvisit, hpath, Or.inr hunjoinable⟩
  · rintro ⟨visit, hvisit, hpath, hjoined | hunjoinable⟩
    · exact Or.inl ⟨visit, ⟨hvisit, hjoined⟩, hpath⟩
    · exact Or.inr ⟨visit, ⟨hvisit, hunjoinable⟩, hpath⟩

/-! ### Schemas -/

namespace Schema

/-- **Which marks a scan tells of.**  The paths that a scan of a schema has joins for or reports as
skipped are those of fields, embedded at any depth, whose first mark is enabled and stands on the
field itself or on its items. -/
theorem tellsOf_scan_iff (schema : Schema) (targets : Targets) (path : String) :
    (schema.source.scan targets).TellsOf schema.entity path ↔
      ∃ field level mark, schema.HasField path field ∧ field.FirstMarked level mark ∧
        mark.enabled = true ∧ level ≤ 1 := by
  have hvisits := schema.source.tellsOf_iff_marked targets path
  have hfields := schema.exists_visit_iff path fun options =>
    ∃ mark, options.joinable = some mark ∧ mark.enabled = true
  rw [show schema.entity = schema.source.entity from rfl, hvisits]
  constructor
  · rintro ⟨visit, hvisit, hpath, mark, hmarked, henabled⟩
    obtain ⟨field, hfield, mark, hmark, henabled⟩ :=
      hfields.mp ⟨visit, hvisit, hpath, mark, hmarked, henabled⟩
    obtain ⟨level, hlevel, hfirst⟩ := Field.joinable_merge_iff.mp hmark
    exact ⟨field, level, mark, hfield, hfirst, henabled, hlevel⟩
  · rintro ⟨field, level, mark, hfield, hfirst, henabled, hlevel⟩
    have hmark := Field.joinable_merge_iff.mpr ⟨level, hlevel, hfirst⟩
    obtain ⟨visit, hvisit, hpath, mark, hmarked, henabled⟩ :=
      hfields.mpr ⟨field, hfield, mark, hmark, henabled⟩
    exact ⟨visit, hvisit, hpath, mark, hmarked, henabled⟩

/-- Members in lists of lists, who refer to an entity and are marked where their own list has its
items.  The scan has no join for them and reports nothing. -/
theorem not_tellsOf_scan_members :
    let member : Item := ⟨.scalar .reference, ⟨none, some ⟨true, {}⟩⟩⟩
    let members : Field := ⟨"members", .list ⟨.list member, {}⟩, ⟨some "Person", none⟩⟩
    let schema : Schema := ⟨"Group", none, [members]⟩
    let scan := schema.source.scan ⟨⟨id, id, id⟩, fun _ => none⟩
    schema.HasField "members" members ∧ members.FirstMarked 2 ⟨true, {}⟩ ∧
      scan.table.entries = [] ∧ scan.events = [] ∧ ¬ scan.TellsOf "Group" "members" := by
  intro member members schema scan
  have hfield : schema.HasField members.name members := .top List.mem_cons_self
  have htable : scan.table.entries = [] := rfl
  have hevents : scan.events = [] := rfl
  refine ⟨hfield, ⟨⟨member.options, rfl, rfl⟩, ?_⟩, htable, hevents, ?_⟩
  · intro options hmem
    rcases List.mem_pair.mp hmem with rfl | rfl
    · rfl
    · rfl
  · rintro (hpath | hskipped)
    · rw [Table.paths, htable] at hpath
      cases hpath
    · rw [hevents] at hskipped
      cases hskipped

end Schema

end JoinPlan
