import JoinPlan.Proofs.Keyed
import JoinPlan.Proofs.Schema.Visits
import JoinPlan.Schema.Path

/-!
# Visited fields and resolved paths

A schema is read in two ways.  Joins are found by a visitor, which walks down the fields and puts
their paths together; criteria are cast by the kinds of paths, which are taken apart at the dots.
Where names can be told apart in paths (`Schema.NamesApart`) at every level of embedding, the two
readings agree: the visitor meets each path once (`nodup_paths`), the path of a visit has the kind
of the visit (`kindAt_path`), a visit is of several values when a list stands at its path or around
it (`multi_iff`), and besides what is visited only the identities of documents have kinds
(`visited_or_identity_of_kindAt`).

All of it is by induction on the levels.  At each level a path is a name or leads inside a field,
and both readings then continue with the same field and the same embedded schema
(`NamesApart.kindAt_field`, `NamesApart.kindAt_inside`, `mem_visits_iff`).  So do the lists around a
path and the identities (`NamesApart.exists_list_inside`, `hasIdentityAt_iff`).
-/

namespace JoinPlan

open JoinPlan.Path

/-- A property of a schema and of every schema embedded in it, at any depth. -/
inductive Schema.AtEveryLevel (P : Schema → Prop) : Schema → Prop
  | intro {schema : Schema} (here : P schema)
      (inside : ∀ field ∈ schema.fields, ∀ inner, field.kind.schema? = some inner →
        inner.AtEveryLevel P) :
      schema.AtEveryLevel P

/-- The fields can be told apart by their names, also on paths and from the identity. -/
structure Schema.NamesApart (schema : Schema) : Prop where
  distinct : (schema.fields.map (·.name)).Nodup
  undotted : ∀ field ∈ schema.fields, '.' ∉ field.name.toList
  ne_identity : ∀ field ∈ schema.fields, field.name ≠ identity

/-- A list stands at a path. -/
def Schema.HasListAt (schema : Schema) (path : String) : Prop :=
  ∃ item, schema.kindAt path = some (.list item)

/-- A path leads to the identity of the documents of a schema, or of those embedded in one of its
fields, be it directly or in lists. -/
def Schema.HasIdentityAt (schema : Schema) (path : String) : Prop :=
  path = identity ∨ ∃ visit ∈ schema.visits,
    visit.kind.schema?.isSome = true ∧ path = child (some visit.path) identity

theorem Kind.isList_iff {kind : Kind} : kind.isList = true ↔ ∃ item, kind = .list item := by
  cases kind <;> simp [isList]

/-- Identities level by level: the documents have one, and so have those embedded in a field. -/
theorem Schema.hasIdentityAt_iff {schema : Schema} {path : String} :
    schema.HasIdentityAt path ↔ path = identity ∨ ∃ field ∈ schema.fields, ∃ inner,
      field.kind.schema? = some inner ∧
        ∃ rest, inner.HasIdentityAt rest ∧ path = child (some field.name) rest := by
  refine or_congr_right ⟨?_, ?_⟩
  · rintro ⟨visit, hvisit, hsome, rfl⟩
    obtain ⟨field, hfield, rfl | ⟨inner, hinner, deeper, hdeeper, rfl⟩⟩ := mem_visits_iff.mp hvisit
    · obtain ⟨inner, hinner⟩ := Option.isSome_iff_exists.mp hsome
      exact ⟨field, hfield, inner, hinner, identity, Or.inl rfl, rfl⟩
    · exact ⟨field, hfield, inner, hinner, _, Or.inr ⟨deeper, hdeeper, hsome, rfl⟩,
        child_child (some field.name) deeper.path identity⟩
  · rintro ⟨field, hfield, inner, hinner, rest, rfl | ⟨deeper, hdeeper, hsome, rfl⟩, rfl⟩
    · exact ⟨field.atTop, mem_visits_iff.mpr ⟨field, hfield, Or.inl rfl⟩,
        Option.isSome_iff_exists.mpr ⟨inner, hinner⟩, rfl⟩
    · exact ⟨_, mem_visits_iff.mpr ⟨field, hfield, Or.inr ⟨inner, hinner, deeper, hdeeper, rfl⟩⟩,
        hsome, (child_child (some field.name) deeper.path identity).symm⟩

/-! ### One level of a path -/

namespace Schema

variable {name : String}

theorem kindAt_of_undotted (schema : Schema) (h : '.' ∉ name.toList) :
    schema.kindAt name =
      if name = identity then some (.scalar .id) else (schema.field? name).map (·.kind) := by
  rw [kindAt, segments_of_undotted h]
  rfl

theorem kindAt_child (schema : Schema) (h : '.' ∉ name.toList) (rest : String) :
    schema.kindAt (child (some name) rest) =
      (schema.field? name).bind fun field => field.kind.schema?.bind (·.kindAt rest) := by
  obtain ⟨next, others, hrest⟩ := List.exists_cons_of_ne_nil (segments_ne_nil rest)
  unfold kindAt
  rw [segments_child h, hrest]
  rfl

theorem hasListAt_iff {schema : Schema} {path : String} {kind : Kind}
    (h : schema.kindAt path = some kind) : schema.HasListAt path ↔ kind.isList = true := by
  rw [HasListAt, h, Kind.isList_iff]
  simp only [Option.some.injEq]

end Schema

namespace Schema.NamesApart

variable {schema inner : Schema} {field : Field} {kind : Kind} {name rest : String}
  (h : schema.NamesApart)

include h

theorem field?_eq_some_iff :
    schema.field? name = some field ↔ field ∈ schema.fields ∧ field.name = name :=
  find?_key_eq_some_iff h.distinct

/-- The name of a field leads to the field. -/
theorem kindAt_field (hfield : field ∈ schema.fields) :
    schema.kindAt field.name = some field.kind := by
  rw [kindAt_of_undotted schema (h.undotted field hfield), if_neg (h.ne_identity field hfield),
    h.field?_eq_some_iff.mpr ⟨hfield, rfl⟩]
  rfl

/-- A path inside a field goes on in the schema embedded there. -/
theorem kindAt_inside (hfield : field ∈ schema.fields) (hinner : field.kind.schema? = some inner)
    (rest : String) : schema.kindAt (child (some field.name) rest) = inner.kindAt rest := by
  rw [kindAt_child schema (h.undotted field hfield), h.field?_eq_some_iff.mpr ⟨hfield, rfl⟩,
    Option.bind_some, hinner, Option.bind_some]

/-- A name that leads anywhere is the identity or the name of a field. -/
theorem identity_or_field_of_kindAt (hname : '.' ∉ name.toList)
    (hkind : schema.kindAt name = some kind) :
    (name = identity ∧ kind = .scalar .id) ∨
      ∃ field ∈ schema.fields, field.name = name ∧ field.kind = kind := by
  rw [kindAt_of_undotted schema hname] at hkind
  split at hkind
  · rename_i hidentity
    exact Or.inl ⟨hidentity, (Option.some.inj hkind).symm⟩
  · obtain ⟨field, hfield, rfl⟩ := Option.map_eq_some_iff.mp hkind
    obtain ⟨hmem, rfl⟩ := h.field?_eq_some_iff.mp hfield
    exact Or.inr ⟨field, hmem, rfl, rfl⟩

/-- A path with several names that leads anywhere leads inside a field with an embedded schema. -/
theorem inside_of_kindAt (hname : '.' ∉ name.toList)
    (hkind : schema.kindAt (child (some name) rest) = some kind) :
    ∃ field ∈ schema.fields, field.name = name ∧
      ∃ inner, field.kind.schema? = some inner ∧ inner.kindAt rest = some kind := by
  rw [kindAt_child schema hname] at hkind
  obtain ⟨field, hfield, hrest⟩ := Option.bind_eq_some_iff.mp hkind
  obtain ⟨inner, hinner, hrest⟩ := Option.bind_eq_some_iff.mp hrest
  obtain ⟨hmem, rfl⟩ := h.field?_eq_some_iff.mp hfield
  exact ⟨field, hmem, rfl, inner, hinner, hrest⟩

/-- At a field a list is around if the field is a list. -/
theorem exists_list_field (hfield : field ∈ schema.fields) :
    (∃ outer, Encloses outer field.name ∧ schema.HasListAt outer) ↔ field.kind.isList = true := by
  simp only [encloses_iff_of_undotted (h.undotted field hfield), exists_eq_left]
  exact hasListAt_iff (h.kindAt_field hfield)

/-- Inside a field a list is around if the field is a list, or if one is around in the schema
embedded there. -/
theorem exists_list_inside (hfield : field ∈ schema.fields)
    (hinner : field.kind.schema? = some inner) (rest : String) :
    (∃ outer, Encloses outer (child (some field.name) rest) ∧ schema.HasListAt outer) ↔
      field.kind.isList = true ∨ ∃ outer, Encloses outer rest ∧ inner.HasListAt outer := by
  have hinside : ∀ outer,
      schema.HasListAt (child (some field.name) outer) ↔ inner.HasListAt outer := by
    intro outer
    rw [HasListAt, h.kindAt_inside hfield hinner]
    rfl
  rw [← hasListAt_iff (h.kindAt_field hfield)]
  simp only [encloses_child_iff (h.undotted field hfield)]
  constructor
  · rintro ⟨outer, rfl | ⟨inside, hencloses, rfl⟩, hlist⟩
    · exact Or.inl hlist
    · exact Or.inr ⟨inside, hencloses, (hinside inside).mp hlist⟩
  · rintro (hlist | ⟨inside, hencloses, hlist⟩)
    · exact ⟨field.name, Or.inl rfl, hlist⟩
    · exact ⟨_, Or.inr ⟨inside, hencloses, rfl⟩, (hinside inside).mpr hlist⟩

/-- All that is met at a field has paths that begin with its name. -/
theorem head?_segments_of_mem_visits_top (hfield : field ∈ schema.fields) {path : String}
    (hpath : path ∈ (field.visits none false).map (·.path)) :
    (segments path).head? = some field.name := by
  have hname := h.undotted field hfield
  rw [Field.map_path_visits_top] at hpath
  rcases List.mem_cons.mp hpath with rfl | hpath
  · rw [segments_of_undotted hname, List.head?_cons]
  · obtain ⟨inner, _, hpath⟩ := List.mem_flatMap.mp hpath
    obtain ⟨rest, _, rfl⟩ := List.mem_map.mp hpath
    rw [segments_child hname, List.head?_cons]

/-- At a field no path is met twice, if none is in the schema embedded there. -/
theorem nodup_visits_top (hfield : field ∈ schema.fields)
    (hinside : ∀ inner, field.kind.schema? = some inner → (inner.visits.map (·.path)).Nodup) :
    ((field.visits none false).map (·.path)).Nodup := by
  have hname := h.undotted field hfield
  rw [Field.map_path_visits_top]
  cases hinner : field.kind.schema? with
  | none => exact List.nodup_singleton _
  | some inner =>
    have hinj : Function.Injective (child (some field.name)) := fun rest rest' hrest =>
      ((child_inj hname hname).mp hrest).2
    show (field.name :: List.flatMap _ [inner]).Nodup
    rw [List.flatMap_singleton, List.nodup_cons]
    refine ⟨fun hmem => ?_, (hinside inner hinner).map hinj⟩
    obtain ⟨rest, _, hdotted⟩ := List.mem_map.mp hmem
    exact hname (hdotted ▸ dotted_child field.name rest)

end Schema.NamesApart

/-! ### All levels -/

namespace Schema

variable {schema : Schema} (h : schema.AtEveryLevel NamesApart)

include h

/-- No path is visited twice. -/
theorem nodup_paths : (schema.visits.map (·.path)).Nodup := by
  induction h with
  | intro here _ ih =>
    rw [visits_eq, List.map_flatMap, List.nodup_flatMap]
    constructor
    · intro field hfield
      exact here.nodup_visits_top hfield (ih field hfield)
    · -- Two fields have no path in common, as the first name on a path tells the field.
      have hdistinct := List.pairwise_map.mp here.distinct
      refine hdistinct.imp_of_mem fun hfield hfield' hne path hpath hpath' => ?_
      have hfirst := here.head?_segments_of_mem_visits_top hfield hpath
      rw [here.head?_segments_of_mem_visits_top hfield' hpath'] at hfirst
      exact hne (Option.some.inj hfirst).symm

/-- A visited path has the kind of the visit. -/
theorem kindAt_path {visit : Visited} (hvisit : visit ∈ schema.visits) :
    schema.kindAt visit.path = some visit.kind := by
  induction h generalizing visit with
  | intro here _ ih =>
    obtain ⟨field, hfield, rfl | ⟨inner, hinner, deeper, hdeeper, rfl⟩⟩ := mem_visits_iff.mp hvisit
    · exact here.kindAt_field hfield
    · have hdeep := ih field hfield inner hinner hdeeper
      exact (here.kindAt_inside hfield hinner deeper.path).trans hdeep

/-- The identities of documents have the kind of identities. -/
theorem kindAt_identity {path : String} (hpath : schema.HasIdentityAt path) :
    schema.kindAt path = some (.scalar .id) := by
  induction h generalizing path with
  | intro here _ ih =>
    rcases hasIdentityAt_iff.mp hpath with rfl | ⟨field, hfield, inner, hinner, rest, hrest, rfl⟩
    · rw [kindAt_of_undotted _ (by decide), if_pos rfl]
    · exact (here.kindAt_inside hfield hinner rest).trans (ih field hfield inner hinner hrest)

/-- A path that leads anywhere is visited, or leads to an identity. -/
theorem visited_or_identity_of_kindAt {path : String} {kind : Kind}
    (hkind : schema.kindAt path = some kind) :
    (∃ visit ∈ schema.visits, visit.path = path ∧ visit.kind = kind) ∨
      schema.HasIdentityAt path ∧ kind = .scalar .id := by
  induction h generalizing path with
  | intro here _ ih =>
    -- The resolver takes names off a path, and the visitor puts them on: one level is one name.
    rcases undotted_or_child path with hname | ⟨name, rest, hname, rfl⟩
    · rcases here.identity_or_field_of_kindAt hname hkind with
        ⟨rfl, rfl⟩ | ⟨field, hfield, rfl, rfl⟩
      · exact Or.inr ⟨Or.inl rfl, rfl⟩
      · exact Or.inl ⟨field.atTop, mem_visits_iff.mpr ⟨field, hfield, Or.inl rfl⟩, rfl, rfl⟩
    · obtain ⟨field, hfield, rfl, inner, hinner, hrest⟩ := here.inside_of_kindAt hname hkind
      rcases ih field hfield inner hinner hrest with
        ⟨deeper, hdeeper, rfl, rfl⟩ | ⟨hidentity, rfl⟩
      · refine Or.inl ⟨deeper.within (some field.name) field.kind.isList, ?_, rfl, rfl⟩
        exact mem_visits_iff.mpr ⟨field, hfield, Or.inr ⟨inner, hinner, deeper, hdeeper, rfl⟩⟩
      · refine Or.inr ⟨hasIdentityAt_iff.mpr (Or.inr ?_), rfl⟩
        exact ⟨field, hfield, inner, hinner, rest, hidentity, rfl⟩

/-- A visit is of several values when a list stands at its path or around it. -/
theorem multi_iff {visit : Visited} (hvisit : visit ∈ schema.visits) :
    visit.multi = true ↔ ∃ outer, Encloses outer visit.path ∧ schema.HasListAt outer := by
  induction h generalizing visit with
  | intro here _ ih =>
    obtain ⟨field, hfield, rfl | ⟨inner, hinner, deeper, hdeeper, rfl⟩⟩ := mem_visits_iff.mp hvisit
    · exact (here.exists_list_field hfield).symm
    · have hdeep := ih field hfield inner hinner hdeeper
      show (field.kind.isList || deeper.multi) = true ↔
        ∃ outer, Encloses outer (child (some field.name) deeper.path) ∧ _
      rw [here.exists_list_inside hfield hinner, Bool.or_eq_true, hdeep]

/-- **The visitor and the resolver agree.**  Where names can be told apart at every level, no path
is visited twice; the path of a visit has the kind of the visit, and the visit is of several values
when a list stands at its path or around it; and a path has a kind only if it is visited, or if it
is the identity of the documents or of embedded ones, which is of the kind of identities. -/
theorem visits_agree_kindAt :
    (schema.visits.map (·.path)).Nodup ∧
    (∀ visit ∈ schema.visits, schema.kindAt visit.path = some visit.kind ∧
      (visit.multi = true ↔ ∃ outer, Encloses outer visit.path ∧ schema.HasListAt outer)) ∧
    ∀ path kind, schema.kindAt path = some kind ↔
      (∃ visit ∈ schema.visits, visit.path = path ∧ visit.kind = kind) ∨
        schema.HasIdentityAt path ∧ kind = .scalar .id := by
  refine ⟨nodup_paths h, fun visit hvisit => ⟨kindAt_path h hvisit, multi_iff h hvisit⟩, ?_⟩
  intro path kind
  constructor
  · exact visited_or_identity_of_kindAt h
  · rintro (⟨visit, hvisit, rfl, rfl⟩ | ⟨hpath, rfl⟩)
    · exact kindAt_path h hvisit
    · exact kindAt_identity h hpath

omit h in
/-- A person with friends in groups, each friend with an address. -/
theorem visits_agree_kindAt_person :
    let address : Schema := ⟨"Address", none, [⟨"street", .scalar .text, {}⟩]⟩
    let friend : Schema :=
      ⟨"Friend", none, [⟨"person", .scalar .reference, {}⟩, ⟨"home", .embedded address, {}⟩]⟩
    let person : Schema :=
      ⟨"Person", none, [⟨"name", .scalar .text, {}⟩,
        ⟨"friends", .list ⟨.list ⟨.embedded friend, {}⟩, {}⟩, {}⟩]⟩
    person.AtEveryLevel NamesApart ∧
    person.visits.map (fun visit => (visit.path, visit.multi)) =
      [("name", false), ("friends", true), ("friends.person", true), ("friends.home", true),
        ("friends.home.street", true)] ∧
    (person.visits.map (·.path)).Nodup ∧
    person.kindAt "friends.home._id" = some (.scalar .id) ∧
    ∃ outer, Encloses outer "friends.home.street" ∧ person.HasListAt outer := by
  intro address friend person
  have haddress : address.AtEveryLevel NamesApart := by
    refine .intro ⟨by decide, by decide, by decide⟩ fun field hfield inner hinner => ?_
    obtain rfl := List.mem_singleton.mp hfield
    cases hinner
  have hfriend : friend.AtEveryLevel NamesApart := by
    refine .intro ⟨by decide, by decide, by decide⟩ fun field hfield inner hinner => ?_
    obtain rfl | hfield := List.mem_cons.mp hfield
    · cases hinner
    · obtain rfl := List.mem_singleton.mp hfield
      obtain rfl := Option.some.inj hinner
      exact haddress
  have hperson : person.AtEveryLevel NamesApart := by
    refine .intro ⟨by decide, by decide, by decide⟩ fun field hfield inner hinner => ?_
    obtain rfl | hfield := List.mem_cons.mp hfield
    · cases hinner
    · obtain rfl := List.mem_singleton.mp hfield
      obtain rfl := Option.some.inj hinner
      exact hfriend
  obtain ⟨hnodup, hvisits, hkinds⟩ := visits_agree_kindAt hperson
  refine ⟨hperson, rfl, hnodup, ?_, ?_⟩
  · let home : Visited := ⟨"friends.home", .embedded address, {}, true⟩
    have hhome : home ∈ person.visits := by
      show home ∈ [_, _, _, home, _]
      simp
    exact (hkinds _ _).mpr (Or.inr ⟨Or.inr ⟨home, hhome, rfl, rfl⟩, rfl⟩)
  · let street : Visited := ⟨"friends.home.street", .scalar .text, {}, true⟩
    have hstreet : street ∈ person.visits := by
      show street ∈ [_, _, _, _, street]
      simp
    exact (hvisits street hstreet).2.mp rfl

end Schema

end JoinPlan
