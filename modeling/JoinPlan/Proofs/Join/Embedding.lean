import JoinPlan.Proofs.Join.Occurrences
import JoinPlan.Proofs.Join.Parts
import JoinPlan.Proofs.Naming.LastNames
import JoinPlan.Proofs.Schema.Visits

/-!
# Scans of embedded schemas

A schema that is all that another one embeds is scanned there as it is by itself, with every path
inside the field that embeds it (`Schema.entries_scan_within`, `Schema.scan_embedded`).  This takes
that authors leave the paths of joins to the fields (`Overrides.KeepsNames`), since a name of their
own stays as it is.

* What is met inside the field asks for the same joins at paths inside it
  (`Visited.request?_within`).
* A path inside the field is written inside it, be it as it stands or in the singular
  (`JoinRequest.output_within`), and so the joins are the same but for the paths
  (`JoinRequest.descriptor_within`).
* Paths inside one field differ where the rest differs, so that the joins make up the table in the
  same order (`Table.entries_ofList_map`).
-/

namespace JoinPlan

/-! ### Joins inside a field -/

/-- The path that a variable stands for. -/
def Path.ofVariable (name : String) : String :=
  String.ofList name.toList.tail

theorem Path.ofVariable_variableName (path : String) : ofVariable (variableName path) = path := by
  apply String.toList_injective
  simp [ofVariable, variableName]

/-- An unwinding inside the field at `parent`. -/
def Unwind.within (parent : String) (unwind : Unwind) : Unwind :=
  { unwind with
    path := Path.variableName (Path.child (some parent) (Path.ofVariable unwind.path)) }

/-- A join inside the field at `parent`: what it reads and what it writes lies inside. -/
def Descriptor.within (parent : String) (d : Descriptor) : Descriptor :=
  { d with
    path := Path.child (some parent) d.path
    localField := Path.child (some parent) d.localField
    output := Path.child (some parent) d.output
    unwind := d.unwind.map (·.within parent) }

theorem Descriptor.path_within_inj (parent : String) (d e : Descriptor) :
    (d.within parent).path = (e.within parent).path ↔ d.path = e.path :=
  (Path.child_injective parent).eq_iff

/-- What is asked for by a field, when its schema is embedded at `parent`. -/
def JoinRequest.within (parent : Option String) (inList : Bool) (request : JoinRequest) :
    JoinRequest :=
  { request with path := Path.child parent request.path, multi := inList || request.multi }

theorem Visited.request?_within (visit : Visited) (parent : Option String) (inList : Bool) :
    (visit.within parent inList).request? = visit.request?.map (·.within parent inList) := by
  have hoptions : (visit.within parent inList).options = visit.options := rfl
  unfold request?
  rw [hoptions]
  cases visit.options.mark? with
  | none => rfl
  | some mark =>
    dsimp only
    by_cases h : (visit.options.target?.isNone && mark.overrides.collection.isNone) = true
    · rw [if_pos h, if_pos h, Option.map_none]
    · rw [if_neg h, if_neg h, Option.map_some]
      rfl

/-! ### Names left to the fields -/

/-- The author names neither the field that the join reads, nor the one that it writes, nor the one
that is unwound. -/
structure Overrides.KeepsNames (overrides : Overrides) : Prop where
  localField : overrides.localField = none
  output : overrides.output = none
  unwindPath : ∀ settings ∈ overrides.unwind.bind (·.settings?), settings.path = none

instance (overrides : Overrides) : Decidable overrides.KeepsNames :=
  decidable_of_iff (overrides.localField = none ∧ overrides.output = none ∧
      ∀ settings ∈ overrides.unwind.bind (·.settings?), settings.path = none)
    ⟨fun ⟨localField, output, unwindPath⟩ => ⟨localField, output, unwindPath⟩,
      fun h => ⟨h.localField, h.output, h.unwindPath⟩⟩

namespace JoinRequest

variable {request : JoinRequest} {naming : Naming}

/-- What is written inside a field lies inside it. -/
theorem output_within (hnaming : naming.KeepsPaths) (hnames : request.overrides.KeepsNames)
    (parent : String) : (request.within (some parent) false).output naming =
      Path.child (some parent) (request.output naming) := by
  unfold output
  show request.overrides.output.getD (if request.multi && request.unwound then
    naming.singularize (Path.child (some parent) request.path) else _) = _
  rw [hnames.output, Option.getD_none, Option.getD_none, hnaming.singularize_child]
  split
  · rfl
  · rfl

theorem unwind?_within (hnaming : naming.KeepsPaths) (hnames : request.overrides.KeepsNames)
    (parent : String) : (request.within (some parent) false).unwind? naming =
      (request.unwind? naming).map (·.within parent) := by
  have hnames' : (request.within (some parent) false).overrides.KeepsNames := hnames
  have hunwound : (request.within (some parent) false).unwound = request.unwound := rfl
  rw [unwind?_eq naming hnames'.unwindPath, unwind?_eq naming hnames.unwindPath,
    output_within hnaming hnames, hunwound]
  split
  · rw [Option.map_some, Unwind.within, Path.ofVariable_variableName]
    rfl
  · rfl

/-- A join inside a field is the join by itself, put inside the field. -/
theorem descriptor_within {targets : Targets} (hnaming : targets.naming.KeepsPaths)
    (hnames : request.overrides.KeepsNames) (parent : String) :
    (request.within (some parent) false).descriptor targets =
      (request.descriptor targets).within parent := by
  have hlocal : (request.within (some parent) false).overrides.localField = none :=
    hnames.localField
  unfold descriptor Descriptor.within
  rw [output_within hnaming hnames, unwind?_within hnaming hnames, hlocal, hnames.localField]
  rfl

end JoinRequest

/-- What is met inside a field is joined as by itself, inside the field. -/
theorem Visited.map_descriptor_within {targets : Targets} (hnaming : targets.naming.KeepsPaths)
    {visit : Visited} (hmarks : ∀ mark ∈ visit.options.joinable, mark.overrides.KeepsNames)
    (parent : String) :
    (visit.within (some parent) false).request?.map (·.descriptor targets) =
      (visit.request?.map (·.descriptor targets)).map (·.within parent) := by
  rw [request?_within]
  cases hrequest : visit.request? with
  | none => rfl
  | some request =>
    obtain ⟨mark, hmarked, _, rfl⟩ := request?_eq_some_iff.mp hrequest
    have hnames : (visit.requestBy mark).overrides.KeepsNames := hmarks mark hmarked.marked
    exact congrArg some (JoinRequest.descriptor_within hnaming hnames parent)

/-! ### Schemas inside a field -/

namespace Schema

/-- Where the singular of a path keeps the fields around its last name, a schema that is all that
another one embeds has its joins there, inside the field that embeds it. -/
theorem entries_scan_within (schema : Schema) {targets : Targets}
    (hnaming : targets.naming.KeepsPaths)
    (hmarks : ∀ visit ∈ schema.visits, ∀ mark ∈ visit.options.joinable, mark.overrides.KeepsNames)
    {field : Field} (hembedded : field.kind = .embedded schema)
    (hunmarked : field.options.joinable = none) (entity : String) (collection : Option String) :
    ((Schema.mk entity collection [field]).source.scan targets).table.entries =
      (schema.source.scan targets).table.entries.map (·.within field.name) := by
  have hvisits : (Schema.mk entity collection [field]).visits =
      field.atTop :: schema.visits.map (·.within (some field.name) false) := by
    rw [visits_eq, List.flatMap_singleton, Field.visits_top_eq, hembedded]
    exact congrArg (field.atTop :: ·) (List.append_nil _)
  have htop : field.atTop.request? = none := by
    have hmark : field.atTop.options.mark? = none := by
      rw [Field.atTop, hembedded]
      show field.options.joinable.filter _ = none
      rw [hunmarked, Option.filter_none]
    rw [Visited.request?, hmark]
  have hdescriptors : (Schema.mk entity collection [field]).source.descriptors targets =
      (schema.source.descriptors targets).map (·.within field.name) := by
    show ((Schema.mk entity collection [field]).visits.filterMap (·.request?)).map _ =
      ((schema.visits.filterMap (·.request?)).map _).map _
    rw [hvisits, List.filterMap_cons, htop, List.filterMap_map, List.map_filterMap,
      List.map_filterMap, List.map_filterMap]
    apply List.filterMap_congr
    intro visit hvisit
    exact Visited.map_descriptor_within hnaming (hmarks visit hvisit) field.name
  show (Table.ofList (FieldSource.descriptors _ targets)).entries = _
  rw [hdescriptors]
  exact Table.entries_ofList_map _ (Descriptor.path_within_inj field.name) _

/-- **Scanning an embedded schema is scanning the schema by itself.**  By the rules of English, and
if no mark names what its join reads, writes or unwinds, a schema whose only field embeds `schema`
and is not marked has the joins of `schema`, in the same order: all paths are inside the field, and
the rest is the same. -/
theorem scan_embedded (schema : Schema) {targets : Targets} (hnaming : targets.naming = .english)
    (hmarks : ∀ visit ∈ schema.visits, ∀ mark ∈ visit.options.joinable, mark.overrides.KeepsNames)
    {field : Field} (hembedded : field.kind = .embedded schema)
    (hunmarked : field.options.joinable = none) (entity : String) (collection : Option String) :
    ((Schema.mk entity collection [field]).source.scan targets).table.entries =
      (schema.source.scan targets).table.entries.map (·.within field.name) := by
  have hkeeps : targets.naming.KeepsPaths := hnaming ▸ Naming.english_keepsPaths
  exact schema.entries_scan_within hkeeps hmarks hembedded hunmarked entity collection

/-- A family with a father, and grandchildren in homes who are written in the singular. -/
theorem scan_embedded_family :
    let father : Field := ⟨"father", .scalar .reference, ⟨some "Person", some ⟨true, {}⟩⟩⟩
    let grandChildren : Field :=
      ⟨"grandChildren", .list ⟨.scalar .reference, {}⟩,
        ⟨some "Person", some ⟨true, { unwind := some (.custom ⟨none, some false⟩) }⟩⟩⟩
    let home : Field := ⟨"home", .embedded ⟨"Home", none, [grandChildren]⟩, {}⟩
    let schema : Schema := ⟨"Family", none, [father, home]⟩
    let family : Field := ⟨"family", .embedded schema, ⟨some "Family", none⟩⟩
    let targets : Targets := ⟨.english, fun _ => some "people"⟩
    (∀ visit ∈ schema.visits, ∀ mark ∈ visit.options.joinable, mark.overrides.KeepsNames) ∧
    (schema.source.scan targets).table.entries.map (·.output) = ["father", "home.grandChild"] ∧
    ((Schema.mk "Person" none [family]).source.scan targets).table.entries =
      [⟨"family.father", some "Person", "people", "family.father", "_id", "family.father", false,
          some ⟨"$family.father", true⟩, false⟩,
        ⟨"family.home.grandChildren", some "Person", "people", "family.home.grandChildren", "_id",
          "family.home.grandChild", true, some ⟨"$family.home.grandChild", false⟩, false⟩] := by
  intro father grandChildren home schema family targets
  have hmarks : ∀ visit ∈ schema.visits, ∀ mark ∈ visit.options.joinable,
      mark.overrides.KeepsNames := by
    decide
  refine ⟨hmarks, by decide, ?_⟩
  rw [schema.scan_embedded rfl hmarks rfl rfl]
  decide

end Schema

end JoinPlan
