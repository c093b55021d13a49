import JoinPlan.Proofs.Attach.Reached
import JoinPlan.Proofs.Join.Plain
import JoinPlan.Proofs.Json.Same
import JoinPlan.Proofs.Store.Run

/-!
# Lookups on plain schemas

A lookup on a plain schema is a one-to-one outer join (`Registry.exec_lookup_plain`): executing it
gives one document for each stored one that the criteria select, in stored order, in which every
joined field has its value replaced by what it refers to (`JoinedValue`) and nothing else is changed
(`JoinedDocument`).

* In a collection whose documents are told apart by their identities, a value refers to one document
  at most (`Identified.filter_eq`).
* The stages of one field make one document of one document, and change that field alone
  (`Store.run_plain`).
* So the stages of a field find the values of the fields that come later as they were stored; by
  induction on the fields the stages of all of them join each one (`Store.run_joins`).
* What is compiled for a plain schema are the default joins of its fields (`joinStages_eq`).
-/

namespace JoinPlan

/-! ### Identities -/

/-- The document has an identity, which is the same as this value. -/
def Document.isIdentifiedBy (document : Document) (value : Json) : Bool :=
  (document.get? Path.identity).any (·.same value)

theorem Document.isIdentifiedBy_iff {document : Document} {value : Json} :
    Document.isIdentifiedBy document value = true ↔
      ∃ id, document.get? Path.identity = some id ∧ id.same value = true :=
  Option.any_eq_true _ _

/-- The identities are single values, and each belongs to one document only. -/
structure Identified (documents : List Document) : Prop where
  single : ∀ document ∈ documents, ∀ items, document.get? Path.identity ≠ some (.array items)
  distinct : documents.Pairwise fun document other =>
    ∀ id, document.get? Path.identity = some id → other.isIdentifiedBy id = false

namespace Identified

variable {documents : List Document} (h : Identified documents)

include h

/-- A value identifies one document at most. -/
theorem filter_eq (value : Json) :
    documents.filter (·.isIdentifiedBy value) = [] ∨
      ∃ document, documents.filter (·.isIdentifiedBy value) = [document] := by
  have hdistinct := h.distinct.filter (·.isIdentifiedBy value)
  have hmem : ∀ document ∈ documents.filter (·.isIdentifiedBy value),
      ∃ id, document.get? Path.identity = some id ∧ id.same value = true := by
    intro document hdocument
    exact Document.isIdentifiedBy_iff.mp (List.mem_filter.mp hdocument).2
  generalize documents.filter (·.isIdentifiedBy value) = found at hdistinct hmem
  match found with
  | [] => exact Or.inl rfl
  | [document] => exact Or.inr ⟨document, rfl⟩
  | document :: other :: rest =>
    -- Both identities are the same as the value, so the second document has the first identity.
    obtain ⟨id, hid, hvalue⟩ := hmem document (by simp)
    obtain ⟨id', hid', hvalue'⟩ := hmem other (by simp)
    have hother := (List.pairwise_cons.mp hdistinct).1 other List.mem_cons_self id hid
    have hsame : other.isIdentifiedBy id = true :=
      Document.isIdentifiedBy_iff.mpr ⟨id', hid', Json.same_of_same_right hvalue' hvalue⟩
    rw [hother] at hsame
    cases hsame

/-- A lookup that compares a field at the top with identities joins the documents that some value of
the field identifies. -/
theorem partners_eq (collection : String) {name : String} (hname : '.' ∉ name.toList)
    (output : String) (document : Document) :
    Lookup.partners ⟨collection, name, Path.identity, output⟩ documents document =
      documents.filter fun candidate =>
        (Json.valuesOf (document.get? name)).any candidate.isIdentifiedBy := by
  unfold Lookup.partners
  apply List.filter_congr
  intro candidate hcandidate
  unfold Lookup.joins Document.isIdentifiedBy
  rw [Document.valuesAt_of_undotted document hname,
    Document.valuesAt_of_undotted candidate (by decide : '.' ∉ Path.identity.toList)]
  cases hid : candidate.get? Path.identity with
  | none => simp [Json.valuesOf]
  | some id =>
    have hsingle : ∀ items, id ≠ .array items :=
      fun items heq => h.single candidate hcandidate items (by rw [hid, heq])
    simp [Json.valuesOf_single hsingle, Json.isAmong]

end Identified

/-! ### Joined documents -/

/-- What a join makes of the value of a field that refers to these documents.  A list receives the
documents that its items identify, in stored order; any other field the one document that its value
identifies, and without one it is removed. -/
inductive JoinedValue (foreign : List Document) : (multi : Bool) → Option Json → Option Json → Prop
  | found {value : Json} {partner : Document}
      (unique : foreign.filter (·.isIdentifiedBy value) = [partner]) :
      JoinedValue foreign false (some value) (some (.object partner))
  | missing {value : Json} (unknown : foreign.filter (·.isIdentifiedBy value) = []) :
      JoinedValue foreign false (some value) none
  | absent : JoinedValue foreign false none none
  | list (stored : Option Json) :
      JoinedValue foreign true stored (some (.array ((foreign.filter fun candidate =>
        (Json.valuesOf stored).any candidate.isIdentifiedBy).map .object)))

/-- `joined` is the document with the value of one field replaced by what it refers to. -/
structure JoinedField (foreign : List Document) (name : String) (multi : Bool)
    (document joined : Document) : Prop where
  value : JoinedValue foreign multi (document.get? name) (joined.get? name)
  others : ∀ key, key ≠ name → joined.get? key = document.get? key

/-- `joined` is the document with the values of all joined fields replaced by what they refer to,
and is otherwise the document. -/
structure JoinedDocument (fields : List Field) (targets : Targets) (store : Store)
    (document joined : Document) : Prop where
  values : ∀ field ∈ fields, ∀ reference, field.JoinedWith reference →
    JoinedValue (store.documentsIn (targets.resolve reference)) field.kind.isList
      (document.get? field.name) (joined.get? field.name)
  others : ∀ key, (∀ field ∈ fields, ∀ reference, field.JoinedWith reference → field.name ≠ key) →
    joined.get? key = document.get? key

/-! ### One field -/

namespace JoinedField

variable {foreign : List Document} {name : String} {multi : Bool} {document : Document}

theorem of_insert {value : Json} (h : JoinedValue foreign multi (document.get? name) (some value)) :
    JoinedField foreign name multi document (document.insert name value) where
  value := by
    rw [Fields.get?_insert_self]
    exact h
  others key hkey := by
    rw [Fields.get?_insert]
    exact if_neg (Ne.symm hkey)

theorem of_erase (h : JoinedValue foreign multi (document.get? name) none) :
    JoinedField foreign name multi document (document.erase name) where
  value := by
    rw [Fields.get?_erase, if_pos rfl]
    exact h
  others key hkey := by
    rw [Fields.get?_erase]
    exact if_neg (Ne.symm hkey)

end JoinedField

namespace Store

variable (store : Store) (targets : Targets) {name reference : String} {document : Document}

/-- A list is joined by the lookup alone. -/
theorem run_plain_list (hname : '.' ∉ name.toList)
    (hforeign : Identified (store.documentsIn (targets.resolve reference))) :
    ∃ joined,
      store.run (Descriptor.plain targets name reference true).stages [document] = [joined] ∧
      JoinedField (store.documentsIn (targets.resolve reference)) name true document joined := by
  let lookup : Lookup := ⟨targets.resolve reference, name, Path.identity, name⟩
  refine ⟨_, store.run_join lookup document, .of_insert ?_⟩
  rw [hforeign.partners_eq _ hname]
  exact .list _

/-- A single value is joined by a left outer join, which meets one partner at most. -/
theorem run_plain_single (hname : '.' ∉ name.toList) (hliteral : name.toList.head? ≠ some '$')
    (hforeign : Identified (store.documentsIn (targets.resolve reference)))
    (hsingle : ∀ items, document.get? name ≠ some (.array items)) :
    ∃ joined,
      store.run (Descriptor.plain targets name reference false).stages [document] = [joined] ∧
      JoinedField (store.documentsIn (targets.resolve reference)) name false document joined := by
  let lookup : Lookup := ⟨targets.resolve reference, name, Path.identity, name⟩
  have hrun : store.run (Descriptor.plain targets name reference false).stages [document] =
      lookup.outerJoin (store.documentsIn lookup.collection) true document :=
    store.run_join_unwind lookup true document hliteral
  have hpartners := hforeign.partners_eq lookup.collection hname name document
  rw [hrun]
  cases hstored : document.get? name with
  | none =>
    rw [hstored] at hpartners
    have hnone : lookup.partners (store.documentsIn lookup.collection) document = [] :=
      hpartners.trans (List.filter_eq_nil_iff.mpr fun _ _ => Bool.false_ne_true)
    refine ⟨document.erase name, lookup.outerJoin_of_nil hnone true, .of_erase ?_⟩
    rw [hstored]
    exact .absent
  | some value =>
    have hvalue : Json.valuesOf (some value) = [value] :=
      Json.valuesOf_single fun items heq => hsingle items (by rw [hstored, heq])
    rw [hstored, hvalue] at hpartners
    simp only [List.any_cons, List.any_nil, Bool.or_false] at hpartners
    rcases hforeign.filter_eq value with hnone | ⟨partner, hone⟩
    · have hrun' := lookup.outerJoin_of_nil (hpartners.trans hnone) true
      refine ⟨document.erase name, hrun', .of_erase ?_⟩
      rw [hstored]
      exact .missing hnone
    · have hrun' := lookup.outerJoin_of_singleton (hpartners.trans hone) true
      refine ⟨document.insert name (.object partner), hrun', .of_insert ?_⟩
      rw [hstored]
      exact .found hone

/-- **The stages of one field** make one document of a document, and change that field alone. -/
theorem run_plain {field : Field} (hfield : field.Plain)
    (hforeign : Identified (store.documentsIn (targets.resolve reference)))
    (hsingle : field.kind.isList = false →
      ∀ items, document.get? field.name ≠ some (.array items)) :
    let join := Descriptor.plain targets field.name reference field.kind.isList
    ∃ joined, store.run join.stages [document] = [joined] ∧
      JoinedField (store.documentsIn (targets.resolve reference)) field.name field.kind.isList
        document joined := by
  cases hlist : field.kind.isList with
  | true => exact store.run_plain_list targets hfield.undotted hforeign
  | false =>
    exact store.run_plain_single targets hfield.undotted hfield.literal hforeign (hsingle hlist)

end Store

/-! ### All fields -/

namespace JoinedDocument

variable {field : Field} {rest : List Field} {targets : Targets} {store : Store}
  {document between joined : Document}

/-- A field that is not joined stays as it is. -/
theorem cons_of_not (hfield : ∀ reference, ¬ field.JoinedWith reference)
    (h : JoinedDocument rest targets store document joined) :
    JoinedDocument (field :: rest) targets store document joined where
  values other hother reference hreference := by
    rcases List.mem_cons.mp hother with rfl | hother
    · exact absurd hreference (hfield reference)
    · exact h.values other hother reference hreference
  others key hkey := h.others key fun other hother => hkey other (List.mem_cons_of_mem _ hother)

/-- A field is joined first, and the other fields then: they are found as they were, and leave the
value of the first. -/
theorem cons_of_joined {reference : String} (hfield : field.JoinedWith reference)
    (hnew : field.name ∉ rest.map (·.name))
    (hfirst : JoinedField (store.documentsIn (targets.resolve reference)) field.name
      field.kind.isList document between)
    (h : JoinedDocument rest targets store between joined) :
    JoinedDocument (field :: rest) targets store document joined := by
  have hne : ∀ other ∈ rest, other.name ≠ field.name := by
    intro other hother heq
    exact hnew (heq ▸ List.mem_map_of_mem hother)
  constructor
  · intro other hother reference' hreference
    rcases List.mem_cons.mp hother with rfl | hother
    · obtain rfl := hfield.unique hreference
      -- No later field has the name of the first.
      rw [h.others other.name fun later hlater _ _ => hne later hlater]
      exact hfirst.value
    · rw [← hfirst.others other.name (hne other hother)]
      exact h.values other hother reference' hreference
  · intro key hkey
    have hkey' : key ≠ field.name := (hkey field List.mem_cons_self reference hfield).symm
    rw [h.others key fun other hother => hkey other (List.mem_cons_of_mem _ hother)]
    exact hfirst.others key hkey'

end JoinedDocument

/-- **The stages of plain fields** make one document of a document, with each field joined. -/
theorem Store.run_joins (store : Store) (targets : Targets) {fields : List Field}
    (hplain : ∀ field ∈ fields, field.Plain) (hdistinct : (fields.map (·.name)).Nodup)
    (hforeign : ∀ field ∈ fields, ∀ reference, field.JoinedWith reference →
      Identified (store.documentsIn (targets.resolve reference)))
    {document : Document}
    (hsingle : ∀ field ∈ fields, ∀ reference, field.JoinedWith reference →
      field.kind.isList = false → ∀ items, document.get? field.name ≠ some (.array items)) :
    ∃ joined,
      store.run ((fields.filterMap (·.join? targets)).flatMap (·.stages)) [document] = [joined] ∧
      JoinedDocument fields targets store document joined := by
  induction fields generalizing document with
  | nil => exact ⟨document, rfl, ⟨by simp, fun _ _ => rfl⟩⟩
  | cons field rest ih =>
    have hnew : field.name ∉ rest.map (·.name) := (List.nodup_cons.mp hdistinct).1
    have hdistinct' := (List.nodup_cons.mp hdistinct).2
    have hplain' := fun other hother => hplain other (List.mem_cons_of_mem _ hother)
    have hforeign' := fun other hother => hforeign other (List.mem_cons_of_mem _ hother)
    have hsingle' := fun other hother => hsingle other (List.mem_cons_of_mem _ hother)
    cases hjoined? : field.joined? with
    | none =>
      have hskip : field.join? targets = none := by rw [Field.join?, hjoined?]; rfl
      have hfield : ∀ reference, ¬ field.JoinedWith reference := by
        intro reference hreference
        rw [Field.joined?_eq_some_iff.mpr hreference] at hjoined?
        cases hjoined?
      obtain ⟨joined, hrun, hjoined⟩ := ih hplain' hdistinct' hforeign' hsingle'
      refine ⟨joined, ?_, hjoined.cons_of_not hfield⟩
      rw [List.filterMap_cons, hskip]
      exact hrun
    | some reference =>
      have hjoin : field.join? targets =
          some (.plain targets field.name reference field.kind.isList) := by
        rw [Field.join?, hjoined?]
        rfl
      have hfield := Field.joined?_eq_some_iff.mp hjoined?
      obtain ⟨between, hrun, hfirst⟩ := store.run_plain targets (hplain field List.mem_cons_self)
        (hforeign field List.mem_cons_self reference hfield)
        (hsingle field List.mem_cons_self reference hfield)
      -- The other fields are still as they were stored.
      have hsingle'' : ∀ other ∈ rest, ∀ reference, other.JoinedWith reference →
          other.kind.isList = false → ∀ items, between.get? other.name ≠ some (.array items) := by
        intro other hother
        have hne : other.name ≠ field.name := fun heq => hnew (heq ▸ List.mem_map_of_mem hother)
        rw [hfirst.others other.name hne]
        exact hsingle' other hother
      obtain ⟨joined, hrun', hjoined⟩ := ih hplain' hdistinct' hforeign' hsingle''
      refine ⟨joined, ?_, hjoined.cons_of_joined hfield hnew hfirst⟩
      rw [List.filterMap_cons, hjoin, List.flatMap_cons, run_append, hrun]
      exact hrun'

/-! ### Lookups -/

/-- What is compiled for a plain schema are the default joins of its fields. -/
theorem Model.ScannedBy.joinStages_eq {model : Model} {naming : Naming} (h : model.ScannedBy naming)
    (hplain : model.schema.Plain) (targets : Targets) (caster : Caster) (disk : Option Bool) :
    (model.context targets caster).joinStages { allowDiskUse := disk } =
      (model.schema.fields.filterMap (·.join? targets)).flatMap (·.stages) := by
  have hentries : model.table.entries.map (·.rebind targets) =
      model.schema.fields.filterMap (·.join? targets) := by
    have htable := congrArg (fun m : Model => m.table.entries) (h.rebind_eq targets)
    exact htable.trans (hplain.entries_scan (targets.under naming))
  have hkept : (model.context targets caster).kept { allowDiskUse := disk } =
      model.table.entries := by
    -- Nothing is excluded, and every join refers to an entity, before it is rebound as after.
    apply List.filter_eq_self.mpr
    intro d hd
    have hmem : d.rebind targets ∈ model.table.entries.map (·.rebind targets) :=
      List.mem_map_of_mem hd
    rw [hentries, List.mem_filterMap] at hmem
    obtain ⟨field, _, hjoin⟩ := hmem
    obtain ⟨reference, hjoined?, hrebind⟩ := Option.map_eq_some_iff.mp hjoin
    have hnamed := (Field.joined?_eq_some_iff.mp hjoined?).named
    have hreference : d.reference = some reference := by
      rw [← d.reference_rebind targets, ← hrebind]
      rfl
    simp [Descriptor.dropReason?, Descriptor.isResolvable, hreference, hnamed]
  unfold CompileContext.joinStages
  rw [hkept, ← hentries, List.flatMap_map]
  rfl

/-- **A lookup on a plain schema is a one-to-one outer join.**  It is compiled and executed without
failure, whatever was attached before or after, and each stored document that the cast criteria
select gives one document, in stored order, its joined fields replaced by what they refer to. -/
theorem Registry.exec_lookup_plain {registry : Registry} (hreached : registry.Reached)
    {entity : String} {model : Model} (hmodel : registry.get? entity = some model)
    (hplain : model.schema.Plain) {store : Store} {stored : List Document}
    (hstored : store.documents? model.collection = some stored)
    (hsingle : ∀ document ∈ stored, ∀ field ∈ model.schema.fields, ∀ reference,
      field.JoinedWith reference → field.kind.isList = false →
        ∀ items, document.get? field.name ≠ some (.array items))
    (hforeign : ∀ field ∈ model.schema.fields, ∀ reference, field.JoinedWith reference →
      Identified (store.documentsIn (registry.targets.resolve reference)))
    {caster : Caster} {criteria cast : Option Criteria}
    (hcast : (model.context registry.targets caster).cast criteria = .ok cast)
    (disk : Option Bool) :
    ∃ compiled documents,
      registry.lookup entity caster criteria { allowDiskUse := disk } = .ok compiled ∧
      store.exec compiled.pipeline = .ok documents ∧
      List.Forall₂ (JoinedDocument model.schema.fields registry.targets store)
        (stored.filter fun document => cast.all (Document.isMatch document)) documents := by
  let ctx := model.context registry.targets caster
  let options : LookupOptions := { allowDiskUse := disk }
  let joins := (model.schema.fields.filterMap (·.join? registry.targets)).flatMap (·.stages)
  have hscanned : model.ScannedBy registry.naming :=
    hreached.wellFormed.scanned model (mem_models_of_get? hmodel)
  have hcompile : ∃ compiled, registry.lookup entity caster criteria options = .ok compiled ∧
      compiled.pipeline = ctx.assemble cast options := by
    rw [lookup_of_get? hmodel, ctx.compile_of_cast options hcast]
    exact ⟨_, rfl, rfl⟩
  obtain ⟨compiled, hlookup, hpipeline⟩ := hcompile
  have hstages : compiled.pipeline.stages = cast.toList.map .select ++ joins := by
    rw [hpipeline]
    show _ ++ ctx.joinStages options = _
    rw [hscanned.joinStages_eq hplain]
  refine ⟨compiled, store.run compiled.pipeline.stages stored, hlookup, ?_, ?_⟩
  · exact store.exec_eq_run (by rw [hpipeline]; exact hstored)
  · rw [hstages, store.run_select]
    apply store.forall₂_run
    intro document hdocument
    exact store.run_joins registry.targets hplain.fields hplain.distinct hforeign
      (hsingle document (List.mem_of_mem_filter hdocument))

/-- A person with a father and friends, of whom one is not known, in a collection of three. -/
theorem Registry.exec_lookup_family :
    let joined : Options := ⟨some "Person", some ⟨true, {}⟩⟩
    let person : Schema := ⟨"Person", some "people",
      [⟨"name", .scalar .text, {}⟩, ⟨"father", .scalar .reference, joined⟩,
        .referenceList "friends" joined]⟩
    let frank : Document := [("_id", .string "F")]
    let ada : Document := [("_id", .string "A")]
    let jean : Document := [("_id", .string "J"), ("father", .string "F"),
      ("friends", .array [.string "A", .string "X"]), ("name", .string "jean")]
    let family : Document := [("_id", .string "J"), ("father", .object frank),
      ("friends", .array [.object ada]), ("name", .string "jean")]
    let store : Store := ⟨[("people", [jean, frank, ada])]⟩
    let registry := ((Registry.empty (.suffixed "s") false).extended person {}).registry
    let pipeline : Pipeline := ⟨"people", [.select [("name", .string "jean")],
      .join ⟨"people", "father", "_id", "father"⟩, .unwind ⟨"$father", true⟩,
      .join ⟨"people", "friends", "_id", "friends"⟩], true⟩
    registry.lookup "Person" .bySchema (some [("name", .string "jean")]) {} = .ok ⟨pipeline, []⟩ ∧
      store.exec pipeline = .ok [family] ∧
      JoinedDocument person.fields registry.targets store jean family := by
  intro joined person frank ada jean family store registry pipeline
  have hattach : (Registry.empty (.suffixed "s") false).attach person {} =
      .ok ((Registry.empty (.suffixed "s") false).extended person {}) :=
    attach_eq_ok_iff.mpr ⟨by simp [person], by simp [Registry.empty, names], rfl⟩
  have hlookup : registry.lookup "Person" .bySchema (some [("name", .string "jean")]) {} =
      .ok ⟨pipeline, []⟩ := by rfl
  have hexec : store.exec pipeline = .ok [family] := by rfl
  have hdefault : ∀ field ∈ person.fields, ∀ mark, field.Marked mark → mark.overrides = {} := by
    simp [← Field.mark?_merge_iff, person, Field.referenceList, Kind.merge, Options.or,
      Options.mark?, joined]
  have hshallow : ∀ field ∈ person.fields, field.kind.schema? = none := by
    simp [person, Field.referenceList, Kind.schema?]
  have hnames : ∀ field ∈ person.fields,
      '.' ∉ field.name.toList ∧ field.name.toList.head? ≠ some '$' := by decide
  have hplain : person.Plain := by
    refine ⟨fun field hfield => ?_, by decide⟩
    obtain ⟨hundotted, hliteral⟩ := hnames field hfield
    refine ⟨hundotted, hliteral, hdefault field hfield, fun inner hinner => ?_⟩
    rw [hshallow field hfield] at hinner
    cases hinner
  have hpeople : Identified [jean, frank, ada] := by
    constructor
    · simp [jean, frank, ada, Fields.get?, Path.identity]
    · simp [jean, frank, ada, Fields.get?, Path.identity, Document.isIdentifiedBy, Json.same]
  have hsingle : ∀ document ∈ [jean, frank, ada], ∀ field ∈ person.fields, ∀ reference,
      field.JoinedWith reference → field.kind.isList = false →
        ∀ items, document.get? field.name ≠ some (.array items) := by
    simp [jean, frank, ada, person, Fields.get?, Field.referenceList, Kind.isList]
  let model := ((Registry.empty (.suffixed "s") false).extended person {}).model
  have hmodel : registry.get? "Person" = some model := rfl
  have hcast : (model.context registry.targets .bySchema).cast (some [("name", .string "jean")]) =
      .ok (some [("name", .string "jean")]) := rfl
  have hforeign : ∀ field ∈ person.fields, ∀ reference, field.JoinedWith reference →
      Identified (store.documentsIn (registry.targets.resolve reference)) := by
    intro field hfield reference hreference
    have hjoined? := Field.joined?_eq_some_iff.mpr hreference
    have hperson : reference = "Person" := by
      simp only [person, Field.referenceList, List.mem_cons, List.not_mem_nil, or_false] at hfield
      rcases hfield with rfl | rfl | rfl
      · cases hjoined?
      · exact (Option.some.inj hjoined?).symm
      · exact (Option.some.inj hjoined?).symm
    rw [hperson]
    exact hpeople
  have hreached : registry.Reached := .attach (.empty _ _) hattach
  obtain ⟨_, _, hok, hdocuments, hjoins⟩ :=
    exec_lookup_plain hreached hmodel hplain rfl hsingle hforeign hcast none
  cases hlookup.symm.trans hok
  cases hexec.symm.trans hdocuments
  -- Only one of the three has the name that the criteria ask for.
  have hselected : [jean, frank, ada].filter (fun document =>
      (some [("name", .string "jean")] : Option Criteria).all document.isMatch) = [jean] := rfl
  rw [hselected, List.forall₂_cons] at hjoins
  exact ⟨hlookup, hexec, hjoins.1⟩

end JoinPlan
