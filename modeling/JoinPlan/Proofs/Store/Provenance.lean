import JoinPlan.Proofs.Attach.Reached
import JoinPlan.Proofs.Store.Run
import JoinPlan.Proofs.Success
import Mathlib.Data.List.FinRange
import Mathlib.Order.Monotone.Basic

/-!
# Where results come from

Executing a lookup neither invents, reorders nor loses documents (`Model.exec_lookup_source`).  Each
document of the result comes from a stored one that the criteria select; the sources follow each
other in stored order; and a key to which no stage writes has the value that it has in the source.
If every unwinding keeps documents without values, each selected document is the source of some
result.

* A stage writes to one key at most (`Stage.written?`), and the documents that it makes of one
  document agree with it elsewhere.  So do the documents that a run makes of it
  (`Store.get?_of_mem_run`).
* A stage that does not select, and keeps what it unwinds, makes some document of each one.  So does
  a run of such stages (`Store.run_ne_nil`).
* A run on many documents is the concatenation of the runs on each (`Store.run_eq_flatMap`), and in
  a concatenation the lists that the items come from follow each other in order
  (`exists_monotone_source`).
-/

namespace JoinPlan

/-! ### Sources in a concatenation -/

section Concatenation

variable {α β : Type} (f : α → List β) (items : List α)

/-- The items of a concatenation, each with the position of the list that it comes from. -/
def withSources : List (β × Fin items.length) :=
  (List.finRange items.length).flatMap fun j => (f items[j]).map fun result => (result, j)

theorem map_fst_withSources : (withSources f items).map Prod.fst = items.flatMap f := by
  unfold withSources
  have hitems : (List.finRange items.length).map (fun j => items[j]) = items :=
    List.map_getElem_finRange items
  conv_rhs => rw [← hitems, List.flatMap_map]
  rw [List.map_flatMap]
  apply List.flatMap_congr
  intro j _
  rw [List.map_map]
  exact List.map_id _

theorem mem_withSources_iff (result : β) (j : Fin items.length) :
    (result, j) ∈ withSources f items ↔ result ∈ f items[j] := by
  simp [withSources]

/-- The positions are in order, because each list contributes its items in one piece. -/
theorem pairwise_withSources :
    (withSources f items).Pairwise fun a b => a.2 ≤ b.2 := by
  unfold withSources
  rw [List.pairwise_flatMap]
  constructor
  · intro j _
    rw [List.pairwise_map]
    exact List.pairwise_of_forall fun _ _ => le_refl j
  · apply (List.pairwise_le_finRange items.length).imp
    intro j k hjk a ha b hb
    obtain ⟨_, _, rfl⟩ := List.mem_map.mp ha
    obtain ⟨_, _, rfl⟩ := List.mem_map.mp hb
    exact hjk

/-- Each item of a concatenation comes from one of the lists, and these are met in order.  No list
is skipped unless it is empty. -/
theorem exists_monotone_source :
    ∃ source : Fin (items.flatMap f).length → Fin items.length, Monotone source ∧
      (∀ i, (items.flatMap f)[i] ∈ f items[source i]) ∧
      ∀ j, f items[j] ≠ [] → ∃ i, source i = j := by
  have hfst := map_fst_withSources f items
  have hlength : (withSources f items).length = (items.flatMap f).length := by
    rw [← hfst, List.length_map]
  let traced (i : Fin (items.flatMap f).length) : β × Fin items.length :=
    (withSources f items).get (i.cast hlength.symm)
  have hresult : ∀ i, (traced i).1 = (items.flatMap f)[i] := by
    intro i
    simp only [traced, ← hfst, Fin.getElem_fin, List.getElem_map]
    rfl
  refine ⟨fun i => (traced i).2, ?_, ?_, ?_⟩
  · intro i k hik
    rcases lt_or_eq_of_le hik with hlt | rfl
    · exact List.pairwise_iff_getElem.mp (pairwise_withSources f items) _ _ _ _ hlt
    · exact le_refl _
  · intro i
    rw [← hresult, ← mem_withSources_iff]
    exact List.getElem_mem _
  · intro j hj
    obtain ⟨result, hmem⟩ := List.exists_mem_of_ne_nil _ hj
    obtain ⟨k, hk, hget⟩ := List.getElem_of_mem ((mem_withSources_iff f items result j).mpr hmem)
    exact ⟨⟨k, hlength ▸ hk⟩, congrArg Prod.snd hget⟩

/-- Two concatenations whose lists correspond item by item can be read side by side: the items at
one position come from the same place and correspond. -/
theorem exists_paired_source {γ : Type} {f : α → List β} {g : α → List γ} {R : β → γ → Prop}
    {items : List α} (h : ∀ item ∈ items, List.Forall₂ R (f item) (g item)) :
    ∃ results : List (β × γ), results.map Prod.fst = items.flatMap f ∧
      results.map Prod.snd = items.flatMap g ∧
      ∃ source : Fin results.length → Fin items.length, Monotone source ∧
        ∀ i, results[i].1 ∈ f items[source i] ∧ results[i].2 ∈ g items[source i] ∧
          R results[i].1 results[i].2 := by
  obtain ⟨source, hmonotone, hmem, _⟩ :=
    exists_monotone_source (fun item => (f item).zip (g item)) items
  refine ⟨_, ?_, ?_, source, hmonotone, fun i => ?_⟩
  · rw [List.map_flatMap]
    exact List.flatMap_congr fun item hitem => List.map_fst_zip (h item hitem).length_eq.le
  · rw [List.map_flatMap]
    exact List.flatMap_congr fun item hitem => List.map_snd_zip (h item hitem).length_eq.ge
  · have hpair := hmem i
    have hcorrespond := (List.forall₂_iff_zip.mp (h _ (List.getElem_mem (source i).isLt))).2 hpair
    exact ⟨(List.of_mem_zip hpair).1, (List.of_mem_zip hpair).2, hcorrespond⟩

end Concatenation

/-! ### What stages write -/

/-- The key that a stage writes to, if it writes at all: the output of a lookup, or the field
unwound. -/
def Stage.written? : Stage → Option String
  | .select _ => none
  | .join lookup => some lookup.output
  | .unwind spec => some spec.field

/-- Whether a stage makes some document of every document, whatever is in it. -/
def Stage.Keeps : Stage → Prop
  | .select _ => False
  | .join _ => True
  | .unwind spec => spec.preserveEmpty = true

theorem Unwind.get?_of_mem_spread {spec : Unwind} {document result : Document} {key : String}
    (h : result ∈ spec.spread document) (hkey : spec.field ≠ key) :
    result.get? key = document.get? key := by
  have hinsert : ∀ value, (document.insert spec.field value).get? key = document.get? key := by
    intro value
    rw [Fields.get?_insert, if_neg hkey]
  have herase : (document.erase spec.field).get? key = document.get? key := by
    rw [Fields.get?_erase, if_neg hkey]
  unfold spread at h
  split at h
  · obtain ⟨value, _, rfl⟩ := List.mem_map.mp h
    exact hinsert value
  -- An empty array, `null` and a missing value are treated alike.
  iterate 3
    · split at h
      · rw [List.mem_singleton.mp h]
        exact herase
      · cases h
  · rw [List.mem_singleton.mp h]

theorem Unwind.spread_ne_nil {spec : Unwind} (h : spec.preserveEmpty = true)
    (document : Document) : spec.spread document ≠ [] := by
  unfold spread
  rw [h]
  split <;> simp

namespace Store

variable {store : Store} {stage : Stage} {stages : List Stage} {document result : Document}
  {key : String}

/-- What a stage makes of a document agrees with it where the stage does not write. -/
theorem get?_of_mem_apply (h : result ∈ store.apply [document] stage)
    (hkey : stage.written? ≠ some key) : result.get? key = document.get? key := by
  cases stage with
  | select criteria =>
    have hmem : result ∈ [document].filter fun document => Document.isMatch document criteria := h
    rw [List.mem_singleton.mp (List.mem_of_mem_filter hmem)]
  | join lookup =>
    obtain ⟨_, hmem, rfl⟩ := List.mem_map.mp h
    have hne : lookup.output ≠ key := fun heq => hkey (congrArg some heq)
    rw [List.mem_singleton.mp hmem]
    unfold Lookup.extend
    rw [Fields.get?_insert, if_neg hne]
  | unwind spec =>
    obtain ⟨_, hmem, hspread⟩ := List.mem_flatMap.mp h
    have hne : spec.field ≠ key := fun heq => hkey (congrArg some heq)
    rw [List.mem_singleton.mp hmem] at hspread
    exact Unwind.get?_of_mem_spread hspread hne

theorem apply_ne_nil (store : Store) (h : stage.Keeps) (document : Document) :
    store.apply [document] stage ≠ [] := by
  cases stage with
  | select criteria => exact absurd h not_false
  | join lookup => exact List.cons_ne_nil _ _
  | unwind spec =>
    show [document].flatMap spec.spread ≠ []
    rw [List.flatMap_singleton]
    exact Unwind.spread_ne_nil h document

/-- A run goes on with each document that its first stage makes. -/
theorem run_cons (stage : Stage) (stages : List Stage) (document : Document) :
    store.run (stage :: stages) [document] =
      (store.apply [document] stage).flatMap fun between => store.run stages [between] :=
  store.run_eq_flatMap stages (store.apply [document] stage)

/-- **What a run makes of a document** agrees with it on every key that no stage writes to. -/
theorem get?_of_mem_run (h : result ∈ store.run stages [document])
    (hkey : ∀ stage ∈ stages, stage.written? ≠ some key) : result.get? key = document.get? key := by
  induction stages generalizing document with
  | nil => rw [List.mem_singleton.mp h]
  | cons stage rest ih =>
    rw [run_cons] at h
    obtain ⟨between, hbetween, hrest⟩ := List.mem_flatMap.mp h
    have hfirst : between.get? key = document.get? key :=
      get?_of_mem_apply hbetween (hkey stage List.mem_cons_self)
    rw [ih hrest fun other hother => hkey other (List.mem_cons_of_mem _ hother), hfirst]

/-- **A run of stages that keep documents** makes some document of every one. -/
theorem run_ne_nil (h : ∀ stage ∈ stages, stage.Keeps) (document : Document) :
    store.run stages [document] ≠ [] := by
  induction stages generalizing document with
  | nil => exact List.cons_ne_nil _ _
  | cons stage rest ih =>
    have hfirst : store.apply [document] stage ≠ [] :=
      store.apply_ne_nil (h stage List.mem_cons_self) document
    have hrest := fun other hother => h other (List.mem_cons_of_mem _ hother)
    obtain ⟨between, hbetween⟩ := List.exists_mem_of_ne_nil _ hfirst
    intro hnil
    rw [run_cons, List.flatMap_eq_nil_iff] at hnil
    exact ih hrest between (hnil between hbetween)

end Store

/-! ### Compiled pipelines -/

namespace Pipeline

variable (pipeline : Pipeline)

/-- The document meets the criteria of the pipeline. -/
def Selects (document : Document) : Prop :=
  ∀ criteria, .select criteria ∈ pipeline.stages → Document.isMatch document criteria = true

/-- The key is neither the output of a lookup nor a field that is unwound. -/
def LeavesAlone (key : String) : Prop :=
  ∀ stage ∈ pipeline.stages, stage.written? ≠ some key

/-- Every unwinding keeps documents with an empty array, `null` or nothing in the field. -/
def PreservesEmpty : Prop :=
  ∀ spec, .unwind spec ∈ pipeline.stages → spec.preserveEmpty = true

end Pipeline

/-- The stages of a join are its lookup, which is rebound, and its unwinding, if there is one. -/
theorem Descriptor.mem_stages_rebind {d : Descriptor} (targets : Targets) {stage : Stage}
    (h : stage ∈ (d.rebind targets).stages) :
    stage = .join (d.rebind targets).lookup ∨
      ∃ spec, d.unwind = some spec ∧ stage = .unwind spec := by
  rcases List.mem_cons.mp h with hjoin | hunwind
  · exact Or.inl hjoin
  · obtain ⟨spec, hspec, rfl⟩ := List.mem_map.mp hunwind
    rw [Option.mem_toList, rebind_eq] at hspec
    exact Or.inr ⟨spec, hspec, rfl⟩

namespace CompileContext

variable (ctx : CompileContext) (cast : Option Criteria) (options : LookupOptions)

/-- The stages behind the selection are lookups and unwindings of joins that are in the table. -/
theorem mem_joinStages {stage : Stage} (h : stage ∈ ctx.joinStages options) :
    (∃ lookup, stage = .join lookup) ∨
      ∃ d ∈ ctx.table.entries, ∃ spec, d.unwind = some spec ∧ stage = .unwind spec := by
  obtain ⟨d, hd, hstage⟩ := List.mem_flatMap.mp h
  rcases Descriptor.mem_stages_rebind ctx.targets hstage with hjoin | ⟨spec, hspec, hunwind⟩
  · exact Or.inl ⟨_, hjoin⟩
  · exact Or.inr ⟨d, List.mem_of_mem_filter hd, spec, hspec, hunwind⟩

theorem selects_assemble_iff (document : Document) :
    (ctx.assemble cast options).Selects document ↔ cast.all (Document.isMatch document) = true := by
  have hjoins : ∀ criteria, .select criteria ∉ ctx.joinStages options := by
    intro criteria hmem
    rcases ctx.mem_joinStages options hmem with ⟨_, heq⟩ | ⟨_, _, _, _, heq⟩ <;> cases heq
  unfold Pipeline.Selects assemble
  cases cast with
  | none => simp [hjoins]
  | some criteria => simp [hjoins]

/-- Nothing comes of a document that the criteria do not select. -/
theorem selects_of_mem_run {store : Store} {document result : Document}
    (h : result ∈ store.run (ctx.assemble cast options).stages [document]) :
    (ctx.assemble cast options).Selects document := by
  rw [selects_assemble_iff]
  by_contra hnot
  have hrun : store.run (ctx.assemble cast options).stages [document] = [] := by
    show store.run (_ ++ ctx.joinStages options) [document] = []
    have hfilter : [document].filter (fun document => cast.all (Document.isMatch document)) = [] :=
      List.filter_cons_of_neg hnot
    rw [store.run_select, hfilter, store.run_eq_flatMap]
    rfl
  rw [hrun] at h
  cases h

/-- Something comes of every document that the criteria select, if unwinding keeps it. -/
theorem run_ne_nil_of_selects {store : Store} {document : Document}
    (hkeep : (ctx.assemble cast options).PreservesEmpty)
    (h : (ctx.assemble cast options).Selects document) :
    store.run (ctx.assemble cast options).stages [document] ≠ [] := by
  have hjoins : ∀ stage ∈ ctx.joinStages options, stage.Keeps := by
    intro stage hstage
    rcases ctx.mem_joinStages options hstage with ⟨_, rfl⟩ | ⟨_, _, spec, _, rfl⟩
    · exact trivial
    · exact hkeep spec (List.mem_append_right _ hstage)
  rw [selects_assemble_iff] at h
  show store.run (_ ++ ctx.joinStages options) [document] ≠ []
  have hfilter : [document].filter (fun document => cast.all (Document.isMatch document)) =
      [document] := List.filter_cons_of_pos h
  rw [store.run_select, hfilter]
  exact Store.run_ne_nil hjoins document

end CompileContext

/-! ### Overrides -/

/-- The author does not ask to drop documents without values. -/
def Overrides.PreservesEmpty (overrides : Overrides) : Prop :=
  ∀ settings, overrides.unwind = some (.custom settings) → settings.preserveEmpty ≠ some false

/-- No author of an enabled mark in the schema asks to drop documents without values. -/
def Schema.PreservesEmpty (schema : Schema) : Prop :=
  ∀ field ∈ schema.visits, ∀ mark, field.options.mark? = some mark → mark.overrides.PreservesEmpty

/-- Unwinding keeps documents without values unless the author says otherwise. -/
theorem JoinRequest.preserveEmpty_of_unwind? {request : JoinRequest} {naming : Naming}
    {spec : Unwind} (hspec : request.unwind? naming = some spec)
    (h : request.overrides.PreservesEmpty) : spec.preserveEmpty = true := by
  unfold unwind? at hspec
  split at hspec
  · rw [← Option.some.inj hspec]
    cases hchoice : request.overrides.unwind with
    | none => rfl
    | some choice =>
      cases choice with
      | flag wanted => rfl
      | custom settings =>
        have hne : settings.preserveEmpty ≠ some false := h settings hchoice
        show settings.preserveEmpty.getD true = true
        cases hpreserve : settings.preserveEmpty with
        | none => rfl
        | some value =>
          cases value with
          | true => rfl
          | false => exact absurd hpreserve hne
  · cases hspec

/-- The overrides of a request are those of the field's mark. -/
theorem Visited.mark?_of_request? {field : Visited} {request : JoinRequest}
    (h : field.request? = some request) :
    ∃ mark, field.options.mark? = some mark ∧ mark.overrides = request.overrides := by
  unfold request? at h
  split at h
  · cases h
  · rename_i mark hmark
    split at h
    · cases h
    · rw [← Option.some.inj h]
      exact ⟨mark, hmark, rfl⟩

/-- The joins collected from a schema keep documents without values as its authors say. -/
theorem Schema.preserveEmpty_of_mem_scan {schema : Schema} (h : schema.PreservesEmpty)
    {targets : Targets} {d : Descriptor}
    (hd : d ∈ (schema.source.scan targets).table.entries) {spec : Unwind}
    (hspec : d.unwind = some spec) : spec.preserveEmpty = true := by
  obtain ⟨field, hfield, request, hrequest, rfl⟩ := schema.source.exists_request_of_mem_scan hd
  obtain ⟨mark, hmark, hoverrides⟩ := Visited.mark?_of_request? hrequest
  refine JoinRequest.preserveEmpty_of_unwind? hspec ?_
  rw [← hoverrides]
  exact h field hfield mark hmark

/-! ### Lookups -/

/-- **Executing a lookup neither invents, reorders nor loses documents.**  Take any attached model
and any lookup on it, wherever references lead by then.  In a store that has its collection the
pipeline can be executed.  Each document of the result has a source among the stored documents that
the criteria select, in their order, and agrees with it on every key that is neither the output of a
lookup nor a field unwound.  If every unwinding keeps documents without values, every selected
document is the source of some result; that is so if no author in the schema asks otherwise. -/
theorem Model.exec_lookup_source {model : Model} {naming : Naming}
    (hscanned : model.ScannedBy naming) {targets : Targets} {caster : Caster}
    {criteria : Option Criteria} {options : LookupOptions} {compiled : Compiled}
    (hlookup : model.lookup targets caster criteria options = .ok compiled) (store : Store)
    {stored : List Document}
    (hstored : store.documents? compiled.pipeline.collection = some stored) :
    (∃ documents, store.exec compiled.pipeline = .ok documents ∧
      ∃ source : Fin documents.length → Fin stored.length, Monotone source ∧
        (∀ i, compiled.pipeline.Selects stored[source i] ∧
          ∀ key, compiled.pipeline.LeavesAlone key →
            documents[i].get? key = stored[source i].get? key) ∧
        (compiled.pipeline.PreservesEmpty →
          ∀ j, compiled.pipeline.Selects stored[j] → ∃ i, source i = j)) ∧
    (model.schema.PreservesEmpty → compiled.pipeline.PreservesEmpty) := by
  let ctx := model.context targets caster
  rw [model.lookup_eq targets caster criteria options] at hlookup
  have hcompile : ctx.compile criteria options = .ok compiled := mapError_eq_ok_iff.mp hlookup
  obtain ⟨cast, _, hpipeline⟩ := ctx.cast_of_compile criteria options hcompile
  have hexec := store.exec_eq_run hstored
  rw [store.run_eq_flatMap] at hexec
  constructor
  · obtain ⟨source, hmonotone, hmem, honto⟩ := exists_monotone_source
      (fun document => store.run compiled.pipeline.stages [document]) stored
    refine ⟨_, hexec, source, hmonotone, ?_, ?_⟩
    · intro i
      have hselects : ∀ document result, result ∈ store.run compiled.pipeline.stages [document] →
          compiled.pipeline.Selects document := by
        rw [hpipeline]
        exact fun document result => ctx.selects_of_mem_run cast options
      exact ⟨hselects _ _ (hmem i), fun key hkey => Store.get?_of_mem_run (hmem i) hkey⟩
    · intro hkeep j hselects
      apply honto j
      rw [hpipeline] at hkeep hselects ⊢
      exact ctx.run_ne_nil_of_selects cast options hkeep hselects
  · intro hschema spec hspec
    obtain ⟨known, hmodel⟩ := hscanned
    have htable : model.table = (model.schema.source.scan ⟨naming, known⟩).table :=
      congrArg Model.table hmodel
    rw [hpipeline] at hspec
    rcases List.mem_append.mp hspec with hselect | hjoin
    · obtain ⟨_, _, heq⟩ := List.mem_map.mp hselect
      cases heq
    · rcases ctx.mem_joinStages options hjoin with ⟨_, heq⟩ | ⟨d, hd, _, hunwind, heq⟩
      · cases heq
      · cases heq
        have hd' : d ∈ model.table.entries := hd
        rw [htable] at hd'
        exact Schema.preserveEmpty_of_mem_scan hschema hd' hunwind

/-- A father and friends that are joined into the same field, one after the other, for those of
three persons that are of age 3.  The first has two friends and becomes two documents, and the last
stays one document without any. -/
theorem Model.exec_lookup_source_kin :
    let kin (unwind : Option UnwindOverride) : Options :=
      ⟨some "Person", some ⟨true, { output := some "kin", unwind := unwind }⟩⟩
    let person : Schema := ⟨"Person", some "people",
      [⟨"age", .scalar .int, {}⟩, ⟨"father", .scalar .reference, kin none⟩,
        .referenceList "friends" (kin (some (.flag true)))]⟩
    let ada : Document := [("_id", .string "A"), ("age", .number (.int 4))]
    let jean : Document := [("_id", .string "J"), ("age", .number (.int 3)),
      ("father", .string "F"), ("friends", .array [.string "F", .string "A"])]
    let frank : Document := [("_id", .string "F"), ("age", .number (.int 3))]
    let store : Store := ⟨[("people", [jean, ada, frank])]⟩
    let registry := ((Registry.empty ⟨id, id, id⟩ false).extended person {}).registry
    let documents : List Document :=
      [jean.insert "kin" (.object ada), jean.insert "kin" (.object frank), frank]
    ∃ model compiled,
      registry.get? "Person" = some model ∧ model.ScannedBy registry.naming ∧
      model.lookup registry.targets .bySchema (some [("age", .string "3")]) {} = .ok compiled ∧
      store.documents? compiled.pipeline.collection = some [jean, ada, frank] ∧
      store.exec compiled.pipeline = .ok documents ∧
      ∃ source : Fin documents.length → Fin [jean, ada, frank].length, Monotone source ∧
        (∀ i, compiled.pipeline.Selects [jean, ada, frank][source i]) ∧
        ∀ j, compiled.pipeline.Selects [jean, ada, frank][j] → ∃ i, source i = j := by
  intro kin person ada jean frank store registry documents
  let model := ((Registry.empty ⟨id, id, id⟩ false).extended person {}).model
  let pipeline : Pipeline := ⟨"people", [.select [("age", .number (.int 3))],
    .join ⟨"people", "father", "_id", "kin"⟩, .unwind ⟨"$kin", true⟩,
    .join ⟨"people", "friends", "_id", "kin"⟩, .unwind ⟨"$kin", true⟩], true⟩
  have hscanned : model.ScannedBy registry.naming := ⟨fun _ => none, rfl⟩
  have hlookup : model.lookup registry.targets .bySchema (some [("age", .string "3")]) {} =
      .ok ⟨pipeline, []⟩ := by rfl
  have hstored : store.documents? pipeline.collection = some [jean, ada, frank] := rfl
  -- The father comes first, and the friends overwrite him.
  have hfather : store.run (pipeline.stages.take 3) [jean, ada, frank] =
      [jean.insert "kin" (.object frank), frank] := by rfl
  have hfriends : store.run (pipeline.stages.drop 3)
      [jean.insert "kin" (.object frank), frank] = documents := by rfl
  have hexec : store.exec pipeline = .ok documents := by
    rw [store.exec_eq_run hstored, ← List.take_append_drop 3 pipeline.stages, store.run_append,
      hfather, hfriends]
  have hschema : model.schema.PreservesEmpty := by
    intro field hfield mark hmark settings hsettings
    have hvisits : field ∈ person.visits := hfield
    simp only [person, Schema.visits, Schema.visitsUnder, fieldVisits, Field.visits,
      Field.referenceList, Kind.visitsInside, Kind.merge, List.append_nil, List.cons_append,
      List.nil_append, List.mem_cons, List.not_mem_nil, or_false] at hvisits
    rcases hvisits with rfl | rfl | rfl
    · cases hmark
    · cases hmark
      cases hsettings
    · cases hmark
      cases hsettings
  obtain ⟨⟨found, hfound, source, hmonotone, hsource, honto⟩, hkeep⟩ :=
    Model.exec_lookup_source hscanned hlookup store hstored
  rw [hexec] at hfound
  cases hfound
  exact ⟨model, ⟨pipeline, []⟩, rfl, hscanned, hlookup, hstored, hexec, source, hmonotone,
    fun i => (hsource i).1, honto (hkeep hschema)⟩

end JoinPlan
