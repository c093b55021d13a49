import JoinPlan.Proofs.Attach.Sessions
import JoinPlan.Proofs.Criteria.Positions
import JoinPlan.Proofs.Store.Run

/-!
# Order inside documents

The members of an object stand in the order of their keys, and so do those of the objects inside a
document (`Document.OrderedInside`).  A stage puts joined documents and items of arrays into a
document, or takes a field out of it; none of these disturbs the order (`Store.orderedInside_apply`).
So what a run makes of ordered documents is ordered, and, as steps store what they are given, all
that a session stores and all that it answers is ordered as long as only ordered documents are
inserted (`Session.orderedInside_after_start`).
-/

namespace JoinPlan

/-! ### Documents -/

/-- The members of the document, and of every object inside it, stand in the order of their keys. -/
def Document.OrderedInside (document : Document) : Prop :=
  (Json.object document).ObjectsOrdered

/-- What stands under a key is a member. -/
theorem Fields.mem_of_get? {fields : Fields} {key : String} {value : Json}
    (h : fields.get? key = some value) : (key, value) ∈ fields := by
  induction fields with
  | nil => cases h
  | cons head rest ih =>
    obtain ⟨name, old⟩ := head
    rw [get?] at h
    split at h
    · rename_i hname
      rw [hname, Option.some.inj h]
      exact List.mem_cons_self
    · exact List.mem_cons_of_mem _ (ih h)

namespace Document.OrderedInside

variable {document : Document} (h : document.OrderedInside) (key : String)

include h

theorem of_get? {key : String} {value : Json} (hget : document.get? key = some value) :
    value.ObjectsOrdered :=
  (Json.objectsOrdered_object.mp h).2 _ (Fields.mem_of_get? hget)

theorem insert {value : Json} (hvalue : value.ObjectsOrdered) :
    OrderedInside (document.insert key value) := by
  obtain ⟨hordered, hmembers⟩ := Json.objectsOrdered_object.mp h
  refine Json.objectsOrdered_object.mpr ⟨Fields.ordered_insert hordered key value, ?_⟩
  intro member hmember
  rcases Fields.eq_or_mem_of_mem_insert hmember with rfl | hmember
  · exact hvalue
  · exact hmembers member hmember

theorem erase : OrderedInside (document.erase key) := by
  obtain ⟨hordered, hmembers⟩ := Json.objectsOrdered_object.mp h
  exact Json.objectsOrdered_object.mpr ⟨Fields.ordered_erase hordered key,
    fun member hmember => hmembers member (List.mem_of_mem_filter hmember)⟩

end Document.OrderedInside

/-- A lookup puts documents into a document that are ordered as they are stored. -/
theorem Lookup.orderedInside_extend {foreign : List Document}
    (hforeign : ∀ document ∈ foreign, document.OrderedInside) (lookup : Lookup)
    {document : Document} (h : document.OrderedInside) :
    Document.OrderedInside (lookup.extend foreign document) := by
  apply h.insert
  rw [Json.objectsOrdered_array]
  intro item hitem
  obtain ⟨partner, hpartner, rfl⟩ := List.mem_map.mp hitem
  exact hforeign partner (List.mem_of_mem_filter hpartner)

/-- An unwinding puts the items of an array in its place, or nothing. -/
theorem Unwind.orderedInside_of_mem_spread {spec : Unwind} {document result : Document}
    (h : document.OrderedInside) (hresult : result ∈ spec.spread document) :
    result.OrderedInside := by
  unfold spread at hresult
  split at hresult
  · rename_i item rest hget
    obtain ⟨value, hvalue, rfl⟩ := List.mem_map.mp hresult
    exact h.insert _ (Json.objectsOrdered_array.mp (h.of_get? hget) value hvalue)
  -- An empty array, `null` and a missing value are treated alike.
  iterate 3
    · split at hresult
      · rw [List.mem_singleton.mp hresult]
        exact h.erase _
      · cases hresult
  · rw [List.mem_singleton.mp hresult]
    exact h

/-! ### Stores -/

/-- All documents of all collections are ordered. -/
def Store.OrderedInside (store : Store) : Prop :=
  ∀ entry ∈ store.collections, ∀ document ∈ entry.2, document.OrderedInside

namespace Store

theorem orderedInside_empty : empty.OrderedInside := by
  intro entry hentry
  cases hentry

/-- What is in a collection was there, or is added. -/
theorem mem_or_mem_of_mem_addTo {collection : String} {documents : List Document}
    {collections : List (String × List Document)} {entry : String × List Document}
    (hentry : entry ∈ addTo collection documents collections) {document : Document}
    (hdocument : document ∈ entry.2) :
    (∃ old ∈ collections, document ∈ old.2) ∨ document ∈ documents := by
  induction collections with
  | nil =>
    rw [List.mem_singleton.mp hentry] at hdocument
    exact .inr hdocument
  | cons first rest ih =>
    obtain ⟨name, old⟩ := first
    rw [addTo] at hentry
    split at hentry
    · rcases List.mem_cons.mp hentry with rfl | hrest
      · refine (List.mem_append.mp hdocument).imp_left fun hold => ?_
        exact ⟨(name, old), List.mem_cons_self, hold⟩
      · exact .inl ⟨entry, List.mem_cons_of_mem _ hrest, hdocument⟩
    · rcases List.mem_cons.mp hentry with rfl | hrest
      · exact .inl ⟨(name, old), List.mem_cons_self, hdocument⟩
      · refine (ih hrest).imp_left fun ⟨other, hother, hmem⟩ => ?_
        exact ⟨other, List.mem_cons_of_mem _ hother, hmem⟩

section

variable {store : Store} (h : store.OrderedInside)

include h

theorem OrderedInside.of_documents? {collection : String} {stored : List Document}
    (hstored : store.documents? collection = some stored) :
    ∀ document ∈ stored, document.OrderedInside := by
  obtain ⟨before, after, hentries, _⟩ := List.lookup_eq_some_iff.mp hstored
  exact h (collection, stored) (by rw [hentries]; simp)

/-- **A stage keeps the order inside documents.** -/
theorem orderedInside_apply (stage : Stage) {documents : List Document}
    (hdocuments : ∀ document ∈ documents, document.OrderedInside) :
    ∀ result ∈ store.apply documents stage, result.OrderedInside := by
  intro result hresult
  cases stage with
  | select criteria => exact hdocuments result (List.mem_of_mem_filter hresult)
  | join lookup =>
    obtain ⟨document, hdocument, rfl⟩ := List.mem_map.mp hresult
    refine lookup.orderedInside_extend ?_ (hdocuments document hdocument)
    cases hforeign : store.documents? lookup.collection with
    | none => exact List.forall_mem_nil _
    | some foreign => exact h.of_documents? hforeign
  | unwind spec =>
    obtain ⟨document, hdocument, hspread⟩ := List.mem_flatMap.mp hresult
    exact Unwind.orderedInside_of_mem_spread (hdocuments document hdocument) hspread

/-- So does a run of stages. -/
theorem orderedInside_run (stages : List Stage) {documents : List Document}
    (hdocuments : ∀ document ∈ documents, document.OrderedInside) :
    ∀ result ∈ store.run stages documents, result.OrderedInside := by
  induction stages generalizing documents with
  | nil => exact hdocuments
  | cons stage rest ih => exact ih (orderedInside_apply h stage hdocuments)

theorem orderedInside_exec {pipeline : Pipeline} {documents : List Document}
    (hexec : store.exec pipeline = .ok documents) :
    ∀ document ∈ documents, document.OrderedInside := by
  cases hstored : store.documents? pipeline.collection with
  | none =>
    unfold exec at hexec
    rw [hstored] at hexec
    cases hexec
  | some stored =>
    rw [store.exec_eq_run hstored] at hexec
    obtain rfl := Except.ok.inj hexec
    exact orderedInside_run h pipeline.stages (h.of_documents? hstored)

theorem orderedInside_insert (collection : String) {documents : List Document}
    (hdocuments : ∀ document ∈ documents, document.OrderedInside) :
    (store.insert collection documents).OrderedInside := by
  unfold insert
  split
  · exact h
  · intro entry hentry document hdocument
    rcases mem_or_mem_of_mem_addTo hentry hdocument with ⟨old, hold, hmem⟩ | hnew
    · exact h old hold document hmem
    · exact hdocuments document hnew

end

end Store

/-! ### Sessions -/

/-- The documents that a step brings in. -/
def Step.inserted : Step → List Document
  | .insert _ documents => documents
  | _ => []

namespace Session

theorem Transition.orderedInside {session : Session} {step : Step} {outcome : Outcome}
    (h : session.Transition step outcome) (hstore : session.store.OrderedInside)
    (hstep : ∀ document ∈ step.inserted, document.OrderedInside) :
    outcome.session.store.OrderedInside := by
  cases h with
  | inserted collection documents => exact Store.orderedInside_insert hstore collection hstep
  | _ => exact hstore

/-- **All that is stored stays ordered**, if what is inserted is. -/
theorem orderedInside_after {session : Session} (h : session.store.OrderedInside)
    {steps : List Step}
    (hsteps : ∀ step ∈ steps, ∀ document ∈ step.inserted, document.OrderedInside) :
    (session.after steps).store.OrderedInside := by
  induction steps generalizing session with
  | nil => exact h
  | cons step rest ih =>
    have hstep := (session.transition_step step).orderedInside h (hsteps step List.mem_cons_self)
    exact ih hstep fun other hother => hsteps other (List.mem_cons_of_mem _ hother)

/-- So are the documents that are answered. -/
theorem orderedInside_answer {session : Session} (h : session.store.OrderedInside) {query : Query}
    {documents : List Document}
    (hanswer : (session.step (.exec query)).answer = .documents documents) :
    ∀ document ∈ documents, document.OrderedInside := by
  rw [step_exec] at hanswer
  cases hcompiled : session.compiled query with
  | error failure =>
    rw [hcompiled] at hanswer
    cases hanswer
  | ok compiled =>
    rw [hcompiled] at hanswer
    dsimp only at hanswer
    cases hexec : session.store.exec compiled.pipeline with
    | error error =>
      rw [hexec] at hanswer
      cases hanswer
    | ok found =>
      rw [hexec] at hanswer
      obtain rfl := Answer.documents.inj hanswer
      exact Store.orderedInside_exec h hexec

/-- **From the start on** all documents that are stored or answered have their members, and those of
all objects inside them, in the order of their keys, if those that are inserted have. -/
theorem orderedInside_after_start (naming : Naming) (traced : Bool) {steps : List Step}
    (hsteps : ∀ step ∈ steps, ∀ document ∈ step.inserted, document.OrderedInside) :
    ((start naming traced).after steps).store.OrderedInside ∧
      ∀ query documents,
        (((start naming traced).after steps).step (.exec query)).answer = .documents documents →
          ∀ document ∈ documents, document.OrderedInside := by
  have hstore : ((start naming traced).after steps).store.OrderedInside :=
    orderedInside_after Store.orderedInside_empty hsteps
  exact ⟨hstore, fun _ _ => orderedInside_answer hstore⟩

end Session

end JoinPlan
