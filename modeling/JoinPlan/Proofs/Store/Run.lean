import JoinPlan.Proofs.Path
import JoinPlan.Store.Exec
import Mathlib.Data.List.Forall2

/-!
# Runs of stages

Every stage treats the documents one by one, and so does a run of any number of stages
(`Store.run_eq_flatMap`): what happens to a collection is known once it is known for a collection of
one document.

A lookup with the unwinding of its output is then a left outer join (`Store.run_join_unwind`).  Of a
document it makes one copy for each partner, or, where there is none, the document without the
output field or nothing at all (`Lookup.outerJoin`).
-/

namespace JoinPlan

/-! ### Documents -/

namespace Fields

variable (fields : Fields) (key : String)

/-- The value put in last is the one that counts. -/
theorem insert_insert (first last : Json) :
    (fields.insert key first).insert key last = fields.insert key last := by
  induction fields with
  | nil => simp [insert]
  | cons head rest ih =>
    obtain ⟨name, old⟩ := head
    by_cases heq : name = key
    · simp [insert, heq]
    · by_cases hlt : key < name
      · simp [insert, heq, hlt]
      · simp [insert, heq, hlt, ih]

/-- Nothing is left of a value that is put in and removed. -/
theorem erase_insert (value : Json) : (fields.insert key value).erase key = fields.erase key := by
  induction fields with
  | nil => simp [insert, erase]
  | cons head rest ih =>
    obtain ⟨name, old⟩ := head
    by_cases heq : name = key
    · simp [insert, erase, heq]
    · by_cases hlt : key < name
      · simp [insert, erase, heq, hlt]
      · simpa [insert, erase, heq, hlt] using ih

theorem get?_insert_self (value : Json) :
    (fields.insert key value).get? key = some value := by
  rw [get?_insert, if_pos rfl]

end Fields

/-- The values that a field holds: the items of its array, or its value. -/
def Json.valuesOf (stored : Option Json) : List Json :=
  stored.toList.flatMap (·.spread)

theorem Json.valuesOf_single {value : Json} (h : ∀ items, value ≠ .array items) :
    valuesOf (some value) = [value] := by
  cases value with
  | array items => exact absurd rfl (h items)
  | _ => rfl

/-- A path without dots leads to the field of that name. -/
theorem Document.valuesAt_of_undotted (document : Document) {path : String}
    (h : '.' ∉ path.toList) :
    Document.valuesAt document path = Json.valuesOf (document.get? path) := by
  unfold Document.valuesAt Document.descend
  rw [Path.segments_of_undotted h]
  simp [Json.under, Json.valuesOf]

/-- The variable of a path stands for that path, unless the path looks like a variable itself. -/
theorem Unwind.field_variableName {path : String} (h : path.toList.head? ≠ some '$')
    (preserveEmpty : Bool) : (Unwind.mk (Path.variableName path) preserveEmpty).field = path := by
  unfold field Path.variableName
  have hkeep : path.toList.dropWhile (· == '$') = path.toList := by
    cases hpath : path.toList with
    | nil => rfl
    | cons c rest =>
      have hc : c ≠ '$' := fun heq => h (by rw [hpath, heq, List.head?_cons])
      simp [hc]
  simp [String.toList_append, hkeep, String.ofList_toList]

/-! ### Runs -/

namespace Store

variable (store : Store)

/-- Executes stages one after the other. -/
def run (stages : List Stage) (documents : List Document) : List Document :=
  stages.foldl store.apply documents

theorem exec_eq_run {pipeline : Pipeline} {stored : List Document}
    (h : store.documents? pipeline.collection = some stored) :
    store.exec pipeline = .ok (store.run pipeline.stages stored) := by
  unfold exec
  rw [h]
  rfl

theorem run_append (first last : List Stage) (documents : List Document) :
    store.run (first ++ last) documents = store.run last (store.run first documents) :=
  List.foldl_append

/-- A stage treats the documents one by one. -/
theorem apply_eq_flatMap (stage : Stage) (documents : List Document) :
    store.apply documents stage =
      documents.flatMap fun document => store.apply [document] stage := by
  cases stage with
  | select criteria =>
    let wanted := fun document => Document.isMatch document criteria
    show documents.filter wanted = documents.flatMap fun document => [document].filter wanted
    induction documents with
    | nil => rfl
    | cons document rest ih =>
      rw [List.flatMap_cons, ← ih]
      exact List.filter_append [document] rest
  | join lookup =>
    show documents.map _ = documents.flatMap fun document => [_]
    rw [List.map_eq_flatMap]
  | unwind spec =>
    show documents.flatMap _ = documents.flatMap fun document => [document].flatMap _
    simp only [List.flatMap_singleton]

/-- **A run treats the documents one by one.** -/
theorem run_eq_flatMap (stages : List Stage) (documents : List Document) :
    store.run stages documents = documents.flatMap fun document => store.run stages [document] := by
  induction stages generalizing documents with
  | nil => exact (List.flatMap_singleton' documents).symm
  | cons stage rest ih =>
    -- Both sides end in a run of the rest, on each document that the stage makes by itself.
    show store.run rest (store.apply documents stage) = _
    rw [ih, apply_eq_flatMap, List.flatMap_assoc]
    apply List.flatMap_congr
    intro document _
    exact (ih (store.apply [document] stage)).symm

/-- Criteria at the front select documents for the stages that follow. -/
theorem run_select (criteria : Option Criteria) (stages : List Stage) (documents : List Document) :
    store.run (criteria.toList.map .select ++ stages) documents =
      store.run stages
        (documents.filter fun document => criteria.all (Document.isMatch document)) := by
  rw [run_append]
  cases criteria with
  | none =>
    have hall : documents = documents.filter fun document => none.all (Document.isMatch document) :=
      (List.filter_eq_self.mpr fun _ _ => rfl).symm
    rw [← hall]
    rfl
  | some criteria => rfl

/-- Where each document becomes exactly one, the results stand in the order of the documents. -/
theorem forall₂_run {stages : List Stage} {R : Document → Document → Prop}
    {documents : List Document}
    (h : ∀ document ∈ documents, ∃ result,
      store.run stages [document] = [result] ∧ R document result) :
    List.Forall₂ R documents (store.run stages documents) := by
  rw [run_eq_flatMap]
  induction documents with
  | nil => exact .nil
  | cons document rest ih =>
    obtain ⟨result, hrun, hresult⟩ := h document List.mem_cons_self
    rw [List.flatMap_cons, hrun]
    exact .cons hresult (ih fun other hother => h other (List.mem_cons_of_mem _ hother))

end Store

/-! ### Left outer joins -/

/-- The documents that a left outer join makes of a document. -/
def Lookup.outerJoin (lookup : Lookup) (foreign : List Document) (preserveEmpty : Bool)
    (document : Document) : List Document :=
  match lookup.partners foreign document with
  | [] => if preserveEmpty then [document.erase lookup.output] else []
  | partners => partners.map fun partner => document.insert lookup.output (.object partner)

theorem Lookup.outerJoin_of_nil {lookup : Lookup} {foreign : List Document} {document : Document}
    (h : lookup.partners foreign document = []) (preserveEmpty : Bool) :
    lookup.outerJoin foreign preserveEmpty document =
      if preserveEmpty then [document.erase lookup.output] else [] := by
  unfold outerJoin
  rw [h]

theorem Lookup.outerJoin_of_singleton {lookup : Lookup} {foreign : List Document}
    {document partner : Document} (h : lookup.partners foreign document = [partner])
    (preserveEmpty : Bool) :
    lookup.outerJoin foreign preserveEmpty document =
      [document.insert lookup.output (.object partner)] := by
  unfold outerJoin
  rw [h]
  rfl

/-- The documents of a collection; one that does not exist has none. -/
def Store.documentsIn (store : Store) (collection : String) : List Document :=
  (store.documents? collection).getD []

theorem Store.run_join (store : Store) (lookup : Lookup) (document : Document) :
    store.run [.join lookup] [document] =
      [lookup.extend (store.documentsIn lookup.collection) document] :=
  rfl

/-- **A lookup and the unwinding of its output are a left outer join.** -/
theorem Store.run_join_unwind (store : Store) (lookup : Lookup) (preserveEmpty : Bool)
    (document : Document) (h : lookup.output.toList.head? ≠ some '$') :
    store.run [.join lookup, .unwind ⟨Path.variableName lookup.output, preserveEmpty⟩] [document] =
      lookup.outerJoin (store.documentsIn lookup.collection) preserveEmpty document := by
  have hrun : store.run [.join lookup, .unwind ⟨Path.variableName lookup.output, preserveEmpty⟩]
      [document] = Unwind.spread ⟨Path.variableName lookup.output, preserveEmpty⟩
        (lookup.extend (store.documentsIn lookup.collection) document) :=
    List.flatMap_singleton ..
  rw [hrun]
  -- The unwinding finds the array that was just put in, and no other value.
  unfold Unwind.spread Lookup.extend Lookup.outerJoin
  rw [Unwind.field_variableName h, Fields.get?_insert_self]
  cases lookup.partners (store.documentsIn lookup.collection) document with
  | nil => simp only [List.map_nil, Fields.erase_insert]
  | cons partner rest =>
    simp only [List.map_cons, List.map_map, Fields.insert_insert]
    rfl

end JoinPlan
