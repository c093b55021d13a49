import JoinPlan.Pipeline.Basic
import JoinPlan.Store.Basic

/-!
# Executing pipelines

`Store.exec` runs the stages of a pipeline one after the other on the documents of its collection.
-/

namespace JoinPlan

/-- Why a pipeline cannot be executed. -/
inductive StoreError where
  | missingCollection (name : String)
deriving DecidableEq, Repr

/-- The wording of an error. -/
def StoreError.message : StoreError → String
  | .missingCollection name => s!"ns not found: {name}"

namespace Unwind

/-- The field that is unwound: the path without the marks of a variable. -/
def field (spec : Unwind) : String :=
  String.ofList (spec.path.toList.dropWhile (· == '$'))

/-- The documents that a document is spread to: one for each item of the array.  A document with
an empty array, `null` or nothing there is kept without the field, or dropped; any other value
stays. -/
def spread (spec : Unwind) (document : Document) : List Document :=
  match document.get? spec.field with
  | some (.array (item :: rest)) => (item :: rest).map fun value => document.insert spec.field value
  | some (.array []) | some .null | none =>
    if spec.preserveEmpty then [document.erase spec.field] else []
  | some _ => [document]

end Unwind

namespace Lookup

/-- Whether two documents share a value on the fields compared. -/
def joins (lookup : Lookup) (document candidate : Document) : Bool :=
  let values := Document.valuesAt document lookup.localField
  (Document.valuesAt candidate lookup.foreignField).any (·.isAmong values)

/-- The documents joined to a document, in stored order. -/
def partners (lookup : Lookup) (foreign : List Document) (document : Document) : List Document :=
  foreign.filter (lookup.joins document)

/-- Puts the documents joined to a document into its output field. -/
def extend (lookup : Lookup) (foreign : List Document) (document : Document) : Document :=
  document.insert lookup.output (.array ((lookup.partners foreign document).map .object))

end Lookup

namespace Store

/-- Executes a stage.  A collection that does not exist has no documents to join. -/
def apply (store : Store) (documents : List Document) : Stage → List Document
  | .select criteria => documents.filter fun document => Document.isMatch document criteria
  | .join lookup => documents.map (lookup.extend ((store.documents? lookup.collection).getD []))
  | .unwind spec => documents.flatMap spec.spread

/-- Executes a pipeline.  Its own collection has to exist. -/
def exec (store : Store) (pipeline : Pipeline) : Except StoreError (List Document) :=
  match store.documents? pipeline.collection with
  | none => .error (.missingCollection pipeline.collection)
  | some documents => .ok (pipeline.stages.foldl store.apply documents)

end Store

end JoinPlan
