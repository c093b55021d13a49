import JoinPlan.Json.Basic
import JoinPlan.Path

/-!
# Stores

A `Store` holds documents in named collections.  A path reaches values inside a document: it
descends into objects by name, goes through arrays item by item, and takes an array at its end
apart once (`valuesAt`).  Criteria are met when on each of their paths some value is the one
required, or among those required.
-/

namespace JoinPlan

/-! ### Collections -/

/-- Documents by collection. -/
structure Store where
  collections : List (String × List Document)

namespace Store

/-- A store without collections. -/
def empty : Store :=
  ⟨[]⟩

/-- The documents of a collection, if it exists. -/
def documents? (store : Store) (collection : String) : Option (List Document) :=
  store.collections.lookup collection

/-- Adds documents to a collection, creating it. -/
def addTo (collection : String) (documents : List Document) :
    List (String × List Document) → List (String × List Document)
  | [] => [(collection, documents)]
  | (name, old) :: rest =>
    if name = collection then (name, old ++ documents) :: rest
    else (name, old) :: addTo collection documents rest

/-- Adds documents to a collection.  No documents create no collection. -/
def insert (store : Store) (collection : String) (documents : List Document) : Store :=
  if documents.isEmpty then store else ⟨addTo collection documents store.collections⟩

end Store

/-! ### Values on a path -/

namespace Json

/-- The values under a name in a value: the member of an object, or those of the objects in an
array. -/
def under (name : String) : Json → List Json
  | .object members => (Fields.get? members name).toList
  | .array items => items.filterMap (·.get? name)
  | _ => []

/-- The items of an array; another value stands for itself. -/
def spread : Json → List Json
  | .array items => items
  | value => [value]

end Json

namespace Document

/-- The values that names lead to from some values. -/
def descend (values : List Json) (names : List String) : List Json :=
  names.foldl (fun reached name => reached.flatMap (·.under name)) values

/-- The values on a path of a document. -/
def valuesAt (document : Document) (path : String) : List Json :=
  (descend [.object document] (Path.segments path)).flatMap (·.spread)

/-- Whether values meet a condition: one of them is among the options of `$in`, or is the
condition. -/
def meets (values : List Json) (condition : Json) : Bool :=
  match condition.get? "$in" with
  | some (.array options) => values.any (·.isAmong options)
  | _ => condition.isAmong values

/-- Whether a document meets criteria. -/
def isMatch (document : Document) (criteria : Criteria) : Bool :=
  criteria.all fun (path, condition) => meets (valuesAt document path) condition

end Document

end JoinPlan
