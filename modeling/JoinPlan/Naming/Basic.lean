import JoinPlan.Text.Casing

/-!
# Naming

A `Naming` decides the names that a schema leaves open: the plural and the singular of a name, and
the collection in which the documents of an entity are stored.  `Targets` adds the collections that
are known already, and `Targets.resolve` gives the collection of any entity: the known one, or else
the one that the naming derives.
-/

namespace JoinPlan

/-! ### Rules for names -/

/-- The lowercase form of a name. -/
def lowercaseName (name : String) : String :=
  String.ofList (Text.lowercase name.toList)

/-- The rules for deriving names.  Unless stated otherwise a collection is called by the plural
of the entity's name in lowercase. -/
structure Naming where
  pluralize : String → String
  singularize : String → String
  collectionName : String → String := fun entity => pluralize (lowercaseName entity)

/-- The naming whose plurals carry a fixed ending, which singulars lose once. -/
def Naming.suffixed (ending : String) : Naming where
  pluralize name := name ++ ending
  singularize name :=
    if ending.toList.isSuffixOf name.toList then
      String.ofList (name.toList.take (name.toList.length - ending.toList.length))
    else name

/-! ### Collections of entities -/

/-- A naming together with the collections that are registered for entities. -/
structure Targets where
  naming : Naming
  registered : String → Option String

namespace Targets

/-- The collection that a reference to an entity leads to. -/
def resolve (targets : Targets) (reference : String) : String :=
  (targets.registered reference).getD (targets.naming.collectionName reference)

/-- The targets with these entities registered in order; a later entry replaces an earlier one. -/
def ofEntries (naming : Naming) (entries : List (String × String)) : Targets where
  naming := naming
  registered entity := entries.reverse.lookup entity

end Targets

end JoinPlan
