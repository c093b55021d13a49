import JoinPlan.Json.Basic

/-!
# Marks of joinable fields

An author marks a field as joinable with a `JoinMark`, which may override any part of the join that
would be derived for the field (`Overrides`).  Marks are written as JSON values: a flag, or the
overrides themselves.  A record of overrides is written as an object, in which unknown keys have no
effect, or as an array of its values in their order; what is missing or `null` is not overridden.
-/

namespace JoinPlan

/-! ### Unwinding -/

/-- How a joined array is unwound: the variable path of the array, and whether a document without
matches is kept. -/
structure Unwind where
  path : String
  preserveEmpty : Bool
deriving DecidableEq, Repr

/-- The parts of an unwinding that an author sets. -/
structure UnwindSettings where
  path : Option String := none
  preserveEmpty : Option Bool := none
deriving DecidableEq, Repr

/-- An author's word on unwinding: whether to do it at all, or how. -/
inductive UnwindOverride where
  | flag (wanted : Bool)
  | custom (settings : UnwindSettings)
deriving DecidableEq, Repr

namespace UnwindOverride

/-- Whether the join is to be unwound; settings imply it. -/
def wanted : UnwindOverride → Bool
  | .flag wanted => wanted
  | .custom _ => true

/-- The settings, if there are any. -/
def settings? : UnwindOverride → Option UnwindSettings
  | .flag _ => none
  | .custom settings => some settings

end UnwindOverride

/-! ### Marks -/

/-- The parts of a join that an author sets: the collection joined, the fields compared, the
field that receives the result, and the unwinding. -/
structure Overrides where
  collection : Option String := none
  localField : Option String := none
  foreignField : Option String := none
  output : Option String := none
  unwind : Option UnwindOverride := none
deriving DecidableEq, Repr

/-- The mark of a joinable field.  A disabled mark is a mark all the same, and hides one that would
otherwise be inherited. -/
structure JoinMark where
  enabled : Bool
  overrides : Overrides := {}
deriving DecidableEq, Repr

/-! ### Reading -/

namespace Json

/-- The text of a string. -/
def string? : Json → Option String
  | .string s => some s
  | _ => none

/-- The truth value of a flag. -/
def bool? : Json → Option Bool
  | .bool b => some b
  | _ => none

/-- Reads a value that may be missing, which `null` stands for. -/
def optional? {α : Type} (read : Json → Option α) : Json → Option (Option α)
  | .null => some none
  | value => (read value).map some

/-- The values of a record with these keys, given as an object or as an array in the order of the
keys; `null` stands for those that are missing. -/
def columns? (keys : List String) : Json → Option (List Json)
  | .object members => some (keys.map fun key => (Fields.get? members key).getD .null)
  | .array items =>
    if items.length ≤ keys.length then
      some (items ++ List.replicate (keys.length - items.length) .null)
    else none
  | _ => none

end Json

/-- The keys of a written unwinding. -/
def Unwind.keys : List String :=
  ["path", "preserveNullAndEmptyArrays"]

/-- Reads an unwinding, both parts of which have to be there. -/
def Unwind.ofJson? (value : Json) : Option Unwind := do
  match ← value.columns? Unwind.keys with
  | [path, preserve] => return ⟨← path.string?, ← preserve.bool?⟩
  | _ => none

/-- Reads settings for unwinding. -/
def UnwindSettings.ofJson? (value : Json) : Option UnwindSettings := do
  match ← value.columns? Unwind.keys with
  | [path, preserve] =>
    return ⟨← path.optional? Json.string?, ← preserve.optional? Json.bool?⟩
  | _ => none

/-- Reads a flag or settings. -/
def UnwindOverride.ofJson? : Json → Option UnwindOverride
  | .bool wanted => some (.flag wanted)
  | value => (UnwindSettings.ofJson? value).map .custom

/-- The keys of written overrides. -/
def Overrides.keys : List String :=
  ["from", "localField", "foreignField", "as", "unwind"]

/-- Reads overrides. -/
def Overrides.ofJson? (value : Json) : Option Overrides := do
  match ← value.columns? Overrides.keys with
  | [collection, localField, foreignField, output, unwind] =>
    return {
      collection := ← collection.optional? Json.string?
      localField := ← localField.optional? Json.string?
      foreignField := ← foreignField.optional? Json.string?
      output := ← output.optional? Json.string?
      unwind := ← unwind.optional? UnwindOverride.ofJson? }
  | _ => none

/-- Reads a mark: a flag, or the overrides of an enabled one. -/
def JoinMark.ofJson? : Json → Option JoinMark
  | .bool enabled => some ⟨enabled, {}⟩
  | value => (Overrides.ofJson? value).map fun overrides => ⟨true, overrides⟩

end JoinPlan
