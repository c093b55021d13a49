import JoinPlan.Number.Binary64

/-!
# JSON values

Documents, match criteria and marks of fields are JSON values.  Numbers are of two sorts,
integers and binary64 numbers, and a number of one sort never equals one of the other.  The
members of an object stand in ascending order of their keys, each key once (`Fields.Ordered`);
`Fields.insert` and `Fields.erase` keep that order, and `Fields.get?` reads through them as
through a map.

Two values are the same when they agree member by member and their numbers have equal values
(`Json.same`); that identifies the two zeros, and nothing else.
-/

namespace JoinPlan

/-- A number: an integer, or a binary64 number. -/
inductive JsonNumber where
  | int (value : Int)
  | float (value : Binary64)
deriving DecidableEq, Repr

/-- A JSON value. -/
inductive Json where
  | null
  | bool (value : Bool)
  | number (value : JsonNumber)
  | string (value : String)
  | array (items : List Json)
  | object (members : List (String × Json))
deriving Inhabited

/-- The members of an object. -/
abbrev Fields := List (String × Json)

/-- A stored or joined document. -/
abbrev Document := Fields

/-- Match criteria: a condition for each path. -/
abbrev Criteria := Fields

/-! ### Members -/

namespace Fields

/-- The members stand in strictly ascending order of their keys. -/
def Ordered (fields : Fields) : Prop :=
  fields.Pairwise fun a b => a.1 < b.1

/-- The keys, in order. -/
def keys (fields : Fields) : List String :=
  fields.map (·.1)

/-- The value under a key. -/
def get? : Fields → String → Option Json
  | [], _ => none
  | (name, value) :: rest, key => if name = key then some value else get? rest key

/-- Puts a value under a key, in its place among the keys, replacing the one that was there. -/
def insert : Fields → String → Json → Fields
  | [], key, value => [(key, value)]
  | (name, old) :: rest, key, value =>
    if name = key then (key, value) :: rest
    else if key < name then (key, value) :: (name, old) :: rest
    else (name, old) :: insert rest key value

/-- Removes what is under a key. -/
def erase (fields : Fields) (key : String) : Fields :=
  fields.filter (·.1 ≠ key)

/-- What stands under a name after a value is put under a key. -/
theorem get?_insert (fields : Fields) (key : String) (value : Json) (name : String) :
    (fields.insert key value).get? name = if key = name then some value else fields.get? name := by
  fun_induction insert fields key value with
  | case1 => simp [get?]
  | case2 => simp only [get?]; grind
  | case3 => simp only [get?]
  | case4 => simp only [get?]; grind

/-- What stands under a name after a key is removed. -/
theorem get?_erase (fields : Fields) (key name : String) :
    (fields.erase key).get? name = if key = name then none else fields.get? name := by
  induction fields with
  | nil => simp [erase, get?]
  | cons head rest ih =>
    simp only [erase, List.filter_cons] at ih ⊢
    split
    · simp only [get?, ih]; grind
    · simp only [get?, ih]; grind

/-- An insertion brings in no other member. -/
theorem eq_or_mem_of_mem_insert {fields : Fields} {key : String} {value : Json}
    {member : String × Json} (h : member ∈ fields.insert key value) :
    member = (key, value) ∨ member ∈ fields := by
  induction fields with
  | nil => exact .inl (List.mem_singleton.1 h)
  | cons head rest ih =>
    simp only [insert] at h
    split at h
    · exact (List.mem_cons.1 h).imp_right (List.mem_cons_of_mem _)
    · split at h
      · exact List.mem_cons.1 h
      · rcases List.mem_cons.1 h with rfl | h
        · exact .inr List.mem_cons_self
        · exact (ih h).imp_right (List.mem_cons_of_mem _)

/-- Insertion keeps the order of the keys. -/
theorem ordered_insert {fields : Fields} (h : fields.Ordered) (key : String) (value : Json) :
    (fields.insert key value).Ordered := by
  induction fields with
  | nil => exact List.pairwise_singleton _ _
  | cons head rest ih =>
    have hrest := List.pairwise_cons.1 h
    simp only [insert]
    split
    · rename_i heq
      exact List.pairwise_cons.2 ⟨fun member hm => heq ▸ hrest.1 member hm, hrest.2⟩
    · rename_i hne
      split
      · rename_i hlt
        refine List.pairwise_cons.2 ⟨fun member hm => ?_, h⟩
        rcases List.mem_cons.1 hm with hm | hm
        · rw [hm]; exact hlt
        · exact String.lt_trans hlt (hrest.1 member hm)
      · rename_i hnlt
        refine List.pairwise_cons.2 ⟨fun member hm => ?_, ih hrest.2⟩
        rcases eq_or_mem_of_mem_insert hm with rfl | hm
        · exact Std.lt_of_le_of_ne (String.not_lt.1 hnlt) hne
        · exact hrest.1 member hm

/-- Removal keeps the order of the keys. -/
theorem ordered_erase {fields : Fields} (h : fields.Ordered) (key : String) :
    (fields.erase key).Ordered :=
  List.Pairwise.filter _ h

end Fields

/-! ### Values -/

/-- Numbers of one sort and of equal value. -/
def JsonNumber.same : JsonNumber → JsonNumber → Bool
  | .int a, .int b => a == b
  | .float a, .float b => a.same b
  | _, _ => false

mutual

/-- Equality of values, with numbers compared by value. -/
def Json.same : Json → Json → Bool
  | .null, .null => true
  | .bool a, .bool b => a == b
  | .number a, .number b => a.same b
  | .string a, .string b => a == b
  | .array xs, .array ys => sameItems xs ys
  | .object xs, .object ys => sameMembers xs ys
  | _, _ => false

/-- Equality of arrays, item by item. -/
def sameItems : List Json → List Json → Bool
  | [], [] => true
  | x :: xs, y :: ys => x.same y && sameItems xs ys
  | _, _ => false

/-- Equality of objects, member by member. -/
def sameMembers : List (String × Json) → List (String × Json) → Bool
  | [], [] => true
  | (k, x) :: xs, (l, y) :: ys => k == l && x.same y && sameMembers xs ys
  | _, _ => false

end

namespace Json

/-- Whether a value is among some others. -/
def isAmong (value : Json) (others : List Json) : Bool :=
  others.any value.same

/-- The member of an object under a key; other values have none. -/
def get? : Json → String → Option Json
  | .object members, key => Fields.get? members key
  | _, _ => none

theorem array_or_ne (value : Json) :
    (∃ items, value = .array items) ∨ ∀ items, value ≠ .array items := by
  cases value with
  | array items => exact .inl ⟨items, rfl⟩
  | _ => exact .inr fun items h => nomatch h

end Json

end JoinPlan
