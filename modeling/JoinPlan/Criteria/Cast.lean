import JoinPlan.Json.Printer
import JoinPlan.Number.Numeral
import JoinPlan.Schema.Path
import JoinPlan.Text.Blank

/-!
# Casting criteria

Criteria arrive with loosely typed values, and casting gives every value the kind that the schema
declares for its path.  A value is cast by itself, by the items of a list, or under an operator;
logical operators hold further criteria.  Paths that the schema does not know, and values of
unchecked kind, stay as they are.  The first value that cannot be cast decides the error, in the
order of the criteria.
-/

namespace JoinPlan

/-! ### Errors -/

/-- What is expected of a value. -/
inductive Expected where
  | array
  | scalar (type : Scalar)
deriving DecidableEq, Repr

/-- The name of what is expected. -/
def Expected.label : Expected → String
  | .array => "array"
  | .scalar type => type.label

/-- Why criteria cannot be cast. -/
inductive CastError where
  /-- A value is not of the kind of its path. -/
  | invalidValue (path : String) (expected : Expected) (found : Json)
  /-- A logical operator holds something other than an array of criteria. -/
  | logicalShape (operator : String)
  /-- An operator is unknown. -/
  | unsupportedOperator (path operator : String)

/-- The wording of an error. -/
def CastError.message : CastError → String
  | .invalidValue path expected found =>
    let text := found.text
    let label := expected.label
    s!"cannot cast {text} to {label} at '{path}'"
  | .logicalShape operator =>
    s!"logical operator '{operator}' expects an array of criteria"
  | .unsupportedOperator path operator =>
    s!"unsupported operator '{operator}' at '{path}'"

/-! ### Scalars -/

/-- The integers of 64 bits. -/
def isInt64 (n : Int) : Bool :=
  let limit : Int := (1 <<< 63 : Nat)
  n < limit && -limit ≤ n

/-- The integer that a text denotes, blanks around it aside. -/
def integerOfText? (s : String) : Option Int :=
  (Numeral.integer? (Text.trim s.toList)).filter isInt64

/-- The finite number that a text denotes, blanks around it aside. -/
def floatOfText? (s : String) : Option Binary64 :=
  Numeral.float? (Text.trim s.toList)

/-- The text of a truth value. -/
def boolText (value : Bool) : String :=
  if value then "true" else "false"

/-- A value as one of a scalar kind, if it can be taken for one.  Numbers and truth values may be
given as text and the reverse, one and zero may stand for truth values, a timestamp may be an
integer, and `null` is of every kind. -/
def Scalar.convert? : Scalar → Json → Option Json
  | _, .null => some .null
  | .id, .string s => some (.string s)
  | .reference, .string s => some (.string s)
  | .text, .string s => some (.string s)
  | .text, .number n => some (.string (String.ofList n.text))
  | .text, .bool b => some (.string (boolText b))
  | .timestamp, .string s => some (.string s)
  | .timestamp, .number (.int n) => some (.number (.int n))
  | .int, .number (.int n) => some (.number (.int n))
  | .int, .string s => (integerOfText? s).map fun n => .number (.int n)
  | .float, .number n => some (.number n)
  | .float, .string s => (floatOfText? s).map fun x => .number (.float x)
  | .bool, .bool b => some (.bool b)
  | .bool, .string s =>
    if s = "true" then some (.bool true) else if s = "false" then some (.bool false) else none
  | .bool, .number (.int n) =>
    if n = 0 then some (.bool false) else if n = 1 then some (.bool true) else none
  | _, _ => none

/-- Casts a value to a scalar kind. -/
def castScalar (path : String) (type : Scalar) (value : Json) : Except CastError Json :=
  match type.convert? value with
  | some cast => .ok cast
  | none => .error (.invalidValue path (.scalar type) value)

/-! ### Conditions -/

/-- Casts a value to a kind.  Where a list is declared an array is cast item by item, and another
value is taken for an item. -/
def castValue (path : String) : Kind → Json → Except CastError Json
  | .scalar type, value => castScalar path type value
  | .mixed, value => .ok value
  | .embedded _, value => .ok value
  | .list ⟨kind, _⟩, .array items =>
    (items.mapM fun item => castValue path kind item).map .array
  | .list ⟨kind, _⟩, value => castValue path kind value
termination_by structural kind => kind

/-- Operators that compare with one value. -/
def comparisonOperators : List String :=
  ["$eq", "$ne", "$gt", "$gte", "$lt", "$lte"]

/-- Operators that compare with several values. -/
def listOperators : List String :=
  ["$in", "$nin"]

/-- Operators that combine criteria. -/
def logicalOperators : List String :=
  ["$and", "$or", "$nor"]

/-- Whether a key is written like an operator. -/
def isOperator (key : String) : Bool :=
  key.toList.head? == some '$'

/-- Casts the operand of an operator. -/
def castOperand (path : String) (kind : Kind) (operator : String) (operand : Json) :
    Except CastError Json :=
  if comparisonOperators.contains operator then castValue path kind operand
  else if listOperators.contains operator then
    match operand with
    | .array items => (items.mapM fun item => castValue path kind item).map .array
    | other => .error (.invalidValue path .array other)
  else if operator = "$exists" then castScalar path .bool operand
  else .error (.unsupportedOperator path operator)

/-- Casts operands in order. -/
def castOperands (path : String) (kind : Kind) : Fields → Except CastError Fields
  | [] => .ok []
  | (operator, operand) :: rest => do
    let cast ← castOperand path kind operator operand
    return (operator, cast) :: (← castOperands path kind rest)

/-- Casts the condition on a path: an object with operators, or else a value. -/
def castCondition (path : String) (kind : Kind) (condition : Json) : Except CastError Json :=
  match condition with
  | .object members =>
    if members.any fun member => isOperator member.1 then
      (castOperands path kind members).map .object
    else castValue path kind condition
  | value => castValue path kind value

/-! ### Criteria -/

namespace Schema

/-- Casts the condition on a path, if the schema knows the path. -/
def castAt (schema : Schema) (path : String) (condition : Json) : Except CastError Json :=
  match schema.kindAt path with
  | some kind => castCondition path kind condition
  | none => .ok condition

mutual

/-- Casts criteria entry by entry. -/
def castCriteria (schema : Schema) : List (String × Json) → Except CastError Criteria
  | [] => .ok []
  | (key, condition) :: rest => do
    let cast ← castEntry schema key condition
    return (key, cast) :: (← castCriteria schema rest)

/-- Casts what stands under a key: further criteria under a logical operator, else a condition. -/
def castEntry (schema : Schema) (key : String) : Json → Except CastError Json
  | .array branches =>
    if logicalOperators.contains key then (castBranches schema key branches).map .array
    else schema.castAt key (.array branches)
  | condition =>
    if logicalOperators.contains key then .error (.logicalShape key)
    else schema.castAt key condition

/-- Casts the branches of a logical operator in order. -/
def castBranches (schema : Schema) (operator : String) : List Json → Except CastError (List Json)
  | [] => .ok []
  | branch :: rest => do
    let cast ← castBranch schema operator branch
    return cast :: (← castBranches schema operator rest)

/-- Casts one branch of a logical operator, which has to be criteria. -/
def castBranch (schema : Schema) (operator : String) : Json → Except CastError Json
  | .object criteria => (castCriteria schema criteria).map .object
  | _ => .error (.logicalShape operator)

end

end Schema

/-! ### Casters -/

/-- A way of casting criteria for a schema. -/
abbrev Caster := Schema → Criteria → Except CastError Criteria

/-- Casts by the kinds of the schema. -/
def Caster.bySchema : Caster :=
  fun schema criteria => schema.castCriteria criteria

/-- Leaves criteria as they are. -/
def Caster.unchanged : Caster :=
  fun _ criteria => .ok criteria

end JoinPlan
