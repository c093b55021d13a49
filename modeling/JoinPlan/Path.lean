/-!
# Paths

A path names a field inside a document: the names from the outermost field to the innermost one,
with dots between them.
-/

namespace JoinPlan.Path

/-- The field that identifies a document. -/
def identity : String :=
  "_id"

/-- The names on a path.  The empty path has one name, the empty one. -/
def segments (path : String) : List String :=
  (path.toList.splitOn '.').map String.ofList

/-- The path of a field inside the field at `parent`, or at the top. -/
def child (parent : Option String) (name : String) : String :=
  match parent with
  | some path => path ++ "." ++ name
  | none => name

/-- The variable that stands for the field at a path. -/
def variableName (path : String) : String :=
  "$" ++ path

end JoinPlan.Path
