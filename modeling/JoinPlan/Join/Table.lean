import JoinPlan.Join.Descriptor

/-!
# Descriptor tables

The joins of an entity, in the order in which their fields are first met, one for each path.
Putting in a descriptor replaces the one of the same path where it stands
(`Descriptor.paths_putInto`).
-/

namespace JoinPlan

/-- Puts a descriptor in the place of the one with its path, or at the end. -/
def Descriptor.putInto (d : Descriptor) : List Descriptor → List Descriptor
  | [] => [d]
  | e :: rest => if e.path = d.path then d :: rest else e :: d.putInto rest

/-- The paths stay as they are, or the new one comes last. -/
theorem Descriptor.paths_putInto (d : Descriptor) (entries : List Descriptor) :
    (d.putInto entries).map (·.path) =
      if d.path ∈ entries.map (·.path) then entries.map (·.path)
      else entries.map (·.path) ++ [d.path] := by
  induction entries with
  | nil => simp [putInto]
  | cons e rest ih =>
    by_cases h : e.path = d.path
    · simp [putInto, h]
    · have h' : ¬ d.path = e.path := fun q => h q.symm
      simp only [putInto, h, if_false, List.map_cons, ih, List.mem_cons, h', false_or]
      split <;> simp

/-- Descriptors with distinct paths. -/
structure Table where
  entries : List Descriptor
  distinct : (entries.map (·.path)).Nodup

namespace Table

/-- The table without entries. -/
def empty : Table :=
  ⟨[], by simp⟩

/-- The paths of the entries, in order. -/
def paths (table : Table) : List String :=
  table.entries.map (·.path)

/-- The number of entries. -/
def size (table : Table) : Nat :=
  table.entries.length

/-- The entry of a path. -/
def get? (table : Table) (path : String) : Option Descriptor :=
  table.entries.find? (·.path = path)

/-- Puts a descriptor under its path. -/
def insert (table : Table) (d : Descriptor) : Table where
  entries := d.putInto table.entries
  distinct := by
    have h := table.distinct
    rw [d.paths_putInto]
    split
    · exact h
    · rename_i absent
      exact List.nodup_append.2 ⟨h, by simp, fun a ha b hb => by grind⟩

/-- The table that arises when descriptors are put in one after the other. -/
def ofList (descriptors : List Descriptor) : Table :=
  descriptors.foldl insert empty

end Table

end JoinPlan
