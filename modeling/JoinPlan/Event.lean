import JoinPlan.Pipeline.Fingerprint

/-!
# Events

What attaching a model and compiling a lookup report to an observer, in the order in which it
happens.

Both can fail, and what has been told by then stays told.  So an `Observed` action leaves what it has
told, and the state that it works on, beside its result and beside its failure.
-/

namespace JoinPlan

/-- Why a join is left out of a pipeline. -/
inductive DropReason where
  /-- The caller excludes the join by name. -/
  | excluded
  /-- Neither an entity nor a collection to join with is known. -/
  | unresolvable
deriving DecidableEq, Repr

/-- Something that an observer is told. -/
inductive Event where
  /-- A model was attached, with so many joins. -/
  | attached (entity : String) (descriptors : Nat)
  /-- A field is marked, but names nothing to join with. -/
  | fieldSkipped (entity field : String)
  /-- A join was left out of a pipeline. -/
  | descriptorDropped (entity field : String) (reason : DropReason)
  /-- A pipeline was compiled. -/
  | compiled (entity : String) (fingerprint : Fingerprint) (stages : Nat) (allowDiskUse : Bool)
deriving DecidableEq, Repr

/-! ### Actions under observation -/

/-- A state, and what its observer has been told so far. -/
structure Watched (σ : Type) where
  state : σ
  told : List Event

/-- An action on a state that is watched.  It may fail on its way. -/
abbrev Observed (σ ε α : Type) :=
  EStateM ε (Watched σ) α

variable {σ ε : Type}

/-- Tells the observer some more. -/
def Watched.tell (watched : Watched σ) (events : List Event) : Watched σ :=
  { watched with told := watched.told ++ events }

/-- Tells the observer something, if there is one. -/
def Observed.tell (traced : Bool) (event : Event) : Observed σ ε Unit :=
  if traced then modify (·.tell [event]) else pure ()

end JoinPlan
