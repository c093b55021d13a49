import JoinPlan.Criteria.Cast
import JoinPlan.Event
import JoinPlan.Join.Table

/-!
# Compiling lookups

A lookup on an entity becomes a pipeline: the cast criteria select documents, and each join of the
entity's table follows in order.  Joins that the caller excludes, and joins without anything to join
with, are dropped and reported.  Collections that come from references are looked up again at this
point, so that entities attached after the scan are found.
-/

namespace JoinPlan

/-- What a caller asks of a lookup besides the criteria: names of joins to leave out, and whether
the disk may be used, if that is not to be as usual. -/
structure LookupOptions where
  exclude : List String := []
  allowDiskUse : Option Bool := none
deriving DecidableEq, Repr

/-- Why a join is left out, if it is.  Exclusion is asked first. -/
def Descriptor.dropReason? (options : LookupOptions) (d : Descriptor) : Option DropReason :=
  if options.exclude.any d.isAddressedBy then some .excluded
  else if d.isResolvable then none
  else some .unresolvable

/-- All that a lookup is compiled from, besides what the caller asks. -/
structure CompileContext where
  schema : Schema
  collection : String
  table : Table
  targets : Targets
  caster : Caster
  allowDiskUse : Bool
  traced : Bool

namespace CompileContext

variable {σ : Type}

/-- Casts the criteria, if there are any. -/
def cast (ctx : CompileContext) : Option Criteria → Except CastError (Option Criteria)
  | some criteria => (ctx.caster ctx.schema criteria).map some
  | none => .ok none

/-- Rebinds the joins that stay, in order.  Each of the others is reported when its turn comes. -/
def bindJoins (ctx : CompileContext) (options : LookupOptions) :
    List Descriptor → Observed σ CastError (List Descriptor)
  | [] => return []
  | d :: rest =>
    match d.dropReason? options with
    | some reason => do
      Observed.tell ctx.traced (.descriptorDropped ctx.schema.entity d.path reason)
      ctx.bindJoins options rest
    | none => do
      let others ← ctx.bindJoins options rest
      return d.rebind ctx.targets :: others

/-- The pipeline for criteria that are cast and joins that are bound. -/
def pipeline (ctx : CompileContext) (criteria : Option Criteria) (joins : List Descriptor)
    (options : LookupOptions) : Pipeline where
  collection := ctx.collection
  stages := criteria.toList.map .select ++ joins.flatMap Descriptor.stages
  allowDiskUse := options.allowDiskUse.getD ctx.allowDiskUse

/-- Compiles a lookup.  The criteria come first, so that nothing has been reported when they cannot
be cast. -/
def compileM (ctx : CompileContext) (criteria : Option Criteria) (options : LookupOptions) :
    Observed σ CastError Pipeline := do
  let cast ← ofExcept (ctx.cast criteria)
  let joins ← ctx.bindJoins options ctx.table.entries
  let pipeline := ctx.pipeline cast joins options
  Observed.tell ctx.traced (.compiled ctx.schema.entity pipeline.fingerprint
    pipeline.stages.length pipeline.allowDiskUse)
  return pipeline

end CompileContext

/-! ### Results -/

/-- A pipeline with the report of its compilation. -/
structure Compiled where
  pipeline : Pipeline
  events : List Event

/-- What a compilation gives to a caller who keeps the report of pipelines only. -/
def Compiled.of {ε : Type} (compilation : Observed Unit ε Pipeline) : Except ε Compiled :=
  match compilation.run ⟨(), []⟩ with
  | .ok pipeline watched => .ok ⟨pipeline, watched.told⟩
  | .error error _ => .error error

/-- Compiles a lookup to a pipeline and its report. -/
def CompileContext.compile (ctx : CompileContext) (criteria : Option Criteria)
    (options : LookupOptions) : Except CastError Compiled :=
  Compiled.of (ctx.compileM criteria options)

end JoinPlan
