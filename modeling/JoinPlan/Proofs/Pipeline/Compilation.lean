import JoinPlan.Pipeline.Compile
import JoinPlan.Proofs.Success

/-!
# What compilations come to

A compilation goes through its table once, binds the joins that stay and reports the others on the
way.  What it comes to can be told part by part: the joins that stay (`kept`), the report of those
that are dropped (`dropEvents`), the pipeline (`assemble`).  The two tellings agree, whatever is
watched and whatever has been told before (`run_bindJoins`, `run_compileM`).

The one thing that can fail in a compilation is the cast of the criteria.  So a lookup compiles just
when its criteria can be cast, and then to the pipeline assembled for the cast criteria
(`compile_of_cast`, `cast_of_compile`).  What is observed adds a report to the result and changes
nothing else in it (`compile_traced`).
-/

namespace JoinPlan

variable {σ ε : Type}

/-! ### Reports -/

namespace Watched

variable (watched : Watched σ)

@[simp]
theorem state_tell (events : List Event) : (watched.tell events).state = watched.state :=
  rfl

@[simp]
theorem tell_nil : watched.tell [] = watched := by
  rw [tell, List.append_nil]

@[simp]
theorem tell_tell (events more : List Event) :
    (watched.tell events).tell more = watched.tell (events ++ more) := by
  rw [tell, tell, tell, List.append_assoc]

/-- What comes of a compilation that leaves the state alone, and that reports a pipeline and no
failure. -/
def after : Except ε Compiled → EStateM.Result ε (Watched σ) Pipeline
  | .ok compiled => .ok compiled.pipeline (watched.tell compiled.events)
  | .error error => .error error watched

end Watched

theorem Observed.run_tell (traced : Bool) (event : Event) (watched : Watched σ) :
    (Observed.tell traced event : Observed σ ε Unit).run watched =
      .ok () (watched.tell (if traced then [event] else [])) := by
  cases traced with
  | true => rfl
  | false => exact congrArg (EStateM.Result.ok ()) watched.tell_nil.symm

theorem Compiled.of_eq {compilation : Observed Unit ε Pipeline} {outcome : Except ε Compiled}
    (h : ∀ watched, compilation.run watched = watched.after outcome) :
    Compiled.of compilation = outcome := by
  unfold Compiled.of
  rw [h]
  cases outcome <;> rfl

namespace CompileContext

variable (ctx : CompileContext) (criteria : Option Criteria) (options : LookupOptions)

/-! ### Parts of a compilation -/

/-- The joins that stay, in order. -/
def kept : List Descriptor :=
  ctx.table.entries.filter fun d => (d.dropReason? options).isNone

/-- The report of the joins that are dropped, in order. -/
def dropEvents : List Event :=
  ctx.table.entries.filterMap fun d =>
    (d.dropReason? options).map (.descriptorDropped ctx.schema.entity d.path)

/-- The stages of the joins that stay. -/
def joinStages : List Stage :=
  (ctx.kept options).flatMap fun d => (d.rebind ctx.targets).stages

/-- The pipeline for criteria that are cast already. -/
def assemble (criteria : Option Criteria) (options : LookupOptions) : Pipeline where
  collection := ctx.collection
  stages := criteria.toList.map .select ++ ctx.joinStages options
  allowDiskUse := options.allowDiskUse.getD ctx.allowDiskUse

/-- The report of a compilation: the joins dropped, then the pipeline. -/
def report (pipeline : Pipeline) (options : LookupOptions) : List Event :=
  ctx.dropEvents options ++
    [.compiled ctx.schema.entity pipeline.fingerprint pipeline.stages.length pipeline.allowDiskUse]

theorem pipeline_kept :
    ctx.pipeline criteria ((ctx.kept options).map (·.rebind ctx.targets)) options =
      ctx.assemble criteria options := by
  unfold pipeline
  rw [List.flatMap_map]
  rfl

/-- On its way through the entries a compilation binds those that stay and reports the others. -/
theorem run_bindJoins (entries : List Descriptor) (watched : Watched σ) :
    (ctx.bindJoins options entries).run watched =
      .ok ((entries.filter fun d => (d.dropReason? options).isNone).map (·.rebind ctx.targets))
        (watched.tell (if ctx.traced then entries.filterMap fun d =>
          (d.dropReason? options).map (.descriptorDropped ctx.schema.entity d.path) else [])) := by
  induction entries generalizing watched with
  | nil =>
    rw [bindJoins, EStateM.run_pure, List.filterMap_nil, ite_self, watched.tell_nil]
    rfl
  | cons d rest ih =>
    rw [bindJoins, List.filter_cons, List.filterMap_cons]
    cases d.dropReason? options with
    | none =>
      dsimp only
      rw [EStateM.run_bind, ih]
      rfl
    | some reason =>
      dsimp only
      rw [EStateM.run_bind, Observed.run_tell]
      dsimp only
      rw [ih, Watched.tell_tell]
      cases ctx.traced <;> rfl

/-- **What a compilation comes to.**  It fails if the criteria cannot be cast, and then nothing has
been reported; otherwise it comes to the pipeline for the cast criteria, reported under observation.
In either case it leaves the state alone. -/
theorem run_compileM_eq (watched : Watched σ) :
    (ctx.compileM criteria options).run watched =
      watched.after ((ctx.cast criteria).map fun cast => ⟨ctx.assemble cast options,
        if ctx.traced then ctx.report (ctx.assemble cast options) options else []⟩) := by
  unfold compileM
  rw [EStateM.run_bind]
  cases ctx.cast criteria with
  | error error => rfl
  | ok cast =>
    show (ctx.bindJoins options ctx.table.entries >>= _).run watched = _
    rw [EStateM.run_bind, run_bindJoins]
    dsimp only
    have hpipeline := ctx.pipeline_kept cast options
    unfold kept at hpipeline
    rw [hpipeline, EStateM.run_bind, Observed.run_tell]
    dsimp only
    rw [Watched.tell_tell]
    unfold Watched.after report dropEvents
    cases ctx.traced <;> rfl

theorem compile_eq : ctx.compile criteria options =
    (ctx.cast criteria).map fun cast => ⟨ctx.assemble cast options,
      if ctx.traced then ctx.report (ctx.assemble cast options) options else []⟩ :=
  Compiled.of_eq (ctx.run_compileM_eq criteria options)

/-- The pipeline and its report tell all that a compilation does. -/
theorem run_compileM (watched : Watched σ) :
    (ctx.compileM criteria options).run watched = watched.after (ctx.compile criteria options) := by
  rw [run_compileM_eq, compile_eq]

/-! ### Success -/

/-- Casting depends on the caster and the schema alone. -/
theorem cast_congr {ctx ctx' : CompileContext} (hcaster : ctx.caster = ctx'.caster)
    (hschema : ctx.schema = ctx'.schema) (criteria : Option Criteria) :
    ctx.cast criteria = ctx'.cast criteria := by
  cases criteria with
  | none => rfl
  | some given => rw [cast, cast, hcaster, hschema]

/-- There are cast criteria if there are criteria. -/
theorem isSome_of_cast {criteria cast : Option Criteria} (h : ctx.cast criteria = .ok cast) :
    cast.isSome = criteria.isSome := by
  cases criteria with
  | none => rw [← Except.ok.inj h]
  | some given =>
    obtain ⟨result, _, rfl⟩ := map_eq_ok_iff.mp h
    rfl

/-- With criteria that can be cast a lookup compiles. -/
theorem compile_of_cast {criteria cast : Option Criteria} (options : LookupOptions)
    (h : ctx.cast criteria = .ok cast) :
    ctx.compile criteria options = .ok ⟨ctx.assemble cast options,
      if ctx.traced then ctx.report (ctx.assemble cast options) options else []⟩ := by
  rw [compile_eq, h]
  rfl

/-- A compilation that succeeds has cast the criteria and assembled the pipeline for them. -/
theorem cast_of_compile {compiled : Compiled} (h : ctx.compile criteria options = .ok compiled) :
    ∃ cast, ctx.cast criteria = .ok cast ∧ compiled.pipeline = ctx.assemble cast options := by
  rw [compile_eq] at h
  obtain ⟨cast, hcast, rfl⟩ := map_eq_ok_iff.mp h
  exact ⟨cast, hcast, rfl⟩

/-- **An observer changes only the report.** -/
theorem compile_traced (traced : Bool) :
    { ctx with traced := traced }.compile criteria options =
      (ctx.compile criteria options).map fun compiled =>
        ⟨compiled.pipeline, if traced then ctx.report compiled.pipeline options else []⟩ := by
  have hcast : { ctx with traced := traced }.cast criteria = ctx.cast criteria :=
    cast_congr rfl rfl criteria
  rw [compile_eq, compile_eq, hcast]
  cases ctx.cast criteria <;> rfl

end CompileContext

end JoinPlan
