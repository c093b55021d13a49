import JoinPlan.Proofs.Join.Rebind
import JoinPlan.Proofs.Pipeline.Compilation
import Mathlib.Data.List.Forall2

/-!
# Late binding

Compilation reads a table twice: the joins to be dropped are picked from the table as it was
scanned, and the others are rebound.  The two readings cannot disagree, since compiling from the
rebound table comes to the same (`compile_rebound`):

* a join is dropped by its names and by whether it can be resolved, and neither changes when it is
  rebound (`dropReason?_rebind`);
* rebinding a second time changes nothing (`rebind_rebind`).

With `rebind_scan` it follows that the collections known when the table was scanned have no
influence on what is compiled (`compile_scan_congr`).
-/

namespace JoinPlan

/-- Whether a join is dropped, and why, does not change when it is rebound. -/
theorem Descriptor.dropReason?_rebind (options : LookupOptions) (targets : Targets) {d : Descriptor}
    (h : d.reference ≠ some "") :
    (d.rebind targets).dropReason? options = d.dropReason? options := by
  have haddressed : (d.rebind targets).isAddressedBy = d.isAddressedBy :=
    funext (d.isAddressedBy_rebind targets)
  unfold dropReason?
  rw [haddressed, d.isResolvable_rebind targets h]

namespace CompileContext

variable (ctx : CompileContext) (criteria : Option Criteria) (options : LookupOptions)

/-! ### Compiling from a rebound table -/

/-- The same context, its table rebound already. -/
def rebound : CompileContext :=
  { ctx with table := ctx.table.rebind ctx.targets }

theorem kept_rebound (h : ctx.table.Named) :
    ctx.rebound.kept options = (ctx.kept options).map (·.rebind ctx.targets) := by
  show (ctx.table.entries.map (·.rebind ctx.targets)).filter _ = _
  rw [List.filter_map]
  unfold kept
  congr 1
  apply List.filter_congr
  intro d hd
  simp only [Function.comp, Descriptor.dropReason?_rebind options ctx.targets (h d hd)]

theorem joinStages_rebound (h : ctx.table.Named) :
    ctx.rebound.joinStages options = ctx.joinStages options := by
  unfold joinStages
  rw [kept_rebound ctx options h, List.flatMap_map]
  show (ctx.kept options).flatMap (fun d => ((d.rebind ctx.targets).rebind ctx.targets).stages) = _
  simp only [Descriptor.rebind_rebind]

theorem dropEvents_rebound (h : ctx.table.Named) :
    ctx.rebound.dropEvents options = ctx.dropEvents options := by
  show (ctx.table.entries.map (·.rebind ctx.targets)).filterMap _ = _
  rw [List.filterMap_map]
  apply List.filterMap_congr
  intro d hd
  simp only [Function.comp, Descriptor.dropReason?_rebind options ctx.targets (h d hd),
    Descriptor.path_rebind]
  rfl

theorem assemble_rebound (h : ctx.table.Named) :
    ctx.rebound.assemble criteria options = ctx.assemble criteria options := by
  unfold assemble
  rw [joinStages_rebound ctx options h]
  rfl

/-- **Compilation sees a table through rebinding only.** -/
theorem compile_rebound (h : ctx.table.Named) :
    ctx.rebound.compile criteria options = ctx.compile criteria options := by
  have hreport : ∀ pipeline,
      ctx.rebound.report pipeline options = ctx.report pipeline options := by
    intro pipeline
    unfold report
    rw [dropEvents_rebound ctx options h]
    rfl
  rw [compile_eq, compile_eq]
  simp only [assemble_rebound ctx _ options h, hreport]
  rfl

end CompileContext

/-! ### Scanned tables -/

/-- The collection that a request asks for: the one its author names, or else the one that its
reference leads to. -/
def JoinRequest.LooksIn (targets : Targets) (request : JoinRequest) (collection : String) : Prop :=
  match request.overrides.collection with
  | some name => collection = name
  | none => ∃ reference, request.reference = some reference ∧ collection = targets.resolve reference

/-- A request that can be resolved has a collection to look in, and it is the derived one. -/
theorem JoinRequest.looksIn_collection {request : JoinRequest} {targets : Targets}
    (h : (request.descriptor targets).isResolvable = true) :
    request.LooksIn targets (request.collection targets) := by
  rw [isResolvable_descriptor] at h
  unfold LooksIn JoinRequest.collection
  cases hc : request.overrides.collection with
  | some name => rfl
  | none =>
    cases ht : request.target? with
    | none => simp [hc, ht] at h
    | some reference =>
      have href : request.reference = some reference := (Option.filter_eq_some_iff.mp ht).1
      exact ⟨reference, href, rfl⟩

/-- `join` is what an entry of a table becomes in a pipeline: the entry is what some field of the
source asked for under `S`, and all that may have changed is the collection, which is the one asked
for under `C`. -/
def FieldSource.Binds (source : FieldSource) (S C : Targets) (entry join : Descriptor) : Prop :=
  join = { entry with collection := join.collection } ∧
  ∃ field ∈ source.fields, ∃ request,
    field.request? = some request ∧ entry = request.descriptor S ∧ request.LooksIn C join.collection

theorem FieldSource.binds_rebind (source : FieldSource) (S C : Targets) {entry : Descriptor}
    (hentry : entry ∈ (source.scan S).table.entries) (h : entry.isResolvable = true) :
    source.Binds S C entry (entry.rebind C) := by
  obtain ⟨field, hfield, request, hrequest, rfl⟩ := source.exists_request_of_mem_scan hentry
  refine ⟨Descriptor.rebind_eq C _, field, hfield, request, hrequest, rfl, ?_⟩
  rw [request.rebind_descriptor]
  rw [request.isResolvable_descriptor, ← request.isResolvable_descriptor C] at h
  exact JoinRequest.looksIn_collection h

/-- **What was known when a table was scanned does not matter.**  Scanned under two targets that
share a naming, a source gives tables from which the same is compiled, be it a pipeline and a report
or an error; and each entry that is kept looks in the collection that its author names, or in the
one that its reference leads to at compile time. -/
theorem compile_scan_congr (ctx : CompileContext) (source : FieldSource) (naming : Naming)
    (known known' : String → Option String) (criteria : Option Criteria) (options : LookupOptions) :
    let S : Targets := ⟨naming, known⟩
    let S' : Targets := ⟨naming, known'⟩
    let scanned := { ctx with table := (source.scan S).table }
    let scanned' := { ctx with table := (source.scan S').table }
    scanned.compile criteria options = scanned'.compile criteria options ∧
    ∀ compiled, scanned.compile criteria options = .ok compiled →
      ∃ cast joins, ctx.cast criteria = .ok cast ∧
        compiled.pipeline.stages = cast.toList.map .select ++ joins.flatMap Descriptor.stages ∧
        List.Forall₂ (source.Binds S ctx.targets) (scanned.kept options) joins := by
  intro S S' scanned scanned'
  have hnamed := source.named_scan S
  have hnamed' := source.named_scan S'
  constructor
  · have hrebound : scanned.rebound = scanned'.rebound := by
      show { ctx with table := (source.scan S).table.rebind ctx.targets } =
        { ctx with table := (source.scan S').table.rebind ctx.targets }
      rw [source.rebind_scan, source.rebind_scan]
    rw [← scanned.compile_rebound criteria options hnamed, hrebound,
      scanned'.compile_rebound criteria options hnamed']
  · intro compiled hcompiled
    obtain ⟨cast, hcast, hpipeline⟩ := scanned.cast_of_compile criteria options hcompiled
    refine ⟨cast, (scanned.kept options).map (·.rebind ctx.targets), hcast, ?_, ?_⟩
    · rw [hpipeline, List.flatMap_map]
      rfl
    · rw [List.forall₂_map_right_iff, List.forall₂_same]
      intro entry hentry
      obtain ⟨hmem, hkept⟩ := List.mem_filter.mp hentry
      refine source.binds_rebind S ctx.targets hmem ?_
      -- What is kept is not dropped as unresolvable.
      unfold Descriptor.dropReason? at hkept
      split at hkept
      · simp at hkept
      · split at hkept
        · assumption
        · simp at hkept

/-- A father that was scanned when his entity was in another collection, and a brother whose
collection the author names. -/
theorem compile_scan_father_brother :
    let father : Visited := ⟨"father", .scalar .reference, ⟨some "Person", some ⟨true, {}⟩⟩, false⟩
    let brother : Visited :=
      ⟨"brother", .mixed, ⟨some "Person", some ⟨true, { collection := some "kin" }⟩⟩, false⟩
    let source : FieldSource := ⟨"Person", [father, brother]⟩
    let ctx : CompileContext :=
      ⟨⟨"Person", none, []⟩, "people", .empty, ⟨.suffixed "_all", fun _ => some "people"⟩,
        .unchanged, true, false⟩
    let S : Targets := ⟨.suffixed "_all", fun _ => some "persons"⟩
    let scanned := { ctx with table := (source.scan S).table }
    let pipeline : Pipeline :=
      ⟨"people", [.join ⟨"people", "father", "_id", "father"⟩, .unwind ⟨"$father", true⟩,
        .join ⟨"kin", "brother", "_id", "brother"⟩, .unwind ⟨"$brother", true⟩], true⟩
    scanned.compile none {} = .ok ⟨pipeline, []⟩ ∧
      ∃ cast joins, ctx.cast none = .ok cast ∧
        pipeline.stages = cast.toList.map .select ++ joins.flatMap Descriptor.stages ∧
        List.Forall₂ (source.Binds S ctx.targets) (scanned.kept {}) joins := by
  intro father brother source ctx S scanned pipeline
  have hcompile : scanned.compile none {} = .ok ⟨pipeline, []⟩ := rfl
  obtain ⟨_, hjoins⟩ := compile_scan_congr ctx source (.suffixed "_all") (fun _ => some "persons")
    (fun _ => none) none {}
  exact ⟨hcompile, hjoins _ hcompile⟩

end JoinPlan
