import JoinPlan.Proofs.Pipeline.Exclusion
import JoinPlan.Proofs.Pipeline.LateBinding

/-!
# Joins with the collection without a name

A join is kept when it refers to an entity or has a collection, and what it looks in is decided
later and differently: an author's collection goes before the reference.  The two rules disagree
where an author names the empty collection for a field that refers to an entity.  Such a join is
kept for its reference and looks in the empty collection (`compile_pinned_to_empty`).

That is the only way in which an empty collection gets into a pipeline, as long as no reference
leads to one (`collection_rebind_eq_empty_iff`, `compile_collection_ne_empty_iff`).
-/

namespace JoinPlan

/-- A join that can be resolved looks in the empty collection exactly when its author says so. -/
theorem Descriptor.collection_rebind_eq_empty_iff {targets : Targets}
    (hresolve : ∀ reference, reference ≠ "" → targets.resolve reference ≠ "") {d : Descriptor}
    (hnamed : d.reference ≠ some "") (h : d.isResolvable = true) :
    (d.rebind targets).collection = "" ↔ d.pinned = true ∧ d.collection = "" := by
  cases hp : d.pinned with
  | true =>
    rw [d.rebind_of_pinned targets hp]
    exact ⟨fun hempty => ⟨rfl, hempty⟩, fun hand => hand.2⟩
  | false =>
    have hfull : (d.rebind targets).collection ≠ "" := by
      cases hr : d.reference with
      | some reference =>
        rw [d.rebind_of_reference targets hp hr]
        exact hresolve reference fun hempty => hnamed (by rw [hr, hempty])
      | none =>
        rw [d.rebind_of_reference_none targets hr]
        simpa [isResolvable, hr] using h
    exact ⟨fun hempty => absurd hempty hfull, fun hand => by cases hand.1⟩

namespace CompileContext

variable (ctx : CompileContext)

/-- The lookups of a pipeline are those of the joins that stay, with their collections as of now. -/
theorem join_mem_stages_assemble_iff (cast : Option Criteria) (options : LookupOptions)
    (lookup : Lookup) :
    Stage.join lookup ∈ (ctx.assemble cast options).stages ↔
      ∃ d ∈ ctx.kept options, lookup = (d.rebind ctx.targets).lookup := by
  have hselect : Stage.join lookup ∉ cast.toList.map Stage.select := by simp
  have hblock : ∀ d : Descriptor, Stage.join lookup ∈ d.stages ↔ lookup = d.lookup := by
    intro d
    simp [Descriptor.stages]
  show Stage.join lookup ∈ _ ++ (ctx.kept options).flatMap _ ↔ _
  rw [List.mem_append, or_iff_right hselect, List.mem_flatMap]
  simp only [hblock]

/-- **When no compiled join looks in the empty collection.**  Compiled from the scan of any source,
under targets by which no entity's documents are in the empty collection, the lookups of a pipeline
all have a collection exactly when none of the joins that stay has the empty one from its author. -/
theorem compile_collection_ne_empty_iff (source : FieldSource) (S : Targets)
    (hresolve : ∀ reference, reference ≠ "" → ctx.targets.resolve reference ≠ "")
    (criteria : Option Criteria) (options : LookupOptions) {compiled : Compiled} :
    let scanned := { ctx with table := (source.scan S).table }
    scanned.compile criteria options = .ok compiled →
      ((∀ lookup, Stage.join lookup ∈ compiled.pipeline.stages → lookup.collection ≠ "") ↔
        ∀ d ∈ scanned.kept options, d.pinned = true → d.collection ≠ "") := by
  intro scanned hcompile
  obtain ⟨cast, _, hpipeline⟩ := scanned.cast_of_compile criteria options hcompile
  have hempty : ∀ d ∈ scanned.kept options,
      (d.rebind ctx.targets).collection = "" ↔ d.pinned = true ∧ d.collection = "" := by
    intro d hd
    rw [scanned.kept_eq options.exclude options.allowDiskUse] at hd
    obtain ⟨hmem, hkept⟩ := List.mem_filter.mp hd
    exact Descriptor.collection_rebind_eq_empty_iff hresolve (source.named_scan S d hmem)
      (Bool.and_eq_true_iff.mp hkept).2
  rw [hpipeline]
  simp only [scanned.join_mem_stages_assemble_iff cast options]
  constructor
  · intro hall d hd hpinned hcollection
    exact hall _ ⟨d, hd, rfl⟩ ((hempty d hd).mpr ⟨hpinned, hcollection⟩)
  · rintro hauthor lookup ⟨d, hd, rfl⟩ hcollection
    have hpinned := (hempty d hd).mp hcollection
    exact hauthor d hd hpinned.1 hpinned.2

/-- A buyer that is joined by reference and a seller that is joined with the collection that the
author names. -/
theorem compile_buyer_seller :
    let buyer : Visited := ⟨"buyer", .scalar .reference, ⟨some "Customer", some ⟨true, {}⟩⟩, false⟩
    let seller : Visited :=
      ⟨"seller", .mixed, ⟨some "Vendor", some ⟨true, { collection := some "shops" }⟩⟩, false⟩
    let source : FieldSource := ⟨"Order", [buyer, seller]⟩
    let targets : Targets := ⟨⟨id, id, id⟩, fun _ => none⟩
    let ctx : CompileContext :=
      ⟨⟨"Order", none, []⟩, "orders", .empty, targets, .unchanged, true, false⟩
    let scanned := { ctx with table := (source.scan targets).table }
    let pipeline : Pipeline :=
      ⟨"orders", [.join ⟨"Customer", "buyer", "_id", "buyer"⟩, .unwind ⟨"$buyer", true⟩,
        .join ⟨"shops", "seller", "_id", "seller"⟩, .unwind ⟨"$seller", true⟩], true⟩
    (∀ reference, reference ≠ "" → targets.resolve reference ≠ "") ∧
      scanned.compile none {} = .ok ⟨pipeline, []⟩ ∧
      ∀ lookup, Stage.join lookup ∈ pipeline.stages → lookup.collection ≠ "" := by
  intro buyer seller source targets ctx scanned pipeline
  have hresolve : ∀ reference, reference ≠ "" → targets.resolve reference ≠ "" :=
    fun _ hne => hne
  have hcompile : scanned.compile none {} = .ok ⟨pipeline, []⟩ := rfl
  refine ⟨hresolve, hcompile, ?_⟩
  exact (ctx.compile_collection_ne_empty_iff source targets hresolve none {} hcompile).mpr
    (by decide)

/-- A buyer that refers to an entity, with the empty collection from the author.  The join is kept
and looks in the empty collection, though the reference leads to another. -/
theorem compile_pinned_to_empty :
    let mark : JoinMark := ⟨true, { collection := some "" }⟩
    let schema : Schema :=
      ⟨"Order", none, [⟨"buyer", .scalar .reference, ⟨some "Customer", some mark⟩⟩]⟩
    let targets : Targets := ⟨⟨id, id, id⟩, fun _ => none⟩
    let ctx : CompileContext :=
      ⟨schema, "orders", (schema.source.scan targets).table, targets, .bySchema, true, false⟩
    (∀ reference, reference ≠ "" → targets.resolve reference ≠ "") ∧
      ctx.compile none {} = .ok ⟨⟨"orders",
        [.join ⟨"", "buyer", "_id", "buyer"⟩, .unwind ⟨"$buyer", true⟩], true⟩, []⟩ :=
  ⟨fun _ hne => hne, rfl⟩

end CompileContext

end JoinPlan
