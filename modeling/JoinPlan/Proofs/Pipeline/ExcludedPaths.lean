import JoinPlan.Proofs.Join.Rebind
import JoinPlan.Proofs.Pipeline.Exclusion

/-!
# Excluding all paths

A table has its joins under the paths of their fields, but a name excludes a join by what the join
writes or reads.  By default a join reads the field at its path, so that excluding the paths of all
entries leaves no joins (`JoinRequest.KeepsPath`).  An author may have a join read one field and
write another, neither of them at its path, and such a join is not excluded by its path
(`compile_exclude_paths_customer`).

What is left when the paths of all entries are excluded is told by `compile_exclude_paths`.
-/

namespace JoinPlan

/-- The author leaves the path of a field to its join, either as the field that the join reads or
as the one that it writes; an unwound list is written under the singular of its name. -/
def JoinRequest.KeepsPath (request : JoinRequest) : Prop :=
  request.overrides.localField = none ∨
    request.overrides.output = none ∧ ¬ (request.multi = true ∧ request.unwound = true)

/-- A join that keeps the path of its field answers to that path. -/
theorem JoinRequest.KeepsPath.output_or_localField {request : JoinRequest} (h : request.KeepsPath)
    (targets : Targets) :
    (request.descriptor targets).output = request.path ∨
      (request.descriptor targets).localField = request.path := by
  rcases h with hlocal | ⟨houtput, hsingle⟩
  · right
    show request.overrides.localField.getD request.path = request.path
    rw [hlocal, Option.getD_none]
  · left
    rw [← Bool.and_eq_true] at hsingle
    show request.overrides.output.getD _ = request.path
    rw [houtput, Option.getD_none, if_neg hsingle]

namespace Table

variable (table : Table)

/-- A join can be resolved, and neither what it writes nor what it reads is a path of the table. -/
def Escapes (d : Descriptor) : Prop :=
  d.isResolvable = true ∧ ¬ (d.output ∈ table.paths ∨ d.localField ∈ table.paths)

instance : DecidablePred table.Escapes := fun _ => inferInstanceAs (Decidable (_ ∧ _))

end Table

namespace CompileContext

variable (ctx : CompileContext)

/-- The joins that stay when the paths of all entries are excluded. -/
theorem kept_paths (allowDiskUse : Option Bool) :
    ctx.kept ⟨ctx.table.paths, allowDiskUse⟩ = ctx.table.entries.filter ctx.table.Escapes := by
  rw [kept_eq]
  apply List.filter_congr
  intro d _
  rw [Bool.eq_iff_iff, Bool.and_eq_true, Bool.not_eq_true', ← Bool.not_eq_true,
    d.any_isAddressedBy_iff, decide_eq_true_iff]
  exact and_comm

/-- Stages that select are all that is left exactly if no join escapes. -/
theorem stages_assemble_paths_eq_iff (cast : Option Criteria) (allowDiskUse : Option Bool) :
    (ctx.assemble cast ⟨ctx.table.paths, allowDiskUse⟩).stages = cast.toList.map .select ↔
      ∀ d ∈ ctx.table.entries, ¬ ctx.table.Escapes d := by
  show _ ++ (ctx.kept _).flatMap _ = _ ↔ _
  rw [kept_paths, List.append_right_eq_self, List.flatMap_eq_nil_iff]
  simp only [List.mem_filter, decide_eq_true_iff]
  constructor
  · intro hnil d hd hescapes
    exact List.cons_ne_nil _ _ (hnil d ⟨hd, hescapes⟩)
  · intro hnone d hd
    exact absurd hd.2 (hnone d hd.1)

/-- **What is left when all paths are excluded.**  With criteria that can be cast, compiling from
the scan of any source and excluding the paths of all entries leaves the selection by the criteria,
and the joins that escape, in the order of the table.  There are none just when each join that can
be resolved writes or reads a field whose path is in the table; and that is so when every join that
is asked for keeps the path of its field. -/
theorem compile_exclude_paths (source : FieldSource) (S : Targets) (allowDiskUse : Option Bool)
    (criteria : Option Criteria) {cast : Option Criteria} (hcast : ctx.cast criteria = .ok cast) :
    let table := (source.scan S).table
    let scanned := { ctx with table := table }
    ∃ compiled, scanned.compile criteria ⟨table.paths, allowDiskUse⟩ = .ok compiled ∧
      cast.isSome = criteria.isSome ∧
      compiled.pipeline.stages = cast.toList.map .select ++
        (table.entries.filter table.Escapes).flatMap (fun d => (d.rebind ctx.targets).stages) ∧
      (compiled.pipeline.stages = cast.toList.map .select ↔
        ∀ d ∈ table.entries, d.isResolvable = true →
          d.output ∈ table.paths ∨ d.localField ∈ table.paths) ∧
      ((∀ field ∈ source.fields, ∀ request, field.request? = some request → request.KeepsPath) →
        compiled.pipeline.stages = cast.toList.map .select) := by
  intro table scanned
  have hcast' : scanned.cast criteria = .ok cast := (cast_congr rfl rfl criteria).trans hcast
  have hiff := scanned.stages_assemble_paths_eq_iff cast allowDiskUse
  refine ⟨_, scanned.compile_of_cast _ hcast', ctx.isSome_of_cast hcast, ?_, ?_, ?_⟩
  · rw [← scanned.kept_paths allowDiskUse]
    rfl
  · rw [hiff]
    simp only [Table.Escapes, not_and, not_not]
    rfl
  · intro hkeeps
    rw [hiff]
    rintro d hd ⟨_, hescapes⟩
    -- The path of each entry is excluded, and a join that keeps its path answers to it.
    have hpath : d.path ∈ table.paths := List.mem_map_of_mem hd
    obtain ⟨field, hfield, request, hrequest, rfl⟩ := source.exists_request_of_mem_scan hd
    rcases (hkeeps field hfield request hrequest).output_or_localField S with hout | hlocal
    · exact hescapes (Or.inl (hout ▸ hpath))
    · exact hescapes (Or.inr (hlocal ▸ hpath))

/-- A father that is read from another field, and children that are written under their singular.
Both keep their path, and with all paths excluded the criteria alone remain. -/
theorem compile_exclude_paths_father_children :
    let father : Visited :=
      ⟨"father", .scalar .reference, ⟨some "Person", some ⟨true, { localField := some "kin" }⟩⟩,
        false⟩
    let children : Visited :=
      ⟨"children", .list ⟨.scalar .reference, {}⟩,
        ⟨some "Person", some ⟨true, { unwind := some (.flag true) }⟩⟩, true⟩
    let source : FieldSource := ⟨"Person", [father, children]⟩
    let targets : Targets := ⟨.suffixed "ren", fun _ => some "people"⟩
    let ctx : CompileContext :=
      ⟨⟨"Person", none, [⟨"age", .scalar .int, {}⟩]⟩, "people", .empty, targets, .bySchema, true,
        false⟩
    let table := (source.scan targets).table
    let cast : Criteria := [("age", .number (.int 42))]
    table.entries.map (fun d => (d.localField, d.output)) =
      [("kin", "father"), ("children", "child")] ∧
    ctx.cast (some [("age", .string "42")]) = .ok (some cast) ∧
    ∃ compiled, { ctx with table := table }.compile (some [("age", .string "42")])
        ⟨table.paths, none⟩ = .ok compiled ∧ compiled.pipeline.stages = [.select cast] := by
  intro father children source targets ctx table cast
  have hcast : ctx.cast (some [("age", .string "42")]) = .ok (some cast) := rfl
  obtain ⟨compiled, hcompile, _, _, _, hstages⟩ :=
    ctx.compile_exclude_paths source targets none (some [("age", .string "42")]) hcast
  refine ⟨by decide, hcast, compiled, hcompile, hstages fun field hfield request hrequest => ?_⟩
  rcases List.mem_pair.mp hfield with rfl | rfl
  · obtain rfl := Option.some.inj hrequest
    exact Or.inr ⟨rfl, by decide⟩
  · obtain rfl := Option.some.inj hrequest
    exact Or.inl rfl

/-- A buyer that is read from one field and written to another.  Its path is excluded, and it is
joined all the same. -/
theorem compile_exclude_paths_customer :
    let mark : JoinMark :=
      ⟨true, { localField := some "buyerId", output := some "customer" }⟩
    let schema : Schema :=
      ⟨"Order", none, [⟨"buyer", .scalar .reference, ⟨some "Customer", some mark⟩⟩]⟩
    let targets : Targets := ⟨⟨id, id, id⟩, fun _ => none⟩
    let table := (schema.source.scan targets).table
    let ctx : CompileContext := ⟨schema, "orders", table, targets, .bySchema, true, false⟩
    table.paths = ["buyer"] ∧
      ctx.compile none ⟨table.paths, none⟩ = .ok ⟨⟨"orders",
        [.join ⟨"Customer", "buyerId", "_id", "customer"⟩, .unwind ⟨"$customer", true⟩], true⟩,
        []⟩ :=
  ⟨rfl, rfl⟩

end CompileContext

end JoinPlan
