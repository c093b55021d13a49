import JoinPlan.Proofs.Pipeline.Compilation
import Mathlib.Data.List.Flatten

/-!
# Excluding joins

A caller excludes joins by name, before anything is compiled.  The same can be done afterwards, on
the stages alone: `Pipeline.without` takes out of a pipeline every join that one of the names stands
for, each with its unwinding.  For that the stages have to be told apart again, which is possible
because they come in blocks of a join and at most one unwinding (`Block`).

* Among blocks, taking out the joins of some names is filtering (`withoutJoins_blocks`); stages
  before the first join stay (`withoutJoins_select`).
* A descriptor is addressed by the names of its lookup, which rebinding does not change
  (`isAddressedBy_lookup_rebind`), so filtering the descriptors is filtering the blocks.

Excluding more names is then the same as taking their joins out of the pipeline
(`compile_exclude_append`).
-/

namespace JoinPlan

/-! ### Blocks -/

/-- A join of a pipeline together with the unwinding right after it, if there is one. -/
structure Block where
  lookup : Lookup
  unwind : Option Unwind

/-- The stages of a block, the join first. -/
def Block.stages (block : Block) : List Stage :=
  .join block.lookup :: block.unwind.toList.map .unwind

/-- The block that a descriptor becomes. -/
def Descriptor.block (d : Descriptor) : Block :=
  ⟨d.lookup, d.unwind⟩

/-- Whether a name stands for a lookup: its output or the field that it reads. -/
def Lookup.isAddressedBy (lookup : Lookup) (name : String) : Bool :=
  lookup.output = name || lookup.localField = name

/-- The stages without the joins that one of the names stands for.  The unwinding right after such a
join goes with it. -/
def withoutJoins (names : List String) : List Stage → List Stage
  | [] => []
  | .join lookup :: .unwind spec :: rest =>
    if names.any lookup.isAddressedBy then withoutJoins names rest
    else .join lookup :: .unwind spec :: withoutJoins names rest
  | .join lookup :: rest =>
    if names.any lookup.isAddressedBy then withoutJoins names rest
    else .join lookup :: withoutJoins names rest
  | stage :: rest => stage :: withoutJoins names rest

/-- The pipeline without the joins that one of the names stands for. -/
def Pipeline.without (names : List String) (pipeline : Pipeline) : Pipeline :=
  { pipeline with stages := withoutJoins names pipeline.stages }

variable (names more : List String)

theorem withoutJoins_select (criteria : Criteria) (stages : List Stage) :
    withoutJoins names (.select criteria :: stages) =
      .select criteria :: withoutJoins names stages :=
  rfl

/-- A block is taken out or left as a whole. -/
theorem withoutJoins_block_append (block : Block) (rest : List Block) :
    withoutJoins names (block.stages ++ rest.flatMap Block.stages) =
      if names.any block.lookup.isAddressedBy then withoutJoins names (rest.flatMap Block.stages)
      else block.stages ++ withoutJoins names (rest.flatMap Block.stages) := by
  obtain ⟨lookup, unwind⟩ := block
  cases unwind with
  | some spec =>
    show withoutJoins names (.join lookup :: .unwind spec :: rest.flatMap Block.stages) = _
    rw [withoutJoins]
    rfl
  | none =>
    -- What follows a join without unwinding is the next join, if anything.
    cases rest with
    | nil => simp [Block.stages, withoutJoins]
    | cons next others =>
      rw [List.flatMap_cons, Block.stages, Block.stages, List.cons_append, List.cons_append]
      simp [withoutJoins]

/-- Taking joins out of blocks leaves the blocks of the other joins whole. -/
theorem withoutJoins_blocks (blocks : List Block) :
    withoutJoins names (blocks.flatMap Block.stages) =
      (blocks.filter fun block => !names.any block.lookup.isAddressedBy).flatMap Block.stages := by
  induction blocks with
  | nil => rfl
  | cons block rest ih =>
    rw [List.flatMap_cons, withoutJoins_block_append, ih, List.filter_cons]
    cases names.any block.lookup.isAddressedBy <;> rfl

/-! ### Descriptors -/

/-- A descriptor and the lookup that it becomes answer to the same names. -/
theorem Descriptor.isAddressedBy_lookup_rebind (d : Descriptor) (targets : Targets) :
    (d.rebind targets).lookup.isAddressedBy = d.isAddressedBy := by
  funext name
  unfold rebind
  split <;> rfl

/-- Some of the names stand for a join when its output or the field that it reads is among them. -/
theorem Descriptor.any_isAddressedBy_iff (d : Descriptor) :
    names.any d.isAddressedBy = true ↔ d.output ∈ names ∨ d.localField ∈ names := by
  simp only [List.any_eq_true, isAddressedBy, Bool.or_eq_true, decide_eq_true_iff]
  constructor
  · rintro ⟨name, hname, rfl | rfl⟩
    · exact Or.inl hname
    · exact Or.inr hname
  · rintro (hname | hname)
    · exact ⟨d.output, hname, Or.inl rfl⟩
    · exact ⟨d.localField, hname, Or.inr rfl⟩

namespace CompileContext

variable (ctx : CompileContext) (allowDiskUse : Option Bool)

/-- The joins that stay are those that no name stands for and that can be resolved. -/
theorem kept_eq : ctx.kept ⟨names, allowDiskUse⟩ =
    ctx.table.entries.filter fun d => !names.any d.isAddressedBy && d.isResolvable := by
  apply List.filter_congr
  intro d _
  unfold Descriptor.dropReason?
  cases names.any d.isAddressedBy <;> cases d.isResolvable <;> rfl

/-- The blocks of the joins that stay, in the order of the table. -/
def blocks : List Block :=
  (ctx.kept ⟨names, allowDiskUse⟩).map fun d => (d.rebind ctx.targets).block

theorem stages_assemble (cast : Option Criteria) :
    (ctx.assemble cast ⟨names, allowDiskUse⟩).stages =
      cast.toList.map .select ++ (ctx.blocks names allowDiskUse).flatMap Block.stages := by
  unfold blocks
  rw [List.flatMap_map]
  rfl

/-- More names filter the blocks further. -/
theorem blocks_append : ctx.blocks (names ++ more) allowDiskUse =
    (ctx.blocks names allowDiskUse).filter fun block => !more.any block.lookup.isAddressedBy := by
  unfold blocks
  rw [kept_eq, kept_eq, List.filter_map, List.filter_filter]
  congr 1
  apply List.filter_congr
  intro d _
  show _ = (!more.any (d.rebind ctx.targets).lookup.isAddressedBy && _)
  rw [d.isAddressedBy_lookup_rebind, List.any_append, Bool.not_or, ← Bool.and_assoc]
  congr 1
  exact Bool.and_comm _ _

theorem assemble_append (cast : Option Criteria) :
    ctx.assemble cast ⟨names ++ more, allowDiskUse⟩ =
      (ctx.assemble cast ⟨names, allowDiskUse⟩).without more := by
  have hstages : (ctx.assemble cast ⟨names ++ more, allowDiskUse⟩).stages =
      withoutJoins more (ctx.assemble cast ⟨names, allowDiskUse⟩).stages := by
    rw [stages_assemble, stages_assemble, blocks_append]
    cases cast with
    | none => exact (withoutJoins_blocks more _).symm
    | some criteria =>
      show .select criteria :: _ = withoutJoins more (.select criteria :: _)
      rw [withoutJoins_select, ← withoutJoins_blocks]
      rfl
  unfold Pipeline.without
  rw [← hstages]
  rfl

/-- What is dropped and why depends on the set of the names alone. -/
theorem dropReason?_congr {names names' : List String}
    (h : ∀ name, name ∈ names ↔ name ∈ names') (d : Descriptor) :
    d.dropReason? ⟨names, allowDiskUse⟩ = d.dropReason? ⟨names', allowDiskUse⟩ := by
  have hany : names.any d.isAddressedBy = names'.any d.isAddressedBy := by
    rw [Bool.eq_iff_iff, List.any_eq_true, List.any_eq_true]
    simp only [h]
  unfold Descriptor.dropReason?
  rw [hany]

theorem compile_congr {names names' : List String} (h : ∀ name, name ∈ names ↔ name ∈ names')
    (criteria : Option Criteria) :
    ctx.compile criteria ⟨names, allowDiskUse⟩ = ctx.compile criteria ⟨names', allowDiskUse⟩ := by
  rw [compile_eq, compile_eq]
  unfold assemble report joinStages dropEvents kept
  simp only [dropReason?_congr allowDiskUse h]

/-- With more names fewer joins stay. -/
theorem blocks_sublist {names names' : List String} (h : names ⊆ names') :
    (ctx.blocks names' allowDiskUse).Sublist (ctx.blocks names allowDiskUse) := by
  unfold blocks
  rw [kept_eq, kept_eq]
  refine List.Sublist.map _ (List.monotone_filter_right _ fun d hd => ?_)
  have hkept := Bool.and_eq_true_iff.mp hd
  have hnone : names'.any d.isAddressedBy = false := by simpa using hkept.1
  rw [List.any_eq_false] at hnone
  have hfewer : names.any d.isAddressedBy = false :=
    List.any_eq_false.mpr fun name hname => hnone name (h hname)
  rw [hfewer, hkept.2]
  rfl

/-- **Excluding joins takes out their blocks and nothing else.**  With criteria that can be cast, a
lookup compiles whatever is excluded.  The stages select by the criteria, if there are any, and go
on with blocks in the order of the table, one for each join that no name stands for and that can be
resolved.  Excluding more names takes the blocks that those stand for out of the pipeline.  So only
the set of the names counts, and a larger one leaves a part of the stages, in their order. -/
theorem compile_exclude_append (criteria : Option Criteria) {cast : Option Criteria}
    (hcast : ctx.cast criteria = .ok cast) :
    ∃ compiled : List String → Compiled,
      (∀ names, ctx.compile criteria ⟨names, allowDiskUse⟩ = .ok (compiled names)) ∧
      cast.isSome = criteria.isSome ∧
      (∀ names, (compiled names).pipeline.stages = cast.toList.map .select ++
        ((ctx.table.entries.filter fun d => !names.any d.isAddressedBy && d.isResolvable).map
          fun d => (d.rebind ctx.targets).block).flatMap Block.stages) ∧
      (∀ names more,
        (compiled (names ++ more)).pipeline = (compiled names).pipeline.without more) ∧
      (∀ names names', (∀ name, name ∈ names ↔ name ∈ names') → compiled names = compiled names') ∧
      ∀ names names', names ⊆ names' →
        (compiled names').pipeline.stages.Sublist (compiled names).pipeline.stages := by
  let pipeline names := ctx.assemble cast ⟨names, allowDiskUse⟩
  let compiled names : Compiled :=
    ⟨pipeline names, if ctx.traced then ctx.report (pipeline names) ⟨names, allowDiskUse⟩ else []⟩
  have hcompile : ∀ names, ctx.compile criteria ⟨names, allowDiskUse⟩ = .ok (compiled names) :=
    fun names => ctx.compile_of_cast ⟨names, allowDiskUse⟩ hcast
  refine ⟨compiled, hcompile, ctx.isSome_of_cast hcast, ?_, ?_, ?_, ?_⟩
  · intro names
    rw [← ctx.kept_eq names allowDiskUse]
    exact ctx.stages_assemble names allowDiskUse cast
  · intro names more
    exact ctx.assemble_append names more allowDiskUse cast
  · intro names names' hset
    have hsame := ctx.compile_congr allowDiskUse hset criteria
    rw [hcompile, hcompile] at hsame
    exact Except.ok.inj hsame
  · intro names names' hsubset
    show (ctx.assemble cast ⟨names', allowDiskUse⟩).stages.Sublist
      (ctx.assemble cast ⟨names, allowDiskUse⟩).stages
    rw [stages_assemble, stages_assemble]
    exact .append (.refl _) ((ctx.blocks_sublist allowDiskUse hsubset).flatMap _)

/-- A father, who is unwound, and friends, who are not.  Without the friends the criteria and the
father remain. -/
theorem compile_exclude_friends :
    let father : Descriptor :=
      ⟨"father", some "Person", "", "father", "_id", "dad", false, some ⟨"$dad", true⟩, false⟩
    let friends : Descriptor :=
      ⟨"friends", some "Person", "", "friends", "_id", "friends", true, none, false⟩
    let ctx : CompileContext :=
      ⟨⟨"Person", none, [⟨"age", .scalar .int, {}⟩]⟩, "people", ⟨[friends, father], by decide⟩,
        ⟨.suffixed "_all", fun _ => some "people"⟩, .bySchema, true, false⟩
    let criteria : Criteria := [("age", .string "42")]
    let cast : Criteria := [("age", .number (.int 42))]
    ctx.cast (some criteria) = .ok (some cast) ∧
      ∃ compiled : List String → Compiled,
        (∀ names, ctx.compile (some criteria) ⟨names, none⟩ = .ok (compiled names)) ∧
        (compiled ["friends"]).pipeline = (compiled []).pipeline.without ["friends"] ∧
        (compiled ["friends"]).pipeline =
          ⟨"people", [.select cast, .join ⟨"people", "father", "_id", "dad"⟩,
            .unwind ⟨"$dad", true⟩], true⟩ := by
  intro father friends ctx criteria cast
  have hcast : ctx.cast (some criteria) = .ok (some cast) := rfl
  obtain ⟨compiled, hcompile, _, _, hwithout, _⟩ :=
    ctx.compile_exclude_append none (some criteria) hcast
  refine ⟨hcast, compiled, hcompile, hwithout [] ["friends"], ?_⟩
  have hfriends : ctx.compile (some criteria) ⟨["friends"], none⟩ = .ok
      ⟨⟨"people", [.select cast, .join ⟨"people", "father", "_id", "dad"⟩, .unwind ⟨"$dad", true⟩],
        true⟩, []⟩ := rfl
  rw [hcompile] at hfriends
  rw [Except.ok.inj hfriends]

end CompileContext

end JoinPlan
