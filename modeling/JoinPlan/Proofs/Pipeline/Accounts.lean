import JoinPlan.Proofs.Pipeline.Exclusion

/-!
# Accounts of compilations

Compiling a lookup makes two things of a table: a report of the joins that are dropped, and stages
for the others.  Read side by side, the two account for the table (`CompileContext.Accounts`): entry
by entry, in the order of the table, a join is either reported as dropped, for the one reason that
applies, or is the source of the next lookup of the pipeline.

* The lookups of a pipeline are those of the joins that stay (`lookups_assemble`).
* Dropped joins and joins that stay account for any list of entries (`accounts_filter`).
* Accounts leave nothing out and count nothing twice (`Accounts.length_eq`).

The report ends with the pipeline itself (`compile_accounts`).
-/

namespace JoinPlan

/-! ### Lookups of a pipeline -/

/-- The lookup of a stage that joins. -/
def Stage.lookup? : Stage → Option Lookup
  | .join lookup => some lookup
  | .select _ | .unwind _ => none

/-- The lookups of a pipeline, in order. -/
def Pipeline.lookups (pipeline : Pipeline) : List Lookup :=
  pipeline.stages.filterMap (·.lookup?)

/-- A join has one lookup, whether it is unwound or not. -/
theorem Descriptor.filterMap_lookup?_stages (d : Descriptor) :
    d.stages.filterMap (·.lookup?) = [d.lookup] := by
  unfold stages
  cases d.unwind <;> rfl

namespace CompileContext

variable (ctx : CompileContext)

theorem lookups_assemble (cast : Option Criteria) (options : LookupOptions) :
    (ctx.assemble cast options).lookups =
      (ctx.kept options).map fun d => (d.rebind ctx.targets).lookup := by
  have hselect : (cast.toList.map Stage.select).filterMap Stage.lookup? = [] := by
    cases cast <;> rfl
  show (cast.toList.map Stage.select ++ (ctx.kept options).flatMap _).filterMap Stage.lookup? = _
  rw [List.filterMap_append, hselect, List.nil_append, List.filterMap_flatMap, List.map_eq_flatMap]
  simp only [Descriptor.filterMap_lookup?_stages]

/-! ### Accounts -/

/-- Reports of drops and lookups that account for the entries of a table, in the order of all
three. -/
inductive Accounts (names : List String) :
    List Descriptor → List Event → List Lookup → Prop
  | nil : Accounts names [] [] []
  /-- A join that one of the names stands for is reported as excluded, be it resolvable or not. -/
  | excluded {d : Descriptor} {rest : List Descriptor} {drops : List Event} {lookups : List Lookup}
      (named : d.output ∈ names ∨ d.localField ∈ names)
      (others : Accounts names rest drops lookups) :
      Accounts names (d :: rest)
        (.descriptorDropped ctx.schema.entity d.path .excluded :: drops) lookups
  /-- Any other join without anything to join with is reported as unresolvable. -/
  | unresolvable {d : Descriptor} {rest : List Descriptor} {drops : List Event}
      {lookups : List Lookup} (unnamed : ¬ (d.output ∈ names ∨ d.localField ∈ names))
      (targetless : d.isResolvable = false) (others : Accounts names rest drops lookups) :
      Accounts names (d :: rest)
        (.descriptorDropped ctx.schema.entity d.path .unresolvable :: drops) lookups
  /-- The others are joined, with the collection as of now. -/
  | joined {d : Descriptor} {rest : List Descriptor} {drops : List Event} {lookups : List Lookup}
      (unnamed : ¬ (d.output ∈ names ∨ d.localField ∈ names)) (resolvable : d.isResolvable = true)
      (others : Accounts names rest drops lookups) :
      Accounts names (d :: rest) drops ((d.rebind ctx.targets).lookup :: lookups)

variable {ctx}

theorem Accounts.length_eq {names : List String} {entries : List Descriptor} {drops : List Event}
    {lookups : List Lookup} (h : ctx.Accounts names entries drops lookups) :
    drops.length + lookups.length = entries.length := by
  induction h with
  | nil => rfl
  | excluded _ _ ih | unresolvable _ _ _ ih | joined _ _ _ ih =>
    simp only [List.length_cons]
    omega

variable (ctx)

/-- What is dropped and what stays account for any entries. -/
theorem accounts_filter (options : LookupOptions) (entries : List Descriptor) :
    ctx.Accounts options.exclude entries
      (entries.filterMap fun d =>
        (d.dropReason? options).map (.descriptorDropped ctx.schema.entity d.path))
      ((entries.filter fun d => (d.dropReason? options).isNone).map fun d =>
        (d.rebind ctx.targets).lookup) := by
  induction entries with
  | nil => exact .nil
  | cons d rest ih =>
    have hnamed := d.any_isAddressedBy_iff options.exclude
    rw [List.filterMap_cons, List.filter_cons]
    unfold Descriptor.dropReason? at ih ⊢
    -- Names are asked first: an excluded join is not asked whether it can be resolved.
    by_cases hany : options.exclude.any d.isAddressedBy = true
    · simp only [hany, if_true]
      exact .excluded (hnamed.mp hany) ih
    · have hunnamed := mt hnamed.mpr hany
      cases hresolvable : d.isResolvable with
      | true =>
        simp only [hany]
        exact .joined hunnamed hresolvable ih
      | false =>
        simp only [hany]
        exact .unresolvable hunnamed hresolvable ih

/-- **The report accounts for the table.**  When the criteria cannot be cast, an observed compilation
fails and has told nothing.  Otherwise it tells of joins that are dropped, which together with the
lookups of the pipeline account for the entries of the table, and in the end of the pipeline.  It
changes nothing else, and without observation it comes to the same. -/
theorem compile_accounts (htraced : ctx.traced = true) (criteria : Option Criteria)
    (options : LookupOptions) {σ : Type} (watched : Watched σ) :
    (∀ error, ctx.cast criteria = .error error →
      (ctx.compileM criteria options).run watched = .error error watched) ∧
    (∀ cast, ctx.cast criteria = .ok cast → ∃ pipeline drops,
      (ctx.compileM criteria options).run watched = .ok pipeline
        (watched.tell (drops ++ [.compiled ctx.schema.entity pipeline.fingerprint
          pipeline.stages.length pipeline.allowDiskUse])) ∧
      ctx.Accounts options.exclude ctx.table.entries drops pipeline.lookups ∧
      drops.length + pipeline.lookups.length = ctx.table.size) ∧
    ({ ctx with traced := false }.compileM criteria options).run watched =
      match (ctx.compileM criteria options).run watched with
      | .ok pipeline _ => .ok pipeline watched
      | .error error _ => .error error watched := by
  refine ⟨fun error hcast => ?_, fun cast hcast => ?_, ?_⟩
  · rw [run_compileM_eq, hcast]
    rfl
  · have haccounts := ctx.accounts_filter options ctx.table.entries
    refine ⟨ctx.assemble cast options, ctx.dropEvents options, ?_, ?_, ?_⟩
    · rw [run_compileM, ctx.compile_of_cast options hcast, if_pos htraced]
      rfl
    · rw [lookups_assemble]
      exact haccounts
    · rw [lookups_assemble]
      exact haccounts.length_eq
  · rw [run_compileM, run_compileM, compile_traced]
    cases ctx.compile criteria options with
    | error error => rfl
    | ok compiled => exact congrArg (EStateM.Result.ok _) watched.tell_nil

/-- A note that is excluded and could not be resolved either, friends who are joined, and an author
who cannot be resolved. -/
theorem compile_accounts_post :
    let note : Descriptor := ⟨"note", none, "", "note", "_id", "note", false, none, false⟩
    let friends : Descriptor :=
      ⟨"friends", some "Person", "", "friends", "_id", "friends", true, none, false⟩
    let author : Descriptor :=
      ⟨"author", none, "", "author", "_id", "author", false, some ⟨"$author", true⟩, true⟩
    let ctx : CompileContext :=
      ⟨⟨"Post", none, []⟩, "posts", ⟨[note, friends, author], by decide⟩,
        ⟨.suffixed "_all", fun _ => some "people"⟩, .bySchema, true, true⟩
    let pipeline : Pipeline := ⟨"posts", [.join ⟨"people", "friends", "_id", "friends"⟩], true⟩
    let drops : List Event :=
      [.descriptorDropped "Post" "note" .excluded, .descriptorDropped "Post" "author" .unresolvable]
    ctx.traced = true ∧ ctx.cast none = .ok none ∧
      (ctx.compileM none ⟨["note"], none⟩).run ⟨(), []⟩ =
        .ok pipeline ⟨(), drops ++ [.compiled "Post" pipeline.fingerprint 1 true]⟩ ∧
      ctx.Accounts ["note"] [note, friends, author] drops
        [⟨"people", "friends", "_id", "friends"⟩] := by
  intro note friends author ctx pipeline drops
  have hrun : (ctx.compileM none ⟨["note"], none⟩).run ⟨(), []⟩ =
      .ok pipeline ⟨(), drops ++ [.compiled "Post" pipeline.fingerprint 1 true]⟩ := rfl
  obtain ⟨_, hcompiles, _⟩ := ctx.compile_accounts rfl none ⟨["note"], none⟩ ⟨(), []⟩
  obtain ⟨compiled, told, hcompile, haccounts, _⟩ := hcompiles none rfl
  rw [hrun, EStateM.Result.ok.injEq] at hcompile
  obtain ⟨rfl, hwatched⟩ := hcompile
  have htold : drops = told := List.append_cancel_right (congrArg Watched.told hwatched)
  exact ⟨rfl, rfl, hrun, htold ▸ haccounts⟩

end CompileContext

end JoinPlan
