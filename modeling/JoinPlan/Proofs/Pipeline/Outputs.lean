import JoinPlan.Proofs.Join.Occurrences
import JoinPlan.Proofs.Join.Parts
import JoinPlan.Proofs.Naming.LastNames
import JoinPlan.Proofs.Pipeline.Accounts

/-!
# Joins with the same output

Two lookups that write the same field leave only the result of the second.  Unless the author names
the output, a join is written at the path of its field, and the paths of a table are distinct; but
an unwound list is written in the singular, and the singular may be the path of another join or the
singular of another unwound list (`Descriptor.Clashes`, `Schema.outputs_friends`).

That is the only way in which outputs meet (`Table.nodup_outputs_iff`), and because singulars keep
the fields around, it can only happen between joins of the same document.  Where it does not, the
lookups of a pipeline write distinct fields, whatever is excluded (`Schema.outputs_distinct_iff`).
-/

namespace JoinPlan

/-! ### Outputs by default -/

/-- The join of a list that is unwound. -/
def Descriptor.unwoundList (d : Descriptor) : Bool :=
  d.multi && d.unwind.isSome

/-- Where a join is written by default: an unwound list in the singular, and the others at their
path. -/
def Descriptor.defaultOutput (naming : Naming) (d : Descriptor) : String :=
  if d.unwoundList then naming.singularize d.path else d.path

/-- A join is written where it is by default, unless its author names the output. -/
theorem JoinRequest.output_descriptor {request : JoinRequest}
    (h : request.overrides.output = none) (targets : Targets) :
    (request.descriptor targets).output =
      (request.descriptor targets).defaultOutput targets.naming := by
  have hunwound : (request.descriptor targets).unwoundList = (request.multi && request.unwound) :=
    congrArg (request.multi && ·) (request.isSome_unwind? targets.naming)
  unfold Descriptor.defaultOutput
  rw [hunwound]
  show request.overrides.output.getD _ = _
  rw [h, Option.getD_none]
  rfl

/-! ### Clashes -/

/-- The join `d` is of an unwound list, whose singular is where the join `e` of another field of the
same document is written. -/
structure Descriptor.Clashes (naming : Naming) (d e : Descriptor) : Prop where
  unwound : d.unwoundList = true
  apart : d.path ≠ e.path
  siblings : Path.around d.path = Path.around e.path
  same : naming.singularize d.path = e.defaultOutput naming

instance (naming : Naming) (d e : Descriptor) : Decidable (d.Clashes naming e) :=
  decidable_of_iff (d.unwoundList = true ∧ d.path ≠ e.path ∧
      Path.around d.path = Path.around e.path ∧ naming.singularize d.path = e.defaultOutput naming)
    ⟨fun ⟨unwound, apart, siblings, same⟩ => ⟨unwound, apart, siblings, same⟩,
      fun h => ⟨h.unwound, h.apart, h.siblings, h.same⟩⟩

variable {naming : Naming}

/-- What is written lies in the document of the field. -/
theorem Descriptor.around_defaultOutput (h : naming.KeepsPaths) (d : Descriptor) :
    Path.around (d.defaultOutput naming) = Path.around d.path := by
  unfold defaultOutput
  split
  · exact h.around_singularize d.path
  · rfl

/-- Joins at different paths that are written to the same field clash, one way or the other. -/
theorem Descriptor.clashes_or_clashes (h : naming.KeepsPaths) {d e : Descriptor}
    (hpath : d.path ≠ e.path) (hsame : d.defaultOutput naming = e.defaultOutput naming) :
    d.Clashes naming e ∨ e.Clashes naming d := by
  have hsiblings : Path.around d.path = Path.around e.path := by
    rw [← d.around_defaultOutput h, ← e.around_defaultOutput h, hsame]
  cases hd : d.unwoundList with
  | true =>
    have hsingular : d.defaultOutput naming = naming.singularize d.path := if_pos hd
    exact Or.inl ⟨hd, hpath, hsiblings, hsingular ▸ hsame⟩
  | false =>
    have hstays : d.defaultOutput naming = d.path := if_neg (Bool.eq_false_iff.mp hd)
    cases he : e.unwoundList with
    | true =>
      have hsingular : e.defaultOutput naming = naming.singularize e.path := if_pos he
      exact Or.inr ⟨he, hpath.symm, hsiblings.symm, hsingular ▸ hsame.symm⟩
    | false =>
      have hstays' : e.defaultOutput naming = e.path := if_neg (Bool.eq_false_iff.mp he)
      exact absurd (hstays ▸ hstays' ▸ hsame) hpath

/-- No two joins of a table clash. -/
def Table.Clear (naming : Naming) (table : Table) : Prop :=
  ∀ d ∈ table.entries, ∀ e ∈ table.entries, ¬ d.Clashes naming e

instance (naming : Naming) (table : Table) : Decidable (table.Clear naming) :=
  inferInstanceAs (Decidable (∀ d ∈ table.entries, ∀ e ∈ table.entries, ¬ d.Clashes naming e))

/-- Where outputs are by default, they are distinct just when no two joins clash. -/
theorem Table.nodup_outputs_iff (h : naming.KeepsPaths) {table : Table}
    (houtput : ∀ d ∈ table.entries, d.output = d.defaultOutput naming) :
    (table.entries.map (·.output)).Nodup ↔ table.Clear naming := by
  constructor
  · intro hnodup d hd e he hclash
    have hsame : d.output = e.output := by
      rw [houtput d hd, houtput e he, ← hclash.same]
      exact if_pos hclash.unwound
    exact hclash.apart (congrArg _ (List.inj_on_of_nodup_map hnodup hd he hsame))
  · intro hclear
    refine List.Nodup.map_on (fun d hd e he hsame => ?_) table.distinct.of_map
    by_contra hne
    have hpath : d.path ≠ e.path := fun hpath =>
      hne (List.inj_on_of_nodup_map table.distinct hd he hpath)
    rw [houtput d hd, houtput e he] at hsame
    rcases Descriptor.clashes_or_clashes h hpath hsame with hclash | hclash
    · exact hclear d hd e he hclash
    · exact hclear e he d hd hclash

/-- The lookups of a pipeline write distinct fields, if the entries of the table do. -/
theorem CompileContext.nodup_outputs_lookups (ctx : CompileContext)
    (h : (ctx.table.entries.map (·.output)).Nodup) {criteria : Option Criteria}
    {options : LookupOptions} {compiled : Compiled}
    (hcompile : ctx.compile criteria options = .ok compiled) :
    (compiled.pipeline.lookups.map (·.output)).Nodup := by
  obtain ⟨cast, _, hpipeline⟩ := ctx.cast_of_compile criteria options hcompile
  have houtputs : (ctx.assemble cast options).lookups.map (·.output) =
      (ctx.kept options).map (·.output) := by
    rw [lookups_assemble, List.map_map]
    exact List.map_congr_left fun d _ => d.output_rebind ctx.targets
  rw [hpipeline, houtputs]
  exact h.sublist (List.filter_sublist.map _)

namespace Schema

/-- **When joins overwrite each other.**  By the rules of English, and if no mark names the output
of its join, the outputs of the joins of a schema are distinct just when no join of an unwound list
clashes with another join in the same document; and then no pipeline that is compiled with these
joins has two lookups that write the same field. -/
theorem outputs_distinct_iff (schema : Schema) (S : Targets) (hnaming : S.naming = .english)
    (hmarks : ∀ visit ∈ schema.visits, ∀ mark ∈ visit.options.joinable,
      mark.overrides.output = none) :
    let table := (schema.source.scan S).table
    ((table.entries.map (·.output)).Nodup ↔ table.Clear .english) ∧
    (table.Clear .english → ∀ ctx : CompileContext, ctx.table = table →
      ∀ criteria options compiled, ctx.compile criteria options = .ok compiled →
        (compiled.pipeline.lookups.map (·.output)).Nodup) := by
  intro table
  have houtput : ∀ d ∈ table.entries, d.output = d.defaultOutput .english := by
    intro d hd
    obtain ⟨visit, hvisit, request, hrequest, rfl⟩ := schema.source.exists_request_of_mem_scan hd
    obtain ⟨mark, hmarked, _, rfl⟩ := Visited.request?_eq_some_iff.mp hrequest
    rw [← hnaming]
    exact JoinRequest.output_descriptor (hmarks visit hvisit mark hmarked.marked) S
  have hiff := Table.nodup_outputs_iff Naming.english_keepsPaths houtput
  refine ⟨hiff, ?_⟩
  intro hclear ctx htable criteria options compiled hcompile
  exact ctx.nodup_outputs_lookups (htable ▸ hiff.mpr hclear) hcompile

/-- Friends of a person, who are written in the singular, and a friend in the home of the person.
They are in different documents, and do not clash. -/
theorem outputs_distinct_home :
    let friends : Field :=
      ⟨"friends", .list ⟨.scalar .reference, {}⟩,
        ⟨some "Person", some ⟨true, { unwind := some (.flag true) }⟩⟩⟩
    let friend : Field := ⟨"friend", .scalar .reference, ⟨some "Person", some ⟨true, {}⟩⟩⟩
    let home : Field := ⟨"home", .embedded ⟨"Home", none, [friend]⟩, {}⟩
    let schema : Schema := ⟨"Person", none, [friends, home]⟩
    let targets : Targets := ⟨.english, fun _ => some "people"⟩
    let table := (schema.source.scan targets).table
    let ctx : CompileContext := ⟨schema, "people", table, targets, .unchanged, true, false⟩
    (∀ visit ∈ schema.visits, ∀ mark ∈ visit.options.joinable, mark.overrides.output = none) ∧
    table.Clear .english ∧ (table.entries.map (·.output)).Nodup ∧
    ∃ compiled, ctx.compile none {} = .ok compiled ∧
      compiled.pipeline.lookups.map (·.output) = ["friend", "home.friend"] ∧
      (compiled.pipeline.lookups.map (·.output)).Nodup := by
  intro friends friend home schema targets table ctx
  have hmarks : ∀ visit ∈ schema.visits, ∀ mark ∈ visit.options.joinable,
      mark.overrides.output = none := by
    decide
  have hclear : table.Clear .english := by decide
  obtain ⟨hiff, hpipelines⟩ := schema.outputs_distinct_iff targets rfl hmarks
  have hcompile := ctx.compile_of_cast {} (show ctx.cast none = .ok none from rfl)
  exact ⟨hmarks, hclear, hiff.mpr hclear, _, hcompile, by decide,
    hpipelines hclear ctx rfl none {} _ hcompile⟩

/-- A friend of a person, and friends who are written in the singular.  They are met at distinct
paths, and no mark names an output; but the pipeline writes the same field twice. -/
theorem outputs_friends :
    let friend : Field := ⟨"friend", .scalar .reference, ⟨some "Person", some ⟨true, {}⟩⟩⟩
    let friends : Field :=
      ⟨"friends", .list ⟨.scalar .reference, {}⟩,
        ⟨some "Person", some ⟨true, { unwind := some (.flag true) }⟩⟩⟩
    let schema : Schema := ⟨"Person", none, [friend, friends]⟩
    let targets : Targets := ⟨.english, fun _ => some "people"⟩
    let table := (schema.source.scan targets).table
    let ctx : CompileContext := ⟨schema, "people", table, targets, .unchanged, true, false⟩
    (schema.visits.map (·.path)).Nodup ∧
    (∀ visit ∈ schema.visits, ∀ mark ∈ visit.options.joinable, mark.overrides.output = none) ∧
    ¬ (table.entries.map (·.output)).Nodup ∧
    ∃ compiled, ctx.compile none {} = .ok compiled ∧
      compiled.pipeline.stages =
        [.join ⟨"people", "friend", "_id", "friend"⟩, .unwind ⟨"$friend", true⟩,
          .join ⟨"people", "friends", "_id", "friend"⟩, .unwind ⟨"$friend", true⟩] := by
  intro friend friends schema targets table ctx
  have hcompile := ctx.compile_of_cast {} (show ctx.cast none = .ok none from rfl)
  exact ⟨by decide, by decide, by decide, _, hcompile, rfl⟩

end Schema

end JoinPlan
