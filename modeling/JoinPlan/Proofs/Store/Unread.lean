import JoinPlan.Proofs.Pipeline.Compilation
import JoinPlan.Proofs.Store.Provenance

/-!
# Joins that nothing reads

Leaving out a join changes nothing but its output, if the join is not unwound, no other join writes
its output, and no later one reads it (`CompileContext.exec_exclude_unread`).  Two executions are
compared, with the join and without it.

* Behind the join their documents agree but for its output (`Document.AgreesApart`).
* A path reads the field of its first name and no other (`Document.valuesAt_congr`).  So a stage
  that neither reads nor writes a key (`Stage.Ignores`) makes the same of documents that agree but
  for it, position by position (`Store.forall₂_apply`), and so does a run of such stages
  (`Store.forall₂_run_of_ignores`).
* Without the join no stage writes the output, and a result has there what its source has
  (`Store.get?_of_mem_run`).
-/

namespace JoinPlan

/-! ### Documents that agree but for a key -/

/-- The documents have the same under every key, except perhaps for this one. -/
def Document.AgreesApart (key : String) (document other : Document) : Prop :=
  ∀ name, name ≠ key → document.get? name = other.get? name

namespace Document

/-- A path reads no more than the field of its first name. -/
theorem valuesAt_congr {document other : Document} {path : String}
    (h : ∀ name, (Path.segments path).head? = some name → document.get? name = other.get? name) :
    Document.valuesAt document path = Document.valuesAt other path := by
  unfold valuesAt
  cases hsegments : Path.segments path with
  | nil => exact absurd hsegments (Path.segments_ne_nil path)
  | cons name rest =>
    -- Only the first step looks at the document, and both make the same step.
    have hfirst : (Json.object document).under name = (Json.object other).under name :=
      congrArg Option.toList (h name (by rw [hsegments]; rfl))
    show (descend ([Json.object document].flatMap (·.under name)) rest).flatMap _ =
      (descend ([Json.object other].flatMap (·.under name)) rest).flatMap _
    rw [List.flatMap_singleton, List.flatMap_singleton, hfirst]

namespace AgreesApart

variable {key : String} {document other : Document}

theorem of_insert (key : String) (value : Json) (document : Document) :
    AgreesApart key (document.insert key value) document := by
  intro name hname
  rw [Fields.get?_insert, if_neg hname.symm]

theorem insert (h : AgreesApart key document other) (name : String) (value : Json) :
    AgreesApart key (document.insert name value) (other.insert name value) := by
  intro name' hname'
  rw [Fields.get?_insert, Fields.get?_insert, h name' hname']

theorem erase (h : AgreesApart key document other) (name : String) :
    AgreesApart key (document.erase name) (other.erase name) := by
  intro name' hname'
  rw [Fields.get?_erase, Fields.get?_erase, h name' hname']

/-- A path whose first name is another one has the same values. -/
theorem valuesAt_eq (h : AgreesApart key document other) {path : String}
    (hpath : (Path.segments path).head? ≠ some key) :
    Document.valuesAt document path = Document.valuesAt other path :=
  valuesAt_congr fun name hname => h name fun heq => hpath (heq ▸ hname)

theorem isMatch_eq (h : AgreesApart key document other) {criteria : Criteria}
    (hcriteria : ∀ condition ∈ criteria, (Path.segments condition.1).head? ≠ some key) :
    Document.isMatch document criteria = Document.isMatch other criteria := by
  rw [Bool.eq_iff_iff, isMatch, isMatch, List.all_eq_true, List.all_eq_true]
  apply forall₂_congr
  rintro ⟨path, condition⟩ hcondition
  show meets (Document.valuesAt document path) condition = true ↔
    meets (Document.valuesAt other path) condition = true
  rw [h.valuesAt_eq (hcriteria _ hcondition)]

end AgreesApart

end Document

/-! ### Stages that ignore a key -/

/-- The stage neither reads the key nor writes it. -/
def Stage.Ignores (key : String) : Stage → Prop
  | .select criteria => ∀ condition ∈ criteria, (Path.segments condition.1).head? ≠ some key
  | .join lookup => lookup.output ≠ key ∧ (Path.segments lookup.localField).head? ≠ some key
  | .unwind spec => spec.field ≠ key

variable {key : String}

theorem Lookup.extend_agreesApart {lookup : Lookup} {document other : Document}
    (hlocal : (Path.segments lookup.localField).head? ≠ some key)
    (h : Document.AgreesApart key document other) (foreign : List Document) :
    Document.AgreesApart key (lookup.extend foreign document) (lookup.extend foreign other) := by
  have hpartners : lookup.partners foreign document = lookup.partners foreign other := by
    unfold partners joins
    rw [h.valuesAt_eq hlocal]
  unfold extend
  rw [hpartners]
  exact h.insert _ _

theorem Unwind.forall₂_spread {spec : Unwind} {document other : Document}
    (hfield : spec.field ≠ key) (h : Document.AgreesApart key document other) :
    List.Forall₂ (Document.AgreesApart key) (spec.spread document) (spec.spread other) := by
  unfold spread
  rw [h spec.field hfield]
  split
  · rw [List.forall₂_map_left_iff, List.forall₂_map_right_iff, List.forall₂_same]
    exact fun value _ => h.insert spec.field value
  -- An empty array, `null` and a missing value are treated alike.
  iterate 3
    · split
      · exact .cons (h.erase spec.field) .nil
      · exact .nil
  · exact .cons h .nil

namespace Store

variable (store : Store)

/-- A stage that ignores the key makes the same of documents that agree but for it. -/
theorem forall₂_apply {stage : Stage} (hstage : stage.Ignores key)
    {documents others : List Document}
    (h : List.Forall₂ (Document.AgreesApart key) documents others) :
    List.Forall₂ (Document.AgreesApart key) (store.apply documents stage)
      (store.apply others stage) := by
  cases stage with
  | select criteria =>
    refine List.rel_filter (fun document other hagree => ?_) h
    show Document.isMatch document criteria = true ↔ Document.isMatch other criteria = true
    rw [hagree.isMatch_eq hstage]
  | join lookup =>
    show List.Forall₂ _ (documents.map _) (others.map _)
    rw [List.forall₂_map_left_iff, List.forall₂_map_right_iff]
    exact h.imp fun _ _ hagree => Lookup.extend_agreesApart hstage.2 hagree _
  | unwind spec =>
    exact List.rel_flatMap h fun _ _ hagree => Unwind.forall₂_spread hstage hagree

/-- **A run of stages that ignore the key** does too. -/
theorem forall₂_run_of_ignores {stages : List Stage} (hstages : ∀ stage ∈ stages, stage.Ignores key)
    {documents others : List Document}
    (h : List.Forall₂ (Document.AgreesApart key) documents others) :
    List.Forall₂ (Document.AgreesApart key) (store.run stages documents)
      (store.run stages others) := by
  induction stages generalizing documents others with
  | nil => exact h
  | cons stage rest ih =>
    exact ih (fun other hother => hstages other (List.mem_cons_of_mem _ hother))
      (store.forall₂_apply (hstages stage List.mem_cons_self) h)

/-- With a lookup and without it the documents agree but for its output, if the stages behind it
ignore that. -/
theorem forall₂_run_join (before : List Stage) (lookup : Lookup) {after : List Stage}
    (hafter : ∀ stage ∈ after, stage.Ignores lookup.output) (documents : List Document) :
    List.Forall₂ (Document.AgreesApart lookup.output)
      (store.run (before ++ .join lookup :: after) documents)
      (store.run (before ++ after) documents) := by
  rw [run_append, run_append]
  -- The documents part at the lookup, and the stages behind it cannot tell.
  apply store.forall₂_run_of_ignores hafter
  show List.Forall₂ _ ((store.run before documents).map _) (store.run before documents)
  rw [List.forall₂_map_left_iff, List.forall₂_same]
  exact fun document _ => .of_insert lookup.output _ document

end Store

/-! ### What joins read and write -/

namespace Descriptor

variable {d : Descriptor}

/-- A stage of the join writes the key: it is the output, or the field that is unwound. -/
def Writes (d : Descriptor) (key : String) : Prop :=
  d.output = key ∨ d.unwind.map (·.field) = some key

/-- The join reads the key: its path begins with it. -/
def Reads (d : Descriptor) (key : String) : Prop :=
  (Path.segments d.localField).head? = some key

instance (d : Descriptor) (key : String) : Decidable (d.Writes key) :=
  inferInstanceAs (Decidable (_ ∨ _))

instance (d : Descriptor) (key : String) : Decidable (d.Reads key) :=
  inferInstanceAs (Decidable (_ = _))

theorem written?_of_not_writes (targets : Targets) (h : ¬ d.Writes key) {stage : Stage}
    (hstage : stage ∈ (d.rebind targets).stages) : stage.written? ≠ some key := by
  intro hwritten
  rcases mem_stages_rebind targets hstage with rfl | ⟨spec, hspec, rfl⟩
  · have houtput : (d.rebind targets).output = key := Option.some.inj hwritten
    exact h (Or.inl (d.output_rebind targets ▸ houtput))
  · exact h (Or.inr (by rw [hspec]; exact hwritten))

theorem ignores_of_not_writes (targets : Targets) (hwrites : ¬ d.Writes key)
    (hreads : ¬ d.Reads key) {stage : Stage} (hstage : stage ∈ (d.rebind targets).stages) :
    stage.Ignores key := by
  have hwritten := written?_of_not_writes targets hwrites hstage
  rcases mem_stages_rebind targets hstage with rfl | ⟨spec, _, rfl⟩
  · refine ⟨fun heq => hwritten (congrArg some heq), ?_⟩
    show (Path.segments (d.rebind targets).localField).head? ≠ some key
    rw [d.localField_rebind targets]
    exact hreads
  · exact fun heq => hwritten (congrArg some heq)

end Descriptor

/-! ### Lookups -/

namespace CompileContext

variable (ctx : CompileContext) {options options' : LookupOptions} {d : Descriptor}
  {before after : List Descriptor}

/-- The pipeline leaves a key alone that no join in it writes. -/
theorem leavesAlone_assemble (cast : Option Criteria)
    (hwrites : ∀ e ∈ ctx.kept options, ¬ e.Writes key) :
    (ctx.assemble cast options).LeavesAlone key := by
  intro stage hstage
  rcases List.mem_append.mp hstage with hselect | hjoin
  · obtain ⟨criteria, _, rfl⟩ := List.mem_map.mp hselect
    exact (Option.some_ne_none key).symm
  · obtain ⟨e, he, hstage⟩ := List.mem_flatMap.mp hjoin
    exact Descriptor.written?_of_not_writes ctx.targets (hwrites e he) hstage

/-- A join that stays under some options and is left out under others makes its output differ and
nothing else, if it is not unwound and the joins behind it ignore its output. -/
theorem forall₂_run_assemble (cast : Option Criteria)
    (hkept : ctx.kept options = before ++ d :: after)
    (hexcluded : ctx.kept options' = before ++ after) (hunwind : d.unwind = none)
    (hafter : ∀ e ∈ after, ¬ e.Writes d.output ∧ ¬ e.Reads d.output) (store : Store)
    (documents : List Document) :
    List.Forall₂ (Document.AgreesApart d.output)
      (store.run (ctx.assemble cast options).stages documents)
      (store.run (ctx.assemble cast options').stages documents) := by
  let join (e : Descriptor) : List Stage := (e.rebind ctx.targets).stages
  -- The join is its lookup alone, with stages before it and behind it that both pipelines have.
  have hjoin : join d = [.join (d.rebind ctx.targets).lookup] := by
    show Descriptor.stages _ = _
    unfold Descriptor.stages
    rw [Descriptor.rebind_eq, hunwind]
    rfl
  have hwith : (ctx.assemble cast options).stages =
      (cast.toList.map .select ++ before.flatMap join) ++
        .join (d.rebind ctx.targets).lookup :: after.flatMap join := by
    show _ ++ (ctx.kept options).flatMap join = _
    rw [hkept, List.flatMap_append, List.flatMap_cons, hjoin, List.append_assoc]
    rfl
  have hwithout : (ctx.assemble cast options').stages =
      (cast.toList.map .select ++ before.flatMap join) ++ after.flatMap join := by
    show _ ++ (ctx.kept options').flatMap join = _
    rw [hexcluded, List.flatMap_append, List.append_assoc]
  have houtput : (d.rebind ctx.targets).lookup.output = d.output := d.output_rebind ctx.targets
  rw [hwith, hwithout, ← houtput]
  apply store.forall₂_run_join
  intro stage hstage
  obtain ⟨e, he, hstage⟩ := List.mem_flatMap.mp hstage
  rw [houtput]
  exact Descriptor.ignores_of_not_writes ctx.targets (hafter e he).1 (hafter e he).2 hstage

/-- **Excluding a join that is not unwound takes away its output and nothing else.**  Take any
lookup that compiles, a join that stays in it and is not unwound, and more names to exclude that
leave out exactly this join.  If no other join that stays writes its output, and none behind it
reads it, then both lookups have as many results.  Position by position these come from the same
stored document and agree but for the output, and without the join the output is what it is in that
document. -/
theorem exec_exclude_unread {criteria : Option Criteria} {names more : List String}
    {disk : Option Bool} {compiled : Compiled}
    (hcompile : ctx.compile criteria ⟨names, disk⟩ = .ok compiled)
    (hkept : ctx.kept ⟨names, disk⟩ = before ++ d :: after) (hunwind : d.unwind = none)
    (hexcluded : ctx.kept ⟨names ++ more, disk⟩ = before ++ after)
    (hwrites : ∀ e ∈ before ++ after, ¬ e.Writes d.output)
    (hreads : ∀ e ∈ after, ¬ e.Reads d.output)
    {store : Store} {stored : List Document}
    (hstored : store.documents? ctx.collection = some stored) :
    ∃ (compiled' : Compiled) (results : List (Document × Document)),
      ctx.compile criteria ⟨names ++ more, disk⟩ = .ok compiled' ∧
      store.exec compiled.pipeline = .ok (results.map Prod.fst) ∧
      store.exec compiled'.pipeline = .ok (results.map Prod.snd) ∧
      ∃ source : Fin results.length → Fin stored.length, Monotone source ∧ ∀ i,
        results[i].1 ∈ store.run compiled.pipeline.stages [stored[source i]] ∧
        results[i].2 ∈ store.run compiled'.pipeline.stages [stored[source i]] ∧
        Document.AgreesApart d.output results[i].1 results[i].2 ∧
        results[i].2.get? d.output = stored[source i].get? d.output := by
  obtain ⟨cast, hcast, hpipeline⟩ := ctx.cast_of_compile criteria _ hcompile
  have hcompile' := ctx.compile_of_cast ⟨names ++ more, disk⟩ hcast
  have hafter : ∀ e ∈ after, ¬ e.Writes d.output ∧ ¬ e.Reads d.output :=
    fun e he => ⟨hwrites e (List.mem_append_right _ he), hreads e he⟩
  -- The two pipelines are compared on one stored document at a time, so that pairs have one source.
  have hruns : ∀ document ∈ stored, List.Forall₂ (Document.AgreesApart d.output)
      (store.run (ctx.assemble cast ⟨names, disk⟩).stages [document])
      (store.run (ctx.assemble cast ⟨names ++ more, disk⟩).stages [document]) :=
    fun document _ =>
      ctx.forall₂_run_assemble cast hkept hexcluded hunwind hafter store [document]
  obtain ⟨results, hfst, hsnd, source, hmonotone, hsource⟩ := exists_paired_source hruns
  have halone : (ctx.assemble cast ⟨names ++ more, disk⟩).LeavesAlone d.output :=
    ctx.leavesAlone_assemble cast (hexcluded ▸ hwrites)
  rw [← store.run_eq_flatMap] at hfst hsnd
  rw [hpipeline]
  refine ⟨_, results, hcompile', ?_, ?_, source, hmonotone, fun i => ?_⟩
  · rw [hfst]
    exact store.exec_eq_run hstored
  · rw [hsnd]
    exact store.exec_eq_run hstored
  · obtain ⟨hwith, hwithout, hagree⟩ := hsource i
    exact ⟨hwith, hwithout, hagree, Store.get?_of_mem_run hwithout halone⟩

/-- Friends between a father and pets, who are both unwound.  Of three persons one has two pets and
one has none and is dropped.  Without the friends there are the same three results, in which the
stored field of that name is still there, or still missing. -/
theorem exec_exclude_unread_friends :
    let father : Descriptor :=
      ⟨"father", some "Person", "", "father", "_id", "father", false, some ⟨"$father", true⟩, false⟩
    let friends : Descriptor :=
      ⟨"friends", some "Person", "", "friendIds", "_id", "friends", true, none, false⟩
    let pets : Descriptor :=
      ⟨"pets", some "Pet", "pets", "pets", "_id", "pet", true, some ⟨"$pet", false⟩, true⟩
    let ctx : CompileContext :=
      ⟨⟨"Person", none, []⟩, "people", ⟨[father, friends, pets], by decide⟩,
        ⟨.suffixed "_all", fun _ => some "people"⟩, .bySchema, true, false⟩
    let jean : Document := [("_id", .string "J"), ("father", .string "F"),
      ("friendIds", .array [.string "A", .string "F"]), ("friends", .string "two"),
      ("pets", .array [.string "R", .string "T"])]
    let ada : Document := [("_id", .string "A")]
    let frank : Document := [("_id", .string "F"), ("pets", .array [.string "T"])]
    let rex : Document := [("_id", .string "R")]
    let tom : Document := [("_id", .string "T")]
    let store : Store := ⟨[("people", [jean, ada, frank]), ("pets", [rex, tom])]⟩
    let son := jean.insert "father" (.object frank)
    let known : Json := .array [.object ada, .object frank]
    ctx.kept ⟨[], none⟩ = [father] ++ friends :: [pets] ∧ friends.unwind = none ∧
    ctx.kept ⟨[] ++ ["friends"], none⟩ = [father] ++ [pets] ∧
    (∀ e ∈ [father] ++ [pets], ¬ e.Writes friends.output) ∧
    (∀ e ∈ [pets], ¬ e.Reads friends.output) ∧
    store.documents? ctx.collection = some [jean, ada, frank] ∧
    ∃ (compiled compiled' : Compiled) (results : List (Document × Document)),
      ctx.compile none ⟨[], none⟩ = .ok compiled ∧
      ctx.compile none ⟨[] ++ ["friends"], none⟩ = .ok compiled' ∧
      store.exec compiled.pipeline = .ok (results.map Prod.fst) ∧
      store.exec compiled'.pipeline = .ok (results.map Prod.snd) ∧
      results.map Prod.snd = [son.insert "pet" (.object rex), son.insert "pet" (.object tom),
        frank.insert "pet" (.object tom)] ∧
      results.map Prod.fst = [(son.insert "friends" known).insert "pet" (.object rex),
        (son.insert "friends" known).insert "pet" (.object tom),
        (frank.insert "friends" (.array [])).insert "pet" (.object tom)] ∧
      ∀ i (h : i < results.length), Document.AgreesApart "friends" results[i].1 results[i].2 := by
  intro father friends pets ctx jean ada frank rex tom store son known
  let first : List Stage := [.join ⟨"people", "father", "_id", "father"⟩, .unwind ⟨"$father", true⟩]
  let last : List Stage := [.join ⟨"pets", "pets", "_id", "pet"⟩, .unwind ⟨"$pet", false⟩]
  let friendly : Stage := .join ⟨"people", "friendIds", "_id", "friends"⟩
  have hcompile : ctx.compile none ⟨[], none⟩ =
      .ok ⟨⟨"people", first ++ friendly :: last, true⟩, []⟩ := by rfl
  have hexcluding : ctx.compile none ⟨[] ++ ["friends"], none⟩ =
      .ok ⟨⟨"people", first ++ last, true⟩, []⟩ := by rfl
  have hkept : ctx.kept ⟨[], none⟩ = [father] ++ friends :: [pets] := by decide
  have hexcluded : ctx.kept ⟨[] ++ ["friends"], none⟩ = [father] ++ [pets] := by decide
  have hwrites : ∀ e ∈ [father] ++ [pets], ¬ e.Writes friends.output := by decide
  have hreads : ∀ e ∈ [pets], ¬ e.Reads friends.output := by decide
  have hstored : store.documents? ctx.collection = some [jean, ada, frank] := rfl
  have hfirst : store.run first [jean, ada, frank] = [son, ada, frank] := by rfl
  have hwith : store.run (friendly :: last) [son, ada, frank] =
      [(son.insert "friends" known).insert "pet" (.object rex),
        (son.insert "friends" known).insert "pet" (.object tom),
        (frank.insert "friends" (.array [])).insert "pet" (.object tom)] := by rfl
  have hwithout : store.run last [son, ada, frank] =
      [son.insert "pet" (.object rex), son.insert "pet" (.object tom),
        frank.insert "pet" (.object tom)] := by rfl
  obtain ⟨compiled', results, hcompile', hexec, hexec', source, _, hsource⟩ :=
    ctx.exec_exclude_unread hcompile hkept rfl hexcluded hwrites hreads hstored
  refine ⟨hkept, rfl, hexcluded, hwrites, hreads, hstored, _, compiled', results, hcompile,
    hcompile', hexec, hexec', ?_, ?_, fun i h => (hsource ⟨i, h⟩).2.2.1⟩
  · rw [← Except.ok.inj (hexcluding.symm.trans hcompile'), store.exec_eq_run hstored,
      store.run_append, hfirst, hwithout] at hexec'
    exact (Except.ok.inj hexec').symm
  · rw [store.exec_eq_run hstored, store.run_append, hfirst, hwith] at hexec
    exact (Except.ok.inj hexec).symm

end CompileContext

end JoinPlan
