import JoinPlan.Proofs.Join.Parts
import JoinPlan.Proofs.Store.Run

/-!
# Lookups that are unwound

The stages of a join that is unwound where it is written are a left outer join
(`Store.run_stages_unwound`): each document becomes a copy for every document of the other
collection that shares a value with it, and where there is none it is kept without the output, or
not at all.

* Which values a document holds on a path is told step by step (`Json.Leads`): through objects by
  name, through arrays item by item, and from an array at the end to its items.  Those are the
  values that a lookup compares (`Document.mem_valuesAt_iff`, `Lookup.joins_iff`).
* What is unwound by default is the variable of the output (`JoinRequest.unwind?_eq`), and the
  variable of an output stands for the field that the lookup has written
  (`Store.run_join_unwind`).
-/

namespace JoinPlan

/-! ### Values on a path -/

namespace Json

/-- The second value stands under a name in the first: as the member of an object, or as the member
of an object in an array. -/
inductive IsUnder (name : String) : Json → Json → Prop
  | member {members : Fields} {inner : Json} (stored : members.get? name = some inner) :
      IsUnder name (.object members) inner
  | item {items : List Json} {members : Fields} {inner : Json} (item : .object members ∈ items)
      (stored : members.get? name = some inner) : IsUnder name (.array items) inner

/-- Names lead from a value to another one, step by step.  From an array that they end at they lead
on to its items, and not to the array. -/
inductive Leads : List String → Json → Json → Prop
  | item {items : List Json} {reached : Json} (item : reached ∈ items) :
      Leads [] (.array items) reached
  | here {value : Json} (single : ∀ items, value ≠ .array items) : Leads [] value value
  | under {name : String} {names : List String} {value inner reached : Json}
      (first : IsUnder name value inner) (others : Leads names inner reached) :
      Leads (name :: names) value reached

theorem mem_under_iff {name : String} {value inner : Json} :
    inner ∈ value.under name ↔ IsUnder name value inner := by
  constructor
  · intro h
    unfold under at h
    split at h
    · exact .member (Option.mem_toList.mp h)
    · obtain ⟨item, hitem, hinner⟩ := List.mem_filterMap.mp h
      unfold Json.get? at hinner
      split at hinner
      · exact .item hitem hinner
      · cases hinner
    · cases h
  · intro h
    cases h with
    | member stored => exact Option.mem_toList.mpr stored
    | item item stored => exact List.mem_filterMap.mpr ⟨_, item, stored⟩

theorem mem_spread_iff {value reached : Json} :
    reached ∈ value.spread ↔ Leads [] value reached := by
  rcases value.array_or_ne with ⟨items, rfl⟩ | hsingle
  · refine ⟨.item, fun h => ?_⟩
    cases h with
    | item item => exact item
    | here single => exact absurd rfl (single items)
  · have hspread : value.spread = [value] := by
      cases value with
      | array items => exact absurd rfl (hsingle items)
      | _ => rfl
    rw [hspread, List.mem_singleton]
    constructor
    · rintro rfl
      exact .here hsingle
    · intro h
      cases h with
      | item => exact absurd rfl (hsingle _)
      | here => rfl

end Json

namespace Document

/-- What is reached from some values is what names lead to from one of them. -/
theorem mem_descend_iff {names : List String} {values : List Json} {reached : Json} :
    reached ∈ (descend values names).flatMap (·.spread) ↔
      ∃ value ∈ values, Json.Leads names value reached := by
  induction names generalizing values with
  | nil =>
    show reached ∈ values.flatMap (·.spread) ↔ _
    simp only [List.mem_flatMap, Json.mem_spread_iff]
  | cons name rest ih =>
    show reached ∈ (descend (values.flatMap (·.under name)) rest).flatMap (·.spread) ↔ _
    rw [ih]
    -- The rest leads on from what the first name reached.
    constructor
    · rintro ⟨inner, hinner, hrest⟩
      obtain ⟨value, hvalue, hunder⟩ := List.mem_flatMap.mp hinner
      exact ⟨value, hvalue, .under (Json.mem_under_iff.mp hunder) hrest⟩
    · rintro ⟨value, hvalue, hleads⟩
      cases hleads with
      | under first others =>
        exact ⟨_, List.mem_flatMap.mpr ⟨value, hvalue, Json.mem_under_iff.mpr first⟩, others⟩

theorem mem_valuesAt_iff {document : Document} {path : String} {value : Json} :
    value ∈ Document.valuesAt document path ↔
      Json.Leads (Path.segments path) (.object document) value := by
  unfold valuesAt
  rw [mem_descend_iff]
  simp only [List.mem_singleton, exists_eq_left]

end Document

/-! ### Partners -/

namespace Lookup

variable {lookup : Lookup} {foreign : List Document} {document candidate result : Document}

/-- The documents share a value on the fields that the lookup compares. -/
def Shares (lookup : Lookup) (document candidate : Document) : Prop :=
  ∃ value other, Json.Leads (Path.segments lookup.localField) (.object document) value ∧
    Json.Leads (Path.segments lookup.foreignField) (.object candidate) other ∧
    other.same value = true

theorem joins_iff : lookup.joins document candidate = true ↔ lookup.Shares document candidate := by
  unfold joins Json.isAmong Shares
  simp only [List.any_eq_true, Document.mem_valuesAt_iff]
  constructor
  · rintro ⟨other, hother, value, hvalue, hsame⟩
    exact ⟨value, other, hvalue, hother, hsame⟩
  · rintro ⟨value, other, hvalue, hother, hsame⟩
    exact ⟨other, hother, value, hvalue, hsame⟩

instance : Decidable (lookup.Shares document candidate) :=
  decidable_of_iff _ joins_iff

theorem partners_eq_filter (lookup : Lookup) (foreign : List Document) (document : Document) :
    lookup.partners foreign document =
      foreign.filter fun candidate => lookup.Shares document candidate := by
  unfold partners
  apply List.filter_congr
  intro candidate _
  rw [Bool.eq_iff_iff, joins_iff, decide_eq_true_iff]

/-- A document that is joined differs from what it was in the output alone, and there it holds a
document or nothing. -/
theorem get?_of_mem_outerJoin {preserveEmpty : Bool}
    (h : result ∈ lookup.outerJoin foreign preserveEmpty document) :
    (∀ items, result.get? lookup.output ≠ some (.array items)) ∧
      ∀ key, key ≠ lookup.output → result.get? key = document.get? key := by
  unfold outerJoin at h
  split at h
  · split at h
    · rw [List.mem_singleton.mp h]
      refine ⟨fun items heq => ?_, fun key hkey => ?_⟩
      · rw [Fields.get?_erase, if_pos rfl] at heq
        cases heq
      · rw [Fields.get?_erase, if_neg hkey.symm]
    · cases h
  · obtain ⟨partner, _, rfl⟩ := List.mem_map.mp h
    refine ⟨fun items heq => ?_, fun key hkey => ?_⟩
    · rw [Fields.get?_insert_self] at heq
      cases heq
    · rw [Fields.get?_insert, if_neg hkey.symm]

end Lookup

/-! ### Stages of a join -/

namespace Store

variable (store : Store)

/-- A join whose output is unwound joins each document by itself. -/
theorem run_stages_of_unwind {d : Descriptor} {preserveEmpty : Bool}
    (hunwind : d.unwind = some ⟨Path.variableName d.output, preserveEmpty⟩)
    (houtput : d.output.toList.head? ≠ some '$') (documents : List Document) :
    store.run d.stages documents =
      documents.flatMap (d.lookup.outerJoin (store.documentsIn d.collection) preserveEmpty) := by
  have hstages : d.stages =
      [.join d.lookup, .unwind ⟨Path.variableName d.lookup.output, preserveEmpty⟩] := by
    unfold Descriptor.stages
    rw [hunwind]
    rfl
  rw [run_eq_flatMap, hstages]
  apply List.flatMap_congr
  intro document _
  exact store.run_join_unwind d.lookup preserveEmpty document houtput

/-- **A lookup and its default unwinding are a left outer join.**  Take a join that is derived with
an unwinding, its path left to the derivation, and with an output that does not look like a
variable.  Its stages make of each document in turn one copy for every document of the joined
collection that shares a value with it, in stored order, with that document as the output; and where
there is none, the document without the output, or nothing.  So no output is an array, and under all
other keys a result has what the document has that it is made of. -/
theorem run_stages_unwound {request : JoinRequest} {targets : Targets} {spec : Unwind}
    (hunwind : (request.descriptor targets).unwind = some spec)
    (hpath : ∀ settings ∈ request.overrides.unwind.bind (·.settings?), settings.path = none)
    (houtput : (request.descriptor targets).output.toList.head? ≠ some '$')
    (documents : List Document) :
    let d := request.descriptor targets
    store.run d.stages documents = documents.flatMap (fun document =>
      match (store.documentsIn d.collection).filter fun candidate =>
          d.lookup.Shares document candidate with
      | [] => if spec.preserveEmpty then [document.erase d.output] else []
      | partners => partners.map fun partner => document.insert d.output (.object partner)) ∧
    ∀ result ∈ store.run d.stages documents,
      (∀ items, result.get? d.output ≠ some (.array items)) ∧
        ∃ document ∈ documents, ∀ key, key ≠ d.output → result.get? key = document.get? key := by
  intro d
  -- With no path of the author's the unwinding is that of the variable of the output.
  have hspec : d.unwind = some ⟨Path.variableName d.output, spec.preserveEmpty⟩ := by
    have hderived : request.unwind? targets.naming = some spec := hunwind
    rw [JoinRequest.unwind?_eq targets.naming hpath] at hderived
    split at hderived
    · obtain rfl := Option.some.inj hderived
      exact hunwind
    · cases hderived
  have hrun := store.run_stages_of_unwind hspec houtput documents
  constructor
  · rw [hrun]
    apply List.flatMap_congr
    intro document _
    unfold Lookup.outerJoin
    rw [Lookup.partners_eq_filter]
    rfl
  · intro result hresult
    rw [hrun] at hresult
    obtain ⟨document, hdocument, hmem⟩ := List.mem_flatMap.mp hresult
    obtain ⟨hsingle, hothers⟩ := Lookup.get?_of_mem_outerJoin hmem
    exact ⟨hsingle, document, hdocument, hothers⟩

/-- Sailors in the crews of two ships, who are written in the singular.  The first ship has some in
an array and one by itself, each inside an item of its crew; two documents share a value with it,
and one of them shares two.  The second ship has none and is kept. -/
theorem run_stages_unwound_crew :
    let request : JoinRequest := ⟨"crew.sailors", some "Person", true,
      { foreignField := some "ids", unwind := some (.flag true) }⟩
    let targets : Targets := ⟨.suffixed "s", fun _ => some "people"⟩
    let d : Descriptor := ⟨"crew.sailors", some "Person", "people", "crew.sailors", "ids",
      "crew.sailor", true, some ⟨"$crew.sailor", true⟩, false⟩
    let argo : Document := [("crew", .array [
      .object [("sailors", .array [.string "A", .string "B"])], .object [("captain", .string "X")],
      .object [("sailors", .string "C")]])]
    let hulk : Document := [("crew", .null)]
    let bea : Document := [("ids", .array [.string "B"])]
    let cid : Document := [("ids", .array [.string "C", .string "A"])]
    let store : Store := ⟨[("people", [bea, [("ids", .string "X")], cid])]⟩
    request.descriptor targets = d ∧
    (∀ settings ∈ request.overrides.unwind.bind (·.settings?), settings.path = none) ∧
    d.output.toList.head? ≠ some '$' ∧
    store.run d.stages [argo, hulk] = [argo.insert "crew.sailor" (.object bea),
      argo.insert "crew.sailor" (.object cid), hulk] ∧
    ∀ result ∈ store.run d.stages [argo, hulk],
      ∀ items, result.get? "crew.sailor" ≠ some (.array items) := by
  intro request targets d argo hulk bea cid store
  have hderived : request.descriptor targets = d := by decide
  have hpath : ∀ settings ∈ request.overrides.unwind.bind (·.settings?),
      settings.path = none := by decide
  have houtput : d.output.toList.head? ≠ some '$' := by decide
  obtain ⟨hrun, hresults⟩ := store.run_stages_unwound (congrArg Descriptor.unwind hderived) hpath
    (hderived ▸ houtput) [argo, hulk]
  rw [hderived] at hrun hresults
  refine ⟨hderived, hpath, houtput, ?_, fun result hresult => (hresults result hresult).1⟩
  rw [hrun]
  unfold d
  rfl

end Store

end JoinPlan
