import JoinPlan.Proofs.Join.Rebind
import JoinPlan.Proofs.Keyed
import Mathlib.Data.List.Induction

/-!
# Scans of repeated paths

A source of fields need not be a schema, and may yield a path more than once.  What a scan makes of
a field is decided by the field alone: it asks for a join (`Visited.Joined`), or is marked and has
nothing to join with (`Visited.Unjoinable`), or has no part in the scan.  One field more puts its
join into the table if it asks for one, and otherwise leaves the table as it is
(`table_scan_concat`, `table_scan_concat_of_not`).

So by induction on the fields, taken off at the end, the paths of the table stand in the order in
which they first ask for a join (`paths_scan`), and the join under a path is the last one asked for
(`get?_scan_eq_some_iff`).  The fields that cannot be joined are reported in their order
(`events_scan`).
-/

namespace JoinPlan

/-! ### What is made of a field -/

namespace Visited

variable {field : Visited} {mark : JoinMark}

/-- The field has the mark, and the mark is enabled. -/
structure MarkedBy (field : Visited) (mark : JoinMark) : Prop where
  marked : field.options.joinable = some mark
  enabled : mark.enabled = true

/-- There is something to join with: an entity that the field refers to, or a collection that the
mark names. -/
def HasTarget (field : Visited) (mark : JoinMark) : Prop :=
  (∃ reference, field.options.reference = some reference ∧ reference ≠ "") ∨
    ∃ collection, mark.overrides.collection = some collection

/-- The field asks for a join: it is marked, and there is something to join with. -/
def Joined (field : Visited) : Prop :=
  ∃ mark, field.MarkedBy mark ∧ field.HasTarget mark

/-- The field is marked, and there is nothing to join with. -/
def Unjoinable (field : Visited) : Prop :=
  ∃ mark, field.MarkedBy mark ∧ ¬ field.HasTarget mark

/-- What a mark of the field asks for. -/
def requestBy (field : Visited) (mark : JoinMark) : JoinRequest :=
  ⟨field.path, field.options.target?, field.multi, mark.overrides⟩

theorem mark?_eq_some_iff : field.options.mark? = some mark ↔ field.MarkedBy mark := by
  unfold Options.mark?
  rw [Option.filter_eq_some_iff]
  exact ⟨fun ⟨hmarked, henabled⟩ => ⟨hmarked, henabled⟩, fun h => ⟨h.marked, h.enabled⟩⟩

theorem hasTarget_iff :
    field.HasTarget mark ↔
      ¬ (field.options.target?.isNone && mark.overrides.collection.isNone) = true := by
  unfold HasTarget Options.target?
  cases field.options.reference <;> cases mark.overrides.collection <;> simp

instance (field : Visited) (mark : JoinMark) : Decidable (field.HasTarget mark) :=
  decidable_of_iff _ hasTarget_iff.symm

theorem request?_of_markedBy (h : field.MarkedBy mark) :
    field.request? = if field.HasTarget mark then some (field.requestBy mark) else none := by
  unfold request?
  rw [mark?_eq_some_iff.mpr h]
  by_cases htarget : field.HasTarget mark
  · rw [if_pos htarget]
    exact if_neg (hasTarget_iff.mp htarget)
  · rw [if_neg htarget]
    exact if_pos (not_not.mp (mt hasTarget_iff.mpr htarget))

theorem request?_eq_some_iff {request : JoinRequest} :
    field.request? = some request ↔
      ∃ mark, field.MarkedBy mark ∧ field.HasTarget mark ∧ request = field.requestBy mark := by
  constructor
  · intro h
    cases hmark : field.options.mark? with
    | none =>
      rw [request?, hmark] at h
      cases h
    | some mark =>
      have hmarked := mark?_eq_some_iff.mp hmark
      rw [request?_of_markedBy hmarked, Option.ite_none_right_eq_some] at h
      exact ⟨mark, hmarked, h.1, (Option.some.inj h.2).symm⟩
  · rintro ⟨mark, hmarked, htarget, rfl⟩
    rw [request?_of_markedBy hmarked, if_pos htarget]

theorem isSome_request?_iff : field.request?.isSome = true ↔ field.Joined := by
  rw [Option.isSome_iff_exists]
  simp only [request?_eq_some_iff]
  constructor
  · rintro ⟨_, mark, hmarked, htarget, _⟩
    exact ⟨mark, hmarked, htarget⟩
  · rintro ⟨mark, hmarked, htarget⟩
    exact ⟨_, mark, hmarked, htarget, rfl⟩

theorem isSkipped_iff : field.isSkipped = true ↔ field.Unjoinable := by
  unfold isSkipped
  rw [Bool.and_eq_true, Option.isSome_iff_exists, Option.isNone_iff_eq_none]
  simp only [mark?_eq_some_iff]
  constructor
  · rintro ⟨⟨mark, hmarked⟩, hnone⟩
    rw [request?_of_markedBy hmarked, ite_eq_right_iff] at hnone
    exact ⟨mark, hmarked, fun htarget => nomatch hnone htarget⟩
  · rintro ⟨mark, hmarked, htarget⟩
    exact ⟨⟨mark, hmarked⟩, by rw [request?_of_markedBy hmarked, if_neg htarget]⟩

instance : DecidablePred Joined := fun field =>
  decidable_of_iff (field.request?.isSome = true) isSome_request?_iff

instance : DecidablePred Unjoinable := fun field =>
  decidable_of_iff (field.isSkipped = true) isSkipped_iff

end Visited

/-! ### Tables -/

/-- The descriptor put in last is the one that counts. -/
theorem Descriptor.find?_putInto (d : Descriptor) (path : String) (entries : List Descriptor) :
    (d.putInto entries).find? (·.path = path) =
      if d.path = path then some d else entries.find? (·.path = path) := by
  induction entries with
  | nil => simp [putInto, List.find?_singleton]
  | cons e rest ih =>
    rw [putInto]
    by_cases he : e.path = d.path
    · rw [if_pos he]
      by_cases hd : d.path = path <;> simp [he, hd]
    · rw [if_neg he, List.find?_cons, List.find?_cons, ih]
      by_cases hd : d.path = path
      · have hne : e.path ≠ path := fun h => he (h.trans hd.symm)
        simp [hd, hne]
      · simp [hd]

namespace Table

variable (table : Table) (d : Descriptor)

theorem paths_insert : (table.insert d).paths =
    if d.path ∈ table.paths then table.paths else table.paths ++ [d.path] :=
  d.paths_putInto table.entries

theorem get?_insert (path : String) :
    (table.insert d).get? path = if d.path = path then some d else table.get? path :=
  d.find?_putInto path table.entries

end Table

/-! ### One field more -/

namespace FieldSource

variable (entity : String) (targets : Targets) (fields : List Visited) {field : Visited}
  {mark : JoinMark}

/-- A field that asks for a join puts it into the table. -/
theorem table_scan_concat (hmarked : field.MarkedBy mark) (htarget : field.HasTarget mark) :
    ((FieldSource.mk entity (fields ++ [field])).scan targets).table =
      ((FieldSource.mk entity fields).scan targets).table.insert
        ((field.requestBy mark).descriptor targets) := by
  have hrequest : field.request? = some (field.requestBy mark) := by
    rw [Visited.request?_of_markedBy hmarked, if_pos htarget]
  simp [scan, descriptors, Table.ofList, hrequest]

/-- Any other field leaves the table as it is. -/
theorem table_scan_concat_of_not (h : ¬ field.Joined) :
    ((FieldSource.mk entity (fields ++ [field])).scan targets).table =
      ((FieldSource.mk entity fields).scan targets).table := by
  rw [← Visited.isSome_request?_iff, Bool.not_eq_true, Option.isSome_eq_false_iff,
    Option.isNone_iff_eq_none] at h
  simp [scan, descriptors, h]

end FieldSource

/-! ### All fields -/

/-- Of the fields that ask for a join at a path this is the last, and it asks by this mark. -/
def Visited.LastJoined (fields : List Visited) (path : String) (field : Visited)
    (mark : JoinMark) : Prop :=
  ∃ before after, fields = before ++ field :: after ∧ field.path = path ∧
    field.MarkedBy mark ∧ field.HasTarget mark ∧
    ∀ later ∈ after, later.path = path → ¬ later.Joined

namespace Visited

variable {fields : List Visited} {path : String} {last field : Visited} {mark mark' : JoinMark}

theorem MarkedBy.unique (h : field.MarkedBy mark) (h' : field.MarkedBy mark') : mark = mark' :=
  Option.some.inj (h.marked.symm.trans h'.marked)

/-- The last field is the last to ask at its path, if it asks. -/
theorem lastJoined_concat_self (hmarked : last.MarkedBy mark) (htarget : last.HasTarget mark) :
    LastJoined (fields ++ [last]) last.path field mark' ↔ field = last ∧ mark' = mark := by
  constructor
  · rintro ⟨before, after, hsplit, hpath, hmarked', _, hlater⟩
    rcases List.eq_nil_or_concat' after with rfl | ⟨others, final, rfl⟩
    · obtain rfl := List.singleton_inj.mp (List.append_inj' hsplit rfl).2
      exact ⟨rfl, hmarked'.unique hmarked⟩
    · -- With more fields after it, `last` would be one of them, and it asks at the path.
      rw [← List.cons_append, ← List.append_assoc] at hsplit
      obtain rfl := List.singleton_inj.mp (List.append_inj' hsplit rfl).2
      exact absurd ⟨mark, hmarked, htarget⟩ (hlater last (by simp) rfl)
  · rintro ⟨rfl, rfl⟩
    exact ⟨fields, [], rfl, rfl, hmarked, htarget, fun later hmem => nomatch hmem⟩

/-- A field that does not ask at a path leaves the last one to ask there. -/
theorem lastJoined_concat_of_not (h : ¬ (last.path = path ∧ last.Joined)) :
    LastJoined (fields ++ [last]) path field mark ↔ LastJoined fields path field mark := by
  constructor
  · rintro ⟨before, after, hsplit, hpath, hmarked, htarget, hlater⟩
    rcases List.eq_nil_or_concat' after with rfl | ⟨others, final, rfl⟩
    · obtain rfl := List.singleton_inj.mp (List.append_inj' hsplit rfl).2
      exact absurd ⟨hpath, mark, hmarked, htarget⟩ h
    · rw [← List.cons_append, ← List.append_assoc] at hsplit
      exact ⟨before, others, (List.append_inj' hsplit rfl).1, hpath, hmarked, htarget,
        fun later hmem => hlater later (List.mem_append_left _ hmem)⟩
  · rintro ⟨before, after, rfl, hpath, hmarked, htarget, hlater⟩
    refine ⟨before, after ++ [last], by simp, hpath, hmarked, htarget, fun later hmem hsame => ?_⟩
    rcases List.mem_append.mp hmem with hmem | hmem
    · exact hlater later hmem hsame
    · obtain rfl := List.mem_singleton.mp hmem
      exact fun hjoined => h ⟨hsame, hjoined⟩

end Visited

namespace FieldSource

variable (entity : String) (targets : Targets) (fields : List Visited)

/-- The paths stand in the order in which they first ask for a join, each of them once. -/
theorem paths_scan : ((FieldSource.mk entity fields).scan targets).table.paths =
    ((fields.filter (·.Joined)).map (·.path)).eraseDups := by
  -- A scan goes on from the table of the fields before, so the induction takes off the last field.
  induction fields using List.reverseRecOn with
  | nil => rfl
  | append_singleton fields field ih =>
    rw [List.filter_append, List.filter_singleton, List.map_append]
    by_cases hjoined : field.Joined
    · obtain ⟨mark, hmarked, htarget⟩ := hjoined
      have hpath : ((field.requestBy mark).descriptor targets).path = field.path := rfl
      rw [table_scan_concat entity targets fields hmarked htarget, Table.paths_insert, ih, hpath,
        decide_eq_true ⟨mark, hmarked, htarget⟩, cond_true, List.map_singleton, eraseDups_concat]
      simp only [List.mem_eraseDups]
    · rw [table_scan_concat_of_not entity targets fields hjoined, ih, decide_eq_false hjoined,
        cond_false, List.map_nil, List.append_nil]

/-- The join under a path is the last one that is asked for there. -/
theorem get?_scan_eq_some_iff (path : String) (d : Descriptor) :
    ((FieldSource.mk entity fields).scan targets).table.get? path = some d ↔
      ∃ field mark, Visited.LastJoined fields path field mark ∧
        d = (field.requestBy mark).descriptor targets := by
  induction fields using List.reverseRecOn with
  | nil =>
    refine ⟨fun h => (nomatch h), ?_⟩
    rintro ⟨field, mark, ⟨before, after, hsplit, _⟩, _⟩
    simp at hsplit
  | append_singleton fields last ih =>
    by_cases hlast : last.path = path ∧ last.Joined
    · obtain ⟨rfl, mark, hmarked, htarget⟩ := hlast
      have hpath : ((last.requestBy mark).descriptor targets).path = last.path := rfl
      rw [table_scan_concat entity targets fields hmarked htarget, Table.get?_insert, if_pos hpath]
      simp only [Visited.lastJoined_concat_self hmarked htarget, Option.some.injEq]
      constructor
      · rintro rfl
        exact ⟨last, mark, ⟨rfl, rfl⟩, rfl⟩
      · rintro ⟨_, _, ⟨rfl, rfl⟩, rfl⟩
        rfl
    · simp only [Visited.lastJoined_concat_of_not hlast, ← ih]
      -- It may still put a join into the table, but not under this path.
      by_cases hjoined : last.Joined
      · obtain ⟨mark, hmarked, htarget⟩ := hjoined
        have hpath : ((last.requestBy mark).descriptor targets).path ≠ path := fun hsame =>
          hlast ⟨hsame, mark, hmarked, htarget⟩
        rw [table_scan_concat entity targets fields hmarked htarget, Table.get?_insert,
          if_neg hpath]
      · rw [table_scan_concat_of_not entity targets fields hjoined]

/-- Where no path is met twice, a field is joined as it asks for. -/
theorem get?_scan_of_nodup (source : FieldSource)
    (hnodup : (source.fields.map (·.path)).Nodup) {visit : Visited}
    (hvisit : visit ∈ source.fields) :
    (source.scan targets).table.get? visit.path = visit.request?.map (·.descriptor targets) := by
  obtain ⟨entity, fields⟩ := source
  apply Option.ext
  intro d
  rw [get?_scan_eq_some_iff, Option.map_eq_some_iff]
  constructor
  · rintro ⟨field, mark, ⟨before, after, rfl, hpath, hmarked, htarget, _⟩, rfl⟩
    obtain rfl : field = visit := List.inj_on_of_nodup_map hnodup (by simp) hvisit hpath
    exact ⟨_, Visited.request?_eq_some_iff.mpr ⟨mark, hmarked, htarget, rfl⟩, rfl⟩
  · rintro ⟨request, hrequest, rfl⟩
    obtain ⟨mark, hmarked, htarget, rfl⟩ := Visited.request?_eq_some_iff.mp hrequest
    obtain ⟨before, after, rfl⟩ := List.append_of_mem hvisit
    refine ⟨visit, mark, ⟨before, after, rfl, rfl, hmarked, htarget, ?_⟩, rfl⟩
    intro later hlater hpath
    rw [List.map_append, List.map_cons, List.nodup_append, List.nodup_cons] at hnodup
    exact absurd (hpath ▸ List.mem_map_of_mem hlater) hnodup.2.1.1

/-- The fields that cannot be joined are reported in their order. -/
theorem events_scan : ((FieldSource.mk entity fields).scan targets).events =
    (fields.filter (·.Unjoinable)).map fun field => .fieldSkipped entity field.path := by
  show (fields.filter (·.isSkipped)).map _ = _
  congr 1
  apply List.filter_congr
  intro field _
  rw [Bool.eq_iff_iff, Visited.isSkipped_iff, decide_eq_true_iff]

/-- **What a scan collects**, from fields whose paths may be repeated.  The paths of the table are
those that ask for a join, in the order in which they first do, and none stands twice; every join
stands under its own path; under each path is the join that was asked for last, whatever comes after
without asking; and a report tells of each field that is marked and has nothing to join with, in the
order of the fields. -/
theorem scan_last_joined (source : FieldSource) (targets : Targets) :
    let scan := source.scan targets
    scan.table.paths = ((source.fields.filter (·.Joined)).map (·.path)).eraseDups ∧
    scan.table.paths.Nodup ∧
    (∀ d ∈ scan.table.entries, scan.table.get? d.path = some d) ∧
    (∀ path d, scan.table.get? path = some d ↔
      ∃ field mark, Visited.LastJoined source.fields path field mark ∧
        d = JoinRequest.descriptor targets
          ⟨path, field.options.target?, field.multi, mark.overrides⟩) ∧
    scan.events = (source.fields.filter (·.Unjoinable)).map fun field =>
      .fieldSkipped source.entity field.path := by
  obtain ⟨entity, fields⟩ := source
  intro scan
  refine ⟨paths_scan entity targets fields, scan.table.distinct, fun d hd => ?_, fun path d => ?_,
    events_scan entity targets fields⟩
  · exact (find?_key_eq_some_iff scan.table.distinct).mpr ⟨hd, rfl⟩
  · rw [get?_scan_eq_some_iff]
    refine exists₂_congr fun field mark => and_congr_right fun hlast => ?_
    obtain ⟨_, _, _, rfl, _⟩ := hlast
    exact Iff.rfl

/-- A father that is asked for twice, with a mother in between, and met once more without anything
to join with. -/
example :
    let father : Visited := ⟨"father", .scalar .reference, ⟨some "Person", some ⟨true, {}⟩⟩, false⟩
    let mother : Visited := ⟨"mother", .scalar .reference, ⟨some "Person", some ⟨true, {}⟩⟩, false⟩
    let kin : Visited :=
      ⟨"father", .mixed, ⟨none, some ⟨true, { collection := some "kin" }⟩⟩, false⟩
    let lost : Visited := ⟨"father", .mixed, ⟨some "", some ⟨true, {}⟩⟩, false⟩
    let scan := (FieldSource.mk "Person" [father, mother, kin, lost]).scan
      ⟨⟨id, id, id⟩, fun _ => some "people"⟩
    scan.table.paths = ["father", "mother"] ∧
      (scan.table.get? "father").map (·.collection) = some "kin" ∧
      scan.events = [.fieldSkipped "Person" "father"] := by
  decide

end FieldSource

end JoinPlan
