import JoinPlan.Join.Scan

/-!
# Rebinding

The collection that a reference leads to is looked up when a schema is scanned, and again when a
lookup is compiled.  The second look undoes the first: rebinding what was derived under some targets
gives what is derived under the new ones, as long as the naming stays (`rebind_descriptor`).  The
fact passes from single descriptors to tables, because a table is put together by paths alone
(`Table.entries_ofList_map`), and so to scans (`rebind_scan`).

Whether a join can be resolved at all does not change with the targets either, since a reference
kept in a descriptor is never the empty name (`Table.Named`, `isResolvable_rebind`).
-/

namespace JoinPlan

/-- The targets that lead every reference where `targets` leads it, under a naming of their own. -/
def Targets.under (targets : Targets) (naming : Naming) : Targets where
  naming := naming
  registered reference := some (targets.resolve reference)

/-! ### Descriptors -/

namespace Descriptor

variable (targets : Targets) (d : Descriptor)

/-- Rebinding touches the collection alone. -/
theorem rebind_eq : d.rebind targets = { d with collection := (d.rebind targets).collection } := by
  unfold rebind
  split <;> rfl

@[simp] theorem path_rebind : (d.rebind targets).path = d.path := by
  rw [rebind_eq]

@[simp] theorem reference_rebind : (d.rebind targets).reference = d.reference := by
  rw [rebind_eq]

@[simp] theorem localField_rebind : (d.rebind targets).localField = d.localField := by
  rw [rebind_eq]

@[simp] theorem output_rebind : (d.rebind targets).output = d.output := by
  rw [rebind_eq]

/-- The author's collection stays. -/
theorem rebind_of_pinned (h : d.pinned = true) : d.rebind targets = d := by
  unfold rebind
  split
  · simp_all
  · rfl

/-- Without a reference there is nothing to look up. -/
theorem rebind_of_reference_none (h : d.reference = none) : d.rebind targets = d := by
  unfold rebind
  split
  · simp_all
  · rfl

/-- Otherwise the collection is the one that the reference leads to. -/
theorem rebind_of_reference {reference : String} (hp : d.pinned = false)
    (hr : d.reference = some reference) :
    d.rebind targets = { d with collection := targets.resolve reference } := by
  unfold rebind
  rw [hp, hr]

@[simp] theorem rebind_rebind : (d.rebind targets).rebind targets = d.rebind targets := by
  cases hp : d.pinned with
  | true => rw [rebind_of_pinned _ _ hp, rebind_of_pinned _ _ hp]
  | false =>
    cases hr : d.reference with
    | none => rw [rebind_of_reference_none _ _ hr, rebind_of_reference_none _ _ hr]
    | some reference =>
      rw [rebind_of_reference targets d hp hr]
      exact rebind_of_reference targets { d with collection := targets.resolve reference } hp hr

@[simp] theorem isAddressedBy_rebind (name : String) :
    (d.rebind targets).isAddressedBy name = d.isAddressedBy name := by
  simp [isAddressedBy]

/-- The targets have no say in whether a join can be resolved: it can if it refers to an entity, and
otherwise its collection stays. -/
theorem isResolvable_rebind (h : d.reference ≠ some "") :
    (d.rebind targets).isResolvable = d.isResolvable := by
  cases hr : d.reference with
  | none => rw [rebind_of_reference_none _ _ hr]
  | some reference =>
    have hne : reference ≠ "" := fun he => h (by rw [hr, he])
    simp [isResolvable, hr, hne]

end Descriptor

/-! ### Requests -/

/-- What a reference kept in a descriptor is not. -/
theorem JoinRequest.target?_ne (request : JoinRequest) : request.target? ≠ some "" := by
  intro h
  have hne := (Option.filter_eq_some_iff.1 h).2
  simp at hne

/-- **Rebinding is deriving afresh**: what was derived under targets `S` and is rebound to `C` could
as well have been derived under `C`, with the naming of `S`. -/
theorem JoinRequest.rebind_descriptor (request : JoinRequest) (S C : Targets) :
    (request.descriptor S).rebind C = request.descriptor (C.under S.naming) := by
  cases hc : request.overrides.collection with
  | some collection =>
    rw [Descriptor.rebind_of_pinned _ _ (by simp [descriptor, hc])]
    simp [descriptor, JoinRequest.collection, hc, Targets.under]
  | none =>
    cases ht : request.target? with
    | none =>
      rw [Descriptor.rebind_of_reference_none _ _ ht]
      simp [descriptor, JoinRequest.collection, hc, ht, Targets.under]
    | some reference =>
      rw [Descriptor.rebind_of_reference _ _ (by simp [descriptor, hc]) ht]
      simp [descriptor, JoinRequest.collection, hc, ht, Targets.under, Targets.resolve]

/-- A derived join can be resolved when it refers to an entity or its author names a collection. -/
theorem JoinRequest.isResolvable_descriptor (request : JoinRequest) (targets : Targets) :
    (request.descriptor targets).isResolvable =
      (request.target?.isSome || request.overrides.collection.any (· ≠ "")) := by
  have hne := request.target?_ne
  cases ht : request.target? with
  | some reference =>
    have hr : reference ≠ "" := fun he => hne (by rw [ht, he])
    simp [Descriptor.isResolvable, descriptor, ht, hr]
  | none =>
    cases hc : request.overrides.collection <;>
      simp [Descriptor.isResolvable, descriptor, JoinRequest.collection, ht, hc]

/-! ### Tables -/

/-- Where a descriptor is put depends on the paths alone, and on no more than which are equal. -/
theorem Descriptor.map_putInto (f : Descriptor → Descriptor)
    (hf : ∀ d e, (f d).path = (f e).path ↔ d.path = e.path) (d : Descriptor)
    (entries : List Descriptor) : (d.putInto entries).map f = (f d).putInto (entries.map f) := by
  induction entries with
  | nil => rfl
  | cons e rest ih =>
    simp only [putInto, List.map_cons, hf]
    split
    · rfl
    · rw [List.map_cons, ih]

/-- What is in a list after a descriptor is put into it was there before or is the new one. -/
theorem Descriptor.eq_or_mem_of_mem_putInto {d e : Descriptor} {entries : List Descriptor}
    (h : e ∈ d.putInto entries) : e = d ∨ e ∈ entries := by
  induction entries with
  | nil => exact Or.inl (List.mem_singleton.mp h)
  | cons head rest ih =>
    rw [putInto] at h
    split at h
    · exact (List.mem_cons.mp h).imp_right (List.mem_cons_of_mem _)
    · rcases List.mem_cons.mp h with h | h
      · exact Or.inr (h ▸ List.mem_cons_self)
      · exact (ih h).imp_right (List.mem_cons_of_mem _)

namespace Table

/-- A table is its entries. -/
theorem eq_of_entries {s t : Table} (h : s.entries = t.entries) : s = t := by
  cases s
  cases t
  congr

/-- The entries after descriptors are put in one after the other. -/
def putAll : List Descriptor → List Descriptor → List Descriptor
  | entries, [] => entries
  | entries, d :: rest => putAll (d.putInto entries) rest

theorem entries_ofList_eq (descriptors : List Descriptor) :
    (ofList descriptors).entries = putAll [] descriptors := by
  suffices h : ∀ table : Table,
      (descriptors.foldl insert table).entries = putAll table.entries descriptors from h empty
  intro table
  induction descriptors generalizing table with
  | nil => rfl
  | cons d rest ih => exact ih (table.insert d)

/-- Every entry was there before or was put in. -/
theorem mem_or_mem_of_mem_putAll {d : Descriptor} {entries descriptors : List Descriptor}
    (h : d ∈ putAll entries descriptors) : d ∈ entries ∨ d ∈ descriptors := by
  induction descriptors generalizing entries with
  | nil => exact Or.inl h
  | cons e rest ih =>
    rcases ih h with h | h
    · rcases Descriptor.eq_or_mem_of_mem_putInto h with rfl | h
      · exact Or.inr List.mem_cons_self
      · exact Or.inl h
    · exact Or.inr (List.mem_cons_of_mem _ h)

/-- A change of descriptors that keeps their paths apart may be made before they are put in or
after. -/
theorem map_putAll (f : Descriptor → Descriptor)
    (hf : ∀ d e, (f d).path = (f e).path ↔ d.path = e.path)
    (entries descriptors : List Descriptor) :
    (putAll entries descriptors).map f = putAll (entries.map f) (descriptors.map f) := by
  induction descriptors generalizing entries with
  | nil => rfl
  | cons d rest ih =>
    rw [putAll, ih, Descriptor.map_putInto f hf]
    rfl

theorem entries_ofList_map (f : Descriptor → Descriptor)
    (hf : ∀ d e, (f d).path = (f e).path ↔ d.path = e.path) (descriptors : List Descriptor) :
    (ofList (descriptors.map f)).entries = (ofList descriptors).entries.map f := by
  rw [entries_ofList_eq, entries_ofList_eq, map_putAll f hf, List.map_nil]

/-- The table with every collection that comes from a reference looked up again. -/
def rebind (targets : Targets) (table : Table) : Table where
  entries := table.entries.map (·.rebind targets)
  distinct := by simpa [Function.comp_def] using table.distinct

/-- No descriptor of the table refers to the entity without a name. -/
def Named (table : Table) : Prop :=
  ∀ d ∈ table.entries, d.reference ≠ some ""

end Table

/-! ### Scans -/

namespace FieldSource

variable (source : FieldSource)

/-- Every entry of a scanned table is what some field asks for. -/
theorem exists_request_of_mem_scan {targets : Targets} {d : Descriptor}
    (h : d ∈ (source.scan targets).table.entries) :
    ∃ field ∈ source.fields, ∃ request,
      field.request? = some request ∧ d = request.descriptor targets := by
  have hd : d ∈ Table.putAll [] (source.descriptors targets) := by
    rw [← Table.entries_ofList_eq]
    exact h
  obtain ⟨request, hrequest, rfl⟩ :=
    List.mem_map.mp ((Table.mem_or_mem_of_mem_putAll hd).resolve_left List.not_mem_nil)
  obtain ⟨field, hfield, heq⟩ := List.mem_filterMap.mp hrequest
  exact ⟨field, hfield, request, heq, rfl⟩

theorem named_scan (targets : Targets) : (source.scan targets).table.Named := by
  intro d hd
  obtain ⟨field, _, request, _, rfl⟩ := source.exists_request_of_mem_scan hd
  exact request.target?_ne

/-- **Rebinding is scanning afresh**: of the targets of a scan only the naming outlasts a rebinding.
-/
theorem rebind_scan (S C : Targets) :
    (source.scan S).table.rebind C = (source.scan (C.under S.naming)).table := by
  apply Table.eq_of_entries
  have hmap : source.descriptors (C.under S.naming) = (source.descriptors S).map (·.rebind C) := by
    rw [descriptors, descriptors, List.map_map]
    exact List.map_congr_left fun request _ => (request.rebind_descriptor S C).symm
  show (Table.ofList (source.descriptors S)).entries.map (·.rebind C) =
    (Table.ofList (source.descriptors (C.under S.naming))).entries
  rw [hmap, Table.entries_ofList_map _ fun d e => by rw [d.path_rebind, e.path_rebind]]

end FieldSource

end JoinPlan
