import JoinPlan.Join.Descriptor

/-!
# The parts of a join

Every part of a join has a default, and an override replaces it (`Part`).  The defaults lean on each
other: the output on whether the join is unwound, and what is unwound on the output.  So the parts
are told one by one, each default by the parts that it leans on (`JoinRequest.Derives`), and together
they make up one join, the one that is derived (`JoinRequest.derives_iff`).

An override leans on nothing.  So where all parts are overridden no default is left that could look
at a naming or at what references lead to, and the join is the one that the overrides spell out
(`JoinRequest.descriptor_of_restated`).  In particular a join that was derived can be restated, part
by part, and is then derived again (`JoinRequest.descriptor_restated`).
-/

namespace JoinPlan

/-! ### Parts -/

/-- What a part is when it has this default: what the author gives for it, or else the default. -/
inductive Part {α : Type} (default : α) : Option α → α → Prop
  | given (value : α) : Part default (some value) value
  | absent : Part default none default

theorem part_iff {α : Type} {default value : α} {override : Option α} :
    Part default override value ↔ value = override.getD default := by
  constructor
  · intro h
    cases h with
    | given => rfl
    | absent => rfl
  · rintro rfl
    cases override with
    | some value => exact .given value
    | none => exact .absent

/-- The join is what a request amounts to, part by part. -/
structure JoinRequest.Derives (request : JoinRequest) (targets : Targets) (d : Descriptor) :
    Prop where
  path : d.path = request.path
  multi : d.multi = request.multi
  /-- An empty name refers to nothing. -/
  reference : d.reference = request.reference.filter (· ≠ "")
  /-- The collection is by default the one that the reference leads to, and without one there is
  none. -/
  collection : Part ((d.reference.map targets.resolve).getD "") request.overrides.collection
    d.collection
  pinned : d.pinned = request.overrides.collection.isSome
  localField : Part request.path request.overrides.localField d.localField
  foreignField : Part Path.identity request.overrides.foreignField d.foreignField
  /-- A single value is unwound and a list is not, unless the author says so. -/
  unwound : Part (!request.multi) (request.overrides.unwind.map (·.wanted)) d.unwind.isSome
  /-- The joined documents go where the reference stood, and those of an unwound list to the singular
  of its name. -/
  output : Part
    (if request.multi && d.unwind.isSome then targets.naming.singularize request.path
      else request.path) request.overrides.output d.output
  /-- What is unwound is the output, and documents without matches are kept. -/
  unwindPath : ∀ spec ∈ d.unwind, Part (Path.variableName d.output)
    ((request.overrides.unwind.bind (·.settings?)).bind (·.path)) spec.path
  preserveEmpty : ∀ spec ∈ d.unwind, Part true
    ((request.overrides.unwind.bind (·.settings?)).bind (·.preserveEmpty)) spec.preserveEmpty

/-! ### Unwinding -/

namespace JoinRequest

variable {request : JoinRequest}

theorem isSome_unwind? (request : JoinRequest) (naming : Naming) :
    (request.unwind? naming).isSome = request.unwound := by
  unfold unwind?
  cases request.unwound <;> rfl

/-- What is unwound is what is written, unless the author names another path. -/
theorem unwind?_eq (naming : Naming)
    (hpath : ∀ settings ∈ request.overrides.unwind.bind (·.settings?), settings.path = none) :
    request.unwind? naming =
      if request.unwound then
        some ⟨Path.variableName (request.output naming),
          ((request.overrides.unwind.bind (·.settings?)).getD {}).preserveEmpty.getD true⟩
      else none := by
  have hdefault : ((request.overrides.unwind.bind (·.settings?)).getD {}).path = none := by
    cases hsettings : request.overrides.unwind.bind (·.settings?) with
    | none => rfl
    | some settings => exact hpath settings hsettings
  unfold unwind?
  dsimp only
  rw [hdefault, Option.getD_none]

theorem unwound_eq (request : JoinRequest) :
    request.unwound = (request.overrides.unwind.map (·.wanted)).getD (!request.multi) := by
  unfold unwound
  cases request.overrides.unwind <;> rfl

theorem eq_unwind?_iff {unwind : Option Unwind} (naming : Naming) :
    unwind = request.unwind? naming ↔ unwind.isSome = request.unwound ∧ ∀ spec ∈ unwind,
      Part (Path.variableName (request.output naming))
        ((request.overrides.unwind.bind (·.settings?)).bind (·.path)) spec.path ∧
      Part true ((request.overrides.unwind.bind (·.settings?)).bind (·.preserveEmpty))
        spec.preserveEmpty := by
  have hpath : ∀ settings? : Option UnwindSettings,
      (settings?.getD {}).path = settings?.bind (·.path) := by rintro (_ | settings) <;> rfl
  have hpreserve : ∀ settings? : Option UnwindSettings,
      (settings?.getD {}).preserveEmpty = settings?.bind (·.preserveEmpty) := by
    rintro (_ | settings) <;> rfl
  unfold unwind?
  dsimp only
  rw [hpath, hpreserve]
  cases request.unwound with
  | false => cases unwind <;> simp
  | true =>
    cases unwind with
    | none => simp
    | some spec =>
      obtain ⟨path, preserveEmpty⟩ := spec
      simp [part_iff]

/-! ### All parts together -/

/-- **The law of the parts.**  The join that is derived is what the request amounts to, part by part,
and no other join is. -/
theorem derives_iff {targets : Targets} {d : Descriptor} :
    request.Derives targets d ↔ d = request.descriptor targets := by
  constructor
  · intro h
    -- The output leans on whether the join is unwound, and what is unwound on the output.
    have hunwound : d.unwind.isSome = request.unwound :=
      (part_iff.mp h.unwound).trans request.unwound_eq.symm
    have houtput : d.output = request.output targets.naming := by
      rw [part_iff.mp h.output, hunwound]
      rfl
    have hunwind : d.unwind = request.unwind? targets.naming := by
      rw [eq_unwind?_iff, ← houtput]
      exact ⟨hunwound, fun spec hspec => ⟨h.unwindPath spec hspec, h.preserveEmpty spec hspec⟩⟩
    have hcollection : d.collection = request.collection targets := by
      rw [part_iff.mp h.collection, h.reference]
      rfl
    calc d = ⟨d.path, d.reference, d.collection, d.localField, d.foreignField, d.output, d.multi,
          d.unwind, d.pinned⟩ := rfl
      _ = request.descriptor targets := by
        rw [h.path, h.reference, hcollection, part_iff.mp h.localField,
          part_iff.mp h.foreignField, houtput, h.multi, hunwind, h.pinned]
        rfl
  · rintro rfl
    obtain ⟨hunwound, hspec⟩ := (eq_unwind?_iff targets.naming).mp
      (rfl : (request.descriptor targets).unwind = request.unwind? targets.naming)
    exact {
      path := rfl
      multi := rfl
      reference := rfl
      collection := part_iff.mpr rfl
      pinned := rfl
      localField := part_iff.mpr rfl
      foreignField := part_iff.mpr rfl
      unwound := part_iff.mpr (hunwound.trans request.unwound_eq)
      output := part_iff.mpr (by rw [hunwound]; rfl)
      unwindPath := fun spec hmem => (hspec spec hmem).1
      preserveEmpty := fun spec hmem => (hspec spec hmem).2 }

end JoinRequest

/-! ### Restated joins -/

/-- The author's word for an unwinding, path and all, or for none. -/
def UnwindOverride.restating : Option Unwind → UnwindOverride
  | some spec => .custom ⟨some spec.path, some spec.preserveEmpty⟩
  | none => .flag false

/-- The overrides that spell out every part of a join. -/
def Descriptor.restated (d : Descriptor) : Overrides where
  collection := some d.collection
  localField := some d.localField
  foreignField := some d.foreignField
  output := some d.output
  unwind := some (.restating d.unwind)

namespace JoinRequest

variable {request : JoinRequest}

/-- A request that spells out every part of a join is for that join, under any targets.  Only its
collection is the author's now. -/
theorem descriptor_of_restated {d : Descriptor} (hpath : request.path = d.path)
    (hreference : request.target? = d.reference) (hmulti : request.multi = d.multi)
    (hoverrides : request.overrides = d.restated) (targets : Targets) :
    request.descriptor targets = { d with pinned := true } := by
  symm
  -- Every part is given, so no default is looked at.
  rw [← derives_iff]
  constructor
  case path => exact hpath.symm
  case multi => exact hmulti.symm
  case reference => exact hreference.symm
  all_goals rw [hoverrides]
  case collection | localField | foreignField | output => exact .given _
  case pinned => rfl
  case unwound =>
    show Part _ (some (UnwindOverride.restating d.unwind).wanted) d.unwind.isSome
    cases d.unwind with
    | some spec => exact .given true
    | none => exact .given false
  case unwindPath | preserveEmpty =>
    intro spec hspec
    show Part _ (((some (UnwindOverride.restating d.unwind)).bind _).bind _) _
    rw [show d.unwind = some spec from hspec]
    exact .given _

/-- **A join that is restated is derived again.**  Whatever a request overrides, and wherever
references lead: of the join that is derived, restating every part gives the same join, also under
other targets and another naming.  All that it may lose is that its collection followed the
reference. -/
theorem descriptor_restated (request : JoinRequest) (S C : Targets) :
    { request with overrides := (request.descriptor S).restated }.descriptor C =
      { request.descriptor S with pinned := true } :=
  descriptor_of_restated rfl rfl rfl rfl C

/-- Friends who are unwound with a preserve flag of the author's.  The singular and the path that
were derived for them under one naming are what another naming finds stated. -/
example :
    let request : JoinRequest :=
      ⟨"friends", some "Person", true, { unwind := some (.custom { preserveEmpty := some false }) }⟩
    let S : Targets := ⟨.suffixed "s", fun _ => some "people"⟩
    let C : Targets := ⟨.suffixed "_all", fun _ => none⟩
    let friend : Descriptor :=
      ⟨"friends", some "Person", "people", "friends", "_id", "friend", true,
        some ⟨"$friend", false⟩, false⟩
    request.descriptor S = friend ∧
      (⟨"friends", some "Person", true, friend.restated⟩ : JoinRequest).descriptor C =
        { friend with pinned := true } := by
  decide

end JoinRequest

end JoinPlan
