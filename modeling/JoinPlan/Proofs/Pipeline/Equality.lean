import JoinPlan.Attach.Model
import JoinPlan.Proofs.Json.Zeros
import JoinPlan.Proofs.Pipeline.Encoding

/-!
# Fingerprints of equal pipelines

Pipelines are compared stage by stage, and criteria as values are, so that pipelines compare equal
that differ in the signs of zeros (`Pipeline.same`).  The encoding has the text of the criteria, and
the text has the signs.  So pipelines that compare equal are encoded alike, and have one
fingerprint, exactly when the zeros in their criteria have the same signs
(`Pipeline.encoding_eq_iff_zeroSigns_eq`).

Unlike for pipelines in general, no text is too long for this: those outside of criteria are equal
to begin with, so that nothing has to be read off their frames.
-/

namespace JoinPlan

/-! ### Equality -/

/-- Whether stages compare equal: criteria with numbers compared by value, all else part by part. -/
def Stage.same : Stage → Stage → Bool
  | .select criteria, .select other => sameMembers criteria other
  | .join lookup, .join other => lookup == other
  | .unwind spec, .unwind other => spec == other
  | _, _ => false

/-- Whether lists of stages compare equal, stage by stage. -/
def sameStages : List Stage → List Stage → Bool
  | [], [] => true
  | stage :: rest, other :: others => stage.same other && sameStages rest others
  | _, _ => false

/-- Whether pipelines compare equal. -/
def Pipeline.same (p q : Pipeline) : Bool :=
  p.collection == q.collection && sameStages p.stages q.stages && p.allowDiskUse == q.allowDiskUse

/-! ### Stages -/

namespace Stage

/-- The signs of the zeros in the criteria of a stage. -/
def zeroSigns : Stage → List Bool
  | .select criteria => memberZeroSigns criteria
  | .join _ => []
  | .unwind _ => []

variable {r s : List UInt8}

theorem length_zeroSigns_of_same : ∀ {a b : Stage}, a.same b = true →
    a.zeroSigns.length = b.zeroSigns.length
  | .select _, .select _, h => length_memberZeroSigns_of_same h
  | .join _, .join _, _ | .unwind _, .unwind _, _ => rfl

theorem eq_of_same_of_zeroSigns_eq : ∀ {a b : Stage}, a.same b = true →
    a.zeroSigns = b.zeroSigns → a = b
  | .select _, .select _, h, hsigns => by rw [members_eq_of_same_of_zeroSigns_eq h hsigns]
  | .join _, .join _, h, _ => by rw [beq_iff_eq.mp h]
  | .unwind _, .unwind _, h, _ => by rw [beq_iff_eq.mp h]

/-- Stages that compare equal are equal if they are encoded alike, whatever follows. -/
theorem eq_of_same_of_encoding_append_eq : ∀ {a b : Stage}, a.same b = true →
    a.encoding ++ r = b.encoding ++ s → a = b ∧ r = s
  | .select criteria, .select other, h, hencoding => by
    rw [encoding, encoding, List.append_assoc, List.append_assoc] at hencoding
    obtain ⟨hchars, hrest⟩ :=
      Encoding.framed_object_append_inj (List.append_cancel_left hencoding)
    rw [members_eq_of_same_of_chars_eq h (memberChars_eq_of_chars_eq hchars)]
    exact ⟨rfl, hrest⟩
  | .join lookup, .join other, h, hencoding => by
    rw [beq_iff_eq.mp h] at hencoding ⊢
    exact ⟨rfl, List.append_cancel_left hencoding⟩
  | .unwind spec, .unwind other, h, hencoding => by
    rw [beq_iff_eq.mp h] at hencoding ⊢
    exact ⟨rfl, List.append_cancel_left hencoding⟩

end Stage

theorem length_zeroSigns_of_sameStages : ∀ {ps qs : List Stage}, sameStages ps qs = true →
    (ps.flatMap Stage.zeroSigns).length = (qs.flatMap Stage.zeroSigns).length
  | [], [], _ => rfl
  | p :: ps, q :: qs, h => by
    obtain ⟨hstage, hrest⟩ := Bool.and_eq_true_iff.mp h
    rw [List.flatMap_cons, List.flatMap_cons, List.length_append, List.length_append,
      Stage.length_zeroSigns_of_same hstage, length_zeroSigns_of_sameStages hrest]

theorem stages_eq_of_same_of_zeroSigns_eq : ∀ {ps qs : List Stage}, sameStages ps qs = true →
    ps.flatMap Stage.zeroSigns = qs.flatMap Stage.zeroSigns → ps = qs
  | [], [], _, _ => rfl
  | p :: ps, q :: qs, h, hsigns => by
    obtain ⟨hstage, hrest⟩ := Bool.and_eq_true_iff.mp h
    obtain ⟨hfirst, hothers⟩ := List.append_inj hsigns (Stage.length_zeroSigns_of_same hstage)
    rw [Stage.eq_of_same_of_zeroSigns_eq hstage hfirst,
      stages_eq_of_same_of_zeroSigns_eq hrest hothers]

theorem stages_eq_of_same_of_encoding_eq {r s : List UInt8} : ∀ {ps qs : List Stage},
    sameStages ps qs = true →
    ps.flatMap Stage.encoding ++ r = qs.flatMap Stage.encoding ++ s → ps = qs
  | [], [], _, _ => rfl
  | p :: ps, q :: qs, h, hencoding => by
    obtain ⟨hstage, hrest⟩ := Bool.and_eq_true_iff.mp h
    rw [List.flatMap_cons, List.flatMap_cons, List.append_assoc, List.append_assoc] at hencoding
    obtain ⟨hfirst, hothers⟩ := Stage.eq_of_same_of_encoding_append_eq hstage hencoding
    rw [hfirst, stages_eq_of_same_of_encoding_eq hrest hothers]

/-! ### Pipelines -/

namespace Pipeline

/-- The signs of the zeros in the criteria of a pipeline, in order. -/
def zeroSigns (pipeline : Pipeline) : List Bool :=
  pipeline.stages.flatMap Stage.zeroSigns

variable {p q : Pipeline}

theorem same_iff_parts : p.same q = true ↔ p.collection = q.collection ∧
    sameStages p.stages q.stages = true ∧ p.allowDiskUse = q.allowDiskUse := by
  simp [same, and_assoc]

/-- Without negative zeros there is only one way to sign the zeros. -/
theorem zeroSigns_eq_of_forall (h : p.same q = true) (hp : ∀ sign ∈ p.zeroSigns, sign = false)
    (hq : ∀ sign ∈ q.zeroSigns, sign = false) : p.zeroSigns = q.zeroSigns := by
  have hlength : p.zeroSigns.length = q.zeroSigns.length :=
    length_zeroSigns_of_sameStages (same_iff_parts.mp h).2.1
  rw [List.eq_replicate_of_mem hp, List.eq_replicate_of_mem hq, hlength]

/-- **Pipelines that compare equal are encoded alike exactly when the zeros in their criteria have
the same signs**, and then they have one fingerprint.  So it is for all that have no negative
zero. -/
theorem encoding_eq_iff_zeroSigns_eq (h : p.same q = true) :
    (p.encoding = q.encoding ↔ p.zeroSigns = q.zeroSigns) ∧
      (p.zeroSigns = q.zeroSigns → p.fingerprint = q.fingerprint) ∧
      ((∀ sign ∈ p.zeroSigns, sign = false) → (∀ sign ∈ q.zeroSigns, sign = false) →
        p.fingerprint = q.fingerprint) := by
  obtain ⟨hcollection, hstages, hflag⟩ := same_iff_parts.mp h
  have heq : p.stages = q.stages → p = q := by
    intro hstages
    obtain ⟨_, _, _⟩ := p
    obtain ⟨_, _, _⟩ := q
    simp_all
  have hsigns : p.zeroSigns = q.zeroSigns → p = q :=
    fun hsigns => heq (stages_eq_of_same_of_zeroSigns_eq hstages hsigns)
  refine ⟨⟨fun hencoding => ?_, fun hzero => by rw [hsigns hzero]⟩,
    fun hzero => by rw [hsigns hzero],
    fun hp hq => by rw [hsigns (zeroSigns_eq_of_forall h hp hq)]⟩
  -- The collections are equal, so that the encodings can only differ in what follows them.
  rw [encoding_eq, encoding_eq, hcollection] at hencoding
  have hbody := List.append_cancel_left (List.cons.inj (List.append_cancel_left hencoding)).2
  rw [heq (stages_eq_of_same_of_encoding_eq hstages (List.cons.inj hbody).2)]

/-- Two zeros in a branch, of which one has another sign in the other pipeline. -/
theorem encoding_ne_of_zero_in_branch :
    let zero (negative : Bool) : Json := .number (.float (.zero negative))
    let branches (negative : Bool) : Criteria :=
      [("$or", .array [.object [("score", .object [("$in", .array [zero true, zero negative])])]])]
    let pipeline (negative : Bool) : Pipeline :=
      ⟨"accounts", [.select (branches negative), .unwind ⟨"$owner", true⟩], true⟩
    (pipeline false).same (pipeline true) = true ∧
      (pipeline false).encoding ≠ (pipeline true).encoding := by
  intro zero branches pipeline
  have hsame : (pipeline false).same (pipeline true) = true := by decide
  have hsigns : (pipeline false).zeroSigns ≠ (pipeline true).zeroSigns := by decide
  exact ⟨hsame, fun hencoding =>
    hsigns ((encoding_eq_iff_zeroSigns_eq hsame).1.mp hencoding)⟩

/-- A score given as a number and a score given as text.  The criteria are cast to zeros that are
equal, and the pipelines that are compiled from them compare equal, but they have different
fingerprints. -/
theorem fingerprint_ne_of_score_zero :
    let schema : Schema := ⟨"Account", some "accounts", [⟨"score", .scalar .float, {}⟩]⟩
    let targets : Targets := ⟨⟨id, id, id⟩, fun _ => none⟩
    let model := Model.ofSchema schema targets ⟨true⟩ false
    let pipeline (negative : Bool) : Pipeline :=
      ⟨"accounts", [.select [("score", .number (.float (.zero negative)))]], true⟩
    let lookup (score : Json) := model.lookup targets .bySchema (some [("score", score)]) {}
    lookup (.number (.float (.zero false))) = .ok ⟨pipeline false, []⟩ ∧
      lookup (.string "-0") = .ok ⟨pipeline true, []⟩ ∧
      (pipeline false).same (pipeline true) = true ∧
      (pipeline false).encoding ≠ (pipeline true).encoding ∧
      (pipeline false).fingerprint ≠ (pipeline true).fingerprint := by
  intro schema targets model pipeline lookup
  refine ⟨rfl, rfl, by decide, by decide +kernel, by decide +kernel⟩

end Pipeline

end JoinPlan
