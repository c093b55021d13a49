import JoinPlan.Pipeline.Fingerprint
import JoinPlan.Proofs.Json.Delimited
import Mathlib.Algebra.Ring.Nat

/-!
# What fingerprints are made of

The encoding of a pipeline has everything that the written pipeline has, and nothing else
(`Pipeline.encoding_eq_iff`).  For it to be read in only one way, each part must show where it ends,
whatever comes after:

* a text, by the length before it (`Encoding.framed_append_inj`);
* criteria, by the bracket at their end, however long they are
  (`Encoding.framed_object_append_inj`);
* a stage, by its operator, which tells what parts come next (`Stage.encoding_append_inj`);
* the stages, by a tag that is no beginning of a stage: lengths of operators are small, and so the
  first of their bytes is a zero (`encodings_append_inj`).

Criteria are encoded by their text, which is why the theorem speaks of texts: numbers that are
written alike are not told apart.
-/

namespace JoinPlan

/-! ### Lengths -/

namespace Sha256

theorem bigEndian_succ (count n : Nat) :
    bigEndian (count + 1) n = UInt8.ofNat (n >>> (8 * count)) :: bigEndian count n := by
  unfold bigEndian
  rw [List.range_succ, List.reverse_append]
  rfl

theorem length_bigEndian (count n : Nat) : (bigEndian count n).length = count := by
  simp [bigEndian]

/-- The lowest bytes of a number tell the number up to multiples of what they can count. -/
theorem bigEndian_inj_mod {count m n : Nat} (h : bigEndian count m = bigEndian count n) :
    m % 256 ^ count = n % 256 ^ count := by
  induction count with
  | zero => rw [Nat.pow_zero, Nat.mod_one, Nat.mod_one]
  | succ count ih =>
    -- The first byte is the digit of `256 ^ count`, and the others tell what is below it.
    rw [bigEndian_succ, bigEndian_succ] at h
    obtain ⟨hhead, htail⟩ := List.cons.inj h
    have hbyte : m / 256 ^ count % 256 = n / 256 ^ count % 256 := by
      have hnat := congrArg UInt8.toNat hhead
      simpa [Nat.shiftRight_eq_div_pow, Nat.pow_mul] using hnat
    rw [Nat.pow_succ, Nat.mod_mul, Nat.mod_mul, ih htail, hbyte]

end Sha256

/-! ### Framed texts -/

namespace Encoding

variable {a b : String} {r s : List UInt8}

theorem length_utf8 (text : String) : (utf8 text).length = text.utf8ByteSize :=
  rfl

theorem utf8_inj (h : utf8 a = utf8 b) : a = b :=
  String.toByteArray_inj.mp (ByteArray.ext (Array.toList_inj.mp h))

/-- A text that begins with the bytes of another begins with its characters. -/
theorem prefix_of_utf8_append (h : utf8 a ++ r = utf8 b) : a.toList <+: b.toList := by
  apply List.isPrefix_of_utf8Encode_append_eq_utf8Encode r.toByteArray
  rw [String.utf8Encode_toList, String.utf8Encode_toList]
  apply ByteArray.ext
  apply Array.toList_inj.mp
  simpa [utf8] using h

theorem framed_append (text : String) (r : List UInt8) :
    framed text ++ r = Sha256.bigEndian 8 text.utf8ByteSize ++ (utf8 text ++ r) := by
  rw [framed, length_utf8, List.append_assoc]

/-- The length in front of a text. -/
theorem length_eq_of_framed_append (h : framed a ++ r = framed b ++ s) :
    a.utf8ByteSize % 2 ^ 64 = b.utf8ByteSize % 2 ^ 64 ∧ utf8 a ++ r = utf8 b ++ s := by
  rw [framed_append, framed_append] at h
  obtain ⟨hlength, hrest⟩ := List.append_inj h (by simp only [Sha256.length_bigEndian])
  exact ⟨Sha256.bigEndian_inj_mod hlength, hrest⟩

/-- **A framed text delimits itself**, if it is not too long for its frame. -/
theorem framed_append_inj (ha : a.utf8ByteSize < 2 ^ 64) (hb : b.utf8ByteSize < 2 ^ 64)
    (h : framed a ++ r = framed b ++ s) : a = b ∧ r = s := by
  obtain ⟨hlength, hrest⟩ := length_eq_of_framed_append h
  rw [Nat.mod_eq_of_lt ha, Nat.mod_eq_of_lt hb] at hlength
  obtain ⟨htext, htail⟩ := List.append_inj hrest (by rw [length_utf8, length_utf8, hlength])
  exact ⟨utf8_inj htext, htail⟩

/-- An object's text that begins with another's is the same text. -/
theorem chars_eq_of_utf8_append {ms ns : Fields}
    (h : utf8 (Json.object ms).text ++ r = utf8 (Json.object ns).text) :
    (Json.object ms).chars = (Json.object ns).chars := by
  obtain ⟨more, hmore⟩ := prefix_of_utf8_append h
  rw [Json.text, Json.text, String.toList_ofList, String.toList_ofList] at hmore
  obtain ⟨hmembers, _⟩ := object_append_inj (fun m _ n _ => m.2.delimited_chars n.2)
    (hmore.trans (List.append_nil _).symm)
  rw [Json.chars, Json.chars, hmembers]

/-- The text of an object needs no frame, since its bracket ends it. -/
theorem framed_object_append_inj {ms ns : Fields}
    (h : framed (Json.object ms).text ++ r = framed (Json.object ns).text ++ s) :
    (Json.object ms).chars = (Json.object ns).chars ∧ r = s := by
  obtain ⟨_, hrest⟩ := length_eq_of_framed_append h
  -- The lengths may agree for texts that are too long for their frame.  But whichever text is the
  -- shorter one, the other begins with it.
  have hchars : (Json.object ms).chars = (Json.object ns).chars := by
    rcases List.append_eq_append_iff.mp hrest with ⟨rest, htext, _⟩ | ⟨rest, htext, _⟩
    · exact chars_eq_of_utf8_append htext.symm
    · exact (chars_eq_of_utf8_append htext.symm).symm
  refine ⟨hchars, ?_⟩
  rw [Json.text, Json.text, hchars] at hrest
  exact List.append_cancel_left hrest

/-- The length of a text that is not long begins with a zero. -/
theorem head?_framed_append (ha : a.utf8ByteSize < 2 ^ 56) (r : List UInt8) :
    (framed a ++ r).head? = some 0 := by
  have hbyte : a.utf8ByteSize >>> (8 * 7) = 0 := by
    rw [Nat.shiftRight_eq_div_pow, Nat.div_eq_of_lt ha]
  rw [framed_append, Sha256.bigEndian_succ, hbyte]
  rfl

theorem flag_inj {x y : Bool} (h : flag x = flag y) : x = y := by
  revert h
  cases x <;> cases y <;> decide

end Encoding

/-! ### Stages -/

theorem Lookup.toJson_chars_inj {a b : Lookup} (h : a.toJson.chars = b.toJson.chars) : a = b := by
  have hmembers := memberChars_eq_of_chars_eq h
  obtain ⟨collection, localField, foreignField, output⟩ := a
  obtain ⟨collection', localField', foreignField', output'⟩ := b
  simp only [memberChars, Json.chars, List.cons.injEq, List.append_cancel_left_eq, quoted_inj,
    true_and, and_true] at hmembers
  obtain ⟨rfl, rfl, rfl, rfl⟩ := hmembers
  rfl

theorem Unwind.toJson_chars_inj {a b : Unwind} (h : a.toJson.chars = b.toJson.chars) : a = b := by
  have hmembers := memberChars_eq_of_chars_eq h
  obtain ⟨path, preserveEmpty⟩ := a
  obtain ⟨path', preserveEmpty'⟩ := b
  obtain ⟨hpath, hflag⟩ := List.cons.inj hmembers
  have hsame : path = path' := quoted_inj.mp (List.cons.inj (quoted_append_inj hpath).2).2
  have hvalue : (Json.bool preserveEmpty).chars = (Json.bool preserveEmpty').chars :=
    (List.cons.inj (quoted_append_inj (List.cons.inj hflag).1).2).2
  rw [hsame]
  cases preserveEmpty <;> cases preserveEmpty' <;> simp [Json.chars] at hvalue ⊢

namespace Stage

/-- The texts of a stage other than criteria. -/
def texts : Stage → List String
  | .select _ => []
  | .join lookup => [lookup.collection, lookup.localField, lookup.foreignField, lookup.output]
  | .unwind spec => [spec.path]

variable {a b : Stage} {r s : List UInt8}

theorem utf8ByteSize_operator_lt (stage : Stage) : stage.operator.utf8ByteSize < 2 ^ 56 := by
  cases stage with
  | select => exact (by decide : "$match".utf8ByteSize < 2 ^ 56)
  | join => exact (by decide : "$lookup".utf8ByteSize < 2 ^ 56)
  | unwind => exact (by decide : "$unwind".utf8ByteSize < 2 ^ 56)

/-- The operator tells what sort of stage it is. -/
theorem cases_of_operator_eq (h : a.operator = b.operator) :
    (∃ c d, a = .select c ∧ b = .select d) ∨ (∃ k l, a = .join k ∧ b = .join l) ∨
      ∃ u v, a = .unwind u ∧ b = .unwind v := by
  cases a <;> cases b <;> simp [operator] at h ⊢

/-- The text of a stage tells its operator and the text of its operand. -/
theorem toJson_chars_eq_iff : a.toJson.chars = b.toJson.chars ↔
    a.operator = b.operator ∧ a.operand.chars = b.operand.chars := by
  constructor
  · intro h
    have hmembers := memberChars_eq_of_chars_eq h
    obtain ⟨hoperator, hoperand⟩ := quoted_append_inj (List.cons.inj hmembers).1
    exact ⟨hoperator, (List.cons.inj hoperand).2⟩
  · rintro ⟨hoperator, hoperand⟩
    simp only [toJson, Json.chars, memberChars, hoperator, hoperand]

/-- The encoding of an operand delimits itself among those of one operator. -/
theorem encodedOperand_append_inj (ha : ∀ text ∈ a.texts, text.utf8ByteSize < 2 ^ 64)
    (hb : ∀ text ∈ b.texts, text.utf8ByteSize < 2 ^ 64) (hoperator : a.operator = b.operator)
    (h : a.encodedOperand ++ r = b.encodedOperand ++ s) :
    a.operand.chars = b.operand.chars ∧ r = s := by
  rcases cases_of_operator_eq hoperator with
    ⟨c, d, rfl, rfl⟩ | ⟨k, l, rfl, rfl⟩ | ⟨u, v, rfl, rfl⟩
  · exact Encoding.framed_object_append_inj h
  · simp only [texts, List.forall_mem_cons] at ha hb
    simp only [encodedOperand, List.append_assoc] at h
    obtain ⟨hcollection, h₁⟩ := Encoding.framed_append_inj ha.1 hb.1 h
    obtain ⟨hlocal, h₂⟩ := Encoding.framed_append_inj ha.2.1 hb.2.1 h₁
    obtain ⟨hforeign, h₃⟩ := Encoding.framed_append_inj ha.2.2.1 hb.2.2.1 h₂
    obtain ⟨houtput, hrest⟩ := Encoding.framed_append_inj ha.2.2.2.1 hb.2.2.2.1 h₃
    refine ⟨?_, hrest⟩
    simp only [operand, Lookup.toJson, hcollection, hlocal, hforeign, houtput]
  · simp only [texts, List.forall_mem_cons] at ha hb
    simp only [encodedOperand, List.append_assoc] at h
    obtain ⟨hpath, h₁⟩ := Encoding.framed_append_inj ha.1 hb.1 h
    obtain ⟨hflag, hrest⟩ := List.cons.inj h₁
    refine ⟨?_, hrest⟩
    simp only [operand, Unwind.toJson, hpath, Encoding.flag_inj hflag]

theorem encodedOperand_eq_of_chars_eq (hoperator : a.operator = b.operator)
    (h : a.operand.chars = b.operand.chars) : a.encodedOperand = b.encodedOperand := by
  rcases cases_of_operator_eq hoperator with
    ⟨c, d, rfl, rfl⟩ | ⟨k, l, rfl, rfl⟩ | ⟨u, v, rfl, rfl⟩
  · exact congrArg (fun chars => Encoding.framed (String.ofList chars)) h
  · rw [Lookup.toJson_chars_inj h]
  · rw [Unwind.toJson_chars_inj h]

/-- The encoding of a stage delimits itself, and it tells the text of the stage. -/
theorem encoding_append_inj (ha : ∀ text ∈ a.texts, text.utf8ByteSize < 2 ^ 64)
    (hb : ∀ text ∈ b.texts, text.utf8ByteSize < 2 ^ 64)
    (h : a.encoding ++ r = b.encoding ++ s) : a.toJson.chars = b.toJson.chars ∧ r = s := by
  have hshort : ∀ stage : Stage, stage.operator.utf8ByteSize < 2 ^ 64 :=
    fun stage => Nat.lt_trans stage.utf8ByteSize_operator_lt (by decide)
  rw [encoding, encoding, List.append_assoc, List.append_assoc] at h
  obtain ⟨hoperator, hrest⟩ := Encoding.framed_append_inj (hshort a) (hshort b) h
  obtain ⟨hoperand, htail⟩ := encodedOperand_append_inj ha hb hoperator hrest
  exact ⟨toJson_chars_eq_iff.mpr ⟨hoperator, hoperand⟩, htail⟩

theorem encoding_eq_of_toJson_chars_eq (h : a.toJson.chars = b.toJson.chars) :
    a.encoding = b.encoding := by
  obtain ⟨hoperator, hoperand⟩ := toJson_chars_eq_iff.mp h
  rw [encoding, encoding, hoperator, encodedOperand_eq_of_chars_eq hoperator hoperand]

theorem head?_encoding (stage : Stage) : stage.encoding.head? = some 0 :=
  Encoding.head?_framed_append stage.utf8ByteSize_operator_lt _

end Stage

/-! ### Lists of stages -/

section Stages

variable {ps qs : List Stage} {r s : List UInt8}

/-- A tag that no stage begins with shows where the stages end, though nobody counts them. -/
theorem encodings_append_inj (hp : ∀ stage ∈ ps, ∀ text ∈ stage.texts, text.utf8ByteSize < 2 ^ 64)
    (hq : ∀ stage ∈ qs, ∀ text ∈ stage.texts, text.utf8ByteSize < 2 ^ 64)
    (h : ps.flatMap Stage.encoding ++ 3 :: r = qs.flatMap Stage.encoding ++ 3 :: s) :
    ps.map (·.toJson.chars) = qs.map (·.toJson.chars) ∧ r = s := by
  -- A list that goes on begins with a stage, and not with the tag at which the other ends.
  have htag : ∀ (stage : Stage) (stages : List Stage) (rest rest' : List UInt8),
      (stage :: stages).flatMap Stage.encoding ++ rest ≠ 3 :: rest' := by
    intro stage stages rest rest' heq
    obtain ⟨tail, htail⟩ := List.head?_eq_some_iff.mp stage.head?_encoding
    rw [List.flatMap_cons, htail] at heq
    exact absurd (List.cons.inj heq).1 (by decide)
  induction ps generalizing qs with
  | nil =>
    cases qs with
    | nil => exact ⟨rfl, (List.cons.inj h).2⟩
    | cons q qs => exact absurd h.symm (htag q qs _ _)
  | cons p ps ih =>
    cases qs with
    | nil => exact absurd h (htag p ps _ _)
    | cons q qs =>
      rw [List.flatMap_cons, List.flatMap_cons, List.append_assoc, List.append_assoc] at h
      obtain ⟨hfirst, hps⟩ := List.forall_mem_cons.mp hp
      obtain ⟨hfirst', hqs⟩ := List.forall_mem_cons.mp hq
      obtain ⟨htext, hrest⟩ := Stage.encoding_append_inj hfirst hfirst' h
      obtain ⟨htexts, htail⟩ := ih hps hqs hrest
      exact ⟨by rw [List.map_cons, List.map_cons, htext, htexts], htail⟩

theorem encodings_eq_of_map_eq (h : ps.map (·.toJson.chars) = qs.map (·.toJson.chars)) :
    ps.flatMap Stage.encoding = qs.flatMap Stage.encoding := by
  induction ps generalizing qs with
  | nil =>
    rw [List.map_eq_nil_iff.mp h.symm]
  | cons p ps ih =>
    cases qs with
    | nil => cases h
    | cons q qs =>
      obtain ⟨htext, htexts⟩ := List.cons.inj h
      rw [List.flatMap_cons, List.flatMap_cons, Stage.encoding_eq_of_toJson_chars_eq htext,
        ih htexts]

end Stages

/-! ### Pipelines -/

namespace Pipeline

/-- The texts of a pipeline other than criteria. -/
def texts (pipeline : Pipeline) : List String :=
  pipeline.collection :: pipeline.stages.flatMap Stage.texts

variable {p q : Pipeline}

theorem toJson_text_eq_iff : p.toJson.text = q.toJson.text ↔
    p.stages.map (·.toJson.chars) = q.stages.map (·.toJson.chars) := by
  have hitems : ∀ stages : List Stage,
      itemChars (stages.map (·.toJson)) = stages.map (·.toJson.chars) := by
    intro stages
    rw [itemChars_eq_map, List.map_map]
    rfl
  rw [Json.text, Json.text, String.ofList_inj, toJson, toJson, ← hitems, ← hitems]
  constructor
  · intro h
    exact itemChars_eq_of_chars_eq h
  · intro h
    rw [Json.chars, Json.chars, h]

/-- An encoding falls into parts. -/
theorem encoding_eq (pipeline : Pipeline) : pipeline.encoding =
    Encoding.heading ++ 1 :: (Encoding.framed pipeline.collection ++
      2 :: (pipeline.stages.flatMap Stage.encoding ++
        3 :: [Encoding.flag pipeline.allowDiskUse])) := by
  simp [encoding]

/-- **Pipelines are encoded alike exactly when they are written alike**, on one collection and with
the same leave to use the disk.  Those that are not can have one fingerprint only if their
encodings, which are different, have the same digest. -/
theorem encoding_eq_iff (hp : ∀ text ∈ p.texts, text.utf8ByteSize < 2 ^ 64)
    (hq : ∀ text ∈ q.texts, text.utf8ByteSize < 2 ^ 64) :
    let alike := p.collection = q.collection ∧ p.allowDiskUse = q.allowDiskUse ∧
      p.toJson.text = q.toJson.text
    (p.encoding = q.encoding ↔ alike) ∧
      (¬ alike → p.fingerprint = q.fingerprint →
        p.encoding ≠ q.encoding ∧ Sha256.digest p.encoding = Sha256.digest q.encoding) := by
  intro alike
  obtain ⟨hcollection, hstages⟩ := List.forall_mem_cons.mp hp
  obtain ⟨hcollection', hstages'⟩ := List.forall_mem_cons.mp hq
  have hiff : p.encoding = q.encoding ↔ alike := by
    constructor
    · intro h
      -- One part after the other is read off: the collection, the stages up to their tag, the flag.
      rw [encoding_eq, encoding_eq] at h
      have hbody := (List.cons.inj (List.append_cancel_left h)).2
      obtain ⟨hsame, hrest⟩ := Encoding.framed_append_inj hcollection hcollection' hbody
      obtain ⟨htexts, hflag⟩ := encodings_append_inj
        (fun stage hstage text htext => hstages text (List.mem_flatMap.mpr ⟨stage, hstage, htext⟩))
        (fun stage hstage text htext => hstages' text (List.mem_flatMap.mpr ⟨stage, hstage, htext⟩))
        (List.cons.inj hrest).2
      exact ⟨hsame, Encoding.flag_inj (List.cons.inj hflag).1, toJson_text_eq_iff.mpr htexts⟩
    · rintro ⟨hsame, hflag, htext⟩
      rw [encoding_eq, encoding_eq, hsame, hflag,
        encodings_eq_of_map_eq (toJson_text_eq_iff.mp htext)]
  refine ⟨hiff, fun hdiffer hfingerprint => ⟨fun h => hdiffer (hiff.mp h), ?_⟩⟩
  exact Fingerprint.mk.inj hfingerprint

/-- Two pipelines whose lookups have the same characters in the same order, but with another border
between the collection and the field. -/
theorem encoding_ne_of_moved_border :
    let criteria : Criteria := [("age", .number (.int 3))]
    let p : Pipeline := ⟨"orders",
      [.select criteria, .join ⟨"people", "buyer", "_id", "it"⟩, .unwind ⟨"$it", true⟩], true⟩
    let q : Pipeline := ⟨"orders",
      [.select criteria, .join ⟨"peopleb", "uyer", "_id", "it"⟩, .unwind ⟨"$it", true⟩], true⟩
    (∀ text ∈ p.texts, text.utf8ByteSize < 2 ^ 64) ∧
      (∀ text ∈ q.texts, text.utf8ByteSize < 2 ^ 64) ∧
      p.toJson.text ≠ q.toJson.text ∧ p.encoding ≠ q.encoding := by
  intro criteria p q
  have hp : ∀ text ∈ p.texts, text.utf8ByteSize < 2 ^ 64 := by decide
  have hq : ∀ text ∈ q.texts, text.utf8ByteSize < 2 ^ 64 := by decide
  have htext : p.toJson.text ≠ q.toJson.text := by decide +kernel
  refine ⟨hp, hq, htext, fun hencoding => ?_⟩
  exact htext ((encoding_eq_iff hp hq).1.mp hencoding).2.2

end Pipeline

end JoinPlan
