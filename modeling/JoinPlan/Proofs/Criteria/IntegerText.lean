import JoinPlan.Criteria.Cast
import Mathlib.Algebra.Ring.Int.Defs
import Mathlib.Data.List.Basic

/-!
# Integers given by text

An integer may be given as a number or by its decimal text, with blanks on either side.  As a
number it is taken whatever its size, but by its text only if it fits 64 bits with a sign
(`castValue_integer_text`): the integers from `2 ^ 63` on are numbers that no text stands for.

Within those bounds the text means the same as the number.  Trimming leaves the text alone, as it
has no blanks of its own (`Text.trim_append`), and what is left is read back: a sign is there
exactly for negative integers, and the digits of a natural number have its value
(`Numeral.integer?_integerText`).
-/

namespace JoinPlan

/-! ### Blanks -/

namespace Text

theorem dropWhile_isBlank_append {blanks text : List Char}
    (hblanks : ∀ c ∈ blanks, isBlank c = true) (hhead : ∀ c ∈ text.head?, isBlank c = false) :
    (blanks ++ text).dropWhile isBlank = text := by
  rw [List.dropWhile_append_of_pos hblanks]
  cases text with
  | nil => rfl
  | cons c rest => rw [List.dropWhile_cons_of_neg (by simp [hhead c rfl])]

/-- Blanks around a text that has none of its own are trimmed, and nothing else. -/
theorem trim_append {before text after : List Char} (hbefore : ∀ c ∈ before, isBlank c = true)
    (hafter : ∀ c ∈ after, isBlank c = true) (hne : text ≠ [])
    (htext : ∀ c ∈ text, isBlank c = false) : trim (before ++ text ++ after) = text := by
  have hfront : (before ++ (text ++ after)).dropWhile isBlank = text ++ after := by
    refine dropWhile_isBlank_append hbefore fun c hc => ?_
    rw [List.head?_append_of_ne_nil _ hne] at hc
    exact htext c (List.mem_of_mem_head? hc)
  have hback : (after.reverse ++ text.reverse).dropWhile isBlank = text.reverse :=
    dropWhile_isBlank_append (fun c hc => hafter c (List.mem_reverse.mp hc)) fun c hc =>
      htext c (List.mem_reverse.mp (List.mem_of_mem_head? hc))
  unfold trim
  rw [List.append_assoc, hfront, List.reverse_append, hback, List.reverse_reverse]

theorem isBlank_of_isDigit {c : Char} (h : c.isDigit = true) : isBlank c = false := by
  have hcodes : ∀ code < 58, 48 ≤ code → CodeRun.anyContains blankRuns code = false := by decide
  simp only [Char.isDigit, Bool.and_eq_true, decide_eq_true_eq, ge_iff_le,
    UInt32.le_iff_toNat_le] at h
  exact hcodes c.toNat (Nat.lt_succ_of_le h.2) h.1

end Text

/-! ### Reading digits -/

namespace Numeral

theorem natural?_toDigits (n : Nat) : natural? (Nat.toDigits 10 n) = some n := by
  have hempty : (Nat.toDigits 10 n).isEmpty = false := by
    rw [List.isEmpty_eq_false_iff]
    exact Nat.toDigits_ne_nil
  have hdigits : (Nat.toDigits 10 n).all Char.isDigit = true :=
    List.all_eq_true.mpr fun c hc => Nat.isDigit_of_mem_toDigits (by decide) (by decide) hc
  unfold natural? value
  rw [hempty, hdigits, Nat.ofDigitChars_toDigits (by decide) (by decide)]
  rfl

/-- Digits have no sign to be split off. -/
theorem sign_toDigits (n : Nat) : sign (Nat.toDigits 10 n) = (false, Nat.toDigits 10 n) := by
  have hdigits : ∀ c ∈ Nat.toDigits 10 n, c.isDigit = true := fun c hc =>
    Nat.isDigit_of_mem_toDigits (by decide) (by decide) hc
  unfold sign
  split
  · rename_i hminus
    exact absurd (hdigits '-' (by rw [hminus]; exact List.mem_cons_self)) (by decide)
  · rename_i hplus
    exact absurd (hdigits '+' (by rw [hplus]; exact List.mem_cons_self)) (by decide)
  · rfl

theorem integer?_of_sign {cs digits : List Char} {negative : Bool} {n : Nat}
    (hsign : sign cs = (negative, digits)) (hdigits : natural? digits = some n) :
    integer? cs = some (if negative then -(n : Int) else n) := by
  rw [integer?, hsign]
  simp [hdigits]

/-- **The decimal text of an integer is read back as the integer.** -/
theorem integer?_integerText (n : Int) : integer? (integerText n) = some n := by
  have hdigits := natural?_toDigits n.natAbs
  unfold integerText
  by_cases hneg : n < 0
  · have hsign : sign ('-' :: Nat.toDigits 10 n.natAbs) = (true, Nat.toDigits 10 n.natAbs) := rfl
    rw [if_pos hneg, List.singleton_append, integer?_of_sign hsign hdigits, if_pos rfl]
    congr 1
    omega
  · rw [if_neg hneg, List.nil_append, integer?_of_sign (sign_toDigits _) hdigits,
      if_neg Bool.false_ne_true]
    congr 1
    omega

end Numeral

theorem isBlank_of_mem_integerText {n : Int} {c : Char} (h : c ∈ integerText n) :
    Text.isBlank c = false := by
  rcases List.mem_append.mp h with hsign | hdigits
  · split at hsign
    · rw [List.mem_singleton.mp hsign]
      rfl
    · cases hsign
  · exact Text.isBlank_of_isDigit (Nat.isDigit_of_mem_toDigits (by decide) (by decide) hdigits)

/-! ### Casting -/

theorem isInt64_iff (n : Int) : isInt64 n = true ↔ -2 ^ 63 ≤ n ∧ n < 2 ^ 63 := by
  have hlimit : ((1 <<< 63 : Nat) : Int) = 2 ^ 63 := by decide
  simp only [isInt64, hlimit, Bool.and_eq_true, decide_eq_true_eq]
  exact and_comm

/-- With blanks around it the text of an integer denotes the integer, if that fits 64 bits. -/
theorem integerOfText?_append (n : Int) {before after : List Char}
    (hbefore : ∀ c ∈ before, Text.isBlank c = true) (hafter : ∀ c ∈ after, Text.isBlank c = true) :
    integerOfText? (String.ofList (before ++ integerText n ++ after)) =
      if -2 ^ 63 ≤ n ∧ n < 2 ^ 63 then some n else none := by
  have hne : integerText n ≠ [] := by
    unfold integerText
    simp [Nat.toDigits_ne_nil]
  unfold integerOfText?
  rw [String.toList_ofList, Text.trim_append hbefore hafter hne fun c hc =>
    isBlank_of_mem_integerText hc, Numeral.integer?_integerText, Option.filter_some]
  simp only [isInt64_iff]

theorem castValue_int_string (path : String) (n : Int) {before after : List Char}
    (hbefore : ∀ c ∈ before, Text.isBlank c = true) (hafter : ∀ c ∈ after, Text.isBlank c = true) :
    let text := Json.string (String.ofList (before ++ integerText n ++ after))
    castValue path (.scalar .int) text =
      if -2 ^ 63 ≤ n ∧ n < 2 ^ 63 then .ok (.number (.int n))
      else .error (.invalidValue path (.scalar .int) text) := by
  intro text
  have hconvert : Scalar.int.convert? text =
      (if -2 ^ 63 ≤ n ∧ n < 2 ^ 63 then some n else none).map fun n => .number (.int n) :=
    congrArg (Option.map _) (integerOfText?_append n hbefore hafter)
  rw [castValue, castScalar, hconvert]
  by_cases hfits : -2 ^ 63 ≤ n ∧ n < 2 ^ 63
  · rw [if_pos hfits, if_pos hfits]
    rfl
  · rw [if_neg hfits, if_neg hfits]
    rfl

/-- **An integer means the same as a number and as text exactly if it fits 64 bits with a sign.**
Every integer is taken as a number.  Its decimal text, with blanks around it or without, is cast to
the integer within those bounds and refused beyond them, so that casting an integer to text and back
gives the integer within them and nothing beyond. -/
theorem castValue_integer_text (path : String) (n : Int) {before after : List Char}
    (hbefore : ∀ c ∈ before, Text.isBlank c = true) (hafter : ∀ c ∈ after, Text.isBlank c = true) :
    let number := Json.number (.int n)
    let digits := Json.string (String.ofList (integerText n))
    let text := Json.string (String.ofList (before ++ integerText n ++ after))
    castValue path (.scalar .int) number = .ok number ∧
      castValue path (.scalar .int) text =
        (if -2 ^ 63 ≤ n ∧ n < 2 ^ 63 then .ok number
        else .error (.invalidValue path (.scalar .int) text)) ∧
      castValue path (.scalar .text) number = .ok digits ∧
      castValue path (.scalar .int) digits =
        (if -2 ^ 63 ≤ n ∧ n < 2 ^ 63 then .ok number
        else .error (.invalidValue path (.scalar .int) digits)) := by
  intro number digits text
  have hdigits := castValue_int_string path n (List.forall_mem_nil _) (List.forall_mem_nil _)
  rw [List.nil_append, List.append_nil] at hdigits
  have hnumber : castValue path (.scalar .int) number = .ok number := by
    rw [castValue]
    rfl
  have htext : castValue path (.scalar .text) number = .ok digits := by
    rw [castValue]
    rfl
  exact ⟨hnumber, castValue_int_string path n hbefore hafter, htext, hdigits⟩

/-- The least integer that has a text, with a blank beyond those of ASCII before it. -/
theorem castValue_integer_text_least :
    let least := Json.string "\u2003-9223372036854775808\n"
    (∀ c ∈ ['\u2003'], Text.isBlank c = true) ∧ (∀ c ∈ ['\n'], Text.isBlank c = true) ∧
      castValue "serial" (.scalar .int) least = .ok (.number (.int (-2 ^ 63))) := by
  intro least
  have hbefore : ∀ c ∈ ['\u2003'], Text.isBlank c = true := List.forall_mem_singleton.mpr rfl
  have hafter : ∀ c ∈ ['\n'], Text.isBlank c = true := List.forall_mem_singleton.mpr rfl
  refine ⟨hbefore, hafter, ?_⟩
  have hcast := (castValue_integer_text "serial" (-2 ^ 63) hbefore hafter).2.1
  rw [if_pos (by decide)] at hcast
  exact hcast

/-- The least integer that has none. -/
theorem castValue_integer_text_above :
    let number := Json.number (.int (2 ^ 63))
    let digits := Json.string "9223372036854775808"
    castValue "serial" (.scalar .int) number = .ok number ∧
      castValue "serial" (.scalar .text) number = .ok digits ∧
      castValue "serial" (.scalar .int) digits =
        .error (.invalidValue "serial" (.scalar .int) digits) :=
  ⟨rfl, rfl, rfl⟩

end JoinPlan
