import JoinPlan.Json.Printer
import JoinPlan.Json.Reader
import Mathlib.Tactic.SplitIfs

/-!
# Quoted strings

Between quotes every character stands for itself or is escaped, and reading undoes it: the codes
read from an escaped text are those of its characters (`takeCodes_escaped`).  A quoted string
therefore shows where it ends and which string it is, whatever follows it (`quoted_append_inj`).
-/

namespace JoinPlan

open JsonReader

/-- The code of a control character is read from its two hexadecimal digits. -/
theorem hexNumber?_control : ∀ n < 0x20,
    Text.hexNumber? ['0', '0', Text.hexDigit (n / 16), Text.hexDigit (n % 16)] = some n := by
  decide

/-- An escaped character is read back. -/
theorem takeCodes_escaped_append (c : Char) (rest : List Char) :
    takeCodes (escaped c ++ rest) = do
      let (codes, after) ← takeCodes rest
      return (c.toNat :: codes, after) := by
  unfold escaped
  split_ifs with hquote hslash hb hf hn hr ht hcontrol
  · subst hquote; rfl
  · subst hslash; rfl
  · subst hb; rfl
  · subst hf; rfl
  · subst hn; rfl
  · subst hr; rfl
  · subst ht; rfl
  · simp only [List.cons_append, List.nil_append, takeCodes, hexNumber?_control c.toNat hcontrol]
    rfl
  · rw [List.singleton_append, takeCodes]
    · rw [if_neg hcontrol]
    all_goals simp [hquote, hslash]

/-- The codes of an escaped text up to the closing quote are those of its characters. -/
theorem takeCodes_escaped (cs rest : List Char) :
    takeCodes (cs.flatMap escaped ++ '"' :: rest) = some (cs.map Char.toNat, rest) := by
  induction cs with
  | nil => rfl
  | cons c cs ih =>
    rw [List.flatMap_cons, List.append_assoc, takeCodes_escaped_append, ih]
    rfl

/-- **A quoted string delimits itself.** -/
theorem quoted_append_inj {a b : String} {r s : List Char} (h : quoted a ++ r = quoted b ++ s) :
    a = b ∧ r = s := by
  have hinner : a.toList.flatMap escaped ++ '"' :: r = b.toList.flatMap escaped ++ '"' :: s := by
    simpa [quoted] using h
  have hcodes := congrArg takeCodes hinner
  rw [takeCodes_escaped, takeCodes_escaped] at hcodes
  obtain ⟨hmap, hrest⟩ := Prod.mk.inj (Option.some.inj hcodes)
  have hlist : a.toList = b.toList :=
    (List.map_inj_right fun c d hcd => Char.toNat_inj.mp hcd).mp hmap
  exact ⟨String.toList_inj.mp hlist, hrest⟩

theorem quoted_inj {a b : String} : quoted a = quoted b ↔ a = b := by
  constructor
  · intro h
    exact (quoted_append_inj (congrArg (· ++ []) h)).1
  · intro h
    rw [h]

end JoinPlan
