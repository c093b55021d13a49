import Mathlib.Data.List.Nodup

/-!
# Lists with distinct keys

Finding an entry by its key is looking it up in a list of entries with their keys
(`lookup_map_key`), and where the keys are distinct it says no less than membership.  Where they are
not, `List.eraseDups` keeps each key at its first place; one more entry at the end
brings in its key if that is new (`eraseDups_concat`).
-/

namespace JoinPlan

variable {α κ : Type} [DecidableEq κ] {key : α → κ} {entries : List α} {k : κ} {entry : α}

/-- What is found under a key has that key. -/
theorem key_of_find? (h : entries.find? (key · = k) = some entry) : key entry = k := by
  have hfound := List.find?_some h
  exact of_decide_eq_true hfound

/-- Under a key there is the entry that has it, and no other. -/
theorem find?_key_eq_some_iff (h : (entries.map key).Nodup) :
    entries.find? (key · = k) = some entry ↔ entry ∈ entries ∧ key entry = k := by
  constructor
  · intro hfound
    exact ⟨List.mem_of_find?_eq_some hfound, key_of_find? hfound⟩
  · rintro ⟨hmem, rfl⟩
    have hsome : (entries.find? (key · = key entry)).isSome = true :=
      List.find?_isSome.mpr ⟨entry, hmem, decide_eq_true rfl⟩
    obtain ⟨other, hother⟩ := Option.isSome_iff_exists.mp hsome
    have hsame : other = entry :=
      List.inj_on_of_nodup_map h (List.mem_of_find?_eq_some hother) hmem (key_of_find? hother)
    rw [hother, hsame]

/-- Entries that are listed with their keys are found by them. -/
theorem lookup_map_key (entries : List α) (k : κ) :
    (entries.map fun entry => (key entry, entry)).lookup k = entries.find? (key · = k) := by
  induction entries with
  | nil => rfl
  | cons entry rest ih =>
    rw [List.map_cons, List.lookup_cons, List.find?_cons, ih]
    by_cases h : key entry = k
    · simp [h]
    · have hbeq : (k == key entry) = false := beq_eq_false_iff_ne.mpr (Ne.symm h)
      simp [h, hbeq]

theorem eraseDups_concat (keys : List κ) (k : κ) :
    (keys ++ [k]).eraseDups = if k ∈ keys then keys.eraseDups else keys.eraseDups ++ [k] := by
  rw [List.eraseDups_append]
  by_cases h : k ∈ keys <;> simp [List.removeAll, h, List.eraseDups_cons]

end JoinPlan
