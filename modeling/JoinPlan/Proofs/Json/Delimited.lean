import JoinPlan.Proofs.Json.Strings

/-!
# Texts that delimit themselves

The compact text of a value can be followed by anything but more of a number, and it is still clear
where it ends (`Json.delimited_chars`).  How it ends depends on what it begins with, and values of
different sorts begin differently (`Json.cases_of_lead_eq`):

* a number goes on as long as there are characters of numbers (`JsonNumber.isNumeric_text`), which
  is all that the proof needs to know of how numbers are written;
* a string ends at the quote that is not escaped (`quoted_append_inj`);
* an array or an object ends at its bracket, which is where a comma would stand if it went on
  (`commaSeparated_append_inj`).

The text does not tell the value itself, since numbers of one text need not be told apart here.
What it tells are the texts of the items and members (`array_append_inj`, `object_append_inj`).
-/

namespace JoinPlan

/-! ### Numbers -/

/-- The characters that numbers are written with. -/
def isNumberChar (c : Char) : Bool :=
  c.isDigit || c == '-' || c == '+' || c == '.' || c == 'e'

/-- A text that is not empty and has only characters of numbers. -/
def IsNumeric (text : List Char) : Prop :=
  text ≠ [] ∧ ∀ c ∈ text, isNumberChar c = true

theorem isNumberChar_of_mem_toDigits {n : Nat} {c : Char} (h : c ∈ Nat.toDigits 10 n) :
    isNumberChar c = true := by
  have hdigit : c.isDigit = true := Nat.isDigit_of_mem_toDigits (by decide) (by decide) h
  simp [isNumberChar, hdigit]

theorem isNumeric_integerText (n : Int) : IsNumeric (integerText n) := by
  refine ⟨by simp [integerText, Nat.toDigits_ne_nil], fun c hc => ?_⟩
  rcases List.mem_append.mp hc with hsign | hdigits
  · have hminus : c = '-' := by
      split at hsign
      · exact List.mem_singleton.mp hsign
      · cases hsign
    rw [hminus]
    rfl
  · exact isNumberChar_of_mem_toDigits hdigits

namespace FloatStyle

variable {digits : List Char} (h : ∀ c ∈ digits, isNumberChar c = true)
include h

theorem isNumeric_positional (lead : Int) : IsNumeric (positional digits lead) := by
  have hzero : ∀ n, ∀ c ∈ List.replicate n '0', isNumberChar c = true :=
    fun n c hc => by rw [List.eq_of_mem_replicate hc]; rfl
  unfold positional
  split
  · refine ⟨List.cons_ne_nil _ _, fun c hc => ?_⟩
    simp only [List.mem_cons, List.mem_append] at hc
    rcases hc with rfl | rfl | hc | hc
    · rfl
    · rfl
    · exact hzero _ c hc
    · exact h c hc
  · unfold withPoint
    refine ⟨by simp, fun c hc => ?_⟩
    simp only [List.mem_cons, List.mem_append] at hc
    rcases hc with (hc | hc) | rfl | hc
    · exact h c (List.mem_of_mem_take hc)
    · exact hzero _ c hc
    · rfl
    · split at hc
      · rw [List.mem_singleton.mp hc]; rfl
      · exact h c (List.mem_of_mem_drop hc)

theorem isNumeric_exponential (lead : Int) : IsNumeric (exponential digits lead) := by
  unfold exponential
  refine ⟨by simp, fun c hc => ?_⟩
  simp only [List.mem_cons, List.mem_append] at hc
  rcases hc with (hc | hc) | rfl | rfl | hc
  · exact h c (List.mem_of_mem_take hc)
  · split at hc
    · cases hc
    · rcases List.mem_cons.mp hc with rfl | hc
      · rfl
      · exact h c (List.mem_of_mem_drop hc)
  · rfl
  · split <;> rfl
  · exact isNumberChar_of_mem_toDigits hc

omit h in
theorem isNumeric_write (style : FloatStyle) (d : Decimal) : IsNumeric (style.write d) := by
  have hsignificant : ∀ c ∈ significant (Nat.toDigits 10 d.coefficient), isNumberChar c = true := by
    intro c hc
    have hmem := List.dropWhile_subset _ (List.mem_reverse.mp hc)
    exact isNumberChar_of_mem_toDigits (List.mem_reverse.mp hmem)
  unfold write
  dsimp only
  split
  · exact isNumeric_positional hsignificant _
  · exact isNumeric_exponential hsignificant _

end FloatStyle

theorem Binary64.isNumeric_text (x : Binary64) : IsNumeric x.text := by
  have hbody : IsNumeric
      (if x.significand = 0 then ['0', '.', '0'] else FloatStyle.standard.write x.shortest) := by
    split
    · exact ⟨by decide, List.all_eq_true.mp rfl⟩
    · exact FloatStyle.isNumeric_write _ _
  refine ⟨fun hempty => hbody.1 (List.append_eq_nil_iff.mp hempty).2, fun c hc => ?_⟩
  rcases List.mem_append.mp hc with hsign | hrest
  · split at hsign
    · rw [List.mem_singleton.mp hsign]; rfl
    · cases hsign
  · exact hbody.2 c hrest

/-- **A number is written with the characters of numbers**, at least one of them. -/
theorem JsonNumber.isNumeric_text (n : JsonNumber) : IsNumeric n.text := by
  cases n with
  | int n => exact isNumeric_integerText n
  | float x => exact x.isNumeric_text

/-! ### Texts that show where they end -/

/-- A text that does not go on with a character of numbers. -/
def Stops (rest : List Char) : Prop :=
  ∀ c ∈ rest.head?, isNumberChar c = false

theorem stops_cons {c : Char} (h : isNumberChar c = false) (rest : List Char) :
    Stops (c :: rest) := by
  intro d hd
  rw [← Option.some.inj hd]
  exact h

/-- Two texts that can only be continued to the same if they are the same, unless what follows could
continue a number. -/
def Delimited (t u : List Char) : Prop :=
  ∀ r s, Stops r → Stops s → t ++ r = u ++ s → t = u ∧ r = s

theorem IsNumeric.takeWhile_append {t r : List Char} (ht : IsNumeric t) (hr : Stops r) :
    (t ++ r).takeWhile isNumberChar = t := by
  rw [List.takeWhile_append_of_pos ht.2]
  cases r with
  | nil => exact List.append_nil t
  | cons c rest => rw [List.takeWhile_cons_of_neg (by simp [hr c rfl]), List.append_nil]

theorem IsNumeric.delimited {t u : List Char} (ht : IsNumeric t) (hu : IsNumeric u) :
    Delimited t u := by
  intro r s hr hs h
  have htext : t = u := by rw [← ht.takeWhile_append hr, h, hu.takeWhile_append hs]
  exact ⟨htext, List.append_cancel_left (htext ▸ h)⟩

/-! ### Texts with commas between them -/

/-- The texts that follow a first one, each with a comma before it. -/
def commaTail (texts : List (List Char)) : List Char :=
  texts.flatMap (',' :: ·)

theorem commaSeparated_cons (t : List Char) (texts : List (List Char)) :
    commaSeparated (t :: texts) = t ++ commaTail texts := by
  induction texts generalizing t with
  | nil => simp [commaSeparated, commaTail]
  | cons u rest ih =>
    rw [commaSeparated, ih]
    · simp [commaTail]
    · simp

variable {close : Char} {ts us : List (List Char)} {r s : List Char}

theorem stops_commaTail (hclose : isNumberChar close = false) (ts : List (List Char))
    (r : List Char) : Stops (commaTail ts ++ close :: r) := by
  cases ts with
  | nil => exact stops_cons hclose r
  | cons t rest => exact stops_cons rfl _

theorem commaTail_append_inj (hcomma : close ≠ ',') (hclose : isNumberChar close = false)
    (hdelimited : ∀ t ∈ ts, ∀ u ∈ us, Delimited t u)
    (h : commaTail ts ++ close :: r = commaTail us ++ close :: s) : ts = us ∧ r = s := by
  induction ts generalizing us with
  | nil =>
    -- The next character is the bracket or a comma, which tells whether the list goes on.
    cases us with
    | nil => exact ⟨rfl, (List.cons.inj h).2⟩
    | cons u us => exact absurd (List.cons.inj h).1 hcomma
  | cons t ts ih =>
    cases us with
    | nil => exact absurd (List.cons.inj h).1.symm hcomma
    | cons u us =>
      have hstep : t ++ (commaTail ts ++ close :: r) = u ++ (commaTail us ++ close :: s) := by
        simpa [commaTail] using h
      obtain ⟨htext, hrest⟩ := hdelimited t List.mem_cons_self u List.mem_cons_self _ _
        (stops_commaTail hclose ts r) (stops_commaTail hclose us s) hstep
      obtain ⟨htexts, htail⟩ := ih (fun t ht u hu =>
        hdelimited t (List.mem_cons_of_mem _ ht) u (List.mem_cons_of_mem _ hu)) hrest
      exact ⟨by rw [htext, htexts], htail⟩

/-- A closing bracket shows where a list of texts ends, as none of them begins with it. -/
theorem commaSeparated_append_inj (hcomma : close ≠ ',') (hclose : isNumberChar close = false)
    (hdelimited : ∀ t ∈ ts, ∀ u ∈ us, Delimited t u)
    (hbegin : ∀ t ∈ ts ++ us, ∀ rest rest', t ++ rest ≠ close :: rest')
    (h : commaSeparated ts ++ close :: r = commaSeparated us ++ close :: s) :
    ts = us ∧ r = s := by
  cases ts with
  | nil =>
    cases us with
    | nil => exact ⟨rfl, (List.cons.inj h).2⟩
    | cons u us =>
      rw [commaSeparated_cons, List.append_assoc] at h
      exact absurd h.symm (hbegin u (by simp) _ _)
  | cons t ts =>
    rw [commaSeparated_cons, List.append_assoc] at h
    cases us with
    | nil => exact absurd h (hbegin t (by simp) _ _)
    | cons u us =>
      rw [commaSeparated_cons, List.append_assoc] at h
      obtain ⟨htext, hrest⟩ := hdelimited t List.mem_cons_self u List.mem_cons_self _ _
        (stops_commaTail hclose ts r) (stops_commaTail hclose us s) h
      obtain ⟨htexts, htail⟩ := commaTail_append_inj hcomma hclose (fun t ht u hu =>
        hdelimited t (List.mem_cons_of_mem _ ht) u (List.mem_cons_of_mem _ hu)) hrest
      exact ⟨by rw [htext, htexts], htail⟩

/-! ### Beginnings -/

namespace Json

/-- The character that the text of a value begins with, with a zero for those of numbers. -/
def lead : Json → Char
  | .null => 'n'
  | .bool true => 't'
  | .bool false => 'f'
  | .number _ => '0'
  | .string _ => '"'
  | .array _ => '['
  | .object _ => '\x7b'

theorem exists_chars_eq_cons (v : Json) :
    ∃ c rest, v.chars = c :: rest ∧ (if isNumberChar c then '0' else c) = v.lead := by
  rcases v with _ | (_ | _) | n | _ | _ | _
  case number =>
    obtain ⟨hne, hchars⟩ := n.isNumeric_text
    obtain ⟨c, rest, htext⟩ := List.exists_cons_of_ne_nil hne
    have hc := hchars c (by rw [htext]; exact List.mem_cons_self)
    exact ⟨c, rest, htext, by rw [hc]; rfl⟩
  all_goals exact ⟨_, _, rfl, rfl⟩

theorem lead_eq_of_append_eq {v w : Json} {r s : List Char} (h : v.chars ++ r = w.chars ++ s) :
    v.lead = w.lead := by
  obtain ⟨c, rest, hchars, hlead⟩ := v.exists_chars_eq_cons
  obtain ⟨d, rest', hchars', hlead'⟩ := w.exists_chars_eq_cons
  rw [hchars, hchars'] at h
  rw [← hlead, ← hlead', (List.cons.inj h).1]

theorem chars_append_ne_bracket (v : Json) (rest rest' : List Char) :
    v.chars ++ rest ≠ ']' :: rest' := by
  obtain ⟨c, tail, hchars, hlead⟩ := v.exists_chars_eq_cons
  intro h
  rw [hchars] at h
  have hc : c = ']' := (List.cons.inj h).1
  have hbracket : v.lead = ']' := by rw [← hlead, hc]; rfl
  rcases v with _ | (_ | _) | _ | _ | _ | _ <;> simp [lead] at hbracket

/-- The text of a value shows by its beginning what sort of value it is. -/
theorem cases_of_lead_eq {v w : Json} (h : v.lead = w.lead) :
    v.chars = w.chars ∨ (∃ m n, v = .number m ∧ w = .number n) ∨
      (∃ a b, v = .string a ∧ w = .string b) ∨ (∃ xs ys, v = .array xs ∧ w = .array ys) ∨
      ∃ xs ys, v = .object xs ∧ w = .object ys := by
  rcases v with _ | (_ | _) | _ | _ | _ | _ <;> rcases w with _ | (_ | _) | _ | _ | _ | _ <;>
    simp [lead] at h ⊢

end Json

/-! ### Values -/

theorem itemChars_eq_map (items : List Json) : itemChars items = items.map Json.chars := by
  induction items with
  | nil => rfl
  | cons item rest ih => rw [itemChars, ih, List.map_cons]

/-- The text of a member. -/
def memberText (member : String × Json) : List Char :=
  quoted member.1 ++ ':' :: member.2.chars

theorem memberChars_eq_map (members : List (String × Json)) :
    memberChars members = members.map memberText := by
  induction members with
  | nil => rfl
  | cons member rest ih => rw [memberChars, ih, List.map_cons]; rfl

variable {xs ys : List Json} {ms ns : List (String × Json)}

theorem array_append_inj (hitems : ∀ x ∈ xs, ∀ y ∈ ys, Delimited x.chars y.chars)
    (h : (Json.array xs).chars ++ r = (Json.array ys).chars ++ s) :
    itemChars xs = itemChars ys ∧ r = s := by
  have hinner : commaSeparated (itemChars xs) ++ ']' :: r =
      commaSeparated (itemChars ys) ++ ']' :: s := by
    simpa [Json.chars] using h
  rw [itemChars_eq_map, itemChars_eq_map] at hinner ⊢
  refine commaSeparated_append_inj (by decide) rfl ?_ ?_ hinner
  · simpa using hitems
  · intro t ht
    rw [← List.map_append] at ht
    obtain ⟨x, _, rfl⟩ := List.mem_map.mp ht
    exact x.chars_append_ne_bracket

theorem object_append_inj (hvalues : ∀ m ∈ ms, ∀ n ∈ ns, Delimited m.2.chars n.2.chars)
    (h : (Json.object ms).chars ++ r = (Json.object ns).chars ++ s) :
    memberChars ms = memberChars ns ∧ r = s := by
  have hinner : commaSeparated (memberChars ms) ++ '\x7d' :: r =
      commaSeparated (memberChars ns) ++ '\x7d' :: s := by
    simpa [Json.chars] using h
  rw [memberChars_eq_map, memberChars_eq_map] at hinner ⊢
  refine commaSeparated_append_inj (by decide) rfl ?_ ?_ hinner
  · intro t ht u hu r s hr hs htu
    obtain ⟨m, hm, rfl⟩ := List.mem_map.mp ht
    obtain ⟨n, hn, rfl⟩ := List.mem_map.mp hu
    rw [memberText, memberText, List.append_assoc, List.append_assoc] at htu
    obtain ⟨hkey, hvalue⟩ := quoted_append_inj htu
    obtain ⟨htext, hrest⟩ := hvalues m hm n hn r s hr hs (List.cons.inj hvalue).2
    exact ⟨by rw [memberText, memberText, hkey, htext], hrest⟩
  · intro t ht rest rest' hbegin
    rw [← List.map_append] at ht
    obtain ⟨m, _, rfl⟩ := List.mem_map.mp ht
    exact absurd (List.cons.inj hbegin).1 (by decide)

/-- **The text of a value delimits itself.** -/
theorem Json.delimited_chars (v w : Json) : Delimited v.chars w.chars := by
  intro r s hr hs h
  -- The same text cannot begin values of different sorts, so only equal sorts are left.
  rcases cases_of_lead_eq (lead_eq_of_append_eq h) with
    heq | ⟨m, n, hv, hw⟩ | ⟨a, b, hv, hw⟩ | ⟨xs, ys, hv, hw⟩ | ⟨ms, ns, hv, hw⟩
  · exact ⟨heq, List.append_cancel_left (heq ▸ h)⟩
  · rw [hv, hw] at h ⊢
    exact m.isNumeric_text.delimited n.isNumeric_text r s hr hs h
  · rw [hv, hw] at h ⊢
    obtain ⟨hab, hrest⟩ := quoted_append_inj h
    exact ⟨by rw [hab], hrest⟩
  · rw [hv, hw] at h ⊢
    obtain ⟨hitems, hrest⟩ := array_append_inj (fun x hx y _ => x.delimited_chars y) h
    exact ⟨by rw [chars, chars, hitems], hrest⟩
  · rw [hv, hw] at h ⊢
    obtain ⟨hmembers, hrest⟩ := object_append_inj (fun m hm n _ => m.2.delimited_chars n.2) h
    exact ⟨by rw [chars, chars, hmembers], hrest⟩
termination_by sizeOf v
decreasing_by
  · have hlt := List.sizeOf_lt_of_mem hx
    rw [hv, Json.array.sizeOf_spec]
    omega
  · have hlt := List.sizeOf_lt_of_mem hm
    have hvalue : sizeOf m.2 < sizeOf m := by
      obtain ⟨key, value⟩ := m
      show sizeOf value < sizeOf (key, value)
      rw [Prod.mk.sizeOf_spec]
      omega
    rw [hv, Json.object.sizeOf_spec]
    omega

theorem itemChars_eq_of_chars_eq (h : (Json.array xs).chars = (Json.array ys).chars) :
    itemChars xs = itemChars ys :=
  (array_append_inj (fun x _ y _ => x.delimited_chars y) (congrArg (· ++ []) h)).1

theorem memberChars_eq_of_chars_eq (h : (Json.object ms).chars = (Json.object ns).chars) :
    memberChars ms = memberChars ns :=
  (object_append_inj (fun m _ n _ => m.2.delimited_chars n.2) (congrArg (· ++ []) h)).1

end JoinPlan
