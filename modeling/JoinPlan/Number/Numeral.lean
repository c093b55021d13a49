import JoinPlan.Number.Binary64

/-!
# Numerals

Reading numbers from text.  `integer?` takes an optional sign and decimal digits.  `float?` takes an
optional sign, digits with at most one point among or beside them, and an optional exponent, and
gives the nearest binary64 number, or nothing when that is not finite.
-/

namespace JoinPlan.Numeral

/-! ### Parts -/

/-- The value of a run of decimal digits. -/
def value (digits : List Char) : Nat :=
  Nat.ofDigitChars 10 digits 0

/-- Splits a sign off; without one the numeral is positive. -/
def sign : List Char → Bool × List Char
  | '-' :: rest => (true, rest)
  | '+' :: rest => (false, rest)
  | cs => (false, cs)

/-- A non-empty run of digits and nothing else. -/
def natural? (cs : List Char) : Option Nat :=
  if cs.isEmpty then none
  else if cs.all Char.isDigit then some (value cs)
  else none

/-- An optional sign, then a non-empty run of digits. -/
def integer? (cs : List Char) : Option Int :=
  let (negative, digits) := sign cs
  (natural? digits).map fun n => if negative then -(n : Int) else n

/-! ### Numbers with a point and an exponent -/

/-- The exponent part of a numeral: nothing, or a mark and an integer. -/
def exponent? : List Char → Option Int
  | [] => some 0
  | c :: rest => if c = 'e' ∨ c = 'E' then integer? rest else none

/-- The digits after the point, and what follows them.  Without a point there are none. -/
def fraction : List Char → List Char × List Char
  | '.' :: rest => rest.span Char.isDigit
  | cs => ([], cs)

/-- A numeral with an optional point and exponent, rounded to the nearest binary64 number. -/
def float? (cs : List Char) : Option Binary64 := do
  let (negative, unsigned) := sign cs
  let (whole, rest) := unsigned.span Char.isDigit
  let (frac, mark) := fraction rest
  let exponent ← exponent? mark
  if whole.isEmpty && frac.isEmpty then none
  else Binary64.ofDecimal? negative (value (whole ++ frac)) (exponent - frac.length)

end JoinPlan.Numeral
