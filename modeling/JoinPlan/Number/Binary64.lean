/-!
# Binary floating point numbers

`Binary64` holds the finite double precision numbers exactly, as a sign, a 53 bit significand and
a power of two.  Everything that rounds goes through `ofRatio?`, which takes the number nearest to
a quotient of naturals, the even significand of two that are equally near, and gives nothing when
the quotient lies beyond the largest finite number.
-/

namespace JoinPlan

/-- A finite binary64 number, of absolute value `significand * 2 ^ scale / 2 ^ 1074`.  A significand
below `2 ^ 52` occurs at the least scale only, so that each number other than zero has one form. -/
structure Binary64 where
  negative : Bool
  significand : Nat
  scale : Nat
  significand_lt : significand < 1 <<< 53
  scale_le : scale ≤ 2045
  normalized : scale = 0 ∨ 1 <<< 52 ≤ significand
deriving DecidableEq, Repr

namespace Binary64

/-! ### Values -/

/-- Zero, with a sign. -/
def zero (negative : Bool) : Binary64 :=
  ⟨negative, 0, 0, by decide, by decide, .inl rfl⟩

/-- The number with these parts, if they are the parts of one. -/
def ofParts? (negative : Bool) (significand scale : Nat) : Option Binary64 :=
  if h : significand < 1 <<< 53 ∧ scale ≤ 2045 ∧ (scale = 0 ∨ 1 <<< 52 ≤ significand) then
    some ⟨negative, significand, scale, h.1, h.2.1, h.2.2⟩
  else
    none

/-- The absolute value, counted in units of `2 ^ -1074`. -/
def units (x : Binary64) : Nat :=
  x.significand <<< x.scale

/-- Equality of values: the two zeros are the same number. -/
def same (x y : Binary64) : Bool :=
  x.significand == y.significand && x.scale == y.scale &&
    (x.negative == y.negative || x.significand == 0)

/-! ### Rounding -/

/-- The integer nearest to a quotient, the even one of two that are equally near. -/
def roundQuotient (num den : Nat) : Nat :=
  let floor := num / den
  let rest := num % den
  if 2 * rest < den then floor
  else if den < 2 * rest then floor + 1
  else floor + floor % 2

/-- The number nearest to `num / den`, or none when it is too large to be finite. -/
def ofRatio? (negative : Bool) (num den : Nat) : Option Binary64 :=
  let target := num <<< 1074
  let scale := Nat.log2 (target / den) - 52
  let rounded := roundQuotient target (den <<< scale)
  if rounded = 1 <<< 53 then ofParts? negative (1 <<< 52) (scale + 1)
  else ofParts? negative rounded scale

/-- The rounded product. -/
def mul? (x y : Binary64) : Option Binary64 :=
  ofRatio? (x.negative != y.negative) (x.units * y.units) (1 <<< 2148)

/-- The rounded quotient by a number other than zero. -/
def div? (x y : Binary64) : Option Binary64 :=
  ofRatio? (x.negative != y.negative) x.units y.units

/-- The number nearest to `coefficient * 10 ^ exponent`.  Exponents far outside the range of finite
numbers are decided by the count of digits alone. -/
def ofDecimal? (negative : Bool) (coefficient : Nat) (exponent : Int) : Option Binary64 :=
  let magnitude := (Nat.toDigits 10 coefficient).length + exponent
  if coefficient = 0 ∨ magnitude < -330 then some (zero negative)
  else if 310 < magnitude then none
  else ofRatio? negative (coefficient * Nat.pow 10 exponent.toNat)
      (Nat.pow 10 (-exponent).toNat)

end Binary64

end JoinPlan
