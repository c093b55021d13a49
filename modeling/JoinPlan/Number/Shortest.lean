import JoinPlan.Number.Binary64

/-!
# Shortest decimal text

The text of a binary64 number has the fewest digits that read back as the number, and of the
decimals with that many digits the nearest one.  A decimal reads back when it lies in the interval
of reals that round to the number, the ends included when the significand is even.  For each count
of digits only the two neighbours of the number on that decimal grid need to be tried, because the
nearest points of the grid are the first to lie inside.

How the digits are laid out is a `FloatStyle`: positionally inside a range of exponents, with an
exponent outside.
-/

namespace JoinPlan

/-! ### Digits -/

/-- The number `coefficient * 10 ^ place`. -/
structure Decimal where
  coefficient : Nat
  place : Int
deriving DecidableEq, Repr

namespace Binary64

/-- The exponent of the leading decimal digit of `num / den`. -/
def leadingExponent (num den : Nat) : Int :=
  if den ≤ num then
    ((Nat.toDigits 10 (num / den)).length : Int) - 1
  else
    let count := (Nat.toDigits 10 (den / num)).length
    if den ≤ Nat.pow 10 (count - 1) * num then 1 - (count : Int) else -(count : Int)

/-- Whether the quotient `num / den`, in units of `2 ^ -1074`, rounds to `x`.  The neighbour below a
power of two is nearer by half than the one above. -/
def covers (x : Binary64) (num den : Nat) : Bool :=
  let below := if x.significand = 1 <<< 52 ∧ x.scale ≠ 0 then 1 else 2
  let low := (4 * x.significand - below) <<< x.scale * den
  let high := (4 * x.significand + 2) <<< x.scale * den
  if x.significand % 2 = 0 then low ≤ 4 * num && 4 * num ≤ high
  else low < 4 * num && 4 * num < high

/-- The better of the two neighbours of `x` on the grid of multiples of `10 ^ place` that round to
`x`, if one does: the nearer one, and the even one of two that are equally near. -/
def onGrid? (x : Binary64) (place : Int) : Option Decimal :=
  let scaling := Nat.pow 10 (-place).toNat
  let num := x.units * scaling
  let unit := Nat.pow 10 place.toNat <<< 1074
  let floor := num / unit
  let admits := fun n => x.covers (n * unit) scaling
  let nearest := roundQuotient num unit
  if admits nearest then some ⟨nearest, place⟩
  else if admits floor then some ⟨floor, place⟩
  else if admits (floor + 1) then some ⟨floor + 1, place⟩
  else none

/-- The shortest decimal that reads back as `x`. -/
def shortest (x : Binary64) : Decimal :=
  let lead := leadingExponent x.units (1 <<< 1074)
  let places := (List.range 17).map fun (n : Nat) => lead - n
  (places.findSome? x.onGrid?).getD ⟨x.units, 0⟩

end Binary64

/-! ### Layout -/

/-- How the digits of a number are laid out.  Numbers whose leading digit has an exponent from
`positionalFrom` to `positionalTo` are written positionally, with at least one digit on either
side of the point; the others with the mark `e` and a signed exponent. -/
structure FloatStyle where
  positionalFrom : Int
  positionalTo : Int
deriving DecidableEq, Repr

namespace FloatStyle

/-- The range from `0.00001` up to `10 ^ 16` is written positionally. -/
def standard : FloatStyle :=
  ⟨-5, 15⟩

/-- Digits with the point after the first `whole` of them; a missing part reads `0`. -/
def withPoint (digits : List Char) (whole : Nat) : List Char :=
  let int := digits.take whole ++ List.replicate (whole - digits.length) '0'
  let frac := digits.drop whole
  int ++ '.' :: (if frac.isEmpty then ['0'] else frac)

/-- Digits whose first has exponent `lead`, written positionally. -/
def positional (digits : List Char) (lead : Int) : List Char :=
  if lead < 0 then '0' :: '.' :: (List.replicate (-lead - 1).toNat '0' ++ digits)
  else withPoint digits (lead.toNat + 1)

/-- Digits whose first has exponent `lead`, written with an exponent. -/
def exponential (digits : List Char) (lead : Int) : List Char :=
  let tail := digits.drop 1
  digits.take 1 ++ (if tail.isEmpty then [] else '.' :: tail) ++
    'e' :: (if lead < 0 then '-' else '+') :: Nat.toDigits 10 lead.natAbs

/-- Digits without the zeros at their end. -/
def significant (digits : List Char) : List Char :=
  (digits.reverse.dropWhile (· == '0')).reverse

/-- The text of a positive decimal. -/
def write (style : FloatStyle) (d : Decimal) : List Char :=
  let digits := Nat.toDigits 10 d.coefficient
  let lead := d.place + (digits.length - 1 : Nat)
  if style.positionalFrom ≤ lead ∧ lead ≤ style.positionalTo then
    positional (significant digits) lead
  else
    exponential (significant digits) lead

end FloatStyle

/-- The text of a number: its sign and its shortest digits, laid out in the standard style. -/
def Binary64.text (x : Binary64) : List Char :=
  (if x.negative then ['-'] else []) ++
    (if x.significand = 0 then ['0', '.', '0'] else FloatStyle.standard.write x.shortest)

end JoinPlan
