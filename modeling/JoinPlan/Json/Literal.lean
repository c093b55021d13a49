import JoinPlan.Json.Basic
import JoinPlan.Number.Numeral

/-!
# Number literals

A JSON literal without point and exponent is an integer when it fits 64 bits, signed or unsigned;
only `-0` is not.  Every other literal is a binary64 number, and it is read in bounded precision:
the leading digits, as many as fit 64 bits, make a significand (`absorb`), which is rounded once
and then multiplied or divided by a power of ten (`scaled?`).  For up to fifteen digits and
powers up to `10 ^ 22` the result is the nearest number; otherwise it may be a neighbour of that.
-/

namespace JoinPlan.JsonNumber

/-! ### The significand -/

/-- Appends digits to a significand as long as it fits 64 bits; the digits left over follow. -/
def absorb (significand : Nat) : List Char → Nat × List Char
  | [] => (significand, [])
  | c :: rest =>
    let next := significand * 10 + (c.toNat - '0'.toNat)
    if next < 1 <<< 64 then absorb next rest else (significand, c :: rest)

/-! ### Scaling -/

/-- A significand or power of ten as a binary64 number. -/
def rounded? (n : Nat) : Option Binary64 :=
  Binary64.ofRatio? false n 1

/-- A number divided by a power of ten. -/
def divided? (x : Binary64) (exponent : Nat) : Option Binary64 := do
  x.div? (← rounded? (Nat.pow 10 exponent))

/-- A number below `2 ^ 64` times a power of ten.  Powers beyond `10 ^ 308` are not finite, so
that a division by more goes in two steps, and by more than two such steps gives zero. -/
def scaled? (x : Binary64) (exponent : Int) : Option Binary64 :=
  if x.significand = 0 then some x
  else if 308 < exponent then none
  else if 0 ≤ exponent then do x.mul? (← rounded? (Nat.pow 10 exponent.toNat))
  else if -308 ≤ exponent then divided? x (-exponent).toNat
  else if -616 ≤ exponent then do divided? (← divided? x 308) (-exponent - 308).toNat
  else some (Binary64.zero false)

/-- A significand times a power of ten, with a sign. -/
def float? (negative : Bool) (significand : Nat) (exponent : Int) : Option JsonNumber := do
  let x ← scaled? (← rounded? significand) exponent
  return .float { x with negative := negative }

/-! ### Literals -/

/-- A literal in parts: sign, digits before the point, digits after it, exponent.  The latter two
are absent when their mark is. -/
structure Literal where
  negative : Bool
  whole : List Char
  frac : Option (List Char)
  exponent : Option Int

/-- The number that a literal denotes. -/
def ofLiteral? (l : Literal) : Option JsonNumber :=
  let (significand, left) := absorb 0 l.whole
  if l.frac.isNone && l.exponent.isNone && left.isEmpty then
    if !l.negative then some (.int significand)
    else if 0 < significand && significand ≤ 1 <<< 63 then some (.int (-significand))
    else float? true significand 0
  else
    let frac := l.frac.getD []
    let (full, dropped) := absorb significand frac
    let shift : Int := left.length - (frac.length - dropped.length : Nat)
    float? l.negative full (shift + l.exponent.getD 0)

/-- Splits an exponent mark and its digits off. -/
def takeExponent : List Char → Option (Option Int × List Char)
  | [] => some (none, [])
  | c :: rest =>
    if c = 'e' ∨ c = 'E' then
      let (negative, unsigned) := Numeral.sign rest
      let (digits, after) := unsigned.span Char.isDigit
      (Numeral.natural? digits).map fun n => (some (if negative then -(n : Int) else n), after)
    else some (none, c :: rest)

/-- Splits a point and its digits off; a point needs a digit after it. -/
def takeFraction : List Char → Option (Option (List Char) × List Char)
  | '.' :: rest =>
    let (digits, after) := rest.span Char.isDigit
    if digits.isEmpty then none else some (some digits, after)
  | cs => some (none, cs)

/-- Splits the digits before the point off; they have no needless zero in front. -/
def takeWhole (cs : List Char) : Option (List Char × List Char) :=
  match cs.span Char.isDigit with
  | ([], _) => none
  | ('0' :: _ :: _, _) => none
  | (digits, after) => some (digits, after)

/-- Splits a number literal off a text. -/
def take? (cs : List Char) : Option (JsonNumber × List Char) := do
  let (negative, unsigned) := match cs with
    | '-' :: rest => (true, rest)
    | _ => (false, cs)
  let (whole, rest) ← takeWhole unsigned
  let (frac, rest) ← takeFraction rest
  let (exponent, rest) ← takeExponent rest
  return (← ofLiteral? ⟨negative, whole, frac, exponent⟩, rest)

end JoinPlan.JsonNumber
