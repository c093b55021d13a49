/-!
# Hexadecimal digits

The lowercase digit of a number (`hexDigit`) and the values of digits of either case (`hexNumber?`).
-/

namespace JoinPlan.Text

/-- The lowercase digit of a number below sixteen. -/
def hexDigit (n : Nat) : Char :=
  Nat.digitChar n

/-- The value of a digit. -/
def hexValue? (c : Char) : Option Nat :=
  if c.isDigit then some (c.toNat - '0'.toNat)
  else if 'a' ≤ c ∧ c ≤ 'f' then some (c.toNat - 'a'.toNat + 10)
  else if 'A' ≤ c ∧ c ≤ 'F' then some (c.toNat - 'A'.toNat + 10)
  else none

/-- The number that digits denote. -/
def hexNumber? (digits : List Char) : Option Nat := do
  return (← digits.mapM hexValue?).foldl (fun n d => 16 * n + d) 0

end JoinPlan.Text
