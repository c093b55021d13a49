/-!
# Runs of code points

Properties of characters are kept as ascending lists of runs: `CodeRun` is an arithmetic
progression of code points, `CodeShift` a run whose members all move by the same amount under a
mapping.  `CodeRun.anyContains` and `CodeShift.apply` search such lists and stop at the first run
that begins beyond the code point asked for.
-/

namespace JoinPlan.Text

/-! ### Membership -/

/-- The code points `first, first + step, …` up to `last`. -/
structure CodeRun where
  first : Nat
  last : Nat
  step : Nat
deriving DecidableEq, Repr

/-- A code point belongs to a run when it lies between the ends and on the grid. -/
def CodeRun.contains (run : CodeRun) (code : Nat) : Bool :=
  run.first ≤ code && code ≤ run.last && (code - run.first) % run.step == 0

/-- Membership in an ascending list of runs. -/
def CodeRun.anyContains : List CodeRun → Nat → Bool
  | [], _ => false
  | run :: rest, code =>
    if code < run.first then false
    else run.contains code || CodeRun.anyContains rest code

/-! ### Mappings -/

/-- A run of code points that a mapping moves by a common amount. -/
structure CodeShift where
  run : CodeRun
  amount : Int
deriving DecidableEq, Repr

/-- The image of a code point under an ascending list of shifts; outside the runs it stays. -/
def CodeShift.apply : List CodeShift → Nat → Nat
  | [], code => code
  | shift :: rest, code =>
    if code < shift.run.first then code
    else if shift.run.contains code then (code + shift.amount).toNat
    else CodeShift.apply rest code

end JoinPlan.Text
