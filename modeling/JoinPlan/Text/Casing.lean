import JoinPlan.Text.LetterCase

/-!
# Casing

Full case mapping of text.  A character may map to several (`toUpper`, `toLower`), and the capital
sigma has two lowercase forms: `lowercase` writes the final one where a word ends, that is where
a cased letter precedes and none follows, case-ignorable characters not counting on either side.
-/

namespace JoinPlan.Text

/-! ### Single characters -/

/-- Whether a character is an uppercase letter. -/
def isUppercase (c : Char) : Bool :=
  CodeRun.anyContains uppercaseRuns c.toNat

/-- Whether a character is a letter with case. -/
def isCased (c : Char) : Bool :=
  CodeRun.anyContains casedRuns c.toNat

/-- Whether a character is skipped when the neighbours of a letter are judged. -/
def isCaseIgnorable (c : Char) : Bool :=
  CodeRun.anyContains caseIgnorableRuns c.toNat

/-- The image of a character: an expansion if it has one, else its simple mapping. -/
def mapCase (expansions : List (Nat × List Nat)) (shifts : List CodeShift) (c : Char) :
    List Char :=
  match expansions.lookup c.toNat with
  | some codes => codes.map Char.ofNat
  | none => [Char.ofNat (CodeShift.apply shifts c.toNat)]

/-- The uppercase form of a character. -/
def toUpper (c : Char) : List Char :=
  mapCase uppercaseExpansions uppercaseShifts c

/-- The lowercase form of a character out of context. -/
def toLower (c : Char) : List Char :=
  mapCase lowercaseExpansions lowercaseShifts c

/-! ### Words -/

/-- Whether the first character that is not case-ignorable is a cased letter. -/
def meetsCased (cs : List Char) : Bool :=
  match cs.dropWhile isCaseIgnorable with
  | [] => false
  | c :: _ => isCased c

/-- The lowercase sigma between `before`, nearest character first, and `after`. -/
def lowerSigma (before after : List Char) : Char :=
  if meetsCased before && !meetsCased after then 'ς' else 'σ'

/-- The lowercase form of the second text, which follows `before`, nearest character first. -/
def lowercaseAfter (before : List Char) : List Char → List Char
  | [] => []
  | c :: rest =>
    (if c = 'Σ' then [lowerSigma before rest] else toLower c) ++ lowercaseAfter (c :: before) rest

/-- The lowercase form of a text. -/
def lowercase (cs : List Char) : List Char :=
  lowercaseAfter [] cs

/-- A text with its first character in uppercase. -/
def capitalize : List Char → List Char
  | [] => []
  | c :: rest => toUpper c ++ rest

end JoinPlan.Text
