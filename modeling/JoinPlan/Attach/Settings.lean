import JoinPlan.Text.Hex

/-!
# Settings

Settings come with a model when it is attached, and may be written as a text of lines.  A line is
empty or holds one entry `key = value`; blanks may surround each part, and a comment from `#` to
the end may follow.  A key is written bare, in single quotes as it is, or in double quotes with
escapes.  `allow_disk_use` is the only key, may be given once, and has the value `true` or
`false`.  Lines end at a line feed, which a carriage return may precede, and a byte order mark
may precede all.
-/

namespace JoinPlan

/-- How the pipelines of a model are executed unless a lookup says otherwise. -/
structure Settings where
  allowDiskUse : Bool := true
deriving DecidableEq, Repr

namespace Settings

/-! ### Characters -/

/-- Drops spaces and tabs in front. -/
def skipSpaces (cs : List Char) : List Char :=
  cs.dropWhile fun c => c == ' ' || c == '\t'

/-- A character that comments and keys in quotes may hold: a tab, or no control character. -/
def isPrintable (c : Char) : Bool :=
  c == '\t' || (0x20 ≤ c.toNat && c.toNat != 0x7F)

/-- A character of bare keys. -/
def isBareKeyChar (c : Char) : Bool :=
  c.isAlphanum || c == '_' || c == '-'

/-- The character that an escape by one letter stands for. -/
def letterEscape? (c : Char) : Option Char :=
  [('b', '\x08'), ('t', '\t'), ('n', '\n'), ('f', '\x0c'), ('r', '\r'), ('e', '\x1b'), ('"', '"'),
    ('\\', '\\')].lookup c

/-- The number of digits of an escape by code. -/
def codeEscape? (c : Char) : Option Nat :=
  [('x', 2), ('u', 4), ('U', 8)].lookup c

/-- The character with a code, if there is one. -/
def charOfCode? (code : Nat) : Option Char :=
  if code.isValidChar then some (Char.ofNat code) else none

/-! ### Keys -/

/-- What an escape stands for, and the number of characters that it takes after the backslash. -/
def escape? : List Char → Option (Char × Nat)
  | [] => none
  | c :: rest =>
    match codeEscape? c with
    | some count => do
      let digits := rest.take count
      if digits.length < count then none
      else return (← charOfCode? (← Text.hexNumber? digits), count + 1)
    | none => (letterEscape? c).map fun plain => (plain, 1)

/-- The content of double quotes up to the closing one, and the text after it.  The first argument
counts characters that belong to an escape already read. -/
def takeQuoted : Nat → List Char → Option (List Char × List Char)
  | _, [] => none
  | skip + 1, _ :: rest => takeQuoted skip rest
  | 0, '"' :: rest => some ([], rest)
  | 0, '\\' :: rest => do
    let (c, width) ← escape? rest
    let (content, after) ← takeQuoted width rest
    return (c :: content, after)
  | 0, c :: rest =>
    if isPrintable c then (takeQuoted 0 rest).map fun (content, after) => (c :: content, after)
    else none

/-- The content of single quotes up to the closing one, and the text after it. -/
def takeVerbatim (cs : List Char) : Option (List Char × List Char) :=
  match cs.span fun c => c != '\'' with
  | (content, _ :: after) => if content.all isPrintable then some (content, after) else none
  | (_, []) => none

/-- A key, and the text after it. -/
def takeKey : List Char → Option (List Char × List Char)
  | '"' :: rest => takeQuoted 0 rest
  | '\'' :: rest => takeVerbatim rest
  | cs => some (cs.span isBareKeyChar)

/-! ### Lines -/

/-- The key of the only setting. -/
def diskUseKey : List Char :=
  "allow_disk_use".toList

/-- A truth value, and the text after it. -/
def takeFlag : List Char → Option (Bool × List Char)
  | 't' :: 'r' :: 'u' :: 'e' :: rest => some (true, rest)
  | 'f' :: 'a' :: 'l' :: 's' :: 'e' :: rest => some (false, rest)
  | _ => none

/-- Whether a line may end with this: blanks and a comment. -/
def isLineEnd (cs : List Char) : Bool :=
  match skipSpaces cs with
  | [] => true
  | '#' :: comment => comment.all isPrintable
  | _ => false

/-- The entry of a line, if it has one; fails when the line is neither an entry nor empty. -/
def entry? (line : List Char) : Option (Option Bool) :=
  if isLineEnd line then some none
  else do
    let (key, rest) ← takeKey (skipSpaces line)
    if key ≠ diskUseKey then none
    else match skipSpaces rest with
      | '=' :: rest => do
        let (value, rest) ← takeFlag (skipSpaces rest)
        if isLineEnd rest then some (some value) else none
      | _ => none

/-- Removes the carriage return before a line feed from every line but the last. -/
def dropReturns : List (List Char) → List (List Char)
  | [] => []
  | [line] => [line]
  | line :: rest =>
    (if line.getLast? = some '\r' then line.dropLast else line) :: dropReturns rest

/-- The lines of a text. -/
def lines (cs : List Char) : List (List Char) :=
  dropReturns (cs.splitOn '\n')

/-- The settings that a text denotes.  Without an entry they are the usual ones. -/
def parse? (text : String) : Option Settings := do
  let cs := match text.toList with
    | '\uFEFF' :: rest => rest
    | cs => cs
  let entries ← (lines cs).mapM entry?
  match entries.filterMap id with
  | [] => some {}
  | [value] => some ⟨value⟩
  | _ => none

end Settings

end JoinPlan
