import JoinPlan.Json.Literal
import JoinPlan.Text.Hex

/-!
# Reading JSON text

`Json.parse?` reads one value and the blanks around it, and refuses anything else.  A member that
comes twice keeps the later value.  The readers of values, items and members call each other once
for each level and each element, so that the length of the text bounds the calls.
-/

namespace JoinPlan

namespace JsonReader

/-! ### Strings -/

/-- The character that a short escape stands for. -/
def shortEscape? (c : Char) : Option Char :=
  [('"', '"'), ('\\', '\\'), ('/', '/'), ('b', '\x08'), ('f', '\x0c'), ('n', '\n'), ('r', '\r'),
    ('t', '\t')].lookup c

/-- The codes of a string up to its closing quote, and the text after it.  An escape by code may
give half of a surrogate pair. -/
def takeCodes : List Char → Option (List Nat × List Char)
  | [] => none
  | '"' :: rest => some ([], rest)
  | '\\' :: 'u' :: a :: b :: c :: d :: rest => do
    let code ← Text.hexNumber? [a, b, c, d]
    let (codes, after) ← takeCodes rest
    return (code :: codes, after)
  | '\\' :: c :: rest => do
    let plain ← shortEscape? c
    let (codes, after) ← takeCodes rest
    return (plain.toNat :: codes, after)
  | c :: rest =>
    if c.toNat < 0x20 then none
    else do
      let (codes, after) ← takeCodes rest
      return (c.toNat :: codes, after)

/-- Joins the surrogate pairs of a list of codes; a lone half is refused. -/
def joinSurrogates : List Nat → Option (List Char)
  | [] => some []
  | [code] => if 0xD800 ≤ code ∧ code < 0xE000 then none else some [Char.ofNat code]
  | high :: low :: rest =>
    if 0xD800 ≤ high ∧ high < 0xDC00 then
      if 0xDC00 ≤ low ∧ low < 0xE000 then do
        let code := 0x10000 + (high - 0xD800) * 0x400 + (low - 0xDC00)
        return Char.ofNat code :: (← joinSurrogates rest)
      else none
    else if 0xDC00 ≤ high ∧ high < 0xE000 then none
    else do return Char.ofNat high :: (← joinSurrogates (low :: rest))

/-- The string up to its closing quote, and the text after it. -/
def takeString (cs : List Char) : Option (String × List Char) := do
  let (codes, after) ← takeCodes cs
  return (String.ofList (← joinSurrogates codes), after)

/-! ### Values -/

/-- Drops blanks in front. -/
def skipBlanks (cs : List Char) : List Char :=
  cs.dropWhile fun c => c == ' ' || c == '\t' || c == '\n' || c == '\r'

mutual

/-- One value and the text after it. -/
def takeValue : Nat → List Char → Option (Json × List Char)
  | 0, _ => none
  | fuel + 1, cs =>
    match skipBlanks cs with
    | 'n' :: 'u' :: 'l' :: 'l' :: rest => some (.null, rest)
    | 't' :: 'r' :: 'u' :: 'e' :: rest => some (.bool true, rest)
    | 'f' :: 'a' :: 'l' :: 's' :: 'e' :: rest => some (.bool false, rest)
    | '"' :: rest => (takeString rest).map fun (s, after) => (.string s, after)
    | '[' :: rest =>
      match skipBlanks rest with
      | ']' :: after => some (.array [], after)
      | _ => (takeItems fuel rest).map fun (items, after) => (.array items, after)
    | '\x7b' :: rest =>
      match skipBlanks rest with
      | '\x7d' :: after => some (.object [], after)
      | _ => (takeMembers fuel [] rest).map fun (members, after) => (.object members, after)
    | rest => (JsonNumber.take? rest).map fun (n, after) => (.number n, after)

/-- The items of an array up to its closing bracket, and the text after it. -/
def takeItems : Nat → List Char → Option (List Json × List Char)
  | 0, _ => none
  | fuel + 1, cs => do
    let (item, rest) ← takeValue fuel cs
    match skipBlanks rest with
    | ',' :: more => do
      let (items, after) ← takeItems fuel more
      return (item :: items, after)
    | ']' :: after => return ([item], after)
    | _ => none

/-- The members of an object up to its closing brace, added to those read before. -/
def takeMembers : Nat → Fields → List Char → Option (Fields × List Char)
  | 0, _, _ => none
  | fuel + 1, members, cs =>
    match skipBlanks cs with
    | '"' :: rest => do
      let (key, rest) ← takeString rest
      match skipBlanks rest with
      | ':' :: rest => do
        let (value, rest) ← takeValue fuel rest
        let members := members.insert key value
        match skipBlanks rest with
        | ',' :: more => takeMembers fuel members more
        | '\x7d' :: after => return (members, after)
        | _ => none
      | _ => none
    | _ => none

end

end JsonReader

/-- The value that a text denotes, if it is JSON text. -/
def Json.parse? (text : String) : Option Json := do
  let cs := text.toList
  let (value, rest) ← JsonReader.takeValue (cs.length + 1) cs
  if (JsonReader.skipBlanks rest).isEmpty then some value else none

end JoinPlan
