import JoinPlan.Naming.Basic

/-!
# English plurals and singulars

Inflection acts on the last word of a name.  Words end at dots and begin at capitals, so the last
word of `groups.familyMembers` is `Members` (`splitLastWord`).  The word is inflected in
lowercase and gets its capital back.  Uncountable words stay, irregular ones are looked up, and
for the rest the ending decides (`regularPlural`, `regularSingular`).
-/

namespace JoinPlan.English

open Text

/-! ### Irregular words -/

/-- Words whose plural is the singular. -/
def uncountable : List (List Char) :=
  ["data", "deer", "equipment", "fish", "information", "metadata", "money", "news", "rice",
    "series", "sheep", "species"].map String.toList

/-- Singulars with the plurals that the endings do not give. -/
def irregular : List (List Char × List Char) :=
  [("alias", "aliases"), ("analysis", "analyses"), ("bonus", "bonuses"), ("bus", "buses"),
    ("campus", "campuses"), ("child", "children"), ("criterion", "criteria"), ("foot", "feet"),
    ("goose", "geese"), ("half", "halves"), ("knife", "knives"), ("leaf", "leaves"),
    ("life", "lives"), ("man", "men"), ("mouse", "mice"), ("movie", "movies"), ("ox", "oxen"),
    ("person", "people"), ("shelf", "shelves"), ("status", "statuses"), ("tooth", "teeth"),
    ("virus", "viruses"), ("wife", "wives"), ("wolf", "wolves"), ("woman", "women")].map
    fun (singular, plural) => (singular.toList, plural.toList)

/-- The singulars of irregular words. -/
def irregularSingulars : List (List Char) :=
  irregular.map (·.1)

/-- The plurals of irregular words. -/
def irregularPlurals : List (List Char) :=
  irregular.map (·.2)

/-! ### Endings -/

/-- Whether a word has an ending. -/
def endsIn (word : List Char) (ending : String) : Bool :=
  ending.toList.isSuffixOf word

/-- The letters after which a final `y` stays. -/
def vowels : List Char :=
  ['a', 'e', 'i', 'o', 'u']

/-- A letter of the alphabet other than the vowels. -/
def isConsonant (c : Char) : Bool :=
  c.isAlpha && !vowels.contains c

/-- A final `y` after a consonant turns to `ies`, sibilants take `es` and other words `s`. -/
def regularPlural (word : List Char) : List Char :=
  if endsIn word "y" && word.dropLast.getLast?.any isConsonant then word.dropLast ++ "ies".toList
  else if ["s", "x", "z", "ch", "sh"].any (endsIn word) then word ++ "es".toList
  else word ++ ['s']

/-- Undoes the regular plural: `ies` after a stem becomes `y`, sibilants lose `es`, and other
words a final `s`; the endings `ss`, `us` and `is` belong to singulars. -/
def regularSingular (word : List Char) : List Char :=
  if endsIn word "ies" && 3 < word.length then word.take (word.length - 3) ++ ['y']
  else if ["sses", "xes", "zes", "ches", "shes"].any (endsIn word) then word.take (word.length - 2)
  else if ["ss", "us", "is"].any (endsIn word) then word
  else if endsIn word "s" then word.dropLast
  else word

/-! ### Words -/

/-- The plural of a lowercase word; a word that is known as a plural stays. -/
def plural (word : List Char) : List Char :=
  if uncountable.contains word || irregularPlurals.contains word then word
  else (irregular.lookup word).getD (regularPlural word)

/-- The singular of a lowercase word; a word that is known as a singular stays. -/
def singular (word : List Char) : List Char :=
  if uncountable.contains word || irregularSingulars.contains word then word
  else ((irregular.find? (·.2 == word)).map (·.1)).getD (regularSingular word)

/-! ### Names -/

/-- Whether a text begins with an uppercase letter. -/
def isCapitalized : List Char → Bool
  | [] => false
  | c :: _ => isUppercase c

/-- Splits a name before its last word.  A word begins after a dot and at an uppercase letter. -/
def splitLastWord : List Char → List Char × List Char
  | [] => ([], [])
  | c :: rest =>
    match splitLastWord rest with
    | ([], word) => if c = '.' || isCapitalized word then ([c], word) else ([], c :: word)
    | (front, word) => (c :: front, word)

/-- An inflected word with the capital of the word that it comes from. -/
def matchCase (original inflected : List Char) : List Char :=
  if isCapitalized original then capitalize inflected else inflected

/-- Inflects the last word of a name; a name that ends in a dot has none and stays. -/
def inflectLast (inflect : List Char → List Char) (name : List Char) : List Char :=
  let (front, word) := splitLastWord name
  if word.isEmpty then name else front ++ matchCase word (inflect (lowercase word))

/-- The plural of a name. -/
def pluralize (name : List Char) : List Char :=
  inflectLast plural name

/-- The singular of a name. -/
def singularize (name : List Char) : List Char :=
  inflectLast singular name

end JoinPlan.English

namespace JoinPlan

/-- Names by the rules of English. -/
def Naming.english : Naming where
  pluralize name := String.ofList (English.pluralize name.toList)
  singularize name := String.ofList (English.singularize name.toList)

end JoinPlan
