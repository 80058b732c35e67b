import SparqlBag.Text.Category
import SparqlBag.Text.Script
import SparqlBag.Text.Binary
import SparqlBag.Text.Age
import SparqlBag.Text.Boundary

/-!
# Unicode properties by name

The sets of characters a regular expression names with `\p{…}`, as ranges of code
points.  Names compare loosely: any case, spaces, `_` and `-` ignored, characters
outside ASCII dropped, a leading `is` skipped.  A bare name is a binary property,
then a general category or `Any`, `ASCII`, `Assigned`, then a script (`cf`, `sc`
and `lc` skip the first step); a name with a value is a category, script, script
extensions, age, or break class.  Any other name names no set.  The sets behind
`\d`, `\s` and `\w` are here too.
-/

namespace SparqlBag

namespace UnicodeProperty

/-- Whether a text starts with `is` in any case. -/
def startsWithIs : List Char → Bool
  | a :: b :: _ => (a == 'i' || a == 'I') && (b == 's' || b == 'S')
  | _ => false

/-- The loose form of a name. -/
def normalize (name : String) : String :=
  let cs := name.toList
  let skipped := startsWithIs cs
  let kept := (if skipped then cs.drop 2 else cs).filterMap fun c =>
    if c == ' ' || c == '_' || c == '-' then none
    else if 'A' ≤ c && c ≤ 'Z' then some (Char.ofNat (c.toNat + 32))
    else if c.toNat < 0x80 then some c
    else none
  if skipped && kept == ['c'] then "isc" else String.ofList kept

/-- Whether a loose name is one of the names. -/
def nameMatches (loose : String) (names : List String) : Bool :=
  names.any (normalize · == loose)

/-- The set of a binary property of a loose name. -/
def binarySet (loose : String) : Option (InversionMap Bool) :=
  (BinaryProperty.sets.find? (nameMatches loose ·.1)).map (·.2)

/-- The ranges of a binary property. -/
def binaryRanges (set : InversionMap Bool) : List (Nat × Nat) := set.ranges id

/-- The ranges of the characters whose general category is one of `cs`. -/
def categoryRanges (cs : List GeneralCategory) : List (Nat × Nat) :=
  GeneralCategory.map.ranges (cs.contains ·)

/-- The ranges of a general category, group of categories, `Any`, `ASCII` or
`Assigned`, by loose name. -/
def category (loose : String) : Option (List (Nat × Nat)) :=
  if loose == "any" then some [(0, 0x10FFFF)]
  else if loose == "ascii" then some [(0, 0x7F)]
  else if loose == "assigned" then
    some (GeneralCategory.map.ranges fun g => g != .unassigned && g != .surrogate)
  else (GeneralCategory.names.find? (nameMatches loose ·.1)).map (categoryRanges ·.2)

/-- The code of the script of a loose name. -/
def scriptCode (loose : String) : Option String :=
  (Script.names.find? (nameMatches loose ·)).bind (·.head?)

/-- The ranges of a script, by loose name. -/
def script (loose : String) : Option (List (Nat × Nat)) :=
  (scriptCode loose).map fun code => Script.map.ranges (· == code)

/-- The ranges of the characters whose script extensions include a script. -/
def scriptExtension (loose : String) : Option (List (Nat × Nat)) :=
  (scriptCode loose).map fun code => Script.extensionMap.ranges (·.contains code)

/-- The ranges of the characters assigned in a version or before it, the
version named by its number or as `V16_0`. -/
def age (loose : String) : Option (List (Nat × Nat)) :=
  let named := Age.versions.findIdx? fun v =>
    nameMatches loose [v, "V" ++ String.ofList (v.toList.map fun c => if c == '.' then '_' else c)]
  named.map fun i => Age.map.ranges ((Age.versions.take (i + 1)).contains ·)

/-- The ranges of a boundary class, by loose name among the class names. -/
def boundaryClass (map : InversionMap String) (names : List (List String)) (loose : String) :
    Option (List (Nat × Nat)) :=
  (names.find? (nameMatches loose ·)).bind fun ns =>
    ns.head?.map fun long => map.ranges (· == long)

/-- The ranges of a bare property name, or `none` when it names no set. -/
def ofName (name : String) : Option (List (Nat × Nat)) :=
  let loose := normalize name
  let binary := if loose == "cf" || loose == "sc" || loose == "lc" then none
    else (binarySet loose).map binaryRanges
  binary <|> category loose <|> script loose

/-- The ranges of a property with a value, or `none` when they name no set. -/
def ofValue (name value : String) : Option (List (Nat × Nat)) :=
  let n := normalize name
  let v := normalize value
  if n == "gc" || n == "generalcategory" then category v
  else if n == "sc" || n == "script" then script v
  else if n == "scx" || n == "scriptextensions" then scriptExtension v
  else if n == "age" then age v
  else if n == "gcb" || n == "graphemeclusterbreak" then
    boundaryClass Boundary.graphemeMap Boundary.graphemeNames v
  else if n == "wb" || n == "wordbreak" then boundaryClass Boundary.wordMap Boundary.wordNames v
  else if n == "sb" || n == "sentencebreak" then
    boundaryClass Boundary.sentenceMap Boundary.sentenceNames v
  else none

/-- The set of a binary property that the data has, by its long name. -/
def binaryNamed (long : String) : InversionMap Bool :=
  ((BinaryProperty.sets.find? (·.1.head? == some long)).map (·.2)).getD ⟨#[], false⟩

/-- The alphabetic characters. -/
def alphabetic : InversionMap Bool := binaryNamed "Alphabetic"

/-- Whether a character is alphabetic. -/
def isAlphabetic (c : Char) : Bool := alphabetic.get c.toNat

/-- Whether a character is alphabetic or a number of any kind. -/
def isAlphanumeric (c : Char) : Bool :=
  isAlphabetic c ||
    [GeneralCategory.decimalNumber, .letterNumber, .otherNumber].contains (generalCategory c)

/-- The ranges of the decimal digits, `\d`. -/
def digitRanges : List (Nat × Nat) := categoryRanges [.decimalNumber]

/-- The ranges of white space, `\s`. -/
def spaceRanges : List (Nat × Nat) := binaryRanges (binaryNamed "White_Space")

/-- The word characters: alphabetic characters, marks, decimal digits,
connector punctuation and the joiners. -/
def wordSet : InversionMap Bool :=
  let join := binaryNamed "Join_Control"
  let marks := [GeneralCategory.nonspacingMark, .spacingMark, .enclosingMark, .decimalNumber,
    .connectorPunctuation]
  let rs := (alphabetic.ranges id ++ categoryRanges marks ++ join.ranges id).mergeSort
    fun a b => a.1 ≤ b.1
  let merged := rs.foldl (fun acc (a, b) =>
    match acc with
    | (c, d) :: more => if a ≤ d + 1 then (c, max b d) :: more else (a, b) :: acc
    | [] => [(a, b)]) []
  ⟨(merged.reverse.flatMap fun (a, b) => [(a, true), (b + 1, false)]).toArray, false⟩

/-- The ranges of the word characters, `\w`. -/
def wordRanges : List (Nat × Nat) := wordSet.ranges id

/-- Whether a character is a word character. -/
def isWordChar (c : Char) : Bool := wordSet.get c.toNat

end UnicodeProperty

end SparqlBag
