/-
Characters by property, as patterns name them.

  * `byName?` finds a property by its name alone: a binary property, a general category or a script;
  * `byValue?` finds the characters with a value of a property: of the general category, the script or
    the script extensions;
  * `space`, `isWord` and `foldingClass` are the sets that patterns need without a name.

Names are compared without regard to case, spaces, hyphens, underscores and a leading "is". Inputs are
seen one UTF-16 unit at a time, so the tables end with the basic plane and the stand-ins for
surrogates. Ages, and where a text may be broken, are not among the properties.
-/
import GraphLexer.Unicode.CategoryTable
import GraphLexer.Unicode.FoldingTable
import GraphLexer.Unicode.PropertyTable
import GraphLexer.Unicode.Ranges
import GraphLexer.Unicode.ScriptTable
import GraphLexer.Unicode.WordTable

namespace GraphLexer.Unicode

def space : Ranges :=
  [(0x9, 0xD), (0x20, 0x20), (0x85, 0x85), (0xA0, 0xA0), (0x1680, 0x1680), (0x2000, 0x200A),
    (0x2028, 0x2029), (0x202F, 0x202F), (0x205F, 0x205F), (0x3000, 0x3000)]

def isSpace (c : Char) : Bool :=
  space.mem c.toNat

def asciiWord : Ranges :=
  [(0x30, 0x39), (0x41, 0x5A), (0x5F, 0x5F), (0x61, 0x7A)]

def word : Ranges :=
  asciiWord ++ Ranges.parse wordTable

/-- Whether a code point is a word character. -/
def isWord (n : Nat) : Bool :=
  if n < 0x80 then asciiWord.mem n else word.mem n

/-- The classes of characters that are the same but for case. -/
def foldingClasses : List (List Nat) :=
  (foldingTable.splitOn ", ").map fun line => (Ranges.parse line).map (·.1)

/-- The characters that are the same as a given one but for case, itself included. -/
def foldingClass (n : Nat) : List Nat :=
  (foldingClasses.find? (·.contains n)).getD [n]

/-- The other case of an ASCII letter, and the character itself. -/
def asciiFoldingClass (n : Nat) : List Nat :=
  if 0x41 ≤ n ∧ n ≤ 0x5A then [n, n + 0x20]
  else if 0x61 ≤ n ∧ n ≤ 0x7A then [n - 0x20, n]
  else [n]

/-! ## Names -/

/-- A name in the form in which names are compared. -/
def normalize (name : String) : String :=
  let cs := name.toList
  let isPrefixed := (cs.take 2).map Char.toLower == ['i', 's']
  let kept := ((if isPrefixed then cs.drop 2 else cs).filter fun c =>
    c.toNat < 0x80 && c != ' ' && c != '_' && c != '-').map Char.toLower
  if isPrefixed && kept == ['c'] then "isc" else String.ofList kept

/-- The names of the categories, with the short one first. -/
def categoryNames : List (List String) := [
  ["cc", "control", "cntrl"], ["cf", "format"], ["cn", "unassigned"], ["co", "privateuse"],
  ["ll", "lowercaseletter"], ["lm", "modifierletter"], ["lo", "otherletter"],
  ["lt", "titlecaseletter"], ["lu", "uppercaseletter"], ["mc", "spacingmark"],
  ["me", "enclosingmark"], ["mn", "nonspacingmark"], ["nd", "decimalnumber", "digit"],
  ["nl", "letternumber"], ["no", "othernumber"], ["pc", "connectorpunctuation"],
  ["pd", "dashpunctuation"], ["pe", "closepunctuation"], ["pf", "finalpunctuation"],
  ["pi", "initialpunctuation"], ["po", "otherpunctuation"], ["ps", "openpunctuation"],
  ["sc", "currencysymbol"], ["sk", "modifiersymbol"], ["sm", "mathsymbol"], ["so", "othersymbol"],
  ["zl", "lineseparator"], ["zp", "paragraphseparator"], ["zs", "spaceseparator"]]

/-- The names of the groups of categories, and the short names of their members. -/
def categoryGroups : List (List String × List String) := [
  (["c", "other"], ["cc", "cf", "cn", "co"]),
  (["l", "letter"], ["ll", "lm", "lo", "lt", "lu"]),
  (["lc", "casedletter"], ["ll", "lt", "lu"]),
  (["m", "mark", "combiningmark"], ["mc", "me", "mn"]),
  (["n", "number"], ["nd", "nl", "no"]),
  (["p", "punctuation", "punct"], ["pc", "pd", "pe", "pf", "pi", "po", "ps"]),
  (["s", "symbol"], ["sc", "sk", "sm", "so"]),
  (["z", "separator"], ["zl", "zp", "zs"])]

/-- The characters of a category, by its short name. -/
def categoryRanges (short : String) : Ranges :=
  ((categoryTable.find? (·.1 == short)).map fun (_, ranges) => Ranges.parse ranges).getD []

def lastCodePoint : Nat := 0x10FFFF

/-- The characters of a category or group of categories, by name. -/
def category? (name : String) : Option Ranges :=
  if name = "any" then some [(0, lastCodePoint)]
  else if name = "ascii" then some [(0, 0x7F)]
  else if name = "assigned" then
    some (((categoryNames.filterMap List.head?).filter (· != "cn")).flatMap categoryRanges)
  else
    match categoryNames.find? (·.contains name) with
    | some names => names.head?.map categoryRanges
    | none =>
      (categoryGroups.find? (·.1.contains name)).map fun (_, members) =>
        members.flatMap categoryRanges

def script? (name : String) : Option Ranges :=
  lookup? scriptTable name

/-- The characters in use with a script, by name. -/
def scriptExtension? (name : String) : Option Ranges :=
  match lookup? scriptExtensionTable name with
  | some ranges => some ranges
  | none => script? name

/-- The characters of the property of a name. -/
def byName? (name : String) : Option Ranges :=
  let name := normalize name
  match lookup? propertyTable name with
  | some ranges => some ranges
  | none =>
    match category? name with
    | some ranges => some ranges
    | none => script? name

/-- The characters with a value of a property. -/
def byValue? (property value : String) : Option Ranges :=
  let value := normalize value
  match normalize property with
  | "gc" | "generalcategory" => category? value
  | "sc" | "script" => script? value
  | "scx" | "scriptextensions" => scriptExtension? value
  | _ => none

end GraphLexer.Unicode
