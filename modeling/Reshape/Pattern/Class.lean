import Reshape.Text.Blank
import Reshape.Unicode.CharSet
import Reshape.Unicode.Category
import Reshape.Unicode.Property
import Reshape.Unicode.Script

/-! The named character classes of regular expressions. -/
namespace Reshape.CharSet

/-- A general category under its short name, or several of them under a wider one. -/
def category? (name : String) : Option CharSet :=
  let find (name : String) := (Unicode.categoryRanges.lookup name).map parse
  match Unicode.categoryParts.lookup name with
  | some parts => some (ofRanges ((parts.filterMap find).flatMap ranges))
  | none => find name

/-- A name without the differences that do not count: case, separators and a leading `is`. -/
def looseName (name : List Char) : String :=
  let plain := name.filter fun c => !(isBlank c || c == '_' || c == '-')
  let lower := plain.map Char.toLower
  let short := match lower with
    | 'i' :: 's' :: rest => if rest = ['c'] then lower else rest
    | _ => lower
  String.ofList (short.filter fun c => c.toNat < 128)

/-- A general category, or one of the sets that go by the same way. -/
def looseCategory? (name : String) : Option CharSet :=
  if name = "any" then some full
  else if name = "ascii" then some ⟨[(0, 127)]⟩
  else if name = "assigned" then (category? "Cn").map complement
  else
    let short := (Unicode.categoryRanges.map Prod.fst ++ Unicode.categoryParts.map Prod.fst).find?
      fun short => short.toList.map Char.toLower == name.toList
    match short, Unicode.categoryAliases.lookup name with
    | some short, _ => category? short
    | none, some short => category? short
    | none, none => none

def script? (name : String) : Option CharSet :=
  (Unicode.scriptRanges.find? fun entry => entry.1.contains name).map fun entry => parse entry.2

/-- A script with the characters that it shares with others. -/
def scriptWithShared? (name : String) : Option CharSet :=
  match Unicode.scriptRanges.find? fun entry => entry.1.contains name with
  | none => none
  | some (names, ranges) =>
    some (parse ((Unicode.scriptExtensionRanges.lookup (names.headD "")).getD ranges))

def white : CharSet := ⟨blankRanges⟩

/-- A property that a character has or has not. -/
def property? (name : String) : Option CharSet :=
  if ["whitespace", "wspace", "space"].contains name then some white
  else
    (Unicode.propertyRanges.find? fun entry => entry.1.contains name).map fun entry => parse entry.2

/-- The set that a single name stands for. Some short names are taken for categories only. -/
def named? (name : List Char) : Option CharSet :=
  let name := looseName name
  let property := if ["cf", "sc", "lc"].contains name then none else property? name
  property.orElse fun _ => (looseCategory? name).orElse fun _ => script? name

/-- The set of the characters whose property has a given value. -/
def valued? (property value : List Char) : Option CharSet :=
  let value := looseName value
  match looseName property with
  | "gc" => looseCategory? value
  | "generalcategory" => looseCategory? value
  | "sc" => script? value
  | "script" => script? value
  | "scx" => scriptWithShared? value
  | "scriptextensions" => scriptWithShared? value
  | _ => none

def asciiDigits : CharSet := ⟨[(48, 57)]⟩

def digits : CharSet := (category? "Nd").getD asciiDigits

def asciiWord : CharSet := ⟨[(48, 57), (65, 90), (95, 95), (97, 122)]⟩

/-- Letters, marks, decimal digits, connecting punctuation and joiners. -/
def word : CharSet :=
  let sets := ["M", "Nd", "Pc"].filterMap category? ++
    [parse Unicode.alphabeticRanges, parse Unicode.joinControlRanges]
  ofRanges (sets.flatMap ranges)

def asciiWhite : CharSet := ⟨[(9, 13), (32, 32)]⟩

def ascii? (name : String) : Option CharSet :=
  match name with
  | "alnum" => some ⟨[(48, 57), (65, 90), (97, 122)]⟩
  | "alpha" => some ⟨[(65, 90), (97, 122)]⟩
  | "ascii" => some ⟨[(0, 127)]⟩
  | "blank" => some ⟨[(9, 9), (32, 32)]⟩
  | "cntrl" => some ⟨[(0, 31), (127, 127)]⟩
  | "digit" => some asciiDigits
  | "graph" => some ⟨[(33, 126)]⟩
  | "lower" => some ⟨[(97, 122)]⟩
  | "print" => some ⟨[(32, 126)]⟩
  | "punct" => some ⟨[(33, 47), (58, 64), (91, 96), (123, 126)]⟩
  | "space" => some asciiWhite
  | "upper" => some ⟨[(65, 90)]⟩
  | "word" => some asciiWord
  | "xdigit" => some ⟨[(48, 57), (65, 70), (97, 102)]⟩
  | _ => none

end Reshape.CharSet
