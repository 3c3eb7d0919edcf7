import Reshape.Filter.Arithmetic
import Reshape.Pattern.Regex
import Reshape.Text.Case
import Reshape.Text.Split
import Reshape.Value.Order
import Reshape.Json.Parser

/-! Filters on texts and conversions between texts and other values. -/
namespace Reshape

open Value

/-- The texts of the values that are present and not null, one after the other. -/
def concatTexts (piped : Option Value) (args : List (Option Value)) : Value :=
  let present := (piped :: args).filterMap id
  .string (String.join (texts (present.filter fun v => !v.isNull)))

/-- The texts of the elements of an array with a separator between them. -/
def joinItems (sep : String) : Value → Value
  | .array items => .string (String.intercalate sep (texts items))
  | v => v

/-- The pieces of a text between separators; an empty separator leaves single characters. -/
def splitText (sep : String) : Value → Value
  | .string s =>
    let pieces := if sep.isEmpty then s.toList.map fun c => [c] else splitOn sep.toList s.toList
    .array (pieces.map ofText)
  | v => v

/-- Changes a text and leaves other values alone. -/
def mapText (f : List Char → List Char) : Value → Value
  | .string s => .ofText (f s.toList)
  | v => v

/-- The text of a value that is neither a collection nor null. -/
def scalarText? (v : Value) : Option String :=
  if v.isNull || v.isCollection then none else some v.text

/-- A regular expression with the letters `i`, `m` and `s` as its flags. -/
def regex? (pattern flags : String) : Option Regex :=
  Regex.parse?
    { Pattern.Flags.default with
      ignoreCase := flags.toList.contains 'i'
      multiLine := flags.toList.contains 'm'
      dotAll := flags.toList.contains 's' }
    pattern.toList

/-- Replaces the first match, or with the letter `g` every match. A pattern that is none leaves the
value as it is, and one that matches nowhere gives the fallback if there is one. -/
def replaceText (piped : Option Value) (pattern replacement : String) (fallback : Option Value)
    (flags : String) : Option Value := do
  let text ← piped.bind scalarText?
  match regex? pattern flags with
  | none => piped
  | some regex =>
    match regex.findAll text.toList with
    | [] => fallback.or piped
    | first :: rest =>
      let found := if flags.toList.contains 'g' then first :: rest else [first]
      some (.ofText (regex.replace replacement.toList text.toList found))

/-- The first match with its groups, or with the letter `g` the text of every match. -/
def searchText (piped : Option Value) (pattern flags : String) : Option Value := do
  let text ← piped.bind scalarText?
  let regex ← regex? pattern flags
  let chars := text.toList
  match regex.findAll chars with
  | [] => none
  | first :: rest =>
    if flags.toList.contains 'g' then
      some (.array ((first :: rest).map fun m => .ofText (Regex.between chars m.start m.stop)))
    else
      let group (index : Nat) : Value :=
        match Regex.groupText? chars first index with
        | some text => .ofText text
        | none => .null
      some (.array ((List.range (regex.groups.count + 1)).map group))

/-- A text read as JSON; other values are taken as they are. -/
def fromJson : Value → Option Value
  | .string s => Json.parse? s.toList
  | v => some v

/-- The sign and the digits at the start of a text. -/
def leadingInteger (text : List Char) : List Char :=
  match text with
  | c :: rest =>
    if c = '-' ∨ c = '+' then c :: rest.takeWhile Char.isDigit else text.takeWhile Char.isDigit
  | [] => []

/-- The integer part of a number, or the integer at the start of a text. -/
def toInteger : Option Value → Value
  | some (.int n) => .int n
  | some (.float x) => if x.isFinite then .ofNumber x.trunc else .float .nan
  | some (.string s) => leading s
  | some (.bool b) => leading (Value.bool b).text
  | _ => .float .nan
where
  leading (s : String) : Value :=
    match int64? (leadingInteger (trimStart s.toList)) with
    | some n => .int n
    | none => .float .nan

/-- The number of decimal places an argument asks for; two unless it is a number from zero on. -/
def decimalPlaces (precision : Option Value) : Nat :=
  match precision.map number with
  | some (.finite negative m) =>
    if negative ∧ m.mantissa ≠ 0 then 2 else min m.floor 0xFFFFFFFF
  | _ => 2

def toRounded (v precision : Option Value) : Value :=
  let x := match v with
    | some v => v.number
    | none => .nan
  .float (roundPlaces x (decimalPlaces precision))

end Reshape
