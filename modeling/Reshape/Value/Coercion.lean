import Reshape.Number.Numeral
import Reshape.Text.Blank
import Reshape.Value.Basic

/-! Values taken as numbers and as truth values. -/
namespace Reshape

/-- The number a text spells between white space; an empty text counts as zero. -/
def parseNumber? (s : String) : Option Binary64 :=
  let trimmed := trim s.toList
  if trimmed.isEmpty then some .zero else Binary64.parse? trimmed

/-- The words that count as false in any case. -/
def falseWords : List (List Char) := ["false".toList, "no".toList, "f".toList, "n".toList]

/-- A text that spells a number is true when the number is neither zero nor NaN; the words for
false are false; any other text is true when it is not empty. -/
def textIsTruthy (s : String) : Bool :=
  let trimmed := trim s.toList
  match Binary64.parse? trimmed with
  | some x => x.isNonzero
  | none => !falseWords.contains (trimmed.map Char.toLower) && !s.isEmpty

namespace Value

def isTruthy : Value → Bool
  | .null => false
  | .bool b => b
  | .float x => x.isNonzero
  | .int n => n != 0
  | .string s => textIsTruthy s
  | .array items => !items.isEmpty
  | .object fields => !fields.isEmpty

/-- Null and empty text are zero, an array of one element is that element, and whatever spells no
number is NaN. -/
def number : Value → Binary64
  | .null => .zero
  | .bool b => .ofInt (if b then 1 else 0)
  | .int n => .ofInt n.toInt
  | .float x => x
  | .string s => (parseNumber? s).getD .nan
  | .array [] => .zero
  | .array [v] => v.number
  | .array _ => .nan
  | .object _ => .nan

/-- A whole number below `2 ^ 53` in size becomes an integer. -/
def ofNumber (x : Binary64) : Value :=
  match x.toInt? with
  | some n => if x.isWhole && x.absBelow 0x20000000000000 then .int (Int64.ofInt n) else .float x
  | none => .float x

end Value

/-- The truth of a value that may be absent. -/
def truthy (v : Option Value) : Bool := v.any Value.isTruthy

end Reshape
