import Reshape.Json.Printer

/-! The text of a value, as it stands in interpolated text, in output keys and in text filters. -/
namespace Reshape

/-- A whole number below `10 ^ 15` is written as an integer, another finite number by its shortest
numeral without exponent. -/
def Binary64.text : Binary64 → List Char
  | .nan => "NaN".toList
  | .infinite true => "-Infinity".toList
  | .infinite false => "Infinity".toList
  | .finite negative m =>
    if m.isWhole ∧ m.steps < 1000000000000000 * Magnitude.one then
      intText (if negative then -m.floor else m.floor)
    else (if negative then ['-'] else []) ++ (m.shortest .up).positional

namespace Value

mutual

/-- Elements of an array are joined by commas, an object stands as JSON. -/
def text : Value → String
  | .null => "null"
  | .bool true => "true"
  | .bool false => "false"
  | .int n => String.ofList (intText n.toInt)
  | .float x => String.ofList x.text
  | .string s => s
  | .array items => String.intercalate "," (texts items)
  | .object fields => toJson (.object fields)

def texts : List Value → List String
  | [] => []
  | v :: rest => v.text :: texts rest

end

end Value

end Reshape
