import Reshape.Number.Shortest
import Reshape.Value.Basic

/-! JSON text of values, on one line or indented. -/
namespace Reshape

/-- Where the parts of a JSON text are set apart: the break before an entry or a closing bracket
at a given depth, and the text between a key and its value. -/
structure Layout where
  lineBreak : Nat → List Char
  colon : List Char

namespace Layout

def compact : Layout := ⟨fun _ => [], [':']⟩

/-- Every entry stands on a line of its own, two more spaces deep than its container. -/
def pretty : Layout := ⟨fun depth => '\n' :: List.replicate (2 * depth) ' ', [':', ' ']⟩

end Layout

/-- Positional when the first digit counts for `10 ^ (-5)` to `10 ^ 15`, then always with a point;
otherwise one digit before the point and an exponent with its sign. -/
def Scientific.jsonText (x : Scientific) : List Char :=
  let exponent := x.point - 1
  if -5 ≤ exponent ∧ exponent ≤ 15 then
    if 0 ≤ x.power then x.positional ++ ".0".toList else x.positional
  else
    let fraction := x.digits.drop 1
    x.digits.take 1 ++ (if fraction.isEmpty then [] else '.' :: fraction) ++
      'e' :: (if exponent < 0 then '-' else '+') :: Nat.toDigits 10 exponent.natAbs

/-- A finite number is written with the fewest digits that read back; JSON has no other floats. -/
def Binary64.jsonText : Binary64 → List Char
  | .finite negative m =>
    (if negative then ['-'] else []) ++
      if m.mantissa = 0 then "0.0".toList else (m.shortest .toEven).jsonText
  | _ => "null".toList

def intText (n : Int) : List Char :=
  (if n < 0 then ['-'] else []) ++ Nat.toDigits 10 n.natAbs

namespace Json

/-- Two hexadecimal digits in lower case. -/
def hexPair (n : Nat) : List Char := [Nat.digitChar (n / 16 % 16), Nat.digitChar (n % 16)]

/-- A character as it stands inside a JSON string. -/
def escape (c : Char) : List Char :=
  if c = '"' then ['\\', '"']
  else if c = '\\' then ['\\', '\\']
  else if c.toNat = 8 then ['\\', 'b']
  else if c.toNat = 12 then ['\\', 'f']
  else if c = '\n' then ['\\', 'n']
  else if c = '\r' then ['\\', 'r']
  else if c = '\t' then ['\\', 't']
  else if c.toNat < 32 then '\\' :: 'u' :: '0' :: '0' :: hexPair c.toNat
  else [c]

def quote (text : List Char) : List Char := '"' :: text.flatMap escape ++ ['"']

/-- The text between two brackets: nothing when there are no entries. -/
def enclose (layout : Layout) (depth : Nat) (opening closing : Char)
    (entries : List (List Char)) : List Char :=
  if entries.isEmpty then [opening, closing]
  else opening :: layout.lineBreak (depth + 1) ++
    (',' :: layout.lineBreak (depth + 1)).intercalate entries ++
    layout.lineBreak depth ++ [closing]

mutual

def print (layout : Layout) (depth : Nat) : Value → List Char
  | .null => "null".toList
  | .bool true => "true".toList
  | .bool false => "false".toList
  | .int n => intText n.toInt
  | .float x => x.jsonText
  | .string s => quote s.toList
  | .array items => enclose layout depth '[' ']' (printItems layout (depth + 1) items)
  | .object fields => enclose layout depth '{' '}' (printFields layout (depth + 1) fields)

def printItems (layout : Layout) (depth : Nat) : List Value → List (List Char)
  | [] => []
  | v :: rest => print layout depth v :: printItems layout depth rest

def printFields (layout : Layout) (depth : Nat) : List (String × Value) → List (List Char)
  | [] => []
  | (key, v) :: rest =>
    (quote key.toList ++ layout.colon ++ print layout depth v) :: printFields layout depth rest

end

end Json

namespace Value

def toJson (v : Value) : String := String.ofList (Json.print .compact 0 v)

def toPrettyJson (v : Value) : String := String.ofList (Json.print .pretty 0 v)

end Value

end Reshape
