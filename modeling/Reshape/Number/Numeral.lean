import Reshape.Number.Binary64

/-! Decimal numerals: the number a text spells, and the binary number nearest to it. -/
namespace Reshape

/-- The value of a run of decimal digits. -/
def digitsValue (digits : List Char) : Nat := Nat.ofDigitChars 10 digits 0

/-- How many decimal digits a number has. -/
def digitCount (n : Nat) : Nat := (Nat.toDigits 10 n).length

/-- The magnitude nearest to `coefficient * 10 ^ power`; none past the largest one. -/
def Magnitude.ofDecimal? (coefficient : Nat) (power : Int) : Option Magnitude :=
  if power < 0 then
    ofRatio? (coefficient * one) (powerOf 10 power.natAbs)
  else
    ofRatio? (coefficient * powerOf 10 power.natAbs * one) 1

/-- The number nearest to `coefficient * 10 ^ power`. Powers far outside the range of the format
are decided by the count of digits alone. -/
def Binary64.ofDecimal (negative : Bool) (coefficient : Nat) (power : Int) : Binary64 :=
  let size := digitCount coefficient + power
  if coefficient = 0 ∨ size < -400 then .finite negative .zero
  else if 400 < size then .infinite negative
  else match Magnitude.ofDecimal? coefficient power with
    | some magnitude => .finite negative magnitude
    | none => .infinite negative

/-- Splits a sign off a text: whether it is a minus, and the rest. -/
def splitSign : List Char → Bool × List Char
  | '-' :: rest => (true, rest)
  | '+' :: rest => (false, rest)
  | rest => (false, rest)

/-- A nonempty text of decimal digits only. -/
def natural? (text : List Char) : Option Nat :=
  if !text.isEmpty && text.all Char.isDigit then some (digitsValue text) else none

namespace Numeral

/-- What follows the digits of a numeral: nothing, or an exponent. -/
def exponent? : List Char → Option Int
  | [] => some 0
  | c :: rest =>
    if c = 'e' ∨ c = 'E' then
      let (negative, digits) := splitSign rest
      (natural? digits).map fun n => if negative then -(n : Int) else n
    else none

/-- Digits with at most one point before, among or after them, then an optional exponent,
as a coefficient and a power of ten. -/
def unsigned? (text : List Char) : Option (Nat × Int) :=
  let whole := text.takeWhile Char.isDigit
  let (fraction, rest) := match text.dropWhile Char.isDigit with
    | '.' :: rest => (rest.takeWhile Char.isDigit, rest.dropWhile Char.isDigit)
    | rest => ([], rest)
  if whole.isEmpty && fraction.isEmpty then none
  else (exponent? rest).map fun power =>
    (digitsValue (whole ++ fraction), power - fraction.length)

end Numeral

/-- The named numbers, in lower case. -/
def Binary64.ofName? (negative : Bool) (name : List Char) : Option Binary64 :=
  if name = "inf".toList ∨ name = "infinity".toList then some (.infinite negative)
  else if name = "nan".toList then some .nan
  else none

/-- Reads a signed decimal numeral, or the name of an infinity or of NaN in any case. -/
def Binary64.parse? (text : List Char) : Option Binary64 :=
  let (negative, rest) := splitSign text
  match Numeral.unsigned? rest with
  | some (coefficient, power) => some (ofDecimal negative coefficient power)
  | none => ofName? negative (rest.map Char.toLower)

/-- Reads a decimal integer with an optional sign that lies between two bounds. -/
def integer? (lo hi : Int) (text : List Char) : Option Int :=
  let (negative, digits) := splitSign text
  match natural? digits with
  | some n =>
    let value := if negative then -(n : Int) else n
    if lo ≤ value ∧ value ≤ hi then some value else none
  | none => none

/-- Reads a signed integer of 64 bits. -/
def int64? (text : List Char) : Option Int64 :=
  (integer? Int64.minValue.toInt Int64.maxValue.toInt text).map Int64.ofInt

/-- Reads an unsigned integer of 64 bits, which may have a plus but no minus. -/
def index? (text : List Char) : Option Nat :=
  let digits := match text with
    | '+' :: rest => rest
    | rest => rest
  match natural? digits with
  | some n => if n < 0x10000000000000000 then some n else none
  | none => none

end Reshape
