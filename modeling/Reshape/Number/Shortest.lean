import Reshape.Number.Numeral

/-! The shortest decimal numeral that reads back as a given binary number, and its positional
text. -/
namespace Reshape

/-- The number `coefficient * 10 ^ power`. -/
structure Scientific where
  coefficient : Nat
  power : Int
deriving DecidableEq, Repr

namespace Scientific

def digits (x : Scientific) : List Char := Nat.toDigits 10 x.coefficient

/-- Where the decimal point stands, counted from the first digit. -/
def point (x : Scientific) : Int := x.digits.length + x.power

/-- Moves zeros at the end of the coefficient into the power, at most `fuel` of them. -/
def stripAux (coefficient : Nat) (power : Int) : Nat → Scientific
  | 0 => ⟨coefficient, power⟩
  | fuel + 1 =>
    if coefficient % 10 = 0 ∧ coefficient ≠ 0 then stripAux (coefficient / 10) (power + 1) fuel
    else ⟨coefficient, power⟩

def strip (x : Scientific) : Scientific :=
  stripAux x.coefficient x.power (digitCount x.coefficient)

/-- The numeral without exponent: a point only when there is a fraction, and a zero before
a point that would stand first. -/
def positional (x : Scientific) : List Char :=
  let digits := x.digits
  if 0 ≤ x.power then digits ++ List.replicate x.power.toNat '0'
  else if 0 < x.point then
    digits.take x.point.toNat ++ '.' :: digits.drop x.point.toNat
  else '0' :: '.' :: List.replicate x.point.natAbs '0' ++ digits

end Scientific

namespace Magnitude

/-- The number of digits before the point, negative for leading zeros after it. -/
def digitsBeforePoint (x : Magnitude) : Int :=
  digitCount (x.steps * powerOf 10 400 / one) - 400

/-- The two whole numbers around `x / 10 ^ power` as a quotient. -/
def scaled (x : Magnitude) (power : Int) : Nat × Nat :=
  if power < 0 then (x.steps * powerOf 10 power.natAbs, one)
  else (x.steps, one * powerOf 10 power.natAbs)

def readsBack (x : Magnitude) (coefficient : Nat) (power : Int) : Bool :=
  ofDecimal? coefficient power == some x

/-- A coefficient that reads back at the given power: of two neighbours the nearer one. -/
def coefficientAt? (tie : Tie) (x : Magnitude) (power : Int) : Option Nat :=
  let (num, den) := x.scaled power
  let floor := num / den
  match x.readsBack floor power, x.readsBack (floor + 1) power with
  | true, true => some (roundDiv tie num den)
  | true, false => some floor
  | false, true => some (floor + 1)
  | false, false => none

/-- Tries one power after the other, downward. -/
def shortestAux (tie : Tie) (x : Magnitude) (power : Int) : Nat → Scientific
  | 0 => ⟨(x.scaled power).1 / (x.scaled power).2, power⟩
  | fuel + 1 =>
    match x.coefficientAt? tie power with
    | some coefficient => ⟨coefficient, power⟩
    | none => shortestAux tie x (power - 1) fuel

/-- The numeral with the fewest digits that reads back; 17 digits always do. -/
def shortest (tie : Tie) (x : Magnitude) : Scientific :=
  (shortestAux tie x (x.digitsBeforePoint - 1) 17).strip

end Magnitude

end Reshape
