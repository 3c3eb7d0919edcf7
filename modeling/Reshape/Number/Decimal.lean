import Reshape.Number.Binary64

/-! Decimal numbers of 96 bits with up to 28 places, in which sums, products and quotients of short
numbers are exact. -/
namespace Reshape

/-- The number `coefficient / 10 ^ scale` with its sign. -/
structure Decimal where
  negative : Bool
  coefficient : Nat
  scale : Nat
  coefficient_lt : coefficient < 0x1000000000000000000000000
  scale_le : scale ≤ 28
deriving DecidableEq

namespace Decimal

def zero : Decimal := ⟨false, 0, 0, by decide, by decide⟩

def make? (negative : Bool) (coefficient scale : Nat) : Option Decimal :=
  if h : coefficient < 0x1000000000000000000000000 ∧ scale ≤ 28 then
    some ⟨negative, coefficient, scale, h.1, h.2⟩
  else none

/-- The quotient `num / (den * 10 ^ places)` at the largest scale up to the given one at which it
fits, a tie going to the even digit. -/
def fit? (negative : Bool) (num den : Nat) : Nat → Option Decimal
  | 0 => make? negative (roundDiv .toEven num den) 0
  | scale + 1 =>
    match make? negative (roundDiv .toEven (num * powerOf 10 (scale + 1)) den) (scale + 1) with
    | some d => some d
    | none => fit? negative num den scale

/-- The number without zeros at the end of its fraction. -/
def strip (d : Decimal) : Decimal :=
  go d.coefficient d.scale d.coefficient_lt d.scale_le
where
  go (coefficient scale : Nat) (hc : coefficient < 0x1000000000000000000000000) (hs : scale ≤ 28) :
      Decimal :=
    match scale with
    | 0 => ⟨d.negative, coefficient, 0, hc, hs⟩
    | scale + 1 =>
      if coefficient % 10 = 0 then
        go (coefficient / 10) scale (Nat.lt_of_le_of_lt (Nat.div_le_self _ _) hc)
          (Nat.le_of_succ_le hs)
      else ⟨d.negative, coefficient, scale + 1, hc, hs⟩

/-- The coefficient with its sign, counted at a larger scale. -/
def signedAt (d : Decimal) (scale : Nat) : Int :=
  let n : Int := d.coefficient * powerOf 10 (scale - d.scale)
  if d.negative then -n else n

def neg (d : Decimal) : Decimal := { d with negative := !d.negative }

/-- A sum at the larger scale of the two, or rounded when it does not fit there. -/
def add? (a b : Decimal) : Option Decimal :=
  if a.coefficient = 0 then some b
  else if b.coefficient = 0 then some a
  else
    let scale := max a.scale b.scale
    let sum := a.signedAt scale + b.signedAt scale
    fit? (sum < 0) sum.natAbs (powerOf 10 scale) scale

def sub? (a b : Decimal) : Option Decimal := a.add? b.neg

/-- A product at the sum of the scales, or rounded when it does not fit there. -/
def mul? (a b : Decimal) : Option Decimal :=
  if a.coefficient = 0 ∨ b.coefficient = 0 then some zero
  else
    let scale := a.scale + b.scale
    fit? (a.negative != b.negative) (a.coefficient * b.coefficient) (powerOf 10 scale)
      (min scale 28)

/-- A quotient of coefficients without remainder keeps the difference of the scales; any other one
has as many digits as fit, without zeros at the end. -/
def div? (a b : Decimal) : Option Decimal :=
  let negative := a.negative != b.negative
  if b.coefficient = 0 then none
  else if a.coefficient = 0 then some zero
  else if a.coefficient % b.coefficient = 0 then
    make? negative (a.coefficient / b.coefficient * powerOf 10 (b.scale - a.scale))
      (a.scale - b.scale)
  else
    let quotient :=
      fit? negative (a.coefficient * powerOf 10 b.scale) (b.coefficient * powerOf 10 a.scale) 28
    quotient.map strip

/-- The number with at most the given places, a tie going to the even digit. -/
def roundTo? (d : Decimal) (places : Nat) : Option Decimal :=
  if d.scale ≤ places then some d
  else make? d.negative (roundDiv .toEven d.coefficient (powerOf 10 (d.scale - places))) places

/-- The binary number for a decimal one. A whole number is rounded at once, and a zero among them
has no sign. Otherwise the whole part and the fraction are rounded on their own, then their sum is
brought back to the decimal places. -/
def toBinary (d : Decimal) : Binary64 :=
  if d.scale = 0 then .ofInt (d.signedAt 0)
  else
    let power := powerOf 10 d.scale
    let whole := Binary64.ofInt (d.coefficient / power : Nat)
    let fraction := (Binary64.ofInt (d.coefficient % power : Nat)).div (.ofInt (power : Nat))
    let size :=
      if fraction.isNonzero then
        let unit := Binary64.pow (.ofInt 10) d.scale
        ((whole.add fraction).mul unit).round.div unit
      else whole
    if d.negative then size.neg else size

/-- Takes factors of a half into the coefficient, as `5 / 10` while that fits and as a lost bit
otherwise. -/
def absorbHalves (coefficient : Nat) (power : Int) : Nat → Nat × Int
  | 0 => (coefficient, power)
  | n + 1 =>
    if coefficient % 2 = 1 ∧ 5 * coefficient < 0x1000000000000000000000000 then
      absorbHalves (5 * coefficient) power n
    else absorbHalves (coefficient / 2) (power + 1) n

/-- Takes factors of two into the coefficient, as such while they fit and as `10 / 5` otherwise, the
remainder of the division being lost. -/
def absorbTwos (coefficient : Nat) (power : Int) : Nat → Nat × Int
  | 0 => (coefficient, power)
  | n + 1 =>
    if coefficient < 0x800000000000000000000000 then absorbTwos (2 * coefficient) (power - 1) n
    else absorbTwos (coefficient / 5) power n

/-- Drops a digit, rounding a half up. -/
def dropDigit (coefficient : Nat) : Nat :=
  coefficient / 10 + (if 5 ≤ coefficient % 10 then 1 else 0)

/-- Drops digits that stand behind the 28th place. -/
def dropPlaces (coefficient : Nat) (power : Int) : Nat → Nat × Int
  | 0 => (coefficient, power)
  | n + 1 =>
    if coefficient / 10 = 0 then (0, 0) else dropPlaces (dropDigit coefficient) (power + 1) n

/-- Drops digits of a fraction until the coefficient has 52 bits. -/
def dropBits (coefficient : Nat) (power : Int) : Nat → Nat × Int
  | 0 => (coefficient, power)
  | n + 1 =>
    if 0x10000000000000 ≤ coefficient then dropBits (dropDigit coefficient) (power + 1) n
    else (coefficient, power)

/-- The decimal `coefficient * 10 ^ power`, cut down to 52 bits where it has a fraction. -/
def ofParts? (negative : Bool) (coefficient : Nat) (power : Int) : Option Decimal :=
  let (coefficient, power) := dropPlaces coefficient power (-28 - power).toNat
  let (coefficient, power) := dropBits coefficient power (-power).toNat
  if 0 ≤ power then make? negative (coefficient * powerOf 10 power.toNat) 0
  else (make? negative coefficient power.natAbs).map strip

end Decimal

/-- The decimal for a binary number, to about 15 digits of a fraction; none for numbers that are too
large or not finite. -/
def Binary64.toDecimal? : Binary64 → Option Decimal
  | .finite negative m =>
    if m.mantissa = 0 then some { Decimal.zero with negative := negative }
    else
      let power := (m.exponent : Int) - 1074
      let (coefficient, power) :=
        if power ≤ 0 then Decimal.absorbHalves m.mantissa power power.natAbs
        else Decimal.absorbTwos m.mantissa power power.natAbs
      Decimal.ofParts? negative coefficient power
  | _ => none

end Reshape
