import Reshape.Number.Power
import Reshape.Number.Rounding

/-! Binary numbers of 64 bits as exact values: one rounding, and arithmetic and order built on
it. -/
namespace Reshape

/-- The normal form of a finite number without its sign.
It stands for `mantissa * 2 ^ exponent` steps of `2 ^ (-1074)`. -/
structure Magnitude where
  mantissa : Nat
  exponent : Nat
  mantissa_lt : mantissa < 0x20000000000000
  exponent_le : exponent ≤ 2045
  normal : exponent = 0 ∨ 0x10000000000000 ≤ mantissa
deriving DecidableEq

namespace Magnitude

/-- The size in steps of `2 ^ (-1074)`, the least positive number. -/
def steps (x : Magnitude) : Nat := x.mantissa * powerOf 2 x.exponent

/-- How many steps make one. -/
def one : Nat := powerOf 2 1074

def zero : Magnitude := ⟨0, 0, by decide, by decide, .inl rfl⟩

/-- The magnitude nearest to `num / den` steps, a tie going to the even mantissa;
none when that is past the largest one. -/
def ofRatio? (num den : Nat) : Option Magnitude :=
  let exponent := (num / den).log2 - 52
  let mantissa := roundDiv .toEven num (den * powerOf 2 exponent)
  if h : mantissa < 0x20000000000000 ∧ exponent ≤ 2045 ∧
      (exponent = 0 ∨ 0x10000000000000 ≤ mantissa) then
    some ⟨mantissa, exponent, h.1, h.2.1, h.2.2⟩
  else if h : exponent + 1 ≤ 2045 then
    some ⟨0x10000000000000, exponent + 1, by decide, h, .inr (Nat.le_refl _)⟩
  else none

/-- The largest whole number not above the magnitude. -/
def floor (x : Magnitude) : Nat := x.steps / one

def isWhole (x : Magnitude) : Bool := x.steps % one == 0

end Magnitude

/-- A number of the binary64 format; every NaN is the same one. -/
inductive Binary64 where
  | nan
  | infinite (negative : Bool)
  | finite (negative : Bool) (magnitude : Magnitude)
deriving DecidableEq

namespace Binary64

instance : Inhabited Binary64 := ⟨.nan⟩

/-- The number nearest to `num / den` steps; infinite past the largest one. -/
def ofRatio (negative : Bool) (num den : Nat) : Binary64 :=
  match Magnitude.ofRatio? num den with
  | some magnitude => .finite negative magnitude
  | none => .infinite negative

/-- The number nearest to an integer. -/
def ofInt (n : Int) : Binary64 := ofRatio (n < 0) (n.natAbs * Magnitude.one) 1

def zero : Binary64 := .finite false .zero

def isNaN : Binary64 → Bool
  | .nan => true
  | _ => false

def isFinite : Binary64 → Bool
  | .finite _ _ => true
  | _ => false

/-- Neither zero of either sign nor NaN. -/
def isNonzero : Binary64 → Bool
  | .nan => false
  | .infinite _ => true
  | .finite _ m => m.mantissa != 0

def isWhole : Binary64 → Bool
  | .finite _ m => m.isWhole
  | _ => false

/-- Whether the number is finite and strictly between `-bound` and `bound`. -/
def absBelow (x : Binary64) (bound : Nat) : Bool :=
  match x with
  | .finite _ m => m.steps < bound * Magnitude.one
  | _ => false

/-- The place of a number in the order of all numbers: the sign of its infinity, then its
steps with their sign. -/
def key? : Binary64 → Option (Int × Int)
  | .nan => none
  | .infinite true => some (-1, 0)
  | .infinite false => some (1, 0)
  | .finite true m => some (0, -m.steps)
  | .finite false m => some (0, m.steps)

/-- Numeric order, in which the two zeros are equal and NaN stands nowhere. -/
def compare? (x y : Binary64) : Option Ordering :=
  match x.key?, y.key? with
  | some a, some b => some ((Ord.compare a.1 b.1).then (Ord.compare a.2 b.2))
  | _, _ => none

/-- Numeric equality; NaN equals nothing. -/
def numEq (x y : Binary64) : Bool := x.compare? y == some .eq

def neg : Binary64 → Binary64
  | .nan => .nan
  | .infinite s => .infinite !s
  | .finite s m => .finite (!s) m

/-- Finite numbers as a signed number of steps. -/
def signedSteps (negative : Bool) (m : Magnitude) : Int :=
  if negative then -(m.steps : Int) else m.steps

def add : Binary64 → Binary64 → Binary64
  | .nan, _ => .nan
  | _, .nan => .nan
  | .infinite s, .infinite t => if s = t then .infinite s else .nan
  | .infinite s, .finite _ _ => .infinite s
  | .finite _ _, .infinite t => .infinite t
  | .finite s a, .finite t b =>
    let sum := signedSteps s a + signedSteps t b
    if sum = 0 then .finite (s && t) .zero else ofRatio (sum < 0) sum.natAbs 1

def sub (x y : Binary64) : Binary64 := x.add y.neg

def mul : Binary64 → Binary64 → Binary64
  | .nan, _ => .nan
  | _, .nan => .nan
  | .infinite s, .infinite t => .infinite (s != t)
  | .infinite s, .finite t m => if m.mantissa = 0 then .nan else .infinite (s != t)
  | .finite s m, .infinite t => if m.mantissa = 0 then .nan else .infinite (s != t)
  | .finite s a, .finite t b => ofRatio (s != t) (a.steps * b.steps) Magnitude.one

def div : Binary64 → Binary64 → Binary64
  | .nan, _ => .nan
  | _, .nan => .nan
  | .infinite _, .infinite _ => .nan
  | .infinite s, .finite t _ => .infinite (s != t)
  | .finite s _, .infinite t => .finite (s != t) .zero
  | .finite s a, .finite t b =>
    if b.mantissa = 0 then
      if a.mantissa = 0 then .nan else .infinite (s != t)
    else ofRatio (s != t) (a.steps * Magnitude.one) b.steps

/-- The integer part, toward zero, of a finite number. -/
def toInt? : Binary64 → Option Int
  | .finite true m => some (-m.floor)
  | .finite false m => some m.floor
  | _ => none

/-- The number with its fraction cut off, toward zero. -/
def trunc : Binary64 → Binary64
  | .finite s m => ofRatio s (m.floor * Magnitude.one) 1
  | x => x

/-- The nearest whole number, a half going away from zero. -/
def round : Binary64 → Binary64
  | .finite s m => ofRatio s (roundDiv .up m.steps Magnitude.one * Magnitude.one) 1
  | x => x

/-- Powers by repeated squaring, each product rounded. -/
def powAux (base acc : Binary64) : Nat → Nat → Binary64
  | 0, _ => acc
  | fuel + 1, n =>
    let acc := if n % 2 = 1 then acc.mul base else acc
    if n / 2 = 0 then acc else powAux (base.mul base) acc fuel (n / 2)

def pow (base : Binary64) (n : Nat) : Binary64 := powAux base (ofInt 1) (n + 1) n

end Binary64

end Reshape
