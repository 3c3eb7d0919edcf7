import Reshape.Number.Decimal
import Reshape.Value.Coercion

/-! Arithmetic of filters: decimal where both numbers have a decimal form, binary otherwise. -/
namespace Reshape

inductive Operation where
  | add
  | subtract
  | multiply
  | divide
deriving DecidableEq, Repr

namespace Operation

def decimal? : Operation → Decimal → Decimal → Option Decimal
  | .add => Decimal.add?
  | .subtract => Decimal.sub?
  | .multiply => Decimal.mul?
  | .divide => Decimal.div?

def binary : Operation → Binary64 → Binary64 → Binary64
  | .add => Binary64.add
  | .subtract => Binary64.sub
  | .multiply => Binary64.mul
  | .divide => Binary64.div

/-- The decimal result, if the numbers and their result have a decimal form. -/
def viaDecimal? (op : Operation) (a b : Binary64) : Option Decimal := do
  op.decimal? (← a.toDecimal?) (← b.toDecimal?)

/-- One step of arithmetic. -/
def combine (op : Operation) (a b : Binary64) : Binary64 :=
  match op.viaDecimal? a b with
  | some d => d.toBinary
  | none => op.binary a b

/-- An absent operand counts as zero. -/
def operand (v : Option Value) : Binary64 :=
  match v with
  | some v => v.number
  | none => .zero

/-- The piped value combined with one operand after the other. -/
def fold (op : Operation) (piped : Option Value) (args : List (Option Value)) : Value :=
  .ofNumber (args.foldl (fun acc arg => op.combine acc (operand arg)) (operand piped))

end Operation

/-- The number rounded to the given decimal places, as a float. -/
def roundPlaces (x : Binary64) (places : Nat) : Binary64 :=
  match x.toDecimal?.bind fun d => d.roundTo? places with
  | some d => d.toBinary
  | none => x

end Reshape
