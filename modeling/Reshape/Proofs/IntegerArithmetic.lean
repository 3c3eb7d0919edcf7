import Reshape.Proofs.DecimalForms
import Reshape.Proofs.Selecting

/-! Arithmetic on integers below `2 ^ 53` in size. Each of them has a decimal form without places,
on which the operations are exact. -/
namespace Reshape

open Value

variable {env : Environment} {scope root : Value}

namespace Decimal

/-- The decimal is an integer that is written without places; zero may have a sign. -/
structure IsInteger (d : Decimal) (n : Int) : Prop where
  scale_eq : d.scale = 0
  signed_eq : signed d.negative d.coefficient = n

variable {x y : Decimal} {a b c : Int}

theorem IsInteger.natAbs (h : x.IsInteger a) : a.natAbs = x.coefficient := by
  rw [← h.signed_eq, natAbs_signed]

theorem IsInteger.eq_zero_iff (h : x.IsInteger a) : x.coefficient = 0 ↔ a = 0 := by
  rw [← h.natAbs, Int.natAbs_eq_zero]

theorem IsInteger.signedAt_zero (h : x.IsInteger a) : x.signedAt 0 = a := by
  rw [← h.signed_eq]
  simp [signedAt, signed]

/-- A size that fits is written as it is. -/
theorem exists_make?_isInteger (negative : Bool) {size : Nat}
    (h : size < 0x1000000000000000000000000) :
    ∃ d, make? negative size 0 = some d ∧ d.IsInteger (signed negative size) :=
  ⟨⟨negative, size, 0, h, Nat.zero_le 28⟩, dif_pos ⟨h, Nat.zero_le 28⟩, rfl, rfl⟩

theorem fit?_whole (negative : Bool) (n : Nat) : fit? negative n 1 0 = make? negative n 0 := by
  have hround : roundDiv .toEven n 1 = n := by simpa using roundDiv_exact .toEven n Nat.one_pos
  rw [fit?, hround]

theorem IsInteger.neg (h : x.IsInteger a) : x.neg.IsInteger (-a) where
  scale_eq := h.scale_eq
  signed_eq := by rw [← h.signed_eq, ← signed_not, Decimal.neg]

theorem IsInteger.add? (hx : x.IsInteger a) (hy : y.IsInteger b)
    (hfits : (a + b).natAbs < 0x1000000000000000000000000) :
    ∃ d, x.add? y = some d ∧ d.IsInteger (a + b) := by
  rw [Decimal.add?]
  by_cases ha : x.coefficient = 0
  · rw [if_pos ha, hx.eq_zero_iff.mp ha, Int.zero_add]
    exact ⟨y, rfl, hy⟩
  by_cases hb : y.coefficient = 0
  · rw [if_neg ha, if_pos hb, hy.eq_zero_iff.mp hb, Int.add_zero]
    exact ⟨x, rfl, hx⟩
  obtain ⟨d, hd, hinteger⟩ := exists_make?_isInteger (decide (a + b < 0)) hfits
  rw [signed_natAbs] at hinteger
  rw [if_neg ha, if_neg hb]
  simp only [hx.scale_eq, hy.scale_eq, Nat.max_self, hx.signedAt_zero, hy.signedAt_zero,
    powerOf_zero, fit?_whole]
  exact ⟨d, hd, hinteger⟩

theorem IsInteger.sub? (hx : x.IsInteger a) (hy : y.IsInteger b)
    (hfits : (a - b).natAbs < 0x1000000000000000000000000) :
    ∃ d, x.sub? y = some d ∧ d.IsInteger (a - b) := by
  rw [Int.sub_eq_add_neg] at hfits ⊢
  exact hx.add? hy.neg hfits

theorem IsInteger.mul? (hx : x.IsInteger a) (hy : y.IsInteger b)
    (hfits : (a * b).natAbs < 0x1000000000000000000000000) :
    ∃ d, x.mul? y = some d ∧ d.IsInteger (a * b) := by
  rw [Decimal.mul?]
  by_cases hzero : x.coefficient = 0 ∨ y.coefficient = 0
  · have hproduct : a * b = 0 :=
      Int.mul_eq_zero.mpr (hzero.imp hx.eq_zero_iff.mp hy.eq_zero_iff.mp)
    rw [if_pos hzero, hproduct]
    exact ⟨zero, rfl, rfl, rfl⟩
  rw [Int.natAbs_mul, hx.natAbs, hy.natAbs] at hfits
  obtain ⟨d, hd, hinteger⟩ := exists_make?_isInteger (x.negative != y.negative) hfits
  rw [signed_bne, hx.signed_eq, hy.signed_eq] at hinteger
  rw [if_neg hzero]
  simp only [hx.scale_eq, hy.scale_eq, Nat.add_zero, Nat.zero_min, powerOf_zero, fit?_whole]
  exact ⟨d, hd, hinteger⟩

/-- What was multiplied by a number comes back when it is divided by that number. -/
theorem IsInteger.div? (hx : x.IsInteger (c * b)) (hy : y.IsInteger b) (hb : b ≠ 0) :
    ∃ d, x.div? y = some d ∧ d.IsInteger c := by
  have hne : y.coefficient ≠ 0 := fun h => hb (hy.eq_zero_iff.mp h)
  have hcoefficient : x.coefficient = c.natAbs * y.coefficient := by
    rw [← hx.natAbs, Int.natAbs_mul, hy.natAbs]
  have hsize : x.coefficient / y.coefficient = c.natAbs := by
    rw [hcoefficient, Nat.mul_div_cancel _ (Nat.pos_of_ne_zero hne)]
  have hfits : c.natAbs < 0x1000000000000000000000000 :=
    hsize ▸ Nat.lt_of_le_of_lt (Nat.div_le_self _ _) x.coefficient_lt
  rw [Decimal.div?, if_neg hne]
  by_cases hzero : x.coefficient = 0
  · have hc : c = 0 := (Int.mul_eq_zero.mp (hx.eq_zero_iff.mp hzero)).resolve_right hb
    rw [if_pos hzero, hc]
    exact ⟨zero, rfl, rfl, rfl⟩
  obtain ⟨d, hd, hinteger⟩ := exists_make?_isInteger (x.negative != y.negative) hfits
  have hmultiple : x.coefficient % y.coefficient = 0 := by
    rw [hcoefficient, Nat.mul_mod_left]
  have hsign : signed (x.negative != y.negative) c.natAbs = c := by
    apply Int.eq_of_mul_eq_mul_right hb
    calc signed (x.negative != y.negative) c.natAbs * b
        = signed (x.negative != y.negative) c.natAbs * signed y.negative y.coefficient := by
          rw [hy.signed_eq]
      _ = signed x.negative x.coefficient := by
          rw [← signed_bne, ← hcoefficient, Bool.bne_assoc, bne_self_eq_false, Bool.bne_false]
      _ = c * b := hx.signed_eq
  rw [hsign] at hinteger
  rw [if_neg hzero, if_pos hmultiple, hsize, hx.scale_eq, hy.scale_eq, Nat.sub_self, powerOf_zero,
    Nat.mul_one]
  exact ⟨d, hd, hinteger⟩

theorem IsInteger.toBinary_eq (h : x.IsInteger a) : x.toBinary = .ofInt a := by
  rw [toBinary, if_pos h.scale_eq, h.signedAt_zero]

end Decimal

/-- An integer below `2 ^ 53` in size has itself as its decimal form. -/
theorem Binary64.exists_toDecimal?_ofInt {n : Int} (hn : n.natAbs < 0x20000000000000) :
    ∃ d, (ofInt n).toDecimal? = some d ∧ d.IsInteger n := by
  obtain ⟨m, hm, hnumber⟩ := exists_ofInt hn
  obtain ⟨d, hd, hinteger⟩ :=
    Decimal.exists_make?_isInteger (decide (n < 0)) (Nat.lt_trans hn (by decide))
  rw [signed_natAbs] at hinteger
  have hfloor := Magnitude.floor_of_steps hm
  have hfits : m.floor < 0x1000000000000000000000000 := hfloor ▸ Nat.lt_trans hn (by decide)
  rw [hnumber, toDecimal?_whole (Magnitude.isWhole_of_steps hm) hfits, hfloor]
  exact ⟨d, hd, hinteger⟩

namespace Operation

/-- The exact result on integers, for a quotient only where nothing remains. -/
def integer? : Operation → Int → Int → Option Int
  | .add, a, b => some (a + b)
  | .subtract, a, b => some (a - b)
  | .multiply, a, b => some (a * b)
  | .divide, a, b => if b ≠ 0 ∧ b ∣ a then some (a / b) else none

/-- The filter that applies the operation. -/
def filter : Operation → Filter
  | .add => .add
  | .subtract => .subtract
  | .multiply => .multiply
  | .divide => .divide

variable {op : Operation} {a b c : Int}

theorem exists_decimal?_isInteger {x y : Decimal} (hx : x.IsInteger a) (hy : y.IsInteger b)
    (h : op.integer? a b = some c) (hc : c.natAbs < 0x1000000000000000000000000) :
    ∃ d, op.decimal? x y = some d ∧ d.IsInteger c := by
  cases op with
  | add =>
    obtain rfl : a + b = c := Option.some.inj h
    exact hx.add? hy hc
  | subtract =>
    obtain rfl : a - b = c := Option.some.inj h
    exact hx.sub? hy hc
  | multiply =>
    obtain rfl : a * b = c := Option.some.inj h
    exact hx.mul? hy hc
  | divide =>
    obtain ⟨⟨hb, hdvd⟩, hquotient⟩ := Option.ite_none_right_eq_some.mp h
    obtain rfl : a / b = c := Option.some.inj hquotient
    rw [← Int.ediv_mul_cancel hdvd] at hx
    exact hx.div? hy hb

/-- The way through decimals ends at the exact result. -/
theorem combine_ofInt (ha : a.natAbs < 0x20000000000000) (hb : b.natAbs < 0x20000000000000)
    (h : op.integer? a b = some c) (hc : c.natAbs < 0x20000000000000) :
    op.combine (.ofInt a) (.ofInt b) = .ofInt c := by
  obtain ⟨x, hx, hxa⟩ := Binary64.exists_toDecimal?_ofInt ha
  obtain ⟨y, hy, hyb⟩ := Binary64.exists_toDecimal?_ofInt hb
  obtain ⟨d, hd, hdc⟩ := exists_decimal?_isInteger hxa hyb h (Nat.lt_trans hc (by decide))
  have hresult : op.viaDecimal? (.ofInt a) (.ofInt b) = some d := by
    rw [viaDecimal?, hx, hy]
    exact hd
  rw [combine, hresult]
  exact hdc.toBinary_eq

theorem run_filter (op : Operation) (piped arg : Option Value) :
    op.filter.run env scope [arg] piped =
      some (ofNumber (op.combine (operand piped) (operand arg))) := by
  cases op <;> rfl

end Operation

theorem applyFilter_operation (op : Operation) {param : String} {arg : Option Value}
    (hparam : evaluateIn env param scope root = .ok arg) (piped : Option Value) :
    applyFilter env op.filter.name [param] scope root piped =
      .ok (some (ofNumber (op.combine (Operation.operand piped) (Operation.operand arg)))) := by
  have hselect : op.filter ≠ .select := by cases op <;> decide
  rw [applyFilter_of_evaluateIn hselect hparam, op.run_filter]

theorem number_int_ofInt {n : Int} (hn : n.natAbs < 0x20000000000000) :
    (Value.int (Int64.ofInt n)).number = .ofInt n := by
  have hrange : (Int64.ofInt n).toInt = n := by
    apply Int64.toInt_ofInt_of_le <;> omega
  rw [Value.number, hrange]

theorem applyFilter_of_integer? {op : Operation} {a b c : Int} (ha : a.natAbs < 0x20000000000000)
    (hb : b.natAbs < 0x20000000000000) {param : String}
    (hparam : evaluateIn env param scope root = .ok (some (.int (Int64.ofInt b))))
    (h : op.integer? a b = some c) (hc : c.natAbs < 0x20000000000000) :
    applyFilter env op.filter.name [param] scope root (some (.int (Int64.ofInt a))) =
      .ok (some (.int (Int64.ofInt c))) := by
  rw [applyFilter_operation op hparam]
  rw [Operation.operand, Operation.operand, number_int_ofInt ha, number_int_ofInt hb,
    Operation.combine_ofInt ha hb h hc, ofNumber_ofInt hc]

/-- On integers below `2 ^ 53` in size, the filters give the exact sum, difference and product
where it is again of that size, and the exact quotient where nothing remains. -/
theorem applyFilter_integers_exact {a b : Int} (ha : a.natAbs < 0x20000000000000)
    (hb : b.natAbs < 0x20000000000000) {param : String}
    (hparam : evaluateIn env param scope root = .ok (some (.int (Int64.ofInt b)))) :
    ((a + b).natAbs < 0x20000000000000 →
        applyFilter env "add" [param] scope root (some (.int (Int64.ofInt a))) =
          .ok (some (.int (Int64.ofInt (a + b))))) ∧
      ((a - b).natAbs < 0x20000000000000 →
        applyFilter env "subtract" [param] scope root (some (.int (Int64.ofInt a))) =
          .ok (some (.int (Int64.ofInt (a - b))))) ∧
      ((a * b).natAbs < 0x20000000000000 →
        applyFilter env "multiply" [param] scope root (some (.int (Int64.ofInt a))) =
          .ok (some (.int (Int64.ofInt (a * b))))) ∧
      (b ≠ 0 → b ∣ a →
        applyFilter env "divide" [param] scope root (some (.int (Int64.ofInt a))) =
          .ok (some (.int (Int64.ofInt (a / b))))) := by
  refine ⟨fun hc => ?_, fun hc => ?_, fun hc => ?_, fun hne hdvd => ?_⟩
  · exact @applyFilter_of_integer? env scope root .add a b _ ha hb param hparam rfl hc
  · exact @applyFilter_of_integer? env scope root .subtract a b _ ha hb param hparam rfl hc
  · exact @applyFilter_of_integer? env scope root .multiply a b _ ha hb param hparam rfl hc
  · have hsize : (a / b).natAbs ≤ a.natAbs := Int.natAbs_ediv_le_natAbs a b
    exact @applyFilter_of_integer? env scope root .divide a b _ ha hb param hparam
      (if_pos ⟨hne, hdvd⟩) (Nat.lt_of_le_of_lt hsize ha)

/-- A dividend below zero and beyond 32 bits, and a divisor below zero. -/
theorem applyFilter_integers_exact_negative :
    (-9007199254740988 : Int).natAbs < 0x20000000000000 ∧
      (-4 : Int).natAbs < 0x20000000000000 ∧
      applyFilter ⟨⟨0, 0⟩, id⟩ "divide" ["n"] (.object [("n", .int (-4))]) .null
        (some (.int (-9007199254740988))) = .ok (some (.int 2251799813685247)) := by
  have hparam : evaluateIn ⟨⟨0, 0⟩, id⟩ "n" (.object [("n", .int (-4))]) .null =
      .ok (some (.int (Int64.ofInt (-4)))) := by cbv
  have hintegers := @applyFilter_integers_exact ⟨⟨0, 0⟩, id⟩ _ _ (-9007199254740988) (-4)
    (by decide) (by decide) "n" hparam
  exact ⟨by decide, by decide, hintegers.2.2.2 (by decide) (by decide)⟩

end Reshape
