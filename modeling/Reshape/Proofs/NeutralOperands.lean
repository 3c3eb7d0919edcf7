import Reshape.Proofs.IntegerArithmetic
import Reshape.Proofs.VariadicFilters

/-! Adding zero, multiplying by one and dividing by one. Each of these takes a number through its
decimal form, and that need not lead back to the number. -/
namespace Reshape

open Value

variable {env : Environment} {scope root : Value} {m : Magnitude} {negative : Bool}

namespace Binary64

/-- The number that the decimal form of a number stands for; itself where there is none. -/
def throughDecimal (x : Binary64) : Binary64 :=
  match x.toDecimal? with
  | some d => d.toBinary
  | none => x

/-- The decimal form leads back to the number. -/
def IsKept (x : Binary64) : Prop := x.throughDecimal.numEq x = true

theorem key?_finite (negative : Bool) (m : Magnitude) :
    (finite negative m).key? = some (0, signedSteps negative m) := by
  cases negative <;> rfl

theorem numEq_finite_iff (negative negative' : Bool) (m m' : Magnitude) :
    (finite negative m).numEq (.finite negative' m') = true ↔
      signedSteps negative m = signedSteps negative' m' := by
  rw [numEq, Binary64.compare?, key?_finite, key?_finite]
  simp

theorem Alike.key?_eq {x y : Binary64} (h : Alike x y) : x.key? = y.key? := by
  cases h with
  | same => rfl
  | zeros negative negative' => rw [key?_finite, key?_finite, signedSteps_zero, signedSteps_zero]

theorem Alike.numEq_eq {x y : Binary64} (h : Alike x y) (z : Binary64) : x.numEq z = y.numEq z := by
  rw [numEq, numEq, compare?, compare?, h.key?_eq]

theorem Alike.symm {x y : Binary64} (h : Alike x y) : Alike y x := by
  cases h with
  | same => exact .same _
  | zeros negative negative' => exact .zeros negative' negative

theorem isNonzero_div_zero (negative : Bool) (x : Binary64) :
    ((finite negative .zero).div x).isNonzero = false := by
  cases x with
  | nan => rfl
  | infinite sign => rfl
  | finite sign m =>
    simp only [div, Magnitude.steps_zero, Nat.zero_mul, ofRatio_zero]
    split <;> rfl

end Binary64

open Binary64

namespace Decimal

variable {x y : Decimal}

theorem make?_self (d : Decimal) : make? d.negative d.coefficient d.scale = some d :=
  dif_pos ⟨d.coefficient_lt, d.scale_le⟩

theorem fit?_self (d : Decimal) :
    fit? d.negative d.coefficient (powerOf 10 d.scale) d.scale = some d := by
  have hround (scale : Nat) :
      roundDiv .toEven (d.coefficient * powerOf 10 scale) (powerOf 10 scale) = d.coefficient :=
    roundDiv_exact .toEven d.coefficient (powerOf_pos (by decide) scale)
  have hself := make?_self d
  cases hscale : d.scale with
  | zero =>
    have hwhole := hround 0
    rw [hscale] at hself
    rw [powerOf_zero, Nat.mul_one] at hwhole
    rw [fit?, powerOf_zero, hwhole, hself]
  | succ scale =>
    rw [hscale] at hself
    rw [fit?, hround, hself]

/-- A decimal without digits stands for a zero. -/
theorem toBinary_of_coefficient_zero (h : x.coefficient = 0) :
    ∃ negative, x.toBinary = .finite negative .zero := by
  rw [toBinary]
  by_cases hscale : x.scale = 0
  · have hsigned : x.signedAt 0 = 0 := by simp [signedAt, h]
    rw [if_pos hscale, hsigned, ofInt_zero]
    exact ⟨false, rfl⟩
  · rw [if_neg hscale]
    simp only [h, Nat.zero_div, Nat.zero_mod, Int.natCast_zero, ofInt_zero, isNonzero_div_zero,
      Bool.false_eq_true, if_false]
    cases x.negative with
    | false => exact ⟨false, rfl⟩
    | true => exact ⟨true, rfl⟩

/-- Two decimals that are the same or have no digits. -/
def Same (x y : Decimal) : Prop := x = y ∨ x.coefficient = 0 ∧ y.coefficient = 0

theorem Same.alike (h : Same x y) : Alike x.toBinary y.toBinary := by
  rcases h with rfl | ⟨hx, hy⟩
  · exact .same _
  · obtain ⟨negative, hx⟩ := toBinary_of_coefficient_zero hx
    obtain ⟨negative', hy⟩ := toBinary_of_coefficient_zero hy
    rw [hx, hy]
    exact .zeros negative negative'

theorem IsInteger.one (h : y.IsInteger 1) : y.coefficient = 1 ∧ y.negative = false := by
  have hsize : y.coefficient = 1 := h.natAbs.symm
  refine ⟨hsize, ?_⟩
  cases hsign : y.negative with
  | false => rfl
  | true =>
    have hsigned := h.signed_eq
    rw [hsign, hsize] at hsigned
    cases hsigned

theorem add?_zero (x : Decimal) (hy : y.IsInteger 0) : ∃ d, x.add? y = some d ∧ Same d x := by
  have hzero : y.coefficient = 0 := hy.eq_zero_iff.mpr rfl
  rw [add?]
  by_cases hx : x.coefficient = 0
  · rw [if_pos hx]
    exact ⟨y, rfl, Or.inr ⟨hzero, hx⟩⟩
  · rw [if_neg hx, if_pos hzero]
    exact ⟨x, rfl, Or.inl rfl⟩

theorem mul?_one (x : Decimal) (hy : y.IsInteger 1) : ∃ d, x.mul? y = some d ∧ Same d x := by
  obtain ⟨hone, hsign⟩ := hy.one
  rw [mul?]
  by_cases hx : x.coefficient = 0
  · rw [if_pos (Or.inl hx)]
    exact ⟨zero, rfl, Or.inr ⟨rfl, hx⟩⟩
  · rw [if_neg (by omega)]
    simp only [hone, hsign, hy.scale_eq, Nat.mul_one, Nat.add_zero, Bool.bne_false,
      Nat.min_eq_left x.scale_le, fit?_self]
    exact ⟨x, rfl, Or.inl rfl⟩

theorem div?_one (x : Decimal) (hy : y.IsInteger 1) : ∃ d, x.div? y = some d ∧ Same d x := by
  obtain ⟨hone, hsign⟩ := hy.one
  rw [div?, if_neg (by omega)]
  by_cases hx : x.coefficient = 0
  · rw [if_pos hx]
    exact ⟨zero, rfl, Or.inr ⟨rfl, hx⟩⟩
  · rw [if_neg hx, hone, Nat.mod_one, if_pos rfl, hsign, hy.scale_eq, Nat.div_one, Nat.zero_sub,
      powerOf_zero, Nat.mul_one, Nat.sub_zero, Bool.bne_false, make?_self]
    exact ⟨x, rfl, Or.inl rfl⟩

end Decimal

/-- A number of up to nine in the 29th decimal place is lost. -/
theorem not_isKept_of_vanishing (hne : m.mantissa ≠ 0)
    (h : m.steps * powerOf 10 29 ≤ 9 * Magnitude.one) : ¬ IsKept (.finite negative m) := by
  obtain ⟨d, hd, hzero⟩ := exists_toDecimal?_vanishing h negative
  obtain ⟨sign, hbinary⟩ := Decimal.toBinary_of_coefficient_zero hzero
  have hsteps : m.steps ≠ 0 := fun h => hne (Magnitude.steps_eq_zero_iff.mp h)
  rw [IsKept, throughDecimal, hd]
  simp only [hbinary, numEq_finite_iff, signedSteps_zero]
  unfold signedSteps
  split <;> omega

namespace Binary64

theorem add_zero_alike (negative : Bool) (m : Magnitude) :
    Alike ((finite negative m).add (ofInt 0)) (.finite negative m) := by
  by_cases hm : m.mantissa = 0
  · obtain rfl := Magnitude.eq_zero_of_mantissa hm
    rw [ofInt_zero, add]
    simp only [signedSteps_zero, Int.zero_add, if_true]
    exact .zeros _ _
  · have hne : m.steps ≠ 0 := fun h => hm (Magnitude.steps_eq_zero_iff.mp h)
    have hsigned : signedSteps negative m = signed negative m.steps := rfl
    have hsize := natAbs_signed negative m.steps
    have hsign : decide (signed negative m.steps < 0) = negative := by
      cases negative with
      | false => simp [signed]
      | true =>
        simp only [signed, if_true, decide_eq_true_eq]
        omega
    rw [ofInt_zero, add]
    simp only [signedSteps_zero, Int.add_zero, hsigned, hsize, hsign]
    rw [if_neg (by omega), ofRatio_of_magnitude m.ofRatio?_steps]
    exact .same _

theorem mul_one_eq (negative : Bool) (m : Magnitude) :
    (finite negative m).mul (ofInt 1) = .finite negative m := by
  obtain ⟨one, hone, hsteps⟩ := steps_ofInt_one
  rw [hone, mul_exact negative false (congrArg (m.steps * ·) hsteps), Bool.bne_false]

theorem div_one_eq (negative : Bool) (m : Magnitude) :
    (finite negative m).div (ofInt 1) = .finite negative m := by
  obtain ⟨one, hone, hsteps⟩ := steps_ofInt_one
  have hpos : 0 < one.steps := hsteps ▸ Magnitude.one_pos
  rw [hone, div_exact negative false hpos (congrArg (m.steps * ·) hsteps.symm), Bool.bne_false]

end Binary64

namespace Operation

/-- The operations that change no number, with the operand with which they do not. -/
def neutral : List (Operation × Int) := [(.add, 0), (.multiply, 1), (.divide, 1)]

variable {op : Operation} {n : Int}

theorem cases_neutral {motive : Operation → Int → Prop} (h : (op, n) ∈ neutral)
    (add : motive .add 0) (multiply : motive .multiply 1) (divide : motive .divide 1) :
    motive op n := by
  simp only [neutral, List.mem_cons, Prod.mk.injEq, List.not_mem_nil, or_false] at h
  rcases h with ⟨rfl, rfl⟩ | ⟨rfl, rfl⟩ | ⟨rfl, rfl⟩
  · exact add
  · exact multiply
  · exact divide

theorem decimal?_neutral (h : (op, n) ∈ neutral) (x : Decimal) {y : Decimal} (hy : y.IsInteger n) :
    ∃ d, op.decimal? x y = some d ∧ Decimal.Same d x := by
  revert hy
  apply cases_neutral h
  · exact Decimal.add?_zero x
  · exact Decimal.mul?_one x
  · exact Decimal.div?_one x

theorem binary_neutral (h : (op, n) ∈ neutral) (negative : Bool) (m : Magnitude) :
    Alike (op.binary (.finite negative m) (.ofInt n)) (.finite negative m) := by
  apply cases_neutral h
  · exact add_zero_alike negative m
  · show Alike ((finite negative m).mul (ofInt 1)) _
    rw [mul_one_eq]
    exact .same _
  · show Alike ((finite negative m).div (ofInt 1)) _
    rw [div_one_eq]
    exact .same _

/-- All that such an operation does to a number is to take it through its decimal form. -/
theorem combine_neutral (h : (op, n) ∈ neutral) (negative : Bool) (m : Magnitude) :
    Alike (op.combine (.finite negative m) (.ofInt n)) (finite negative m).throughDecimal := by
  have hsize : n.natAbs < 0x20000000000000 := by
    apply cases_neutral h <;> decide
  obtain ⟨y, hy, hinteger⟩ := exists_toDecimal?_ofInt hsize
  rw [combine, viaDecimal?, hy, throughDecimal]
  cases (finite negative m).toDecimal? with
  | none => exact binary_neutral h negative m
  | some x =>
    obtain ⟨d, hd, hsame⟩ := decimal?_neutral h x hinteger
    show Alike (match op.decimal? x y with
      | some d => d.toBinary
      | none => op.binary (.finite negative m) (.ofInt n)) x.toBinary
    rw [hd]
    exact hsame.alike

end Operation

/-- Every neutral operand leaves the number as it is: the result is a number and equal to it. -/
def KeepsNumber (env : Environment) (x : Binary64) : Prop :=
  ∀ op n, (op, n) ∈ Operation.neutral → ∀ (param : String) (scope root : Value),
    evaluateIn env param scope root = .ok (some (.int (Int64.ofInt n))) →
    ∃ y, applyFilter env op.filter.name [param] scope root (some (.float x)) =
        .ok (some (ofNumber y)) ∧ (ofNumber y).number.numEq x = true

theorem applyFilter_neutral {op : Operation} {n : Int} (h : (op, n) ∈ Operation.neutral)
    {param : String} (hparam : evaluateIn env param scope root = .ok (some (.int (Int64.ofInt n))))
    (negative : Bool) (m : Magnitude) :
    applyFilter env op.filter.name [param] scope root (some (.float (.finite negative m))) =
      .ok (some (ofNumber (finite negative m).throughDecimal)) := by
  have hsize : n.natAbs < 0x20000000000000 := by
    apply Operation.cases_neutral h <;> decide
  have halike := Operation.combine_neutral h negative m
  rw [applyFilter_operation op hparam, Operation.operand,
    Operation.operand, number_int_ofInt hsize]
  exact congrArg (Except.ok ∘ some) halike.ofNumber_eq

theorem numEq_number_ofNumber (x y : Binary64) : (ofNumber x).number.numEq y = x.numEq y := by
  rw [number_ofNumber]
  exact (alike_withoutZeroSign x).symm.numEq_eq y

theorem KeepsNumber.isKept (h : KeepsNumber env (.finite negative m)) :
    IsKept (.finite negative m) := by
  have hmem : (Operation.add, (0 : Int)) ∈ Operation.neutral := by decide
  have hparam := @evaluateIn_singleKey env .null (.int (Int64.ofInt 0))
  obtain ⟨y, hy, hequal⟩ := h .add 0 hmem "n" _ _ hparam
  rw [applyFilter_neutral hmem hparam] at hy
  have hvalue : ofNumber (finite negative m).throughDecimal = ofNumber y :=
    Option.some.inj (Except.ok.inj hy)
  rw [← hvalue, numEq_number_ofNumber] at hequal
  exact hequal

theorem Binary64.IsKept.keepsNumber (h : IsKept (.finite negative m)) :
    KeepsNumber env (.finite negative m) := by
  intro op n hmem param scope root hparam
  refine ⟨_, applyFilter_neutral hmem hparam negative m, ?_⟩
  rw [numEq_number_ofNumber]
  exact h

/-- Neutral operands keep a finite number exactly when its decimal form leads back to it. -/
theorem keepsNumber_iff_isKept (negative : Bool) (m : Magnitude) :
    KeepsNumber env (.finite negative m) ↔ IsKept (.finite negative m) :=
  ⟨KeepsNumber.isKept, IsKept.keepsNumber⟩

/-- The number nearest to `10 ^ (-30)`. -/
def sampleTrace : Magnitude :=
  ⟨5708990770823840, 922, by decide, by decide, .inr (by decide)⟩

/-- It becomes zero. -/
theorem not_keepsNumber_sampleTrace :
    Magnitude.ofRatio? Magnitude.one (powerOf 10 30) = some sampleTrace ∧
      ¬ KeepsNumber ⟨⟨0, 0⟩, id⟩ (.finite false sampleTrace) := by
  refine ⟨by decide +kernel, ?_⟩
  intro h
  exact not_isKept_of_vanishing (by decide) (by decide +kernel) h.isKept

end Reshape
