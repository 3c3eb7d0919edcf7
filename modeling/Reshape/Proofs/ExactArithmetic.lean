import Reshape.Proofs.WholeNumbers

/-! Arithmetic on binary numbers whose exact result is a number of the format. Such a result is not
rounded. -/
namespace Reshape

/-- The integer of a sign and a size. -/
def signed (negative : Bool) (size : Nat) : Int := if negative then -size else size

section

variable (negative negative' : Bool) (size size' : Nat)

theorem natAbs_signed : (signed negative size).natAbs = size := by
  cases negative <;> simp [signed]

theorem signed_natAbs (n : Int) : signed (decide (n < 0)) n.natAbs = n := by
  by_cases h : n < 0
  · rw [signed, if_pos (decide_eq_true h)]
    omega
  · rw [signed, if_neg (by simp [h])]
    omega

theorem signed_not : signed (!negative) size = -signed negative size := by
  cases negative <;> simp [signed]

/-- The sign of a product is negative where the signs of its sides differ. -/
theorem signed_bne : signed (negative != negative') (size * size') =
    signed negative size * signed negative' size' := by
  cases negative with
  | false =>
    cases negative' with
    | false => rfl
    | true => exact (Int.mul_neg size size').symm
  | true =>
    cases negative' with
    | false => exact (Int.neg_mul size size').symm
    | true => exact (Int.neg_mul_neg size size').symm

end

namespace Magnitude

variable {m : Magnitude} {num den : Nat}

theorem one_eq_mul {a b : Nat} (h : a + b = 1074) : one = powerOf 2 b * powerOf 2 a := by
  rw [← powerOf_add, Nat.add_comm, h, one]

/-- A quotient that is a number of the format is rounded to itself. -/
theorem ofRatio?_exact (hden : 0 < den) (h : num = m.steps * den) : ofRatio? num den = some m := by
  have hquotient : num / den = m.steps := by rw [h, Nat.mul_div_cancel _ hden]
  have hround : roundDiv .toEven num (den * powerOf 2 m.exponent) = m.mantissa := by
    have hnum : num = m.mantissa * (den * powerOf 2 m.exponent) := by
      rw [h, steps, Nat.mul_right_comm, Nat.mul_assoc]
    rw [hnum]
    exact roundDiv_exact .toEven m.mantissa (Nat.mul_pos hden (powerOf_pos Nat.two_pos m.exponent))
  simp only [ofRatio?, hquotient, log2_steps, hround]
  rw [dif_pos ⟨m.mantissa_lt, m.exponent_le, m.normal⟩]

theorem eq_of_steps {m' : Magnitude} (h : m.steps = m'.steps) : m = m' := by
  have hm := ofRatio?_steps m
  rw [h, ofRatio?_steps] at hm
  exact (Option.some.inj hm).symm

/-- Every number of 53 bits, scaled up within the range of the format, has its normal form. -/
theorem exists_steps_eq {n exponent : Nat} (hn : n < 0x20000000000000) (he : exponent ≤ 2045) :
    ∃ m : Magnitude, m.steps = n * powerOf 2 exponent := by
  induction exponent generalizing n with
  | zero => exact ⟨⟨n, 0, hn, he, .inl rfl⟩, rfl⟩
  | succ exponent ih =>
    by_cases hnormal : 0x10000000000000 ≤ n
    · exact ⟨⟨n, exponent + 1, hn, he, .inr hnormal⟩, rfl⟩
    · -- There is room for one more bit.
      obtain ⟨m, hm⟩ := ih (n := 2 * n) (by omega) (by omega)
      refine ⟨m, ?_⟩
      rw [hm, powerOf_succ, Nat.mul_left_comm, Nat.mul_assoc]

theorem exists_whole {n : Nat} (hn : n ≤ 0x20000000000000) :
    ∃ m : Magnitude, m.steps = n * one := by
  rcases Nat.lt_or_eq_of_le hn with hlt | rfl
  · exact exists_steps_eq hlt (by decide)
  · obtain ⟨m, hm⟩ := @exists_steps_eq 0x10000000000000 (1074 + 1) (by decide) (by decide)
    have hdouble : (0x10000000000000 : Nat) * 2 = 0x20000000000000 := rfl
    refine ⟨m, ?_⟩
    rw [hm, powerOf_succ, ← Nat.mul_assoc, hdouble, one]

theorem floor_of_steps {n : Nat} (h : m.steps = n * one) : m.floor = n := by
  rw [floor, h, Nat.mul_div_cancel _ one_pos]

theorem isWhole_of_steps {n : Nat} (h : m.steps = n * one) : m.isWhole = true := by
  simp [isWhole, h]

end Magnitude

namespace Binary64

variable {m a b : Magnitude}

theorem ofRatio_exact {num den : Nat} (negative : Bool) (hden : 0 < den)
    (h : num = m.steps * den) : ofRatio negative num den = .finite negative m :=
  ofRatio_of_magnitude (Magnitude.ofRatio?_exact hden h) negative

/-- An integer that has a number of the format is that number. -/
theorem ofInt_exact {n : Int} (h : m.steps = n.natAbs * Magnitude.one) :
    ofInt n = .finite (decide (n < 0)) m :=
  ofRatio_exact _ Nat.one_pos (by rw [h, Nat.mul_one])

theorem exists_ofInt {n : Int} (hn : n.natAbs < 0x20000000000000) :
    ∃ m : Magnitude, m.steps = n.natAbs * Magnitude.one ∧
      ofInt n = .finite (decide (n < 0)) m := by
  obtain ⟨m, hm⟩ := Magnitude.exists_whole (Nat.le_of_lt hn)
  exact ⟨m, hm, ofInt_exact hm⟩

theorem mul_exact (s t : Bool) (h : a.steps * b.steps = m.steps * Magnitude.one) :
    (finite s a).mul (.finite t b) = .finite (s != t) m := by
  rw [mul]
  exact ofRatio_exact _ Magnitude.one_pos h

theorem div_exact (s t : Bool) (hb : 0 < b.steps)
    (h : a.steps * Magnitude.one = m.steps * b.steps) :
    (finite s a).div (.finite t b) = .finite (s != t) m := by
  have hmantissa : b.mantissa ≠ 0 := fun h => Nat.ne_of_gt hb (Magnitude.steps_eq_zero_iff.mpr h)
  rw [div, if_neg hmantissa]
  exact ofRatio_exact _ hb h

theorem steps_ofInt_one : ∃ m : Magnitude, ofInt 1 = .finite false m ∧ m.steps = Magnitude.one := by
  obtain ⟨m, hm, hone⟩ := exists_ofInt (n := 1) (by decide)
  exact ⟨m, hone, by simpa using hm⟩

theorem ofInt_zero : ofInt 0 = .finite false .zero :=
  ofInt_exact (by rw [Magnitude.steps_zero, Int.natAbs_zero, Nat.zero_mul])

end Binary64

namespace Value

open Binary64

/-- An integer below `2 ^ 53` in size comes back from its number. -/
theorem ofNumber_ofInt {n : Int} (hn : n.natAbs < 0x20000000000000) :
    ofNumber (ofInt n) = .int (Int64.ofInt n) := by
  obtain ⟨m, hm, hnumber⟩ := exists_ofInt hn
  have hwhole := Magnitude.isWhole_of_steps hm
  have hbelow : (finite (decide (n < 0)) m).absBelow 0x20000000000000 = true := by
    rw [absBelow, hm]
    exact decide_eq_true (Nat.mul_lt_mul_of_pos_right hn Magnitude.one_pos)
  have hsigned : signedFloor (decide (n < 0)) m = n := by
    rw [signedFloor, Magnitude.floor_of_steps hm]
    exact signed_natAbs n
  rw [hnumber, ofNumber, toInt?_finite, hsigned]
  simp only [isWhole, hwhole, hbelow, Bool.and_self, if_true]

end Value

end Reshape
