import Reshape.Value.Coercion

/-! Whole numbers as binary numbers and as integers. What is a number of the format already is not
changed by rounding, and turning a result into an integer loses nothing but the sign of zero. -/
namespace Reshape

namespace Magnitude

variable {m : Magnitude}

theorem one_pos : 0 < one := powerOf_pos Nat.two_pos 1074

theorem steps_eq_zero_iff : m.steps = 0 ↔ m.mantissa = 0 := by
  have hpos : 0 < powerOf 2 m.exponent := powerOf_pos Nat.two_pos m.exponent
  rw [steps, Nat.mul_eq_zero]
  omega

theorem eq_zero_of_mantissa (h : m.mantissa = 0) : m = zero := by
  obtain ⟨mantissa, exponent, hlt, hle, hnormal⟩ := m
  obtain rfl : mantissa = 0 := h
  obtain rfl : exponent = 0 := by omega
  rfl

theorem steps_zero : zero.steps = 0 := steps_eq_zero_iff.mpr rfl

theorem floor_zero : zero.floor = 0 := by
  rw [floor, steps_zero, Nat.zero_div]

theorem floor_mul_one (h : m.isWhole = true) : m.floor * one = m.steps := by
  have hmod : m.steps % one = 0 := by simpa [isWhole] using h
  exact Nat.div_mul_cancel (Nat.dvd_of_mod_eq_zero hmod)

/-- A scaled number of 53 bits has its leading bit 52 places above its last one. -/
theorem log2_mul_powerOf {mantissa : Nat} (hlow : 0x10000000000000 ≤ mantissa)
    (hhigh : mantissa < 0x20000000000000) (exponent : Nat) :
    (mantissa * powerOf 2 exponent).log2 = 52 + exponent := by
  have hpos : 0 < powerOf 2 exponent := powerOf_pos Nat.two_pos exponent
  have hne : mantissa * powerOf 2 exponent ≠ 0 := Nat.mul_ne_zero (by omega) (by omega)
  refine (Nat.log2_eq_iff hne).mpr ⟨?_, ?_⟩
  · rw [Nat.pow_add]
    exact Nat.mul_le_mul_right _ hlow
  · rw [Nat.add_right_comm, Nat.pow_add]
    exact Nat.mul_lt_mul_of_pos_right hhigh hpos

theorem log2_steps (m : Magnitude) : m.steps.log2 - 52 = m.exponent := by
  have hlt := m.mantissa_lt
  rcases m.normal with hexponent | hmantissa
  · -- A number this small is counted in single steps.
    rw [steps, hexponent, powerOf_zero, Nat.mul_one]
    by_cases hzero : m.mantissa = 0
    · rw [hzero]
      rfl
    · have hlog := (Nat.log2_lt hzero (k := 53)).mpr hlt
      omega
  · rw [steps, log2_mul_powerOf hmantissa hlt, Nat.add_sub_cancel_left]

/-- A number of the format is rounded to itself. -/
theorem ofRatio?_steps (m : Magnitude) : ofRatio? m.steps 1 = some m := by
  have hround : roundDiv .toEven m.steps (powerOf 2 m.exponent) = m.mantissa :=
    roundDiv_exact .toEven m.mantissa (powerOf_pos Nat.two_pos m.exponent)
  simp only [ofRatio?, Nat.div_one, log2_steps, Nat.one_mul, hround]
  rw [dif_pos ⟨m.mantissa_lt, m.exponent_le, m.normal⟩]

theorem ofRatio?_zero (den : Nat) : ofRatio? 0 den = some zero := by
  have hround : roundDiv .toEven 0 (den * powerOf 2 0) = 0 := by
    simp [roundDiv]
  have hlog : (0 / den).log2 - 52 = 0 := by simp
  simp only [ofRatio?, hlog, hround]
  rfl

end Magnitude

namespace Binary64

/-- Zero without its sign, and any other number as it is. -/
def withoutZeroSign : Binary64 → Binary64
  | .finite negative m => if m.mantissa = 0 then .zero else .finite negative m
  | x => x

theorem withoutZeroSign_of_ne {m : Magnitude} (h : m.mantissa ≠ 0) (negative : Bool) :
    (finite negative m).withoutZeroSign = .finite negative m := if_neg h

theorem ofRatio_of_magnitude {num den : Nat} {m : Magnitude}
    (h : Magnitude.ofRatio? num den = some m) (negative : Bool) :
    ofRatio negative num den = .finite negative m := by
  unfold ofRatio
  rw [h]

theorem ofRatio_zero (negative : Bool) (den : Nat) :
    ofRatio negative 0 den = .finite negative .zero :=
  ofRatio_of_magnitude (Magnitude.ofRatio?_zero den) negative

theorem isWhole_zero (negative : Bool) : (finite negative .zero).isWhole = true := by
  simp [isWhole, Magnitude.isWhole, Magnitude.steps_zero]

theorem absBelow_zero (negative : Bool) {bound : Nat} (h : 0 < bound) :
    (finite negative .zero).absBelow bound = true := by
  rw [absBelow, Magnitude.steps_zero]
  exact decide_eq_true (Nat.mul_pos h Magnitude.one_pos)

/-- The integer part of a finite number. -/
def signedFloor (negative : Bool) (m : Magnitude) : Int := if negative then -m.floor else m.floor

theorem toInt?_finite (negative : Bool) (m : Magnitude) :
    (finite negative m).toInt? = some (signedFloor negative m) := by
  cases negative <;> rfl

theorem signedFloor_zero (negative : Bool) : signedFloor negative .zero = 0 := by
  simp [signedFloor, Magnitude.floor_zero]

/-- The integer part of a number below `2 ^ 53` in size is one of 64 bits. -/
theorem toInt_ofInt_signedFloor {negative : Bool} {m : Magnitude}
    (h : (finite negative m).absBelow 0x20000000000000 = true) :
    (Int64.ofInt (signedFloor negative m)).toInt = signedFloor negative m := by
  have hsteps : m.steps < 0x20000000000000 * Magnitude.one := by simpa [absBelow] using h
  have hfloor : m.floor < 0x20000000000000 :=
    (Nat.div_lt_iff_lt_mul Magnitude.one_pos).mpr hsteps
  apply Int64.toInt_ofInt_of_le <;> unfold signedFloor <;> split <;> omega

/-- A whole number comes back from its integer, but for the sign of zero. -/
theorem ofInt_signedFloor {m : Magnitude} (h : m.isWhole = true) (negative : Bool) :
    ofInt (signedFloor negative m) = (finite negative m).withoutZeroSign := by
  have hsize : (signedFloor negative m).natAbs = m.floor := by
    cases negative <;> simp [signedFloor]
  rw [ofInt, hsize, Magnitude.floor_mul_one h, ofRatio_of_magnitude m.ofRatio?_steps]
  by_cases hzero : m.mantissa = 0
  · obtain rfl := Magnitude.eq_zero_of_mantissa hzero
    rw [signedFloor_zero]
    rfl
  · have hfloor : m.floor ≠ 0 := by
      intro hfloor
      have hsteps := Magnitude.floor_mul_one h
      rw [hfloor, Nat.zero_mul, eq_comm, Magnitude.steps_eq_zero_iff] at hsteps
      exact hzero hsteps
    rw [withoutZeroSign_of_ne hzero]
    cases negative with
    | false => simp [signedFloor]
    | true => simp [signedFloor, Nat.pos_of_ne_zero hfloor]

end Binary64

namespace Value

open Binary64

/-- Taking a number into a value and back takes the sign off zero and does nothing else. -/
theorem number_ofNumber (x : Binary64) : (ofNumber x).number = x.withoutZeroSign := by
  cases x with
  | nan => rfl
  | infinite negative => rfl
  | finite negative m =>
    rw [ofNumber, toInt?_finite]
    dsimp only
    split
    · rename_i h
      obtain ⟨hwhole, hbelow⟩ := Bool.and_eq_true_iff.mp h
      rw [number, toInt_ofInt_signedFloor hbelow, ofInt_signedFloor hwhole]
    · rename_i h
      have hne : m.mantissa ≠ 0 := by
        intro hzero
        obtain rfl := Magnitude.eq_zero_of_mantissa hzero
        rw [isWhole_zero, absBelow_zero negative (by decide)] at h
        exact h rfl
      rw [number, withoutZeroSign_of_ne hne]

/-- Zero becomes the same integer whatever its sign is. -/
theorem ofNumber_zero (negative : Bool) : ofNumber (.finite negative .zero) = .int 0 := by
  rw [ofNumber, toInt?_finite, signedFloor_zero, isWhole_zero, absBelow_zero negative (by decide)]
  rfl

end Value

end Reshape
