import Reshape.Number.Decimal
import Reshape.Proofs.ExactArithmetic

/-! The decimal forms of binary numbers. -/
namespace Reshape

namespace Decimal

variable {coefficient : Nat} {power : Int}

/-- Halves of an even number lose nothing. -/
theorem absorbHalves_mul_powerOf (coefficient : Nat) (power : Int) (n more : Nat) :
    absorbHalves (coefficient * powerOf 2 n) power (n + more) =
      absorbHalves coefficient (power + n) more := by
  induction n generalizing power with
  | zero => simp
  | succ n ih =>
    have hdouble : coefficient * powerOf 2 (n + 1) = 2 * (coefficient * powerOf 2 n) := by
      rw [powerOf_succ, Nat.mul_left_comm]
    have heven : ¬ (2 * (coefficient * powerOf 2 n) % 2 = 1 ∧
        5 * (2 * (coefficient * powerOf 2 n)) < 0x1000000000000000000000000) := by omega
    rw [hdouble, Nat.add_right_comm, absorbHalves, if_neg heven,
      Nat.mul_div_cancel_left _ (by decide), ih]
    congr 1
    omega

/-- Twos are taken in until none is left when all of them fit. -/
theorem absorbTwos_self {n : Nat} (h : coefficient * powerOf 2 n < 0x1000000000000000000000000) :
    absorbTwos coefficient n n = (coefficient * powerOf 2 n, 0) := by
  induction n generalizing coefficient with
  | zero => simp [absorbTwos]
  | succ n ih =>
    have hdouble : coefficient * powerOf 2 (n + 1) = 2 * coefficient * powerOf 2 n := by
      rw [powerOf_succ, Nat.mul_left_comm, Nat.mul_assoc]
    have hpower : ((n + 1 : Nat) : Int) - 1 = n := by omega
    rw [hdouble] at h ⊢
    have hle : 2 * coefficient ≤ 2 * coefficient * powerOf 2 n :=
      Nat.le_mul_of_pos_right _ (powerOf_pos Nat.two_pos n)
    rw [absorbTwos, if_pos (by omega), hpower, ih h]

theorem ofParts?_whole (negative : Bool) (coefficient : Nat) :
    ofParts? negative coefficient 0 = make? negative coefficient 0 := by
  simp [ofParts?, dropPlaces, dropBits]

/-- Each half becomes a tenth or takes up a power of ten, and bits that are lost make the number
smaller. -/
theorem absorbHalves_le (coefficient : Nat) (power : Int) (n : Nat) :
    ∃ tenths ≤ n, (absorbHalves coefficient power n).2 = power + n - tenths ∧
      (absorbHalves coefficient power n).1 * powerOf 2 n ≤ coefficient * powerOf 10 tenths := by
  induction n generalizing coefficient power with
  | zero => exact ⟨0, Nat.le_refl 0, by simp [absorbHalves], by simp [absorbHalves]⟩
  | succ n ih =>
    rw [absorbHalves]
    by_cases hfits : coefficient % 2 = 1 ∧ 5 * coefficient < 0x1000000000000000000000000
    · rw [if_pos hfits]
      obtain ⟨tenths, hle, hpower, hsize⟩ := ih (5 * coefficient) power
      refine ⟨tenths + 1, by omega, by omega, ?_⟩
      rw [powerOf_succ, powerOf_succ, Nat.mul_left_comm, Nat.mul_left_comm coefficient]
      rw [Nat.mul_assoc] at hsize
      omega
    · rw [if_neg hfits]
      obtain ⟨tenths, hle, hpower, hsize⟩ := ih (coefficient / 2) (power + 1)
      refine ⟨tenths, by omega, by omega, ?_⟩
      have hhalves :
          2 * (coefficient / 2 * powerOf 10 tenths) ≤ coefficient * powerOf 10 tenths := by
        rw [← Nat.mul_assoc]
        exact Nat.mul_le_mul_right _ (by omega)
      rw [powerOf_succ, Nat.mul_left_comm]
      omega

/-- A coefficient of up to nine in the first of the digits that are dropped leaves nothing. -/
theorem dropPlaces_eq_zero {places : Nat} (h : coefficient ≤ 9 * powerOf 10 places) (power : Int) :
    dropPlaces coefficient power (places + 1) = (0, 0) := by
  induction places generalizing coefficient power with
  | zero =>
    rw [powerOf_zero] at h
    rw [dropPlaces, if_pos (by omega)]
  | succ places ih =>
    rw [dropPlaces]
    by_cases hlast : coefficient / 10 = 0
    · rw [if_pos hlast]
    · rw [if_neg hlast]
      apply ih
      rw [powerOf_succ] at h
      unfold dropDigit
      split <;> omega

theorem strip_coefficient_zero {d : Decimal} (h : d.coefficient = 0) : d.strip.coefficient = 0 := by
  have hgo (scale : Nat) (hc : 0 < 0x1000000000000000000000000) (hs : scale ≤ 28) :
      (strip.go d 0 scale hc hs).coefficient = 0 := by
    induction scale with
    | zero => rfl
    | succ scale ih => exact ih (Nat.le_of_succ_le hs)
  unfold strip
  simp only [h]
  exact hgo d.scale _ d.scale_le

theorem exists_ofParts?_zero (negative : Bool) {places : Nat} (h : places ≤ 28) :
    ∃ d, ofParts? negative 0 (-places) = some d ∧ d.coefficient = 0 := by
  have hdrop : (-28 - -(places : Int)).toNat = 0 := by omega
  have hbits (n : Nat) : dropBits 0 (-(places : Int)) n = (0, -(places : Int)) := by cases n <;> rfl
  have hmake (scale : Nat) (hscale : scale ≤ 28) :
      ∃ d, make? negative 0 scale = some d ∧ d.coefficient = 0 :=
    ⟨⟨negative, 0, scale, by decide, hscale⟩, dif_pos ⟨by decide, hscale⟩, rfl⟩
  simp only [ofParts?, hdrop, dropPlaces, hbits, Nat.zero_mul, Int.natAbs_neg, Int.natAbs_natCast]
  by_cases hwhole : 0 ≤ -(places : Int)
  · rw [if_pos hwhole]
    exact hmake 0 (Nat.zero_le 28)
  · rw [if_neg hwhole]
    obtain ⟨d, hd, hzero⟩ := hmake places h
    exact ⟨d.strip, by rw [hd, Option.map_some], strip_coefficient_zero hzero⟩

/-- Nothing is left of a number of up to nine in the 29th place. -/
theorem exists_ofParts?_vanishing (negative : Bool) {places : Nat}
    (h : coefficient * powerOf 10 29 ≤ 9 * powerOf 10 places) :
    ∃ d, ofParts? negative coefficient (-places) = some d ∧ d.coefficient = 0 := by
  by_cases hplaces : places ≤ 28
  · have hzero : coefficient = 0 := by
      have hpow : powerOf 10 places ≤ powerOf 10 28 := powerOf_le_powerOf (by decide) hplaces
      have hpos : 0 < powerOf 10 28 := powerOf_pos (by decide) 28
      rw [powerOf_succ] at h
      rcases Nat.eq_zero_or_pos coefficient with hc | hc
      · exact hc
      · have hle : 10 * powerOf 10 28 ≤ coefficient * (10 * powerOf 10 28) :=
          Nat.le_mul_of_pos_left _ hc
        omega
    rw [hzero]
    exact exists_ofParts?_zero negative hplaces
  · obtain ⟨more, rfl⟩ := Nat.exists_eq_add_of_lt (Nat.lt_of_not_le hplaces)
    have hdigits : coefficient ≤ 9 * powerOf 10 more := by
      rw [Nat.add_right_comm, powerOf_add, ← Nat.mul_assoc, Nat.mul_right_comm] at h
      exact Nat.le_of_mul_le_mul_right h (powerOf_pos (by decide) 29)
    have hdrop : (-28 - -((28 + more + 1 : Nat) : Int)).toNat = more + 1 := by omega
    rw [ofParts?, hdrop]
    simp only [dropPlaces_eq_zero hdigits]
    exact ⟨⟨negative, 0, 0, by decide, by decide⟩, rfl, rfl⟩

end Decimal

namespace Binary64

variable {m : Magnitude}

theorem toDecimal?_zero (negative : Bool) :
    (finite negative .zero).toDecimal? = Decimal.make? negative 0 0 := rfl

theorem toDecimal?_of_le (hm : m.mantissa ≠ 0) (negative : Bool) {places : Nat}
    (h : m.exponent + places = 1074) :
    (finite negative m).toDecimal? =
      Decimal.ofParts? negative (Decimal.absorbHalves m.mantissa (-places) places).1
        (Decimal.absorbHalves m.mantissa (-places) places).2 := by
  have hpower : (m.exponent : Int) - 1074 = -places := by omega
  simp only [toDecimal?, if_neg hm, hpower, Int.natAbs_neg, Int.natAbs_natCast]
  rw [if_pos (by omega)]

/-- A number of up to nine in the 29th decimal place has a zero as its decimal form. -/
theorem exists_toDecimal?_vanishing (h : m.steps * powerOf 10 29 ≤ 9 * Magnitude.one)
    (negative : Bool) :
    ∃ d, (finite negative m).toDecimal? = some d ∧ d.coefficient = 0 := by
  by_cases hm : m.mantissa = 0
  · obtain rfl := Magnitude.eq_zero_of_mantissa hm
    exact ⟨{ Decimal.zero with negative := negative }, rfl, rfl⟩
  have hle : m.exponent ≤ 1074 := by
    apply Nat.le_of_not_lt
    intro hlt
    have hpow : Magnitude.one ≤ powerOf 2 m.exponent :=
      powerOf_le_powerOf Nat.two_pos (Nat.le_of_lt hlt)
    have hsteps : Magnitude.one ≤ m.steps :=
      Nat.le_trans hpow (Nat.le_mul_of_pos_left _ (Nat.pos_of_ne_zero hm))
    have hten : powerOf 10 29 * Magnitude.one ≤ 9 * Magnitude.one := by
      rw [Nat.mul_comm]
      exact Nat.le_trans (Nat.mul_le_mul_right _ hsteps) h
    exact absurd (Nat.le_of_mul_le_mul_right hten Magnitude.one_pos) (by decide)
  obtain ⟨places, hplaces⟩ := Nat.exists_eq_add_of_le hle
  have hmantissa : m.mantissa * powerOf 10 29 ≤ 9 * powerOf 2 places := by
    rw [Magnitude.one_eq_mul hplaces.symm, Magnitude.steps, Nat.mul_right_comm, ← Nat.mul_assoc]
      at h
    exact Nat.le_of_mul_le_mul_right h (powerOf_pos Nat.two_pos m.exponent)
  obtain ⟨tenths, -, hpower, hsize⟩ := Decimal.absorbHalves_le m.mantissa (-places) places
  have hsmall : (Decimal.absorbHalves m.mantissa (-places) places).1 * powerOf 10 29 ≤
      9 * powerOf 10 tenths := by
    apply Nat.le_of_mul_le_mul_right _ (powerOf_pos Nat.two_pos places)
    calc _ = (Decimal.absorbHalves m.mantissa (-places) places).1 * powerOf 2 places *
          powerOf 10 29 := Nat.mul_right_comm _ _ _
      _ ≤ m.mantissa * powerOf 10 tenths * powerOf 10 29 := Nat.mul_le_mul_right _ hsize
      _ = m.mantissa * powerOf 10 29 * powerOf 10 tenths := Nat.mul_right_comm _ _ _
      _ ≤ 9 * powerOf 2 places * powerOf 10 tenths := Nat.mul_le_mul_right _ hmantissa
      _ = 9 * powerOf 10 tenths * powerOf 2 places := Nat.mul_right_comm _ _ _
  have htenths : -(places : Int) + places - tenths = -tenths := by omega
  rw [toDecimal?_of_le hm negative hplaces.symm, hpower, htenths]
  exact Decimal.exists_ofParts?_vanishing negative hsmall

/-- The decimal form of a whole number that fits is exact. -/
theorem toDecimal?_whole (h : m.isWhole = true) (hfits : m.floor < 0x1000000000000000000000000)
    (negative : Bool) :
    (finite negative m).toDecimal? = Decimal.make? negative m.floor 0 := by
  by_cases hm : m.mantissa = 0
  · obtain rfl := Magnitude.eq_zero_of_mantissa hm
    rw [toDecimal?_zero, Magnitude.floor_zero]
  have hfloor := Magnitude.floor_mul_one h
  by_cases hle : m.exponent ≤ 1074
  · obtain ⟨places, hplaces⟩ := Nat.exists_eq_add_of_le hle
    have hmantissa : m.mantissa = m.floor * powerOf 2 places := by
      rw [Magnitude.one_eq_mul hplaces.symm, Magnitude.steps, ← Nat.mul_assoc] at hfloor
      exact (Nat.eq_of_mul_eq_mul_right (powerOf_pos Nat.two_pos m.exponent) hfloor).symm
    have habsorb := Decimal.absorbHalves_mul_powerOf m.floor (-places) places 0
    rw [toDecimal?_of_le hm negative hplaces.symm, hmantissa]
    rw [Nat.add_zero] at habsorb
    rw [habsorb, Int.add_left_neg, Decimal.absorbHalves, Decimal.ofParts?_whole]
  · obtain ⟨n, hn⟩ := Nat.exists_eq_add_of_le (Nat.le_of_not_le hle)
    have hpower : (m.exponent : Int) - 1074 = n := by omega
    have hmantissa : m.mantissa * powerOf 2 n = m.floor := by
      rw [Magnitude.steps, hn, powerOf_add, Nat.mul_comm (powerOf 2 1074), ← Nat.mul_assoc]
        at hfloor
      exact (Nat.eq_of_mul_eq_mul_right Magnitude.one_pos hfloor).symm
    simp only [toDecimal?, if_neg hm, hpower, Int.natAbs_natCast]
    rw [← hmantissa] at hfits
    rw [if_neg (by omega), Decimal.absorbTwos_self hfits, hmantissa]
    exact Decimal.ofParts?_whole negative m.floor

end Binary64

end Reshape
