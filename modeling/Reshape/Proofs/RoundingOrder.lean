import Reshape.Proofs.ExactArithmetic

/-! Rounding keeps the order of numbers, though it may make different numbers equal. -/
namespace Reshape

theorem roundDiv_mono (tie : Tie) {a b : Nat} (h : a ≤ b) (den : Nat) :
    roundDiv tie a den ≤ roundDiv tie b den := by
  have hfloor : a / den ≤ b / den := Nat.div_le_div_right h
  rcases Nat.lt_or_eq_of_le hfloor with hlt | heq
  · have ha := roundDiv_le tie a den
    have hb := le_roundDiv tie b den
    omega
  · -- Both lie between the same whole numbers, and their remainders decide.
    have hmod : a % den ≤ b % den := by
      have ha := Nat.div_add_mod a den
      have hb := Nat.div_add_mod b den
      rw [heq] at ha
      omega
    simp only [roundDiv, heq]
    grind

namespace Magnitude

/-- How far a number of steps reaches beyond 53 bits. -/
def excess (n : Nat) : Nat := n.log2 - 52

/-- The steps of the number of the format that is nearest to a number of steps. -/
def nearest (n : Nat) : Nat := roundDiv .toEven n (powerOf 2 (excess n)) * powerOf 2 (excess n)

variable {n n' : Nat}

theorem excess_mono (h : n ≤ n') : excess n ≤ excess n' := by
  by_cases hzero : n = 0
  · rw [hzero]
    exact Nat.zero_le _
  · have hlow := Nat.log2_self_le hzero
    have hlog : n.log2 ≤ n'.log2 := (Nat.le_log2 (by omega)).mpr (Nat.le_trans hlow h)
    unfold excess
    omega

theorem excess_powerOf (k : Nat) : excess (powerOf 2 k) = k - 52 :=
  congrArg (· - 52) Nat.log2_two_pow

/-- What is left of a number without its excess has at most 53 bits. -/
theorem roundDiv_excess_le (n : Nat) :
    roundDiv .toEven n (powerOf 2 (excess n)) ≤ 0x20000000000000 := by
  have hpow : 2 ^ (n.log2 + 1) ≤ 0x20000000000000 * powerOf 2 (excess n) := by
    have hexponents : n.log2 + 1 ≤ 53 + excess n := by
      unfold excess
      omega
    exact Nat.le_trans (Nat.pow_le_pow_right (by decide) hexponents)
      (Nat.le_of_eq (Nat.pow_add 2 53 _))
  have hfloor : n / powerOf 2 (excess n) < 0x20000000000000 :=
    (Nat.div_lt_iff_lt_mul (powerOf_pos Nat.two_pos _)).mpr
      (Nat.lt_of_lt_of_le Nat.lt_log2_self hpow)
  have hround := roundDiv_le .toEven n (powerOf 2 (excess n))
  omega

theorem le_roundDiv_excess (h : excess n ≠ 0) :
    0x10000000000000 ≤ roundDiv .toEven n (powerOf 2 (excess n)) := by
  have hne : n ≠ 0 := by
    rintro rfl
    exact h rfl
  have hlog : 52 + excess n = n.log2 := by
    unfold excess at h ⊢
    omega
  have hpow : 0x10000000000000 * powerOf 2 (excess n) ≤ n := by
    have hlow := Nat.log2_self_le hne
    rwa [← hlog, Nat.pow_add] at hlow
  have hquotient := (Nat.le_div_iff_mul_le (powerOf_pos Nat.two_pos _)).mpr hpow
  exact Nat.le_trans hquotient (le_roundDiv .toEven n _)

theorem nearest_mono (h : n ≤ n') : nearest n ≤ nearest n' := by
  rcases Nat.lt_or_eq_of_le (excess_mono h) with hlt | heq
  · -- The smaller number ends below the power of two at which the larger one begins.
    calc nearest n ≤ 0x20000000000000 * powerOf 2 (excess n) :=
          Nat.mul_le_mul_right _ (roundDiv_excess_le n)
      _ = 0x10000000000000 * powerOf 2 (excess n + 1) := by
          rw [powerOf_succ, ← Nat.mul_assoc]
      _ ≤ 0x10000000000000 * powerOf 2 (excess n') :=
          Nat.mul_le_mul_left _ (powerOf_le_powerOf Nat.two_pos hlt)
      _ ≤ nearest n' := Nat.mul_le_mul_right _ (le_roundDiv_excess (by omega))
  · rw [nearest, nearest, heq]
    exact Nat.mul_le_mul_right _ (roundDiv_mono .toEven h _)

/-- Within the range of the format there is a nearest number. -/
theorem exists_ofRatio?_nearest (h : excess n < 2045) :
    ∃ m, ofRatio? n 1 = some m ∧ m.steps = nearest n := by
  have hle := roundDiv_excess_le n
  have hexcess : n.log2 - 52 = excess n := rfl
  simp only [ofRatio?, Nat.div_one, Nat.one_mul, hexcess]
  by_cases hnormal : roundDiv .toEven n (powerOf 2 (excess n)) < 0x20000000000000
  · have hlow : excess n = 0 ∨ 0x10000000000000 ≤ roundDiv .toEven n (powerOf 2 (excess n)) := by
      rcases Nat.eq_zero_or_pos (excess n) with hzero | hpos
      · exact Or.inl hzero
      · exact Or.inr (le_roundDiv_excess (by omega))
    exact ⟨_, dif_pos ⟨hnormal, Nat.le_of_lt h, hlow⟩, rfl⟩
  · -- Rounding reached the next power of two.
    refine ⟨_, (dif_neg fun hall => hnormal hall.1).trans (dif_pos h), ?_⟩
    have hround : roundDiv .toEven n (powerOf 2 (excess n)) = 0x20000000000000 := by omega
    rw [nearest, hround]
    show 0x10000000000000 * powerOf 2 (excess n + 1) = _
    rw [powerOf_succ, ← Nat.mul_assoc]

end Magnitude

namespace Binary64

/-- The signed steps of the number nearest to an integer. -/
def nearestSteps (n : Int) : Int :=
  signed (decide (n < 0)) (Magnitude.nearest (n.natAbs * Magnitude.one))

theorem nearestSteps_mono {a b : Int} (h : a ≤ b) : nearestSteps a ≤ nearestSteps b := by
  unfold nearestSteps
  have hsizes {m n : Nat} (hmn : m ≤ n) :
      Magnitude.nearest (m * Magnitude.one) ≤ Magnitude.nearest (n * Magnitude.one) :=
    Magnitude.nearest_mono (Nat.mul_le_mul_right _ hmn)
  by_cases ha : a < 0
  · by_cases hb : b < 0
    · have hsize := @hsizes b.natAbs a.natAbs (by omega)
      simp only [signed, ha, hb, decide_true, if_true]
      omega
    · simp only [signed, ha, hb, decide_true, decide_false, if_true, Bool.false_eq_true, if_false]
      omega
  · have hb : ¬ b < 0 := by omega
    have hsize := @hsizes a.natAbs b.natAbs (by omega)
    simp only [signed, ha, hb, decide_false, Bool.false_eq_true, if_false]
    omega

/-- Integers of 64 bits are well within the range of the format. -/
theorem key?_ofInt {n : Int} (h : n.natAbs < 0x10000000000000000) :
    (ofInt n).key? = some (0, nearestSteps n) := by
  have hlt : n.natAbs < powerOf 2 64 := h
  have hsize : n.natAbs * Magnitude.one ≤ powerOf 2 (64 + 1074) := by
    rw [powerOf_add, Magnitude.one]
    exact Nat.mul_le_mul_right (powerOf 2 1074) (Nat.le_of_lt hlt)
  have hexcess := Magnitude.excess_mono hsize
  rw [Magnitude.excess_powerOf] at hexcess
  obtain ⟨m, hm, hsteps⟩ := Magnitude.exists_ofRatio?_nearest
    (Nat.lt_of_le_of_lt hexcess (by decide))
  rw [ofInt, ofRatio_of_magnitude hm, nearestSteps, ← hsteps]
  cases decide (n < 0) <;> rfl

end Binary64

end Reshape
