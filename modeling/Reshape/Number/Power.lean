/-! Powers with a base of two or ten. -/
namespace Reshape

/-- A power that stays as it is in a proof; the exponents reach into the thousands. -/
def powerOf (base exponent : Nat) : Nat := Nat.pow base exponent

@[simp] theorem powerOf_zero (base : Nat) : powerOf base 0 = 1 := rfl

theorem powerOf_succ (base n : Nat) : powerOf base (n + 1) = base * powerOf base n :=
  Nat.mul_comm _ _

theorem powerOf_pos {base : Nat} (hbase : 0 < base) (n : Nat) : 0 < powerOf base n :=
  Nat.pow_pos hbase

theorem powerOf_add (base m n : Nat) : powerOf base (m + n) = powerOf base m * powerOf base n :=
  Nat.pow_add base m n

theorem powerOf_le_powerOf {base m n : Nat} (hbase : 0 < base) (h : m ≤ n) :
    powerOf base m ≤ powerOf base n :=
  Nat.pow_le_pow_right hbase h

end Reshape
