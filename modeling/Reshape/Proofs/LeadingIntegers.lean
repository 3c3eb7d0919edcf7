import Reshape.Proofs.Numerals
import Reshape.Proofs.Selecting

/-! Which integer is read from the start of a text: the sign and the digits behind its white space,
if there is a digit and the number has 64 bits. -/
namespace Reshape

open Numeral (Sign)

variable {sign : Sign} {text digits rest : List Char}

/-- The number with the sign. -/
def Numeral.Sign.signed (sign : Sign) (n : Nat) : Int := if sign.negative then -(n : Int) else n

/-- The number has 64 bits. -/
def FitsInt64 (n : Int) : Prop := -2 ^ 63 ≤ n ∧ n < 2 ^ 63

instance (n : Int) : Decidable (FitsInt64 n) := inferInstanceAs (Decidable (_ ∧ _))

theorem fitsInt64_toInt (n : Int64) : FitsInt64 n.toInt := by
  have hlow := n.le_toInt
  have hhigh := n.toInt_lt
  constructor <;> omega

/-- Behind its white space the text begins with a sign and these digits, and no digit follows. -/
structure BeginsWith (text : List Char) (sign : Sign) (digits : List Char) : Prop where
  digits_ne_nil : digits ≠ []
  isDigit_of_mem : ∀ c ∈ digits, c.isDigit = true
  written : ∃ blanks rest, (∀ c ∈ blanks, isBlank c = true) ∧
    (∀ c ∈ rest.head?, c.isDigit = false) ∧ text = blanks ++ (sign.text ++ (digits ++ rest))

/-- The integer of 64 bits with a sign in front and zeros behind the sign. -/
def spelled (sign : Sign) (zeros : Nat) (n : Int64) : List Char :=
  sign.text ++ (List.replicate zeros '0' ++ Nat.toDigits 10 n.toInt.natAbs)

/-- The white space ends at the sign or at the first digit. -/
theorem trimStart_sign_digits {blanks : List Char} (hblanks : ∀ c ∈ blanks, isBlank c = true)
    (hne : digits ≠ []) (hdigits : ∀ c ∈ digits, c.isDigit = true) (rest : List Char) :
    trimStart (blanks ++ (sign.text ++ (digits ++ rest))) = sign.text ++ (digits ++ rest) := by
  have hsolid : ∀ c ∈ (sign.text ++ (digits ++ rest)).head?, isBlank c = false := by
    intro c hc
    obtain ⟨d, more, rfl⟩ := List.exists_cons_of_ne_nil hne
    cases sign with
    | absent =>
      cases hc
      exact isBlank_of_isDigit (hdigits c List.mem_cons_self)
    | plus =>
      cases hc
      decide
    | minus =>
      cases hc
      decide
  rw [trimStart_append_of_blank hblanks, trimStart_of_head hsolid]

/-- What is taken as the integer is the sign and all digits right behind it. -/
theorem leadingInteger_eq (text : List Char) :
    ∃ sign : Sign, text = sign.text ++ (splitSign text).2 ∧
      leadingInteger text = sign.text ++ (splitSign text).2.takeWhile Char.isDigit := by
  unfold splitSign
  split
  · exact ⟨.minus, rfl, rfl⟩
  · exact ⟨.plus, rfl, rfl⟩
  · rename_i hminus hplus
    refine ⟨.absent, rfl, ?_⟩
    cases text with
    | nil => rfl
    | cons c rest =>
      have hc : ¬(c = '-' ∨ c = '+') := by
        rintro (rfl | rfl)
        · exact hminus rest rfl
        · exact hplus rest rfl
      rw [leadingInteger, if_neg hc]
      rfl

theorem BeginsWith.leadingInteger_eq (h : BeginsWith text sign digits) :
    leadingInteger (trimStart text) = sign.text ++ digits := by
  obtain ⟨blanks, rest, hblanks, hrest, rfl⟩ := h.written
  have hhead : ∀ c ∈ (digits ++ rest).head?, c ≠ '+' ∧ c ≠ '-' := by
    intro c hc
    rw [List.head?_append_of_ne_nil _ h.digits_ne_nil] at hc
    exact Numeral.head_of_digits h.isDigit_of_mem c hc
  obtain ⟨sign', htext, hleading⟩ := Reshape.leadingInteger_eq (sign.text ++ (digits ++ rest))
  rw [Numeral.splitSign_append sign hhead] at htext hleading
  have hsign : sign.text = sign'.text := List.append_cancel_right htext
  obtain ⟨htake, -⟩ := Numeral.span_digits h.isDigit_of_mem hrest
  rw [trimStart_sign_digits hblanks h.digits_ne_nil h.isDigit_of_mem, hleading, htake, hsign]

/-- A text begins with a sign and digits, or there is no digit to be taken. -/
theorem beginsWith_or (text : List Char) : (∃ sign digits, BeginsWith text sign digits) ∨
    ∃ sign : Sign, leadingInteger (trimStart text) = sign.text := by
  obtain ⟨sign, htext, hleading⟩ := leadingInteger_eq (trimStart text)
  let body := (splitSign (trimStart text)).2
  by_cases hdigits : body.takeWhile Char.isDigit = []
  · exact Or.inr ⟨sign, by rw [hleading, hdigits, List.append_nil]⟩
  · refine Or.inl ⟨sign, body.takeWhile Char.isDigit, hdigits, fun c => List.mem_takeWhile_imp, ?_⟩
    refine ⟨text.takeWhile isBlank, body.dropWhile Char.isDigit, fun c => List.mem_takeWhile_imp,
      ?_, ?_⟩
    · intro c hc
      have := List.head?_dropWhile_not Char.isDigit body
      simpa [show (body.dropWhile Char.isDigit).head? = some c from hc] using this
    · rw [List.takeWhile_append_dropWhile, ← htext]
      exact (List.takeWhile_append_dropWhile).symm

theorem int64?_sign (sign : Sign) : int64? sign.text = none := by
  cases sign <;> rfl

/-- A sign and digits are read as their number if it has 64 bits. -/
theorem int64?_sign_digits (hne : digits ≠ []) (hdigits : ∀ c ∈ digits, c.isDigit = true) :
    int64? (sign.text ++ digits) =
      if FitsInt64 (sign.signed (digitsValue digits)) then
        some (Int64.ofInt (sign.signed (digitsValue digits)))
      else none := by
  have hnatural : natural? digits = some (digitsValue digits) :=
    natural?_eq_some_iff.mpr ⟨hne, hdigits, rfl⟩
  have hlow : Int64.minValue.toInt = -2 ^ 63 := by decide
  have hhigh : Int64.maxValue.toInt = 2 ^ 63 - 1 := by decide
  rw [int64?, integer?, Numeral.splitSign_append sign (Numeral.head_of_digits hdigits), hlow, hhigh]
  simp only [hnatural, Sign.signed, FitsInt64, Int.le_sub_one_iff]
  split_ifs <;> rfl

theorem toInteger_leading (s : String) : toInteger (some (.string s)) =
    match int64? (leadingInteger (trimStart s.toList)) with
    | some n => .int n
    | none => .float .nan := rfl

theorem toInteger_of_beginsWith {s : String} (h : BeginsWith s.toList sign digits) :
    toInteger (some (.string s)) =
      if FitsInt64 (sign.signed (digitsValue digits)) then
        .int (Int64.ofInt (sign.signed (digitsValue digits)))
      else .float .nan := by
  rw [toInteger_leading, h.leadingInteger_eq, int64?_sign_digits h.digits_ne_nil h.isDigit_of_mem]
  split_ifs <;> rfl

/-- No number comes out when there is no digit to be taken or the number is too large. -/
theorem toInteger_eq_nan_iff (s : String) : toInteger (some (.string s)) = .float .nan ↔
    (¬ ∃ sign digits, BeginsWith s.toList sign digits) ∨
      ∃ sign digits, BeginsWith s.toList sign digits ∧
        ¬ FitsInt64 (sign.signed (digitsValue digits)) := by
  constructor
  · intro hnan
    by_cases hbegins : ∃ sign digits, BeginsWith s.toList sign digits
    · obtain ⟨sign, digits, h⟩ := hbegins
      refine Or.inr ⟨sign, digits, h, ?_⟩
      intro hfits
      rw [toInteger_of_beginsWith h, if_pos hfits] at hnan
      cases hnan
    · exact Or.inl hbegins
  · rintro (hnone | ⟨sign, digits, h, hlarge⟩)
    · obtain ⟨sign, hsign⟩ := (beginsWith_or s.toList).resolve_left hnone
      rw [toInteger_leading, hsign, int64?_sign]
    · rw [toInteger_of_beginsWith h, if_neg hlarge]

theorem beginsWith_spelled {blanks : List Char} (hblanks : ∀ c ∈ blanks, isBlank c = true)
    (hrest : ∀ c ∈ rest.head?, c.isDigit = false) (zeros : Nat) (n : Int64) :
    BeginsWith (blanks ++ (spelled sign zeros n ++ rest)) sign
      (List.replicate zeros '0' ++ Nat.toDigits 10 n.toInt.natAbs) where
  digits_ne_nil := by simp [Nat.toDigits_ne_nil]
  isDigit_of_mem := by
    intro c hc
    rcases List.mem_append.mp hc with hzero | hdigit
    · rw [List.eq_of_mem_replicate hzero]
      rfl
    · exact Nat.isDigit_of_mem_toDigits (by decide) (by decide) hdigit
  written := ⟨blanks, rest, hblanks, hrest, by simp [spelled]⟩

theorem signed_spelled {n : Int64} (hsign : sign.negative = decide (n.toInt < 0)) (zeros : Nat) :
    sign.signed (digitsValue (List.replicate zeros '0' ++ Nat.toDigits 10 n.toInt.natAbs)) =
      n.toInt := by
  have hvalue : digitsValue (List.replicate zeros '0' ++ Nat.toDigits 10 n.toInt.natAbs) =
      n.toInt.natAbs := by
    simp [digitsValue, Nat.ofDigitChars_append, Nat.ofDigitChars_replicate_zero]
  rw [Sign.signed, hvalue, hsign]
  by_cases hneg : n.toInt < 0
  · simp only [hneg, decide_true, if_true]
    omega
  · simp only [hneg, decide_false, Bool.false_eq_true, if_false]
    omega

theorem toInteger_spelled {n : Int64} {zeros : Nat} {blanks : List Char}
    (hsign : sign.negative = decide (n.toInt < 0)) (hblanks : ∀ c ∈ blanks, isBlank c = true)
    (hrest : ∀ c ∈ rest.head?, c.isDigit = false) :
    toInteger (some (.string (String.ofList (blanks ++ (spelled sign zeros n ++ rest))))) =
      .int n := by
  have hbegins : BeginsWith (String.ofList (blanks ++ (spelled sign zeros n ++ rest))).toList sign
      (List.replicate zeros '0' ++ Nat.toDigits 10 n.toInt.natAbs) := by
    rw [String.toList_ofList]
    exact beginsWith_spelled hblanks hrest zeros n
  rw [toInteger_of_beginsWith hbegins, signed_spelled hsign, if_pos (fitsInt64_toInt n),
    Int64.ofInt_toInt]

/-- An integer is printed without a plus and without zeros in front. -/
theorem applyFilter_tostring_int (env : Environment) (scope root : Value) (n : Int64) :
    applyFilter env "tostring" [] scope root (some (.int n)) = .ok (some (.string
      (String.ofList (spelled (if n.toInt < 0 then .minus else .absent) 0 n)))) := by
  have hprint : applyFilter env "tostring" [] scope root (some (.int n)) =
      .ok (some (.string (String.ofList (intText n.toInt)))) :=
    applyFilter_of_resolved (f := .toText) (by decide) rfl (some (.int n))
  rw [hprint]
  by_cases hneg : n.toInt < 0 <;> simp [intText, spelled, hneg, Sign.text]

theorem applyFilter_int (env : Environment) (scope root : Value) (v : Value) :
    applyFilter env "int" [] scope root (some v) = .ok (some (toInteger (some v))) :=
  applyFilter_of_resolved (f := .toInt) (by decide) rfl (some v)

/-- An integer is read from the start of a text however it is spelled there, as it is printed or
with a plus, with zeros, and behind white space, and whatever stands behind its last digit. No
number comes out exactly when no digit stands there, behind a sign or not, or the number of all the
digits there does not fit into 64 bits. -/
theorem applyFilter_int_leading (env : Environment) (scope root : Value) :
    (∀ n : Int64, applyFilter env "tostring" [] scope root (some (.int n)) = .ok (some (.string
      (String.ofList (spelled (if n.toInt < 0 then .minus else .absent) 0 n))))) ∧
    (∀ (n : Int64) (sign : Sign) (zeros : Nat) (blanks rest : List Char),
      sign.negative = decide (n.toInt < 0) → (∀ c ∈ blanks, isBlank c = true) →
      (∀ c ∈ rest.head?, c.isDigit = false) →
      applyFilter env "int" [] scope root
        (some (.string (String.ofList (blanks ++ (spelled sign zeros n ++ rest))))) =
          .ok (some (.int n))) ∧
    ∀ s : String,
      applyFilter env "int" [] scope root (some (.string s)) = .ok (some (.float .nan)) ↔
        (¬ ∃ sign digits, BeginsWith s.toList sign digits) ∨
          ∃ sign digits, BeginsWith s.toList sign digits ∧
            ¬ FitsInt64 (sign.signed (digitsValue digits)) := by
  refine ⟨applyFilter_tostring_int env scope root, ?_, ?_⟩
  · intro n sign zeros blanks rest hsign hblanks hrest
    rw [applyFilter_int, toInteger_spelled hsign hblanks hrest]
  · intro s
    rw [applyFilter_int, Except.ok.injEq, Option.some.injEq]
    exact toInteger_eq_nan_iff s

/-- The least integer with more zeros and white space than it needs and a digit outside ASCII behind
it, and the first number that is too large, in front of a point. -/
theorem applyFilter_int_leading_bounds :
    applyFilter ⟨⟨0, 0⟩, id⟩ "int" [] .null .null
        (some (.string "\u3000\t-009223372036854775808\u0663")) =
          .ok (some (.int (-9223372036854775808))) ∧
      applyFilter ⟨⟨0, 0⟩, id⟩ "int" [] .null .null (some (.string "+9223372036854775808.5")) =
        .ok (some (.float .nan)) := by
  obtain ⟨-, hspelled, hnan⟩ := applyFilter_int_leading ⟨⟨0, 0⟩, id⟩ .null .null
  have hblanks : ∀ c ∈ ['\u3000', '\t'], isBlank c = true := by simp [isBlank, blankRanges]
  have hrest : ∀ c ∈ ['\u0663'].head?, c.isDigit = false := by simp [Char.isDigit]
  have hleast := hspelled (-9223372036854775808) .minus 2 _ _ (by decide) hblanks hrest
  have hdigits : "9223372036854775808".toList.all Char.isDigit = true := by cbv
  have hlarge : BeginsWith "+9223372036854775808.5".toList .plus "9223372036854775808".toList :=
    ⟨by decide, List.all_eq_true.mp hdigits, [], ['.', '5'], by simp, by simp, by decide⟩
  exact ⟨hleast, (hnan _).mpr (Or.inr ⟨_, _, hlarge, by decide +kernel⟩)⟩

end Reshape
