import Reshape.Proofs.WrittenDates

/-! Texts of digits, and the texts that stand for an index: a number of 64 bits in digits, behind
any count of zeros and perhaps a plus. -/
namespace Reshape

variable {text : List Char}

theorem natural?_eq_some_iff {n : Nat} : natural? text = some n ↔
    text ≠ [] ∧ (∀ c ∈ text, c.isDigit = true) ∧ digitsValue text = n := by
  rw [natural?]
  by_cases hdigits : text ≠ [] ∧ ∀ c ∈ text, c.isDigit = true
  · rw [if_pos (by simpa using hdigits), Option.some.injEq]
    exact ⟨fun h => ⟨hdigits.1, hdigits.2, h⟩, fun h => h.2.2⟩
  · rw [if_neg (by simpa using hdigits)]
    constructor
    · intro h
      cases h
    · intro h
      exact (hdigits ⟨h.1, h.2.1⟩).elim

theorem exists_digitChar {c : Char} (h : c.isDigit = true) :
    ∃ d < 10, c.toNat - '0'.toNat = d ∧ c = Nat.digitChar d := by
  obtain ⟨hlow, hhigh⟩ := Char.isDigit_iff_toNat.mp h
  have hnat : ∀ d < 10, 48 + d = (Nat.digitChar d).toNat := by decide
  have hzero : '0'.toNat = 48 := rfl
  have hnine : '9'.toNat = 57 := rfl
  refine ⟨c.toNat - 48, by omega, rfl, Char.toNat_inj.mp ?_⟩
  rw [← hnat _ (by omega)]
  omega

/-- One more digit behind a number. -/
theorem padded_concat {width d : Nat} (hd : d < 10) (n : Nat) (hwidth : width ≠ 0) :
    padded (width + 1) (10 * n + d) = padded width n ++ [Nat.digitChar d] := by
  by_cases hn : n = 0
  · subst hn
    obtain ⟨width, rfl⟩ := Nat.exists_eq_succ_of_ne_zero hwidth
    have hzero : (Nat.toDigits 10 0) = ['0'] := rfl
    rw [Nat.mul_zero, Nat.zero_add, padded, padded, Nat.toDigits_of_lt_base hd, hzero]
    simp [List.replicate_succ']
  · have hdiv : (10 * n + d) / 10 = n := by omega
    have hmod : (10 * n + d) % 10 = d := by omega
    rw [padded, padded, Nat.toDigits_of_base_le (by decide) (by omega), hdiv, hmod]
    simp [Nat.add_sub_add_right]

/-- A text of digits is its value, written with as many digits as it has. -/
theorem padded_digitsValue (hne : text ≠ []) (h : ∀ c ∈ text, c.isDigit = true) :
    padded text.length (digitsValue text) = text := by
  induction text using List.reverseRecOn with
  | nil => exact (hne rfl).elim
  | append_singleton digits c ih =>
    obtain ⟨d, hd, hvalue, hc⟩ := exists_digitChar (h c (by simp))
    have hconcat : digitsValue (digits ++ [c]) = 10 * digitsValue digits + d := by
      rw [digitsValue, Nat.ofDigitChars_append, Nat.ofDigitChars_cons, hvalue]
      rfl
    rw [hconcat, List.length_append, List.length_singleton]
    by_cases hdigits : digits = []
    · subst hdigits
      show padded 1 (0 + d) = _
      rw [Nat.zero_add, padded, Nat.toDigits_of_lt_base hd, hc]
      rfl
    · have hfront : ∀ e ∈ digits, e.isDigit = true := fun e he => h e (List.mem_append_left _ he)
      rw [padded_concat hd _ (by simpa using hdigits), ih hdigits hfront, hc]

/-- The text stands for an index. -/
structure SpellsIndex (text : String) (i : Nat) : Prop where
  lt : i < 0x10000000000000000
  written : ∃ (plus : Bool) (width : Nat),
    text.toList = (if plus then ['+'] else []) ++ padded width i

theorem natural?_padded (width n : Nat) : natural? (padded width n) = some n := by
  obtain ⟨c, digits, hcons, -⟩ := exists_padded_eq_cons width n
  have hne : padded width n ≠ [] := by simp [hcons]
  exact natural?_eq_some_iff.mpr ⟨hne, fun c hc => isDigit_of_mem_padded hc, digitsValue_padded _ _⟩

theorem exists_padded_of_natural? {n : Nat} (h : natural? text = some n) :
    ∃ width, text = padded width n := by
  obtain ⟨hne, hdigits, rfl⟩ := natural?_eq_some_iff.mp h
  exact ⟨text.length, (padded_digitsValue hne hdigits).symm⟩

/-- A plus in front of the digits makes no difference. -/
theorem index?_append_padded (plus : Bool) (width n : Nat) :
    index? ((if plus then ['+'] else []) ++ padded width n) =
      if n < 0x10000000000000000 then some n else none := by
  have hnatural := natural?_padded width n
  cases plus with
  | true => simp only [index?, if_true, List.cons_append, List.nil_append, hnatural]
  | false =>
    obtain ⟨c, digits, hcons, hc⟩ := exists_padded_eq_cons width n
    rw [hcons] at hnatural
    rw [if_neg (by decide), List.nil_append, hcons]
    unfold index?
    split <;> simp_all

/-- An index is a number of 64 bits in what stands behind the plus. -/
theorem index?_eq_filter (text : List Char) : ∃ (plus : Bool) (digits : List Char),
    text = (if plus then ['+'] else []) ++ digits ∧
      index? text = (natural? digits).filter (· < 0x10000000000000000) := by
  unfold index?
  split
  · rename_i rest
    refine ⟨true, rest, rfl, ?_⟩
    cases hdigits : natural? rest <;> simp [hdigits, Option.filter]
  · refine ⟨false, text, rfl, ?_⟩
    cases hdigits : natural? text <;> simp [hdigits, Option.filter]

theorem index?_eq_some_iff {text : String} {i : Nat} :
    index? text.toList = some i ↔ SpellsIndex text i := by
  constructor
  · intro h
    obtain ⟨plus, digits, htext, hindex⟩ := index?_eq_filter text.toList
    rw [hindex, Option.filter_eq_some_iff] at h
    obtain ⟨width, rfl⟩ := exists_padded_of_natural? h.1
    exact ⟨by simpa using h.2, plus, width, htext⟩
  · rintro ⟨hlt, plus, width, htext⟩
    rw [htext, index?_append_padded, if_pos hlt]

theorem index?_eq_none_iff {text : String} :
    index? text.toList = none ↔ ∀ i, ¬ SpellsIndex text i := by
  simp only [← index?_eq_some_iff, Option.eq_none_iff_forall_ne_some, ne_eq]

end Reshape
