import Reshape.Proofs.NeutralOperands
import Reshape.Proofs.Numerals

/-! When a text counts as true. A numeral does when it is not zero, and any other text but the words
for false when it is not empty, apart from the texts that name no number. -/
namespace Reshape

open Value

variable {s : String} {text : List Char}

theorem Binary64.isNonzero_iff {x : Binary64} (h : x.isNaN = false) :
    x.isNonzero = true ↔ x.numEq .zero = false := by
  cases x with
  | nan => cases h
  | infinite negative => cases negative <;> exact iff_of_true rfl rfl
  | finite negative m =>
    have hsteps : signedSteps negative m = 0 ↔ m.mantissa = 0 := by
      rw [← Magnitude.steps_eq_zero_iff]
      cases negative <;> simp [signedSteps]
    rw [← Bool.not_eq_true, zero, numEq_finite_iff, signedSteps_zero, hsteps]
    simp [isNonzero]

theorem Numeral.isNaN_value (n : Numeral) : n.value.isNaN = false := by
  simp only [value, Binary64.ofDecimal]
  split_ifs
  · rfl
  · rfl
  · split <;> rfl

/-- The text names NaN, in any case and perhaps with a sign. -/
def NamesNaN (text : List Char) : Prop :=
  ∃ (sign : Numeral.Sign) (name : List Char),
    text = sign.text ++ name ∧ name.map Char.toLower = "nan".toList

theorem NamesNaN.exists_mem (h : NamesNaN text) : ∃ c ∈ text, c.toLower = 'n' := by
  obtain ⟨sign, name, rfl, hname⟩ := h
  have hmem : 'n' ∈ name.map Char.toLower := by simp [hname]
  obtain ⟨c, hc, hlower⟩ := List.mem_map.mp hmem
  exact ⟨c, List.mem_append_right _ hc, hlower⟩

theorem toLower_of_isDigit {c : Char} (h : c.isDigit = true) : c.toLower = c := by
  have hhigh := (Char.isDigit_iff_toNat.mp h).2
  have hnot : ¬(c.val ≥ 'A'.val ∧ c.val ≤ 'Z'.val) := by
    rintro ⟨hge, -⟩
    have hlow : 65 ≤ c.toNat := hge
    have hnine : '9'.toNat = 57 := rfl
    omega
  rw [Char.toLower, dif_neg hnot]

/-- No numeral has the letter. -/
theorem NamesNaN.ne_text (h : NamesNaN text) (n : Numeral) : text ≠ n.text := by
  rintro rfl
  obtain ⟨c, hc, hlower⟩ := h.exists_mem
  rcases Numeral.mem_text hc with hdigit | hmark
  · rw [toLower_of_isDigit hdigit] at hlower
    subst hlower
    exact absurd hdigit (by decide)
  · have hmarks : ∀ d ∈ ['+', '-', '.', 'e', 'E'], d.toLower ≠ 'n' := by simp
    exact hmarks c hmark hlower

theorem NamesNaN.parse? (h : NamesNaN text) : Binary64.parse? text = some .nan := by
  rw [Numeral.parse?_of_not_numeral h.ne_text]
  obtain ⟨sign, name, rfl, hname⟩ := h
  have hhead : ∀ c ∈ name.head?, c ≠ '+' ∧ c ≠ '-' := by
    intro c hc
    obtain ⟨rest, rfl⟩ : ∃ rest, name = c :: rest := List.head?_eq_some_iff.mp hc
    have hlower : c.toLower = 'n' := (List.cons.inj hname).1
    constructor <;> rintro rfl <;> exact absurd hlower (by decide)
  rw [Numeral.splitSign_append sign hhead, hname]
  rfl

/-- What is read and is no numeral names NaN or an infinity. -/
theorem namesNaN_or_infinite {x : Binary64} (hnot : ∀ n : Numeral, text ≠ n.text)
    (h : Binary64.parse? text = some x) : NamesNaN text ∨ ∃ negative, x = .infinite negative := by
  rw [Numeral.parse?_of_not_numeral hnot, Binary64.ofName?] at h
  obtain ⟨sign, htext, -⟩ := Numeral.exists_sign text
  split_ifs at h with hinfinite hnan
  · exact Or.inr ⟨_, (Option.some.inj h).symm⟩
  · exact Or.inl ⟨sign, (splitSign text).2, htext, hnan⟩

theorem isTruthy_of_parse? {x : Binary64} (h : Binary64.parse? (trim s.toList) = some x) :
    (Value.string s).isTruthy = x.isNonzero := by
  simp only [isTruthy, textIsTruthy, h]

/-- A name of NaN is not true. -/
theorem NamesNaN.isTruthy (h : NamesNaN (trim s.toList)) : (Value.string s).isTruthy = false :=
  isTruthy_of_parse? h.parse?

theorem isTruthy_of_parse?_none (h : Binary64.parse? (trim s.toList) = none) :
    (Value.string s).isTruthy = true ↔
      (trim s.toList).map Char.toLower ∉ falseWords ∧ s ≠ "" := by
  simp [isTruthy, textIsTruthy, h]

theorem mem_falseWords_iff {text : List Char} :
    text ∈ falseWords ↔ String.ofList text ∈ ["false", "no", "f", "n"] := by
  simp [falseWords, ← String.toList_inj]

/-- The truth of a text as it is told: a numeral is true if its number is not zero, and any other
text, unless it is a word for false in some case, if it is not empty. -/
structure FollowsTruthRule (s : String) : Prop where
  numerals : ∀ n : Numeral, trim s.toList = n.text →
    Binary64.parse? (trim s.toList) = some n.value ∧
      ((Value.string s).isTruthy = true ↔ n.value.numEq .zero = false)
  words : (∀ n : Numeral, trim s.toList ≠ n.text) →
    String.ofList ((trim s.toList).map Char.toLower) ∉ ["false", "no", "f", "n"] →
    ((Value.string s).isTruthy = true ↔ s ≠ "")

/-- A name of NaN is neither empty nor a word for false. -/
theorem FollowsTruthRule.not_namesNaN (h : FollowsTruthRule s) : ¬ NamesNaN (trim s.toList) := by
  intro hnan
  have hne : s ≠ "" := by
    rintro rfl
    obtain ⟨c, hc, -⟩ := hnan.exists_mem
    cases hc
  have hwords : String.ofList ((trim s.toList).map Char.toLower) ∉ ["false", "no", "f", "n"] := by
    obtain ⟨sign, name, htext, hname⟩ := hnan
    rw [htext, List.map_append, hname]
    cases sign <;> decide +kernel
  have htruthy : (Value.string s).isTruthy = true := (h.words hnan.ne_text hwords).mpr hne
  rw [hnan.isTruthy] at htruthy
  cases htruthy

theorem followsTruthRule_of_not_namesNaN (h : ¬ NamesNaN (trim s.toList)) : FollowsTruthRule s where
  numerals n hn := by
    have hparse : Binary64.parse? (trim s.toList) = some n.value := hn ▸ n.parse?_text
    rw [isTruthy_of_parse? hparse, Binary64.isNonzero_iff n.isNaN_value]
    exact ⟨hparse, Iff.rfl⟩
  words hnot hwords := by
    cases hparse : Binary64.parse? (trim s.toList) with
    | none =>
      rw [isTruthy_of_parse?_none hparse, mem_falseWords_iff]
      exact and_iff_right hwords
    | some x =>
      obtain ⟨negative, rfl⟩ := (namesNaN_or_infinite hnot hparse).resolve_left h
      have hne : s ≠ "" := by
        rintro rfl
        cases hparse
      exact iff_of_true (isTruthy_of_parse? hparse) hne

/-- The rule is followed by every text that does not name NaN. -/
theorem followsTruthRule_iff : FollowsTruthRule s ↔ ¬ NamesNaN (trim s.toList) :=
  ⟨FollowsTruthRule.not_namesNaN, followsTruthRule_of_not_namesNaN⟩

/-- The name itself. -/
theorem not_followsTruthRule_nan : ¬ FollowsTruthRule "nan" :=
  fun h => h.not_namesNaN ⟨.absent, "nan".toList, by decide +kernel, by decide +kernel⟩

end Reshape
