import Mathlib
import Reshape.Json.Parser
import Reshape.Json.Printer

/-! What is read back from the JSON texts of strings and of integers. -/
namespace Reshape.Json

theorem skipSpace_append {blanks : List Char} (h : ∀ c ∈ blanks, isSpace c = true)
    (text : List Char) : skipSpace (blanks ++ text) = skipSpace text :=
  List.dropWhile_append_of_pos h

theorem skipSpace_cons {c : Char} (h : isSpace c = false) (text : List Char) :
    skipSpace (c :: text) = c :: text := by
  simp [skipSpace, h]

/-- White space, then a character that is read as the next one. -/
theorem skipSpace_append_cons {blanks : List Char} (h : ∀ c ∈ blanks, isSpace c = true) {c : Char}
    (hc : isSpace c = false) (text : List Char) :
    skipSpace (blanks ++ c :: text) = c :: text := by
  rw [skipSpace_append h, skipSpace_cons hc]

theorem hex4?_hexPair : ∀ n < 32,
    hex4? '0' '0' (Nat.digitChar (n / 16 % 16)) (Nat.digitChar (n % 16)) = some n := by
  decide

/-- An escaped character is read as the character. -/
theorem string?_escape (c : Char) (text : List Char) :
    string? (escape c ++ text) = push c (string? text) := by
  unfold escape
  split_ifs with hquote hslash h8 h12 hn hr ht hcontrol
  · subst hquote
    rfl
  · subst hslash
    rfl
  · obtain rfl : c = '\x08' := Char.toNat_inj.mp h8
    rfl
  · obtain rfl : c = '\x0c' := Char.toNat_inj.mp h12
    rfl
  · subst hn
    rfl
  · subst hr
    rfl
  · subst ht
    rfl
  · have hhex := hex4?_hexPair c.toNat hcontrol
    have hlow : ¬(0xD800 ≤ c.toNat ∧ c.toNat < 0xDC00) := by omega
    have hhigh : ¬(0xDC00 ≤ c.toNat ∧ c.toNat < 0xE000) := by omega
    simp only [hexPair, List.cons_append, List.nil_append, string?, hhex, if_neg hlow, if_neg hhigh,
      Char.ofNat_toNat]
  · rw [List.singleton_append, string?.eq_def]
    split <;> simp_all

theorem string?_escaped (s rest : List Char) :
    string? (s.flatMap escape ++ '"' :: rest) = some (s, rest) := by
  induction s with
  | nil => rfl
  | cons c s ih =>
    rw [List.flatMap_cons, List.append_assoc, string?_escape, ih]
    rfl

/-- The text after a number does not go on with it. -/
def EndsNumber (text : List Char) : Prop :=
  ∀ c ∈ text.head?, c.isDigit = false ∧ c ≠ '.' ∧ c ≠ 'e' ∧ c ≠ 'E'

theorem endsNumber_nil : EndsNumber [] := by simp [EndsNumber]

theorem endsNumber_of_space {c : Char} (h : isSpace c = true) (text : List Char) :
    EndsNumber (c :: text) := by
  have hc : c = ' ' ∨ c = '\t' ∨ c = '\n' ∨ c = '\r' := by simpa [isSpace, or_assoc] using h
  rintro d ⟨⟩
  rcases hc with rfl | rfl | rfl | rfl <;> decide

/-- White space and whatever ends a number after it. -/
theorem endsNumber_append {blanks : List Char} (h : ∀ c ∈ blanks, isSpace c = true)
    {text : List Char} (htext : EndsNumber text) : EndsNumber (blanks ++ text) := by
  cases blanks with
  | nil => exact htext
  | cons c rest => exact endsNumber_of_space (h c List.mem_cons_self) _

theorem head_toDigits {n : Nat} (h : (Nat.toDigits 10 n).head? = some '0') : n = 0 := by
  induction n using Nat.strong_induction_on with
  | _ n ih =>
    by_cases hn : n < 10
    · rw [Nat.toDigits_of_lt_base hn] at h
      exact Nat.digitChar_eq_zero.mp (by simpa using h)
    · have hrest : n / 10 = 0 := by
        rw [Nat.toDigits_of_base_le (by decide) (by omega),
          List.head?_append_of_ne_nil _ Nat.toDigits_ne_nil] at h
        exact ih (n / 10) (by omega) h
      omega

theorem toDigits_eq_cons (n : Nat) :
    ∃ c digits, Nat.toDigits 10 n = c :: digits ∧ c.isDigit = true := by
  have hdigits : ∀ c ∈ Nat.toDigits 10 n, c.isDigit = true :=
    fun c hc => Nat.isDigit_of_mem_toDigits (by decide) (by decide) hc
  cases hcons : Nat.toDigits 10 n with
  | nil => exact (Nat.toDigits_ne_nil hcons).elim
  | cons c digits => exact ⟨c, digits, rfl, hdigits c (by simp [hcons])⟩

theorem takeWhile_toDigits (n : Nat) {rest : List Char} (h : EndsNumber rest) :
    (Nat.toDigits 10 n ++ rest).takeWhile Char.isDigit = Nat.toDigits 10 n ∧
      (Nat.toDigits 10 n ++ rest).dropWhile Char.isDigit = rest := by
  have hdigits : ∀ c ∈ Nat.toDigits 10 n, c.isDigit = true :=
    fun c hc => Nat.isDigit_of_mem_toDigits (by decide) (by decide) hc
  rw [List.takeWhile_append_of_pos hdigits, List.dropWhile_append_of_pos hdigits]
  cases rest with
  | nil => simp
  | cons c rest => simp [(h c rfl).1]

theorem fraction?_of_ends {rest : List Char} (h : EndsNumber rest) :
    fraction? rest = some (none, rest) := by
  unfold fraction?
  split
  · exact ((h '.' rfl).2.1 rfl).elim
  · rfl

theorem exponent?_of_ends {rest : List Char} (h : EndsNumber rest) :
    exponent? rest = some (none, rest) := by
  cases rest with
  | nil => rfl
  | cons c rest =>
    obtain ⟨-, -, he, hE⟩ := h c rfl
    simp [exponent?, he, hE]

/-- A sign and digits as they are written. -/
def signed (negative : Bool) (n : Nat) : List Char :=
  (if negative then ['-'] else []) ++ Nat.toDigits 10 n

theorem toDigits_ne_minus (n : Nat) (rest text : List Char) :
    Nat.toDigits 10 n ++ rest ≠ '-' :: text := by
  obtain ⟨c, digits, hcons, hc⟩ := toDigits_eq_cons n
  rw [hcons]
  rintro ⟨⟩
  exact absurd hc (by decide)

theorem number?_signed (negative : Bool) (n : Nat) {rest : List Char} (h : EndsNumber rest) :
    number? (signed negative n ++ rest) =
      (whole? negative (Nat.toDigits 10 n)).map fun v => (v, rest) := by
  have hwhole : ¬((Nat.toDigits 10 n).isEmpty = true ∨
      ((Nat.toDigits 10 n).head? = some '0' ∧ Nat.toDigits 10 n ≠ ['0'])) := by
    rintro (hempty | ⟨hzero, hmore⟩)
    · exact Nat.toDigits_ne_nil (List.isEmpty_iff.mp hempty)
    · rw [head_toDigits hzero] at hmore
      exact hmore rfl
  obtain ⟨htake, hdrop⟩ := takeWhile_toDigits n h
  unfold number?
  split
  rename_i negative' text hsign
  obtain ⟨rfl, rfl⟩ : negative' = negative ∧ text = Nat.toDigits 10 n ++ rest := by
    cases negative with
    | true =>
      cases hsign
      exact ⟨rfl, rfl⟩
    | false =>
      split at hsign
      · rename_i heq
        exact (toDigits_ne_minus n rest _ heq).elim
      · cases hsign
        exact ⟨rfl, rfl⟩
  simp only [htake, hdrop, if_neg hwhole, fraction?_of_ends h, exponent?_of_ends h,
    Option.bind_eq_bind, Option.bind_some]
  cases whole? negative' (Nat.toDigits 10 n) <;> rfl

theorem digitsValue_toDigits (n : Nat) : digitsValue (Nat.toDigits 10 n) = n :=
  Nat.ofDigitChars_ten_toDigits

theorem whole?_toDigits (n : Int64) :
    whole? (decide (n.toInt < 0)) (Nat.toDigits 10 n.toInt.natAbs) = some (.int n) := by
  have hlow := n.le_toInt
  have hhigh := n.toInt_lt
  by_cases hneg : n.toInt < 0
  · have hrange : n.toInt.natAbs ≠ 0 ∧ n.toInt.natAbs ≤ 0x8000000000000000 := by omega
    have habs : -(n.toInt.natAbs : Int) = n.toInt := by omega
    simp only [whole?, hneg, decide_true, if_true, digitsValue_toDigits, if_pos hrange, habs,
      Int64.ofInt_toInt]
  · have hrange : n.toInt.natAbs < 0x8000000000000000 := by omega
    have habs : (n.toInt.natAbs : Int) = n.toInt := by omega
    simp only [whole?, hneg, decide_false, Bool.false_eq_true, if_false, digitsValue_toDigits,
      if_pos hrange, habs, Int64.ofInt_toInt]

/-- Every integer of 64 bits is read back as itself. -/
theorem number?_intText (n : Int64) {rest : List Char} (h : EndsNumber rest) :
    number? (intText n.toInt ++ rest) = some (.int n, rest) := by
  have htext : intText n.toInt = signed (decide (n.toInt < 0)) n.toInt.natAbs := by
    simp [intText, signed]
  rw [htext, number?_signed _ _ h, whole?_toDigits]
  rfl

/-- The characters that numbers begin with. -/
def BeginsNumber (c : Char) : Prop := c.isDigit = true ∨ c = '-'

instance (c : Char) : Decidable (BeginsNumber c) := inferInstanceAs (Decidable (_ ∨ _))

theorem BeginsNumber.isSpace {c : Char} (h : BeginsNumber c) : isSpace c = false := by
  rw [Bool.eq_false_iff]
  intro hspace
  rcases h with hdigit | rfl
  · have hends := endsNumber_of_space hspace [] c rfl
    simp [hdigit] at hends
  · exact absurd hspace (by decide)

theorem intText_eq_cons (n : Int) : ∃ c text, intText n = c :: text ∧ BeginsNumber c := by
  obtain ⟨c, digits, hcons, hc⟩ := toDigits_eq_cons n.natAbs
  by_cases hn : n < 0
  · exact ⟨'-', Nat.toDigits 10 n.natAbs, by simp [intText, hn], Or.inr rfl⟩
  · exact ⟨c, digits, by simp [intText, hn, hcons], Or.inl hc⟩

end Reshape.Json
