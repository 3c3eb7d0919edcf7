import Reshape.Proofs.IndexTexts

/-! Decimal numerals by their parts, and which texts are read as one. -/
namespace Reshape

namespace Numeral

/-- What stands in front of digits. -/
inductive Sign where
  | absent
  | plus
  | minus
deriving DecidableEq

namespace Sign

def text : Sign → List Char
  | absent => []
  | plus => ['+']
  | minus => ['-']

def negative : Sign → Bool
  | minus => true
  | _ => false

end Sign

/-- A power of ten behind its letter. -/
structure Exponent where
  letter : Char
  sign : Sign
  digits : List Char
  letter_eq : letter = 'e' ∨ letter = 'E'
  digits_ne_nil : digits ≠ []
  isDigit_of_mem : ∀ c ∈ digits, c.isDigit = true

namespace Exponent

def text (e : Exponent) : List Char := e.letter :: (e.sign.text ++ e.digits)

def value (e : Exponent) : Int :=
  if e.sign.negative then -(digitsValue e.digits : Int) else digitsValue e.digits

end Exponent

end Numeral

/-- A decimal numeral: a sign, digits with at most one point before, among or after them, and an
exponent. Sign, point and exponent may be left out. -/
structure Numeral where
  sign : Numeral.Sign
  whole : List Char
  fraction : Option (List Char)
  exponent : Option Numeral.Exponent
  isDigit_whole : ∀ c ∈ whole, c.isDigit = true
  isDigit_fraction : ∀ c ∈ fraction.getD [], c.isDigit = true
  digits_ne_nil : whole ++ fraction.getD [] ≠ []

namespace Numeral

/-- The fraction behind its point. -/
def pointed : Option (List Char) → List Char
  | none => []
  | some digits => '.' :: digits

def power : Option Exponent → Int
  | none => 0
  | some e => e.value

def powerText : Option Exponent → List Char
  | none => []
  | some e => e.text

/-- The text behind the sign. -/
def body (n : Numeral) : List Char := n.whole ++ (pointed n.fraction ++ powerText n.exponent)

def text (n : Numeral) : List Char := n.sign.text ++ n.body

/-- The binary number nearest to the numeral. -/
def value (n : Numeral) : Binary64 :=
  .ofDecimal n.sign.negative (digitsValue (n.whole ++ n.fraction.getD []))
    (power n.exponent - (n.fraction.getD []).length)

variable {n : Numeral} {rest : List Char}

theorem splitSign_append (sign : Sign) (h : ∀ c ∈ rest.head?, c ≠ '+' ∧ c ≠ '-') :
    splitSign (sign.text ++ rest) = (sign.negative, rest) := by
  cases sign with
  | absent =>
    show splitSign rest = _
    unfold splitSign
    split
    · exact ((h '-' rfl).2 rfl).elim
    · exact ((h '+' rfl).1 rfl).elim
    · rfl
  | plus => rfl
  | minus => rfl

theorem exists_sign (text : List Char) :
    ∃ sign : Sign, text = sign.text ++ (splitSign text).2 ∧ (splitSign text).1 = sign.negative := by
  unfold splitSign
  split
  · exact ⟨.minus, rfl, rfl⟩
  · exact ⟨.plus, rfl, rfl⟩
  · exact ⟨.absent, rfl, rfl⟩

theorem isDigit_ne_sign {c : Char} (h : c.isDigit = true) : c ≠ '+' ∧ c ≠ '-' := by
  constructor <;> rintro rfl <;> exact absurd h (by decide)

theorem head_of_digits {digits : List Char} (h : ∀ c ∈ digits, c.isDigit = true) :
    ∀ c ∈ digits.head?, c ≠ '+' ∧ c ≠ '-' := by
  intro c hc
  exact isDigit_ne_sign (h c (List.mem_of_mem_head? hc))

theorem exponent?_powerText (e : Option Exponent) : exponent? (powerText e) = some (power e) := by
  cases e with
  | none => rfl
  | some e =>
    have hnatural : natural? e.digits = some (digitsValue e.digits) :=
      natural?_eq_some_iff.mpr ⟨e.digits_ne_nil, e.isDigit_of_mem, rfl⟩
    rw [powerText, Exponent.text, exponent?, if_pos e.letter_eq,
      splitSign_append e.sign (head_of_digits e.isDigit_of_mem)]
    simp only [hnatural]
    rfl

theorem head_powerText (e : Option Exponent) :
    ∀ c ∈ (powerText e).head?, c.isDigit = false ∧ c ≠ '.' := by
  cases e with
  | none => simp [powerText]
  | some e =>
    rintro c ⟨⟩
    rcases e.letter_eq with hletter | hletter <;> simp [hletter]

/-- Digits in front of something that is no digit are read to their end. -/
theorem span_digits {digits : List Char} (hdigits : ∀ c ∈ digits, c.isDigit = true)
    (hrest : ∀ c ∈ rest.head?, c.isDigit = false) :
    (digits ++ rest).takeWhile Char.isDigit = digits ∧
      (digits ++ rest).dropWhile Char.isDigit = rest := by
  rw [List.takeWhile_append_of_pos hdigits, List.dropWhile_append_of_pos hdigits]
  cases rest with
  | nil => simp
  | cons c rest =>
    have hc : c.isDigit = false := hrest c rfl
    simp [hc]

/-- The digits behind a point, and what stands behind them. -/
def afterPoint : List Char → List Char × List Char
  | '.' :: rest => (rest.takeWhile Char.isDigit, rest.dropWhile Char.isDigit)
  | rest => ([], rest)

theorem unsigned?_eq (text : List Char) :
    unsigned? text =
      if (text.takeWhile Char.isDigit).isEmpty &&
          (afterPoint (text.dropWhile Char.isDigit)).1.isEmpty then none
      else (exponent? (afterPoint (text.dropWhile Char.isDigit)).2).map fun power =>
        (digitsValue (text.takeWhile Char.isDigit ++ (afterPoint (text.dropWhile Char.isDigit)).1),
          power - ((afterPoint (text.dropWhile Char.isDigit)).1.length : Int)) := rfl

theorem afterPoint_of_head (h : ∀ c ∈ rest.head?, c ≠ '.') : afterPoint rest = ([], rest) := by
  unfold afterPoint
  split
  · exact (h '.' rfl rfl).elim
  · rfl

theorem afterPoint_pointed {fraction : Option (List Char)}
    (hdigits : ∀ c ∈ fraction.getD [], c.isDigit = true)
    (hrest : ∀ c ∈ rest.head?, c.isDigit = false ∧ c ≠ '.') :
    afterPoint (pointed fraction ++ rest) = (fraction.getD [], rest) := by
  cases fraction with
  | none => exact afterPoint_of_head fun c hc => (hrest c hc).2
  | some digits =>
    have hchars : ∀ c ∈ digits, c.isDigit = true := hdigits
    obtain ⟨htake, hdrop⟩ := span_digits hchars fun c hc => (hrest c hc).1
    show ((digits ++ rest).takeWhile Char.isDigit, (digits ++ rest).dropWhile Char.isDigit) = _
    rw [htake, hdrop]
    rfl

theorem unsigned?_body (n : Numeral) :
    unsigned? n.body = some (digitsValue (n.whole ++ n.fraction.getD []),
      power n.exponent - (n.fraction.getD []).length) := by
  have hrest : ∀ c ∈ (pointed n.fraction ++ powerText n.exponent).head?, c.isDigit = false := by
    cases n.fraction with
    | none => exact fun c hc => (head_powerText n.exponent c hc).1
    | some digits =>
      rintro c ⟨⟩
      rfl
  obtain ⟨htake, hdrop⟩ := span_digits n.isDigit_whole hrest
  have hsome : ¬((n.whole.isEmpty && (n.fraction.getD []).isEmpty) = true) := by
    simpa using n.digits_ne_nil
  rw [unsigned?_eq, body, htake, hdrop, afterPoint_pointed n.isDigit_fraction
    (head_powerText n.exponent), if_neg hsome, exponent?_powerText, Option.map_some]

theorem head_body (n : Numeral) : ∀ c ∈ n.body.head?, c ≠ '+' ∧ c ≠ '-' := by
  intro c hc
  cases hwhole : n.whole with
  | cons d digits =>
    obtain rfl : d = c := by simpa [body, hwhole] using hc
    exact isDigit_ne_sign (n.isDigit_whole d (by simp [hwhole]))
  | nil =>
    cases hfraction : n.fraction with
    | none => exact (n.digits_ne_nil (by simp [hwhole, hfraction])).elim
    | some digits =>
      obtain rfl : '.' = c := by simpa [body, hwhole, hfraction, pointed] using hc
      decide

/-- A numeral is read as the binary number nearest to it. -/
theorem parse?_text (n : Numeral) : Binary64.parse? n.text = some n.value := by
  rw [Binary64.parse?, text, splitSign_append n.sign n.head_body]
  simp only [unsigned?_body]
  rfl

theorem exists_powerText {p : Int} (h : exponent? rest = some p) :
    ∃ e : Option Exponent, rest = powerText e := by
  cases rest with
  | nil => exact ⟨none, rfl⟩
  | cons c rest =>
    rw [exponent?] at h
    split at h
    · rename_i hletter
      obtain ⟨sign, hrest, -⟩ := exists_sign rest
      cases hdigits : natural? (splitSign rest).2 with
      | none => simp [hdigits] at h
      | some m =>
        obtain ⟨hne, hall, -⟩ := natural?_eq_some_iff.mp hdigits
        exact ⟨some ⟨c, sign, (splitSign rest).2, hletter, hne, hall⟩, congrArg (c :: ·) hrest⟩
    · cases h

theorem exists_pointed (text : List Char) : ∃ fraction : Option (List Char),
    text = pointed fraction ++ (afterPoint text).2 ∧ (afterPoint text).1 = fraction.getD [] ∧
      ∀ c ∈ fraction.getD [], c.isDigit = true := by
  unfold afterPoint
  split
  · rename_i rest
    refine ⟨some (rest.takeWhile Char.isDigit), ?_, rfl, fun c hc => List.mem_takeWhile_imp hc⟩
    rw [pointed, List.cons_append, List.takeWhile_append_dropWhile]
  · exact ⟨none, rfl, rfl, by simp⟩

/-- What is read as digits with a point and an exponent is the text of a numeral behind any sign. -/
theorem exists_body {text : List Char} {p : Nat × Int} (h : unsigned? text = some p) (sign : Sign) :
    ∃ n : Numeral, sign.text ++ text = n.text := by
  obtain ⟨fraction, hpointed, hfraction, hdigits⟩ := exists_pointed (text.dropWhile Char.isDigit)
  rw [unsigned?_eq, hfraction] at h
  obtain ⟨hsome, h⟩ := Option.ite_none_left_eq_some.mp h
  obtain ⟨power, hpower, -⟩ := Option.map_eq_some_iff.mp h
  obtain ⟨exponent, hexponent⟩ := exists_powerText hpower
  have hne : text.takeWhile Char.isDigit ++ fraction.getD [] ≠ [] := by simpa using hsome
  refine ⟨⟨sign, text.takeWhile Char.isDigit, fraction, exponent,
    fun c hc => List.mem_takeWhile_imp hc, hdigits, hne⟩, ?_⟩
  rw [Numeral.text, body, ← hexponent, ← hpointed, List.takeWhile_append_dropWhile]

/-- A text that is no numeral may still be the name of a number. -/
theorem parse?_of_not_numeral {text : List Char} (h : ∀ n : Numeral, text ≠ n.text) :
    Binary64.parse? text =
      Binary64.ofName? (splitSign text).1 ((splitSign text).2.map Char.toLower) := by
  rw [Binary64.parse?]
  cases hunsigned : unsigned? (splitSign text).2 with
  | none => simp only [hunsigned]
  | some p =>
    obtain ⟨sign, htext, -⟩ := exists_sign text
    obtain ⟨n, hn⟩ := exists_body hunsigned sign
    exact (h n (htext.trans hn)).elim

theorem Sign.mem_text {sign : Sign} {c : Char} (h : c ∈ sign.text) : c = '+' ∨ c = '-' := by
  cases sign <;> simp_all [text]

theorem mem_pointed {fraction : Option (List Char)} {c : Char} (h : c ∈ pointed fraction) :
    c = '.' ∨ c ∈ fraction.getD [] := by
  cases fraction <;> simp_all [pointed]

theorem mem_powerText {e : Option Exponent} {c : Char} (h : c ∈ powerText e) :
    c.isDigit = true ∨ c ∈ ['+', '-', 'e', 'E'] := by
  cases e with
  | none => cases h
  | some e =>
    rw [powerText, Exponent.text, List.mem_cons, List.mem_append] at h
    rcases h with rfl | h | h
    · rcases e.letter_eq with hletter | hletter <;> simp [hletter]
    · rcases Sign.mem_text h with rfl | rfl <;> simp
    · exact Or.inl (e.isDigit_of_mem c h)

/-- The characters of numerals. -/
theorem mem_text {c : Char} (h : c ∈ n.text) :
    c.isDigit = true ∨ c ∈ ['+', '-', '.', 'e', 'E'] := by
  rw [text, body, List.mem_append, List.mem_append, List.mem_append] at h
  rcases h with h | h | h | h
  · rcases Sign.mem_text h with rfl | rfl <;> simp
  · exact Or.inl (n.isDigit_whole c h)
  · rcases mem_pointed h with rfl | h
    · simp
    · exact Or.inl (n.isDigit_fraction c h)
  · rcases mem_powerText h with h | h
    · exact Or.inl h
    · refine Or.inr ?_
      simp only [List.mem_cons, List.not_mem_nil, or_false] at h ⊢
      tauto

end Numeral

end Reshape
