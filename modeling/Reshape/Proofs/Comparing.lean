import Reshape.Value.Order

/-! How values compare: any two of them can be compared in either direction, and values that all
count as numbers, or of which at most one does, stand in one order. -/
namespace Reshape

namespace Binary64

variable {x y z : Binary64}

theorem key?_eq_none_iff : x.key? = none ↔ x.isNaN = true := by
  cases x with
  | nan => simp [key?, isNaN]
  | infinite negative => cases negative <;> simp [key?, isNaN]
  | finite negative m => cases negative <;> simp [key?, isNaN]

theorem compare?_eq_none_iff : x.compare? y = none ↔ x.isNaN = true ∨ y.isNaN = true := by
  rw [← key?_eq_none_iff, ← key?_eq_none_iff, compare?]
  cases hx : x.key? with
  | none => simp
  | some p => cases hy : y.key? <;> simp

theorem compare?_swap (x y : Binary64) : y.compare? x = (x.compare? y).map Ordering.swap := by
  rw [compare?, compare?]
  cases hx : x.key? with
  | none => cases y.key? <;> rfl
  | some p =>
    cases hy : y.key? with
    | none => rfl
    | some q =>
      have hfirst : compare q.1 p.1 = (compare p.1 q.1).swap := Std.OrientedOrd.eq_swap
      have hsecond : compare q.2 p.2 = (compare p.2 q.2).swap := Std.OrientedOrd.eq_swap
      simp only [Option.map_some, Ordering.swap_then, hfirst, hsecond]

/-- What stands before another number: a place before its place. -/
theorem compare?_eq_lt_iff : x.compare? y = some .lt ↔
    ∃ p q, x.key? = some p ∧ y.key? = some q ∧ (p.1 < q.1 ∨ p.1 = q.1 ∧ p.2 < q.2) := by
  rw [compare?]
  cases hx : x.key? with
  | none => simp
  | some p =>
    cases hy : y.key? with
    | none => simp
    | some q => simp [Ordering.then_eq_lt, Int.compare_eq_lt]

theorem compare?_trans (hxy : x.compare? y = some .lt) (hyz : y.compare? z = some .lt) :
    x.compare? z = some .lt := by
  obtain ⟨p, q, hp, hq, hpq⟩ := compare?_eq_lt_iff.mp hxy
  obtain ⟨q', r, hq', hr, hqr⟩ := compare?_eq_lt_iff.mp hyz
  obtain rfl : q = q' := Option.some.inj (hq.symm.trans hq')
  exact compare?_eq_lt_iff.mpr ⟨p, r, hp, hr, by omega⟩

/-- A third number stands after the first one of a pair or before the second one. -/
theorem compare?_lt_or_lt (h : x.compare? y = some .lt) (hz : z.isNaN = false) :
    x.compare? z = some .lt ∨ z.compare? y = some .lt := by
  obtain ⟨p, q, hp, hq, hpq⟩ := compare?_eq_lt_iff.mp h
  cases hr : z.key? with
  | none => simp [key?_eq_none_iff.mp hr] at hz
  | some r =>
    by_cases hpr : p.1 < r.1 ∨ p.1 = r.1 ∧ p.2 < r.2
    · exact Or.inl (compare?_eq_lt_iff.mpr ⟨p, r, hp, hr, hpr⟩)
    · exact Or.inr (compare?_eq_lt_iff.mpr ⟨r, q, hr, hq, by omega⟩)

end Binary64

namespace Value

variable {a b c : Value}

/-- Whether a value counts as a number when it is compared. -/
def isNumeric (v : Value) : Bool := !v.number.isNaN

/-- Two numbers compare as numbers. -/
theorem comparePresent_of_numeric (ha : a.isNumeric = true) (hb : b.isNumeric = true) :
    a.number.compare? b.number = some (comparePresent a b) := by
  rw [comparePresent]
  cases h : a.number.compare? b.number with
  | some order => rfl
  | none =>
    simp only [isNumeric, Bool.not_eq_true'] at ha hb
    rcases Binary64.compare?_eq_none_iff.mp h with hnan | hnan
    · simp [hnan] at ha
    · simp [hnan] at hb

/-- A value that is no number compares by its text. -/
theorem comparePresent_of_text (h : a.isNumeric = false ∨ b.isNumeric = false) :
    comparePresent a b = compare a.text b.text := by
  simp only [isNumeric, Bool.not_eq_false'] at h
  rw [comparePresent, Binary64.compare?_eq_none_iff.mpr h]

theorem comparePresent_swap (a b : Value) : comparePresent b a = (comparePresent a b).swap := by
  have hnumbers := Binary64.compare?_swap a.number b.number
  rw [comparePresent, comparePresent, hnumbers]
  cases a.number.compare? b.number with
  | some order => rfl
  | none => exact Std.OrientedOrd.eq_swap

theorem comparePresent_trans_of_numeric (ha : a.isNumeric = true) (hb : b.isNumeric = true)
    (hc : c.isNumeric = true) (hab : comparePresent a b = .lt) (hbc : comparePresent b c = .lt) :
    comparePresent a c = .lt := by
  have hab' := comparePresent_of_numeric ha hb
  have hbc' := comparePresent_of_numeric hb hc
  rw [hab] at hab'
  rw [hbc] at hbc'
  have hac := Binary64.compare?_trans hab' hbc'
  rw [comparePresent_of_numeric ha hc] at hac
  exact Option.some.inj hac

/-- Texts keep one order among themselves, and so do a number and two texts. -/
theorem comparePresent_trans_of_text (hab : a.isNumeric = false ∨ b.isNumeric = false)
    (hbc : b.isNumeric = false ∨ c.isNumeric = false)
    (hac : a.isNumeric = false ∨ c.isNumeric = false) (h : comparePresent a b = .lt)
    (h' : comparePresent b c = .lt) : comparePresent a c = .lt := by
  rw [comparePresent_of_text hab] at h
  rw [comparePresent_of_text hbc] at h'
  rw [comparePresent_of_text hac]
  exact Std.TransCmp.lt_trans h h'

theorem comparePresent_lt_or_lt_of_numeric (ha : a.isNumeric = true) (hb : b.isNumeric = true)
    (hc : c.isNumeric = true) (h : comparePresent a b = .lt) :
    comparePresent a c = .lt ∨ comparePresent c b = .lt := by
  have hab := comparePresent_of_numeric ha hb
  rw [h] at hab
  have hnan : c.number.isNaN = false := by simpa [isNumeric] using hc
  have hbetween := Binary64.compare?_lt_or_lt hab hnan
  rw [comparePresent_of_numeric ha hc, comparePresent_of_numeric hc hb] at hbetween
  exact hbetween.imp Option.some.inj Option.some.inj

theorem comparePresent_lt_or_lt_of_text (ha : a.isNumeric = false) (hc : c.isNumeric = false)
    (h : comparePresent a b = .lt) : comparePresent a c = .lt ∨ comparePresent c b = .lt := by
  rw [comparePresent_of_text (Or.inl ha)] at h ⊢
  rw [comparePresent_of_text (Or.inl hc)]
  by_cases hac : compare a.text c.text = .lt
  · exact Or.inl hac
  · have hca : (compare c.text a.text).isLE := by
      rw [Std.OrientedOrd.eq_swap (a := c.text)]
      cases hcases : compare a.text c.text <;> simp_all
    exact Or.inr (Std.TransCmp.lt_of_isLE_of_lt hca h)

/-- Unless exactly two of three values count as numbers, all of them do or no two of them do. -/
theorem all_numeric_or_texts (h : [a, b, c].countP isNumeric ≠ 2) :
    (a.isNumeric = true ∧ b.isNumeric = true ∧ c.isNumeric = true) ∨
      (a.isNumeric = false ∨ b.isNumeric = false) ∧ (b.isNumeric = false ∨ c.isNumeric = false) ∧
        (a.isNumeric = false ∨ c.isNumeric = false) := by
  cases ha : a.isNumeric <;> cases hb : b.isNumeric <;> cases hc : c.isNumeric <;>
    simp_all

/-- Values that are there always compare, and the other way round in reverse. What stands before a
second value stands before all that the second one stands before, unless exactly two of the three
count as numbers. -/
theorem compare?_is_order (a b c : Value) :
    (∃ order, compare? (some a) (some b) = some order ∧
      compare? (some b) (some a) = some order.swap) ∧
    ([a, b, c].countP isNumeric ≠ 2 → compare? (some a) (some b) = some .lt →
      compare? (some b) (some c) = some .lt → compare? (some a) (some c) = some .lt) := by
  constructor
  · exact ⟨comparePresent a b, rfl, congrArg some (comparePresent_swap a b)⟩
  · intro hcount hab hbc
    have hab' : comparePresent a b = .lt := Option.some.inj hab
    have hbc' : comparePresent b c = .lt := Option.some.inj hbc
    have hac : comparePresent a c = .lt := by
      rcases all_numeric_or_texts hcount with ⟨ha, hb, hc⟩ | ⟨htab, htbc, htac⟩
      · exact comparePresent_trans_of_numeric ha hb hc hab' hbc'
      · exact comparePresent_trans_of_text htab htbc htac hab' hbc'
    exact congrArg some hac

/-- Three numbers whose texts stand in another order, and one number before two texts. -/
theorem compare?_sampleValues :
    compare? (some (.string "9")) (some (.array [.string "11"])) = some .lt ∧
      compare? (some (.int 10)) (some (.object [])) = some .lt := by
  have hnumbers := (compare?_is_order (.string "9") (.int 10) (.array [.string "11"])).2
  have htexts := (compare?_is_order (.int 10) (.string "1a") (.object [])).2
  exact ⟨hnumbers (by decide +kernel) (by decide +kernel) (by decide +kernel),
    htexts (by decide +kernel) (by decide +kernel) (by decide +kernel)⟩

/-- A text that is no number can come after the larger of two numbers and before the smaller. -/
theorem compare?_circle :
    compare? (some (.string "10")) (some (.string "1a")) = some .lt ∧
      compare? (some (.string "1a")) (some (.string "9")) = some .lt ∧
      compare? (some (.string "10")) (some (.string "9")) = some .gt := by
  decide +kernel

end Value

end Reshape
