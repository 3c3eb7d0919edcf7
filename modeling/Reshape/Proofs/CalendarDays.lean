import Mathlib
import Reshape.Calendar.Date

/-! Dates and the count of days are the same thing told in two ways: every day has one date, and
every date of the calendar has one day. -/
namespace Reshape

variable {year other days : Int}

/-- How many days a year has. -/
def yearLength (year : Int) : Int := if isLeapYear year then 366 else 365

theorem isLeapYear_iff : isLeapYear year = true ↔
    year % 4 = 0 ∧ (year % 100 ≠ 0 ∨ year % 400 = 0) := by
  simp [isLeapYear]

theorem yearStart_succ (year : Int) : yearStart (year + 1) = yearStart year + yearLength year := by
  have hleap := @isLeapYear_iff year
  simp only [yearStart, yearLength, leapYearsThrough]
  split_ifs with h
  · have := hleap.mp h
    omega
  · have := mt hleap.mpr h
    omega

/-- A year begins after all years before it have ended. -/
theorem yearStart_succ_le (h : year < other) : yearStart (year + 1) ≤ yearStart other := by
  simp only [yearStart, leapYearsThrough]
  omega

theorem yearStart_mono (h : year ≤ other) : yearStart year ≤ yearStart other := by
  simp only [yearStart, leapYearsThrough]
  omega

namespace Date

/-- The estimate of the year misses by one at most. -/
theorem guess_bounds (days : Int) :
    yearStart (1970 + days * 400 / 146097 - 1) ≤ days ∧
      days < yearStart (1970 + days * 400 / 146097 + 2) := by
  simp only [yearStart, leapYearsThrough]
  omega

theorem yearOfDays_spec (days : Int) :
    yearStart (yearOfDays days) ≤ days ∧ days < yearStart (yearOfDays days + 1) := by
  obtain ⟨hlow, hhigh⟩ := guess_bounds days
  simp only [yearOfDays]
  split_ifs with hbefore hafter
  · exact ⟨hlow, by simpa using hbefore⟩
  · exact ⟨hafter, by simpa [Int.add_assoc] using hhigh⟩
  · omega

/-- A span of whole years holds the years of its days. -/
theorem yearOfDays_mem {first last : Int} (hlow : yearStart first ≤ days)
    (hhigh : days < yearStart last) : first ≤ yearOfDays days ∧ yearOfDays days < last := by
  obtain ⟨hstart, hend⟩ := yearOfDays_spec days
  constructor
  · refine Int.not_lt.mp fun hlt => ?_
    have := yearStart_succ_le hlt
    omega
  · refine Int.not_le.mp fun hle => ?_
    have := yearStart_mono hle
    omega

/-- A day is in one year only. -/
theorem yearOfDays_eq (hlow : yearStart year ≤ days) (hhigh : days < yearStart (year + 1)) :
    yearOfDays days = year := by
  have := yearOfDays_mem hlow hhigh
  omega

variable {lengths : List Nat} {index length day : Nat}

/-- A day in one of the months, counted from the first day of the first month. -/
theorem splitMonths_take (hlength : lengths[index]? = some length) (hday : day < length)
    (month : Nat) :
    splitMonths month ((lengths.take index).sum + day) lengths = (month + index, day + 1) := by
  induction lengths generalizing index month with
  | nil => simp at hlength
  | cons first rest ih =>
    cases index with
    | zero =>
      obtain rfl : first = length := by simpa using hlength
      simp [splitMonths, hday]
    | succ index =>
      have hrest := ih (by simpa using hlength) (month + 1)
      have hskip : first + (rest.take index).sum + day - first = (rest.take index).sum + day := by
        omega
      simp only [List.take_succ_cons, List.sum_cons, splitMonths, hskip, hrest]
      rw [if_neg (by omega), Nat.add_assoc, Nat.add_comm 1]

theorem exists_month (hday : day < lengths.sum) : ∃ index length rest,
    lengths[index]? = some length ∧ rest < length ∧ day = (lengths.take index).sum + rest := by
  induction lengths generalizing day with
  | nil => simp at hday
  | cons first months ih =>
    by_cases hfirst : day < first
    · exact ⟨0, first, day, rfl, hfirst, by simp⟩
    · rw [List.sum_cons] at hday
      have hless : day - first < months.sum := by omega
      obtain ⟨index, length, rest, hlength, hrest, hsum⟩ := ih hless
      refine ⟨index + 1, length, rest, by simpa using hlength, hrest, ?_⟩
      rw [List.take_succ_cons, List.sum_cons]
      omega

theorem sum_take_add_le (hlength : lengths[index]? = some length) :
    (lengths.take index).sum + length ≤ lengths.sum := by
  induction lengths generalizing index with
  | nil => simp at hlength
  | cons first months ih =>
    cases index with
    | zero => simp_all
    | succ index =>
      have := ih (by simpa using hlength)
      rw [List.take_succ_cons, List.sum_cons, List.sum_cons]
      omega

theorem sum_monthLengths (year : Int) :
    ((monthLengths (isLeapYear year)).sum : Int) = yearLength year := by
  unfold yearLength
  cases isLeapYear year <;> rfl

/-- How many days a month has. -/
def monthLength (leap : Bool) (month : Nat) : Nat :=
  if month = 2 then if leap then 29 else 28
  else if month ∈ [4, 6, 9, 11] then 30
  else 31

theorem monthLength_le (leap : Bool) (month : Nat) : monthLength leap month ≤ 31 := by
  unfold monthLength
  split_ifs <;> decide

theorem monthLengths_getElem? (leap : Bool) :
    ∀ index < 12, (monthLengths leap)[index]? = some (monthLength leap (index + 1)) := by
  cases leap <;> decide

variable {d : Date}

/-- The date stands in the calendar. -/
structure IsReal (d : Date) : Prop where
  month_pos : 1 ≤ d.month
  month_le : d.month ≤ 12
  day_pos : 1 ≤ d.day
  day_le : d.day ≤ monthLength (isLeapYear d.year) d.month

theorem IsReal.getElem? (h : d.IsReal) : (monthLengths (isLeapYear d.year))[d.month - 1]? =
    some (monthLength (isLeapYear d.year) d.month) := by
  have hmonth := h.month_pos
  rw [monthLengths_getElem? _ _ (by have := h.month_le; omega), Nat.sub_add_cancel hmonth]

theorem isReal_of_getElem? {index length : Nat}
    (hlength : (monthLengths (isLeapYear year))[index]? = some length) (hday : day < length) :
    IsReal ⟨year, index + 1, day + 1⟩ := by
  have hindex : index < 12 := (List.getElem?_eq_some_iff.mp hlength).1
  rw [monthLengths_getElem? _ _ hindex, Option.some.injEq] at hlength
  exact ⟨Nat.succ_pos index, hindex, Nat.succ_pos day, hlength ▸ hday⟩

theorem isValid_iff (d : Date) :
    d.isValid = true ↔ (-262143 ≤ d.year ∧ d.year ≤ 262142) ∧ d.IsReal := by
  simp only [isValid, Bool.and_eq_true, decide_eq_true_eq, Option.any_eq_true]
  constructor
  · rintro ⟨⟨⟨⟨hlow, hhigh⟩, hmonth⟩, hday⟩, length, hlength, hle⟩
    have hless : d.day - 1 < length := by omega
    have hreal := isReal_of_getElem? hlength hless
    rw [Nat.sub_add_cancel hmonth, Nat.sub_add_cancel hday] at hreal
    exact ⟨⟨hlow, hhigh⟩, hreal⟩
  · rintro ⟨⟨hlow, hhigh⟩, hreal⟩
    exact ⟨⟨⟨⟨hlow, hhigh⟩, hreal.month_pos⟩, hreal.day_pos⟩, _, hreal.getElem?, hreal.day_le⟩

theorem toDays_eq (d : Date) : d.toDays = yearStart d.year +
    (((monthLengths (isLeapYear d.year)).take (d.month - 1)).sum + (d.day - 1) : Nat) := by
  rw [toDays, List.sum_eq_foldl]
  rfl

/-- Every day has a real date, which is that day. -/
theorem ofDays_spec (days : Int) : (ofDays days).year = yearOfDays days ∧ (ofDays days).IsReal ∧
    (ofDays days).toDays = days := by
  obtain ⟨hstart, hend⟩ := yearOfDays_spec days
  obtain ⟨day, hday⟩ := Int.eq_ofNat_of_zero_le (Int.sub_nonneg.mpr hstart)
  have hlength := sum_monthLengths (yearOfDays days)
  rw [yearStart_succ] at hend
  have hless : day < (monthLengths (isLeapYear (yearOfDays days))).sum := by omega
  obtain ⟨index, length, rest, hindex, hrest, hsum⟩ := exists_month hless
  have hdate : ofDays days = ⟨yearOfDays days, index + 1, rest + 1⟩ := by
    simp only [ofDays, hday, Int.toNat_natCast, hsum, splitMonths_take hindex hrest,
      Nat.add_comm 1]
  refine ⟨by rw [hdate], by rw [hdate]; exact isReal_of_getElem? hindex hrest, ?_⟩
  simp only [hdate, toDays_eq, Nat.add_sub_cancel, ← hsum]
  omega

/-- The day of a real date has no other date. -/
theorem ofDays_toDays (h : d.IsReal) : ofDays d.toDays = d := by
  obtain ⟨year, month, day⟩ := d
  have hmonth : 1 ≤ month := h.month_pos
  have hday : 1 ≤ day := h.day_pos
  have hle : day ≤ monthLength (isLeapYear year) month := h.day_le
  have hless : day - 1 < monthLength (isLeapYear year) month := by omega
  have hsplit := splitMonths_take h.getElem? hless 1
  have hsum : ((monthLengths (isLeapYear year)).take (month - 1)).sum +
      monthLength (isLeapYear year) month ≤ (monthLengths (isLeapYear year)).sum :=
    sum_take_add_le h.getElem?
  have hlength := sum_monthLengths year
  generalize hoffset : ((monthLengths (isLeapYear year)).take (month - 1)).sum + (day - 1) = offset
    at hsplit
  have hdays : toDays ⟨year, month, day⟩ = yearStart year + offset := by
    rw [toDays_eq, hoffset]
  have hyear : yearOfDays (yearStart year + offset) = year := by
    apply yearOfDays_eq
    · omega
    · rw [yearStart_succ]
      omega
  have hrest : (yearStart year + offset - yearStart year).toNat = offset := by
    omega
  simp only [hdays, ofDays, hyear, hrest, hsplit]
  rw [Nat.add_sub_cancel' hmonth, Nat.sub_add_cancel hday]

end Date

end Reshape
