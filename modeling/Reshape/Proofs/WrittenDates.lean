import Mathlib
import Reshape.Calendar.Parser

/-! Dates and times written with a fixed count of digits for every number, and what the readers of
dates make of them. -/
namespace Reshape

section Digits

variable {width n : Nat}

theorem length_padded (hpos : 0 < width) (h : n < 10 ^ width) :
    (padded width n).length = width := by
  have hle := (Nat.length_toDigits_le_iff (by decide) hpos).mpr h
  simp only [padded, List.length_append, List.length_replicate]
  omega

theorem isDigit_of_mem_padded {c : Char} (h : c ∈ padded width n) : c.isDigit = true := by
  rw [padded, List.mem_append, List.mem_replicate] at h
  rcases h with ⟨_, rfl⟩ | h
  · rfl
  · exact Nat.isDigit_of_mem_toDigits (by decide) (by decide) h

theorem digitsValue_padded (width n : Nat) : digitsValue (padded width n) = n := by
  simp [digitsValue, padded, Nat.ofDigitChars_append, Nat.ofDigitChars_replicate_zero]

theorem exists_padded_eq_cons (width n : Nat) :
    ∃ c rest, padded width n = c :: rest ∧ c.isDigit = true := by
  cases hcons : padded width n with
  | nil => simp [padded, Nat.toDigits_ne_nil] at hcons
  | cons c rest => exact ⟨c, rest, rfl, isDigit_of_mem_padded (hcons ▸ List.mem_cons_self)⟩

theorem exists_padded_four (h : n < 10000) : ∃ a b c d, padded 4 n = [a, b, c, d] ∧
    ∀ e ∈ [a, b, c, d], e.isDigit = true := by
  have hlength : (padded 4 n).length = 4 := length_padded (by decide) h
  match hcons : padded 4 n, hlength with
  | [a, b, c, d], _ => exact ⟨a, b, c, d, rfl, fun e he => isDigit_of_mem_padded (hcons ▸ he)⟩

theorem isBlank_of_isDigit {c : Char} (h : c.isDigit = true) : isBlank c = false := by
  have hlow : 48 ≤ c.toNat := (Char.isDigit_iff_toNat.mp h).1
  have hhigh : c.toNat ≤ 57 := (Char.isDigit_iff_toNat.mp h).2
  simp only [isBlank, blankRanges, List.any_eq_false, List.mem_cons, List.not_mem_nil]
  rintro r (rfl | rfl | rfl | rfl | rfl | rfl | rfl | rfl | rfl | rfl | hr) <;>
    simp_all <;> omega

theorem fixedDigits?_padded (hpos : 0 < width) (h : n < 10 ^ width) (rest : List Char) :
    fixedDigits? width (padded width n ++ rest) = some (n, rest) := by
  have hlength := length_padded hpos h
  have htake : (padded width n ++ rest).take width = padded width n := List.take_left' hlength
  have hdrop : (padded width n ++ rest).drop width = rest := List.drop_left' hlength
  have hdigits : (padded width n).all Char.isDigit = true :=
    List.all_eq_true.mpr fun c => isDigit_of_mem_padded
  simp only [fixedDigits?, htake, hdrop, digitsValue_padded]
  exact if_pos ⟨hlength, hdigits⟩

end Digits

namespace DateField

variable {field : DateField} {run rest : List Char}

/-- How many digits a number without a sign may have. -/
def width : DateField → Nat
  | .year => 4
  | _ => 2

/-- A run of digits that does not go on: it is as long as it may be, or no digit follows. -/
theorem digits?_append {width : Nat} (hne : run ≠ []) (hdigits : ∀ c ∈ run, c.isDigit = true)
    (hend : run.length = width ∨ run.length < width ∧ ∀ c ∈ rest.head?, c.isDigit = false) :
    digits? width (run ++ rest) = some (digitsValue run, rest) := by
  have hrest : (rest.take (width - run.length)).takeWhile Char.isDigit = [] := by
    rcases hend with hend | ⟨_, hhead⟩
    · simp [hend]
    · cases rest with
      | nil => simp
      | cons c rest =>
        have hc : c.isDigit = false := hhead c rfl
        cases width - run.length <;> simp [hc]
  have hle : run.length ≤ width := by omega
  have htake : ((run ++ rest).take width).takeWhile Char.isDigit = run := by
    rw [List.take_append, List.take_of_length_le hle, List.takeWhile_append_of_pos hdigits, hrest,
      List.append_nil]
  simp [digits?, htake, hne]

theorem read?_of_isDigit {c : Char} (hc : c.isDigit = true) (rest : List Char) :
    field.read? (c :: rest) =
      (digits? field.width (c :: rest)).map fun (n, rest) => ((n : Int), rest) := by
  unfold read?
  rw [trimStart_cons (isBlank_of_isDigit hc)]
  cases field with
  | year =>
    -- A digit is not a sign.
    split <;> simp_all [width]
  | _ => rfl

theorem read?_of_not_isDigit {c : Char} (hfield : field ≠ .year) (hc : c.isDigit = false)
    (hblank : isBlank c = false) (rest : List Char) : field.read? (c :: rest) = none := by
  unfold read?
  rw [trimStart_cons hblank]
  split <;> simp_all [digits?]

theorem read?_nil (field : DateField) : field.read? [] = none := by
  cases field <;> rfl

/-- A run of digits is read as a number. -/
theorem read?_append (hne : run ≠ []) (hdigits : ∀ c ∈ run, c.isDigit = true)
    (hend : run.length = field.width ∨
      run.length < field.width ∧ ∀ c ∈ rest.head?, c.isDigit = false) :
    field.read? (run ++ rest) = some ((digitsValue run : Int), rest) := by
  have hread := digits?_append hne hdigits hend
  obtain ⟨c, digits, rfl⟩ := List.exists_cons_of_ne_nil hne
  rw [List.cons_append] at hread ⊢
  rw [read?_of_isDigit (hdigits c List.mem_cons_self), hread]
  rfl

theorem read?_padded {width n : Nat} (hpos : 0 < width) (hn : n < 10 ^ width)
    (hend : width = field.width ∨ width < field.width ∧ ∀ c ∈ rest.head?, c.isDigit = false) :
    field.read? (padded width n ++ rest) = some ((n : Int), rest) := by
  have hlength := length_padded hpos hn
  have hne : padded width n ≠ [] := List.ne_nil_of_length_pos (by omega)
  rw [read?_append hne (fun c => isDigit_of_mem_padded) (by rwa [hlength]), digitsValue_padded]

end DateField

section Items

variable {t : DateTime} {field : DateField} {items : List DateItem} {n : Nat} {rest : List Char}

theorem readItems?_nil (text : List Char) :
    readItems? t [] text = if text.isEmpty then some t else none := by
  rw [readItems?]

theorem readItems?_char (c d : Char) : readItems? t (.char c :: items) (d :: rest) =
    if c = d then readItems? t items rest else none := by
  rw [readItems?]

theorem readItems?_char_nil (c : Char) : readItems? t (.char c :: items) [] = none := by
  rw [readItems?]

theorem readItems?_space (text : List Char) :
    readItems? t (.space :: items) text = readItems? t items (trimStart text) := by
  rw [readItems?]

theorem readItems?_number {m : Int} {text : List Char} (h : field.read? text = some (m, rest)) :
    readItems? t (.number field :: items) text = readItems? (field.put m t) items rest := by
  rw [readItems?, h]

theorem readItems?_unread {text : List Char} (h : field.read? text = none) :
    readItems? t (.number field :: items) text = none := by
  rw [readItems?, h]

theorem readItems?_two (hn : n < 100)
    (hrest : field = .year → ∀ c ∈ rest.head?, c.isDigit = false) :
    readItems? t (.number field :: items) (padded 2 n ++ rest) =
      readItems? (field.put n t) items rest := by
  apply readItems?_number
  apply DateField.read?_padded (by decide) hn
  cases field with
  | year => exact Or.inr ⟨by decide, hrest rfl⟩
  | _ => exact Or.inl rfl

theorem readItems?_four (hn : n < 10000) :
    readItems? t (.number .year :: items) (padded 4 n ++ rest) =
      readItems? (DateField.year.put n t) items rest :=
  readItems?_number (DateField.read?_padded (by decide) hn (Or.inl rfl))

theorem readItems?_pair {c d : Char} (hfield : field ≠ .year) (hc : c.isDigit = true)
    (hd : d.isDigit = true) :
    readItems? t (.number field :: items) (c :: d :: rest) =
      readItems? (field.put (digitsValue [c, d]) t) items rest := by
  have hwidth : [c, d].length = field.width := by
    cases field <;> simp_all [DateField.width]
  have hdigits : ∀ e ∈ [c, d], e.isDigit = true := by
    simp [hc, hd]
  exact readItems?_number (DateField.read?_append (by simp) hdigits (Or.inl hwidth))

end Items

/-- A date and a time of day with as many digits as are written. The date may not be a real one. -/
structure Stamp where
  year : Nat
  month : Nat
  day : Nat
  hour : Nat
  minute : Nat
  second : Nat
  year_lt : year < 10000
  month_lt : month < 100
  day_lt : day < 100
  hour_lt : hour < 24
  minute_lt : minute < 60
  second_lt : second < 60

/-- The order of the numbers of a date, and what stands between them. -/
inductive DateOrder where
  | dashed
  | slashed
  | monthFirst
deriving DecidableEq

/-- Where the time of day stands, if it is written. -/
inductive ClockPlace where
  | absent
  | joined
  /-- With the mark of universal time behind it. -/
  | zoned
  | spaced
deriving DecidableEq

structure DateLayout where
  order : DateOrder
  clock : ClockPlace
deriving DecidableEq

def DateOrder.items : DateOrder → List DateItem
  | .dashed => DateForm.yearFirst '-'
  | .slashed => DateForm.yearFirst '/'
  | .monthFirst => DateForm.monthFirst

def ClockPlace.items : ClockPlace → List DateItem
  | .absent => []
  | .joined => .char 'T' :: DateForm.time
  | .zoned => .char 'T' :: (DateForm.time ++ [.char 'Z'])
  | .spaced => .space :: DateForm.time

def DateLayout.items (layout : DateLayout) : List DateItem :=
  layout.order.items ++ layout.clock.items

namespace Stamp

variable (t : Stamp)

def date : Date := ⟨t.year, t.month, t.day⟩

def yearFirst (mark : Char) : List Char :=
  padded 4 t.year ++ mark :: (padded 2 t.month ++ mark :: padded 2 t.day)

def monthFirst : List Char :=
  padded 2 t.month ++ '/' :: (padded 2 t.day ++ '/' :: padded 4 t.year)

def dateText : DateOrder → List Char
  | .dashed => t.yearFirst '-'
  | .slashed => t.yearFirst '/'
  | .monthFirst => t.monthFirst

def timeText : List Char :=
  padded 2 t.hour ++ ':' :: (padded 2 t.minute ++ ':' :: padded 2 t.second)

def clockText : ClockPlace → List Char
  | .absent => []
  | .joined => 'T' :: t.timeText
  | .zoned => 'T' :: (t.timeText ++ ['Z'])
  | .spaced => ' ' :: t.timeText

def text (layout : DateLayout) : List Char := t.dateText layout.order ++ t.clockText layout.clock

/-- The start of the day. -/
def onDate : DateTime := ⟨t.year, t.month, t.day, 0, 0, 0, 0⟩

/-- A date with the time of day, if it is written. -/
def atClock (place : ClockPlace) (u : DateTime) : DateTime :=
  match place with
  | .absent => u
  | _ => { u with hour := t.hour, minute := t.minute, second := t.second }

/-- What the text says in numbers. -/
def parts (place : ClockPlace) : DateTime := t.atClock place t.onDate

variable {t} {items : List DateItem} {rest : List Char}

theorem readItems?_yearFirst (mark other : Char) :
    readItems? .start (DateForm.yearFirst mark ++ items) (t.yearFirst other ++ rest) =
      if mark = other then readItems? t.onDate items rest else none := by
  simp only [DateForm.yearFirst, yearFirst, List.cons_append, List.append_assoc, List.nil_append]
  rw [readItems?_four t.year_lt, readItems?_char]
  by_cases h : mark = other
  · rw [if_pos h, if_pos h, readItems?_two t.month_lt (by simp), readItems?_char, if_pos h,
      readItems?_two t.day_lt (by simp)]
    rfl
  · rw [if_neg h, if_neg h]

theorem readItems?_monthFirst :
    readItems? .start (DateForm.monthFirst ++ items) (t.monthFirst ++ rest) =
      readItems? t.onDate items rest := by
  simp only [DateForm.monthFirst, monthFirst, List.cons_append, List.append_assoc, List.nil_append]
  rw [readItems?_two t.month_lt (by simp), readItems?_char, if_pos rfl,
    readItems?_two t.day_lt (by simp), readItems?_char, if_pos rfl, readItems?_four t.year_lt]
  rfl

/-- Of a year of four digits only two pass for a month. -/
theorem readItems?_monthFirst_yearFirst (mark : Char) :
    readItems? .start (DateForm.monthFirst ++ items) (t.yearFirst mark ++ rest) = none := by
  obtain ⟨a, b, c, d, hdigits, hare⟩ := exists_padded_four t.year_lt
  have hc : '/' ≠ c := by
    rintro rfl
    simpa using hare '/' (by simp)
  simp only [DateForm.monthFirst, yearFirst, List.cons_append, List.nil_append, hdigits]
  rw [readItems?_pair (by decide) (hare a (by simp)) (hare b (by simp)), readItems?_char, if_neg hc]

theorem readItems?_dashed_monthFirst :
    readItems? .start (DateForm.yearFirst '-' ++ items) (t.monthFirst ++ rest) = none := by
  simp only [DateForm.yearFirst, monthFirst, List.cons_append, List.append_assoc, List.nil_append]
  rw [readItems?_two t.month_lt (by simp), readItems?_char, if_neg (by decide)]

/-- A month and a day pass for a year and a month. Then the day takes two digits of the year, and
two more are left. -/
theorem readItems?_slashed_monthFirst : ∃ (u : DateTime) (c d : Char), c.isDigit = true ∧
    d.isDigit = true ∧ ∀ items rest,
      readItems? .start (DateForm.yearFirst '/' ++ items) (t.monthFirst ++ rest) =
        readItems? u items (c :: d :: rest) := by
  obtain ⟨a, b, c, d, hdigits, hare⟩ := exists_padded_four t.year_lt
  refine ⟨⟨t.month, t.day, digitsValue [a, b], 0, 0, 0, 0⟩, c, d, hare c (by simp),
    hare d (by simp), fun items rest => ?_⟩
  simp only [DateForm.yearFirst, monthFirst, List.cons_append, List.append_assoc, List.nil_append,
    hdigits]
  rw [readItems?_two t.month_lt (by simp), readItems?_char, if_pos rfl,
    readItems?_two t.day_lt (by simp), readItems?_char, if_pos rfl,
    readItems?_pair (by decide) (hare a (by simp)) (hare b (by simp))]
  rfl

theorem readItems?_time (u : DateTime) :
    readItems? u (DateForm.time ++ items) (t.timeText ++ rest) =
      readItems? (t.atClock .joined u) items rest := by
  have hhour := t.hour_lt
  have hminute := t.minute_lt
  have hsecond := t.second_lt
  simp only [DateForm.time, timeText, List.cons_append, List.append_assoc, List.nil_append]
  rw [readItems?_two (by omega) (by simp), readItems?_char, if_pos rfl,
    readItems?_two (by omega) (by simp), readItems?_char, if_pos rfl,
    readItems?_two (by omega) (by simp)]
  rfl

theorem readItems?_time_last (u : DateTime) (rest : List Char) :
    readItems? u DateForm.time (t.timeText ++ rest) =
      if rest.isEmpty then some (t.atClock .joined u) else none := by
  rw [← List.append_nil DateForm.time, readItems?_time, readItems?_nil]

theorem readItems?_time_nil (u : DateTime) : readItems? u DateForm.time [] = none :=
  readItems?_unread (DateField.read?_nil _)

theorem readItems?_time_mark (u : DateTime) (rest : List Char) :
    readItems? u DateForm.time ('T' :: rest) = none :=
  readItems?_unread (DateField.read?_of_not_isDigit (by decide) (by decide) (by decide) rest)

theorem trimStart_timeText (t : Stamp) : trimStart (' ' :: t.timeText) = t.timeText := by
  obtain ⟨c, digits, hcons, hc⟩ := exists_padded_eq_cons 2 t.hour
  have hblank : isBlank ' ' = true := by decide
  simp [timeText, hcons, trimStart, hblank, isBlank_of_isDigit hc]

/-- A time of day is read in its own place only. -/
theorem readItems?_clock (u : DateTime) (place written : ClockPlace) :
    readItems? u place.items (t.clockText written) =
      if place = written then some (t.atClock place u) else none := by
  cases place with
  | absent => cases written <;> rw [ClockPlace.items, readItems?_nil] <;> rfl
  | joined =>
    cases written with
    | absent => exact readItems?_char_nil 'T'
    | joined =>
      rw [ClockPlace.items, clockText, readItems?_char, ← List.append_nil t.timeText,
        readItems?_time_last]
      rfl
    | zoned =>
      rw [ClockPlace.items, clockText, readItems?_char, readItems?_time_last]
      rfl
    | spaced => exact readItems?_char 'T' ' '
  | zoned =>
    cases written with
    | absent => exact readItems?_char_nil 'T'
    | joined =>
      rw [ClockPlace.items, clockText, readItems?_char, ← List.append_nil t.timeText,
        readItems?_time, readItems?_char_nil]
      rfl
    | zoned =>
      rw [ClockPlace.items, clockText, readItems?_char, readItems?_time, readItems?_char,
        readItems?_nil]
      rfl
    | spaced => exact readItems?_char 'T' ' '
  | spaced =>
    rw [ClockPlace.items, readItems?_space]
    cases written with
    | absent => exact readItems?_time_nil u
    | joined => exact readItems?_time_mark u _
    | zoned => exact readItems?_time_mark u _
    | spaced =>
      rw [clockText, trimStart_timeText, ← List.append_nil t.timeText, readItems?_time_last]
      rfl

/-- Two digits in front of a time of day may pass for an hour, but no colon follows them. -/
theorem readItems?_clock_digits {c d : Char} (hc : c.isDigit = true) (hd : d.isDigit = true)
    (u : DateTime) (place written : ClockPlace) :
    readItems? u place.items (c :: d :: t.clockText written) = none := by
  have hmark : 'T' ≠ c := by
    rintro rfl
    simp at hc
  cases place with
  | absent => rfl
  | joined => rw [ClockPlace.items, readItems?_char, if_neg hmark]
  | zoned => rw [ClockPlace.items, readItems?_char, if_neg hmark]
  | spaced =>
    rw [ClockPlace.items, readItems?_space, trimStart_cons (isBlank_of_isDigit hc), DateForm.time,
      readItems?_pair (by decide) hc hd]
    cases written with
    | absent => exact readItems?_char_nil ':'
    | joined => exact readItems?_char ':' 'T'
    | zoned => exact readItems?_char ':' 'T'
    | spaced => exact readItems?_char ':' ' '

theorem readItems?_same_order (t : Stamp) (order : DateOrder) (items : List DateItem)
    (rest : List Char) : readItems? .start (order.items ++ items) (t.dateText order ++ rest) =
      readItems? t.onDate items rest := by
  cases order with
  | dashed => exact (readItems?_yearFirst '-' '-').trans (if_pos rfl)
  | slashed => exact (readItems?_yearFirst '/' '/').trans (if_pos rfl)
  | monthFirst => exact readItems?_monthFirst

theorem readItems?_other_order {order written : DateOrder} (h : order ≠ written)
    (place clock : ClockPlace) :
    readItems? .start (order.items ++ place.items) (t.dateText written ++ t.clockText clock) =
      none := by
  cases order with
  | dashed =>
    cases written with
    | dashed => exact absurd rfl h
    | slashed => exact (readItems?_yearFirst '-' '/').trans (if_neg (by decide))
    | monthFirst => exact readItems?_dashed_monthFirst
  | slashed =>
    cases written with
    | dashed => exact (readItems?_yearFirst '/' '-').trans (if_neg (by decide))
    | slashed => exact absurd rfl h
    | monthFirst =>
      obtain ⟨u, c, d, hc, hd, hread⟩ := @readItems?_slashed_monthFirst t
      exact (hread _ _).trans (readItems?_clock_digits hc hd u place clock)
  | monthFirst =>
    cases written with
    | dashed => exact readItems?_monthFirst_yearFirst '-'
    | slashed => exact readItems?_monthFirst_yearFirst '/'
    | monthFirst => exact absurd rfl h

/-- A form reads what is written in it and nothing that is written in another one. -/
theorem readItems?_text (t : Stamp) (form layout : DateLayout) :
    readItems? .start form.items (t.text layout) =
      if form = layout then some (t.parts layout.clock) else none := by
  obtain ⟨order, place⟩ := form
  obtain ⟨written, clock⟩ := layout
  simp only [DateLayout.items, text, DateLayout.mk.injEq]
  by_cases horder : order = written
  · subst horder
    rw [readItems?_same_order, readItems?_clock]
    by_cases hplace : place = clock
    · simp [hplace, parts]
    · simp [hplace]
  · rw [readItems?_other_order horder]
    simp [horder]

end Stamp

end Reshape
