import Reshape.Proofs.CalendarDays
import Reshape.Proofs.WrittenDates

/-! The spellings of a date. All that are accepted give one instant, or midnight when there is no
time of day, and none of them is taken for another one. -/
namespace Reshape

theorem natural?_eq_none {text : List Char} {c : Char} (hc : c ∈ text)
    (hdigit : c.isDigit = false) : natural? text = none := by
  have hall : text.all Char.isDigit = false := List.all_eq_false.mpr ⟨c, hc, by simp [hdigit]⟩
  simp [natural?, hall]

theorem int64?_padded_mark {mark : Char} (hmark : mark.isDigit = false) (width n : Nat)
    (rest : List Char) : int64? (padded width n ++ mark :: rest) = none := by
  obtain ⟨c, digits, hcons, hc⟩ := exists_padded_eq_cons width n
  have hsign : splitSign (c :: (digits ++ mark :: rest)) =
      (false, c :: (digits ++ mark :: rest)) := by
    unfold splitSign
    split <;> simp_all
  rw [hcons, List.cons_append, int64?, integer?, hsign]
  have hnatural : natural? (c :: (digits ++ mark :: rest)) = none :=
    natural?_eq_none (by simp) hmark
  simp [hnatural]

namespace DateTime

variable {u : DateTime}

theorem toInstant?_of_isValid (hdate : Date.isValid ⟨u.year, u.month, u.day⟩ = true)
    (hhour : u.hour < 24) (hminute : u.minute < 60) (hsecond : u.second < 60) :
    u.toInstant? 0 = some ⟨Date.toDays ⟨u.year, u.month, u.day⟩ * Instant.secondsPerDay +
      (u.hour * 3600 + u.minute * 60 + u.second : Nat), u.milli⟩ := by
  have hleap : u.second ≠ 60 := by omega
  have hle : u.second ≤ 60 := by omega
  simp [toInstant?, hdate, hhour, hminute, hle, hleap]

theorem toInstant?_of_not_isValid (hdate : Date.isValid ⟨u.year, u.month, u.day⟩ = false)
    (offset : Int) : u.toInstant? offset = none := by
  simp [toInstant?, hdate]

end DateTime

section Timestamp

variable {text afterYear afterMonth afterDay beforeMonth beforeDay : List Char}
  {year month day hour minute second : Nat}

theorem expect?_self (c : Char) (rest : List Char) : expect? c (c :: rest) = some rest :=
  if_pos rfl

/-- Once all fields have been read, the milliseconds and the offset are left. -/
theorem timestamp?_of_fields {mark : Char}
    {beforeHour afterHour beforeMinute afterMinute beforeSecond afterSecond : List Char}
    (hyear : fixedDigits? 4 text = some (year, afterYear))
    (hfirst : expect? '-' afterYear = some beforeMonth)
    (hmonth : fixedDigits? 2 beforeMonth = some (month, afterMonth))
    (hnext : expect? '-' afterMonth = some beforeDay)
    (hday : fixedDigits? 2 beforeDay = some (day, mark :: beforeHour))
    (hmark : mark = 'T' ∨ mark = 't' ∨ mark = ' ')
    (hhour : fixedDigits? 2 beforeHour = some (hour, afterHour))
    (hcolon : expect? ':' afterHour = some beforeMinute)
    (hminute : fixedDigits? 2 beforeMinute = some (minute, afterMinute))
    (hlast : expect? ':' afterMinute = some beforeSecond)
    (hsecond : fixedDigits? 2 beforeSecond = some (second, afterSecond)) :
    timestamp? text =
      (fraction? afterSecond).bind fun (milli, rest) => (offset? rest).bind fun (offset, rest) =>
        if rest.isEmpty then
          DateTime.toInstant? ⟨year, month, day, hour, minute, second, milli⟩ offset
        else none := by
  unfold timestamp?
  rw [hyear]
  show (expect? '-' afterYear >>= _) = _
  rw [hfirst]
  show (fixedDigits? 2 beforeMonth >>= _) = _
  rw [hmonth]
  show (expect? '-' afterMonth >>= _) = _
  rw [hnext]
  show (fixedDigits? 2 beforeDay >>= _) = _
  rw [hday]
  show (if _ then _ else _) = _
  rw [if_pos hmark]
  show (fixedDigits? 2 beforeHour >>= _) = _
  rw [hhour]
  show (expect? ':' afterHour >>= _) = _
  rw [hcolon]
  show (fixedDigits? 2 beforeMinute >>= _) = _
  rw [hminute]
  show (expect? ':' afterMinute >>= _) = _
  rw [hlast]
  show (fixedDigits? 2 beforeSecond >>= _) = _
  rw [hsecond]
  rfl

theorem timestamp?_of_year_unread (hyear : fixedDigits? 4 text = none) :
    timestamp? text = none := by
  unfold timestamp?
  rw [hyear]
  rfl

theorem timestamp?_of_mark_unread (hyear : fixedDigits? 4 text = some (year, afterYear))
    (hfirst : expect? '-' afterYear = none) : timestamp? text = none := by
  unfold timestamp?
  rw [hyear]
  show (expect? '-' afterYear >>= _) = _
  rw [hfirst]
  rfl

theorem timestamp?_of_date_only (hyear : fixedDigits? 4 text = some (year, afterYear))
    (hfirst : expect? '-' afterYear = some beforeMonth)
    (hmonth : fixedDigits? 2 beforeMonth = some (month, afterMonth))
    (hnext : expect? '-' afterMonth = some beforeDay)
    (hday : fixedDigits? 2 beforeDay = some (day, [])) : timestamp? text = none := by
  unfold timestamp?
  rw [hyear]
  show (expect? '-' afterYear >>= _) = _
  rw [hfirst]
  show (fixedDigits? 2 beforeMonth >>= _) = _
  rw [hmonth]
  show (expect? '-' afterMonth >>= _) = _
  rw [hnext]
  show (fixedDigits? 2 beforeDay >>= _) = _
  rw [hday]
  rfl

end Timestamp

namespace Stamp

variable {t : Stamp}

theorem fixedDigits?_two {n : Nat} (h : n < 100) (rest : List Char) :
    fixedDigits? 2 (padded 2 n ++ rest) = some (n, rest) :=
  fixedDigits?_padded (by decide) h rest

theorem fixedDigits?_yearFirst (t : Stamp) (mark : Char) (rest : List Char) :
    fixedDigits? 4 (t.yearFirst mark ++ rest) =
      some (t.year, mark :: (padded 2 t.month ++ mark :: (padded 2 t.day ++ rest))) := by
  simp only [yearFirst, List.append_assoc, List.cons_append]
  exact fixedDigits?_padded (by decide) t.year_lt _

theorem timestamp?_dashed (t : Stamp) {mark : Char} (hmark : mark = 'T' ∨ mark = ' ')
    (rest : List Char) : timestamp? (t.yearFirst '-' ++ mark :: (t.timeText ++ rest)) =
      (fraction? rest).bind fun (milli, rest) => (offset? rest).bind fun (offset, rest) =>
        if rest.isEmpty then
          DateTime.toInstant? ⟨t.year, t.month, t.day, t.hour, t.minute, t.second, milli⟩ offset
        else none := by
  have hhour : t.hour < 100 := by have := t.hour_lt; omega
  have hminute : t.minute < 100 := by have := t.minute_lt; omega
  have hsecond : t.second < 100 := by have := t.second_lt; omega
  have hbetween : mark = 'T' ∨ mark = 't' ∨ mark = ' ' := hmark.imp_right Or.inr
  apply timestamp?_of_fields (t.fixedDigits?_yearFirst '-' _) (expect?_self '-' _)
    (fixedDigits?_two t.month_lt _) (expect?_self '-' _) (fixedDigits?_two t.day_lt _) hbetween
  · simp only [timeText, List.append_assoc, List.cons_append]
    exact fixedDigits?_two hhour _
  · exact expect?_self ':' _
  · exact fixedDigits?_two hminute _
  · exact expect?_self ':' _
  · exact fixedDigits?_two hsecond _

theorem timestamp?_dashed_absent (t : Stamp) : timestamp? (t.yearFirst '-') = none := by
  have hyear := t.fixedDigits?_yearFirst '-' []
  rw [List.append_nil] at hyear
  exact timestamp?_of_date_only hyear (expect?_self '-' _) (fixedDigits?_two t.month_lt _)
    (expect?_self '-' _) (fixedDigits?_two t.day_lt _)

theorem timestamp?_slashed (t : Stamp) (rest : List Char) :
    timestamp? (t.yearFirst '/' ++ rest) = none :=
  timestamp?_of_mark_unread (t.fixedDigits?_yearFirst '/' rest) rfl

theorem timestamp?_monthFirst (t : Stamp) (rest : List Char) :
    timestamp? (t.monthFirst ++ rest) = none := by
  apply timestamp?_of_year_unread
  have hlength : (padded 2 t.month).length = 2 := length_padded (by decide) t.month_lt
  match hcons : padded 2 t.month, hlength with
  | [a, b], _ => simp [monthFirst, fixedDigits?, hcons]

/-- The start of the day, and the instant of the time of day on it. -/
def midnight (t : Stamp) : Instant := ⟨t.date.toDays * Instant.secondsPerDay, 0⟩

def moment (t : Stamp) : Instant :=
  ⟨t.date.toDays * Instant.secondsPerDay + (t.hour * 3600 + t.minute * 60 + t.second : Nat), 0⟩

/-- The instant that is meant where the time of day stands in that place. -/
def instant (t : Stamp) : ClockPlace → Instant
  | .absent => t.midnight
  | _ => t.moment

theorem isValid_date_iff (t : Stamp) : t.date.isValid = true ↔ t.date.IsReal := by
  have hyear := t.year_lt
  rw [Date.isValid_iff, and_iff_right]
  simp only [date]
  omega

theorem toInstant?_parts (h : t.date.IsReal) (place : ClockPlace) :
    (t.parts place).toInstant? 0 = some (t.instant place) := by
  have hvalid := t.isValid_date_iff.mpr h
  cases place with
  | absent =>
    rw [DateTime.toInstant?_of_isValid hvalid (Nat.zero_lt_succ _) (Nat.zero_lt_succ _)
      (Nat.zero_lt_succ _)]
    simp [instant, midnight, parts, atClock, onDate, date]
  | _ => exact DateTime.toInstant?_of_isValid hvalid t.hour_lt t.minute_lt t.second_lt

theorem toInstant?_parts_of_not_real (h : ¬ t.date.IsReal) (place : ClockPlace) :
    (t.parts place).toInstant? 0 = none := by
  have hinvalid : t.date.isValid = false := by
    rw [Bool.eq_false_iff]
    exact mt t.isValid_date_iff.mp h
  cases place <;> exact DateTime.toInstant?_of_not_isValid hinvalid 0

/-- The layouts without a mark of universal time, in the order in which they are tried. -/
def forms : List DateLayout :=
  [⟨.dashed, .joined⟩, ⟨.dashed, .spaced⟩, ⟨.monthFirst, .spaced⟩, ⟨.slashed, .spaced⟩,
    ⟨.dashed, .absent⟩, ⟨.monthFirst, .absent⟩, ⟨.slashed, .absent⟩]

/-- All spellings that are accepted. -/
def spellings : List DateLayout := ⟨.dashed, .zoned⟩ :: forms

theorem all_eq_forms : DateForm.all = forms.map DateLayout.items := rfl

theorem timestamp?_text (t : Stamp) (layout : DateLayout) : timestamp? (t.text layout) =
    if layout = ⟨.dashed, .zoned⟩ then (t.parts .zoned).toInstant? 0 else none := by
  obtain ⟨order, clock⟩ := layout
  cases order with
  | dashed =>
    cases clock with
    | absent => simpa [text, dateText, clockText] using t.timestamp?_dashed_absent
    | joined =>
      have hread := t.timestamp?_dashed (Or.inl rfl) []
      rw [List.append_nil] at hread
      exact hread
    | zoned => exact t.timestamp?_dashed (Or.inl rfl) ['Z']
    | spaced =>
      have hread := t.timestamp?_dashed (Or.inr rfl) []
      rw [List.append_nil] at hread
      exact hread
  | slashed => exact t.timestamp?_slashed _
  | monthFirst => exact t.timestamp?_monthFirst _

/-- Only the form of its own layout can read the text. -/
theorem firstForm?_text (t : Stamp) (layout : DateLayout) (forms : List DateLayout) :
    firstForm? (t.text layout) (forms.map DateLayout.items) =
      if layout ∈ forms then (t.parts layout.clock).toInstant? 0 else none := by
  induction forms with
  | nil => rfl
  | cons form rest ih =>
    rw [List.map_cons, firstForm?, readItems?_text, ih]
    by_cases hform : form = layout
    · subst hform
      cases h : (t.parts form.clock).toInstant? 0 <;> simp [h]
    · simp [hform, Ne.symm hform]

theorem exists_dateText_eq (t : Stamp) (order : DateOrder) : ∃ width n mark rest,
    mark.isDigit = false ∧ t.dateText order = padded width n ++ mark :: rest := by
  cases order with
  | dashed => exact ⟨4, t.year, '-', _, rfl, rfl⟩
  | slashed => exact ⟨4, t.year, '/', _, rfl, rfl⟩
  | monthFirst => exact ⟨2, t.month, '/', _, rfl, rfl⟩

theorem isBlank_head_dateText (t : Stamp) (order : DateOrder) (rest : List Char) :
    ∀ c ∈ (t.dateText order ++ rest).head?, isBlank c = false := by
  obtain ⟨width, n, mark, _, _, htext⟩ := t.exists_dateText_eq order
  obtain ⟨c, digits, hcons, hc⟩ := exists_padded_eq_cons width n
  simp [htext, hcons, isBlank_of_isDigit hc]

theorem int64?_dateText (t : Stamp) (order : DateOrder) (rest : List Char) :
    int64? (t.dateText order ++ rest) = none := by
  obtain ⟨width, n, mark, _, hmark, htext⟩ := t.exists_dateText_eq order
  rw [htext, List.append_assoc, List.cons_append, int64?_padded_mark hmark]

theorem isBlank_last_padded (front : List Char) (width n : Nat) :
    ∀ c ∈ (front ++ padded width n).getLast?, isBlank c = false := by
  obtain ⟨_, _, hcons, _⟩ := exists_padded_eq_cons width n
  rw [List.getLast?_append_of_ne_nil _ (by simp [hcons])]
  exact fun c hc => isBlank_of_isDigit (isDigit_of_mem_padded (List.mem_of_getLast? hc))

theorem isBlank_last_text (t : Stamp) (layout : DateLayout) :
    ∀ c ∈ (t.text layout).getLast?, isBlank c = false := by
  obtain ⟨order, clock⟩ := layout
  cases clock with
  | absent =>
    rw [text, clockText, List.append_nil]
    cases order with
    | dashed =>
      simpa [dateText, yearFirst] using
        isBlank_last_padded (padded 4 t.year ++ '-' :: (padded 2 t.month ++ ['-'])) 2 t.day
    | slashed =>
      simpa [dateText, yearFirst] using
        isBlank_last_padded (padded 4 t.year ++ '/' :: (padded 2 t.month ++ ['/'])) 2 t.day
    | monthFirst =>
      simpa [dateText, monthFirst] using
        isBlank_last_padded (padded 2 t.month ++ '/' :: (padded 2 t.day ++ ['/'])) 4 t.year
  | joined =>
    simpa [text, clockText, timeText] using isBlank_last_padded (t.dateText order ++
      'T' :: (padded 2 t.hour ++ ':' :: (padded 2 t.minute ++ [':']))) 2 t.second
  | zoned =>
    have htext : t.text ⟨order, .zoned⟩ = (t.dateText order ++ 'T' :: t.timeText) ++ ['Z'] := by
      simp [text, clockText]
    rw [htext, List.getLast?_concat]
    rintro c ⟨⟩
    decide
  | spaced =>
    simpa [text, clockText, timeText] using isBlank_last_padded (t.dateText order ++
      ' ' :: (padded 2 t.hour ++ ':' :: (padded 2 t.minute ++ [':']))) 2 t.second

theorem trim_text (t : Stamp) (layout : DateLayout) {before after : List Char}
    (hbefore : ∀ c ∈ before, isBlank c = true) (hafter : ∀ c ∈ after, isBlank c = true) :
    trim (before ++ t.text layout ++ after) = t.text layout := by
  refine trim_surrounded hbefore hafter (t.isBlank_head_dateText _ _)
    (t.isBlank_last_text layout) ?_
  obtain ⟨width, n, mark, rest, _, htext⟩ := t.exists_dateText_eq layout.order
  simp [text, htext]

/-- A spelling is read by the reader of its own layout, if there is one. -/
theorem instant?_text (t : Stamp) (layout : DateLayout) {before after : List Char}
    (hbefore : ∀ c ∈ before, isBlank c = true) (hafter : ∀ c ∈ after, isBlank c = true) :
    Value.instant? (.string (String.ofList (before ++ t.text layout ++ after))) =
      if layout ∈ spellings then (t.parts layout.clock).toInstant? 0 else none := by
  have hinteger : int64? (t.text layout) = none := t.int64?_dateText _ _
  simp only [Value.instant?, String.toList_ofList, t.trim_text layout hbefore hafter, hinteger]
  rw [timestamp?_text, all_eq_forms, firstForm?_text]
  by_cases hzoned : layout = ⟨.dashed, .zoned⟩
  · subst hzoned
    rw [if_pos rfl, if_neg (by decide), if_pos (by decide)]
    cases (t.parts .zoned).toInstant? 0 <;> rfl
  · simp [hzoned, spellings]

/-- Every accepted spelling of a real date is read as its instant, whatever white space stands
around it, and no spelling of any other date is read at all. -/
theorem instant?_spelled (t : Stamp) {layout : DateLayout} (hlayout : layout ∈ spellings)
    {before after : List Char} (hbefore : ∀ c ∈ before, isBlank c = true)
    (hafter : ∀ c ∈ after, isBlank c = true) :
    (t.date.IsReal → Value.instant? (.string (String.ofList (before ++ t.text layout ++ after))) =
        some (t.instant layout.clock)) ∧
      (¬ t.date.IsReal →
        Value.instant? (.string (String.ofList (before ++ t.text layout ++ after))) = none) := by
  rw [t.instant?_text layout hbefore hafter, if_pos hlayout]
  exact ⟨fun h => toInstant?_parts h _, fun h => toInstant?_parts_of_not_real h _⟩

/-- The last second of the leap day of 2000. -/
def leapSample : Stamp :=
  ⟨2000, 2, 29, 23, 59, 59, by decide, by decide, by decide, by decide, by decide, by decide⟩

/-- The year 1900 had no such day. -/
def commonSample : Stamp := { leapSample with year := 1900, year_lt := by decide }

example : leapSample.text ⟨.dashed, .zoned⟩ = "2000-02-29T23:59:59Z".toList := by decide

theorem instant?_spelled_samples :
    Value.instant? (.string " 02/29/2000 23:59:59\t") = some ⟨951868799, 0⟩ ∧
      Value.instant? (.string "1900/02/29") = none := by
  have hspace : ∀ c ∈ [' '], isBlank c = true := List.forall_mem_singleton.mpr (by decide)
  have htab : ∀ c ∈ ['\t'], isBlank c = true := List.forall_mem_singleton.mpr (by decide)
  have hnothing : ∀ c ∈ ([] : List Char), isBlank c = true := by simp
  have hreal : leapSample.date.IsReal := ⟨by decide, by decide, by decide, by decide⟩
  have hunreal : ¬ commonSample.date.IsReal := fun h => absurd h.day_le (by decide)
  have hspaced := (@instant?_spelled leapSample ⟨.monthFirst, .spaced⟩ (by decide) [' '] ['\t']
    hspace htab).1 hreal
  have hbare := (@instant?_spelled commonSample ⟨.slashed, .absent⟩ (by decide) [] [] hnothing
    hnothing).2 hunreal
  have htext : String.ofList ([' '] ++ leapSample.text ⟨.monthFirst, .spaced⟩ ++ ['\t']) =
      " 02/29/2000 23:59:59\t" := by decide +kernel
  have hinstant : leapSample.instant .spaced = ⟨951868799, 0⟩ := by decide
  have hbareText : String.ofList ([] ++ commonSample.text ⟨.slashed, .absent⟩ ++ []) =
      "1900/02/29" := by decide +kernel
  rw [htext, hinstant] at hspaced
  rw [hbareText] at hbare
  exact ⟨hspaced, hbare⟩

end Stamp

end Reshape
