import Reshape.Proofs.DateSpellings
import Reshape.Proofs.Selecting

/-! Dates that are written and read again. An instant of the years 0 to 9999 is written as its date
and time to the millisecond, and the text is read as the same instant. -/
namespace Reshape

namespace Stamp

variable {t : Stamp} {milli : Nat}

/-- The text of a date and time to the millisecond. -/
def exact (t : Stamp) (milli : Nat) : List Char :=
  t.text ⟨.dashed, .joined⟩ ++ '.' :: (padded 3 milli ++ ['Z'])

/-- The time of day in seconds. -/
def clock (t : Stamp) : Nat := t.hour * 3600 + t.minute * 60 + t.second

theorem second_moment (t : Stamp) : t.moment.second = t.date.toDays * 86400 + t.clock := rfl

theorem clock_lt (t : Stamp) : t.clock < 86400 := by
  have hhour := t.hour_lt
  have hminute := t.minute_lt
  have hsecond := t.second_lt
  simp only [clock]
  omega

theorem clock_parts (t : Stamp) : t.clock / 3600 = t.hour ∧ t.clock / 60 % 60 = t.minute ∧
    t.clock % 60 = t.second := by
  have hminute := t.minute_lt
  have hsecond := t.second_lt
  simp only [clock]
  omega

/-- The instants of the years 0 to 9999 are the real dates with a time of day. -/
theorem exists_moment {second : Int} (hlow : yearStart 0 ≤ second / 86400)
    (hhigh : second / 86400 < yearStart 10000) :
    ∃ t : Stamp, t.date.IsReal ∧ t.moment.second = second := by
  obtain ⟨hyear, hreal, hdays⟩ := Date.ofDays_spec (second / 86400)
  have hmem := Date.yearOfDays_mem hlow hhigh
  rw [← hyear] at hmem
  generalize Date.ofDays (second / 86400) = date at hmem hreal hdays
  obtain ⟨year, month, day⟩ := date
  obtain ⟨n, rfl⟩ := Int.eq_ofNat_of_zero_le hmem.1
  have hmonth : month ≤ 12 := hreal.month_le
  have hday : day ≤ 31 := Nat.le_trans hreal.day_le (Date.monthLength_le _ _)
  have hyearLt : (n : Int) < 10000 := hmem.2
  let time := (second % 86400).toNat
  have htime : time < 86400 := by omega
  refine ⟨⟨n, month, day, time / 3600, time / 60 % 60, time % 60, by omega, by omega, by omega,
    by omega, by omega, by omega⟩, hreal, ?_⟩
  rw [second_moment]
  simp only [date, clock, hdays]
  omega

theorem toText_moment (h : t.date.IsReal) (hmilli : milli < 1000) :
    Instant.toText ⟨t.moment.second, milli⟩ = t.exact milli := by
  have hclock := t.clock_lt
  have hday : t.moment.second / Instant.secondsPerDay = t.date.toDays := by
    rw [second_moment, Instant.secondsPerDay]
    omega
  have htime : (t.moment.second % Instant.secondsPerDay).toNat = t.clock := by
    rw [second_moment, Instant.secondsPerDay]
    omega
  have hyear : Instant.yearText t.year = padded 4 t.year := by
    have hlt := t.year_lt
    rw [Instant.yearText, if_pos (by omega), Int.toNat_natCast]
  obtain ⟨hhour, hminute, hsecond⟩ := t.clock_parts
  have hleap : ¬ 1000 ≤ milli := by omega
  have hrest : milli % 1000 = milli := Nat.mod_eq_of_lt hmilli
  simp only [Instant.toText, hday, htime, Date.ofDays_toDays h, if_neg hleap, hrest, hhour, hminute,
    hsecond]
  simp [date, hyear, exact, Stamp.text, dateText, yearFirst, clockText, timeText]

theorem fraction?_padded (hmilli : milli < 1000) :
    fraction? ('.' :: (padded 3 milli ++ ['Z'])) = some (milli, ['Z']) := by
  have hdigits : ∀ c ∈ padded 3 milli, c.isDigit = true := fun c => isDigit_of_mem_padded
  have hlength : (padded 3 milli).length = 3 := length_padded (by decide) hmilli
  have hrun : (padded 3 milli ++ ['Z']).takeWhile Char.isDigit = padded 3 milli := by
    rw [List.takeWhile_append_of_pos hdigits]
    simp
  have hrest : (padded 3 milli ++ ['Z']).dropWhile Char.isDigit = ['Z'] := by
    rw [List.dropWhile_append_of_pos hdigits]
    simp
  have hne : (padded 3 milli).isEmpty = false := by
    cases hnil : padded 3 milli <;> simp_all
  simp [fraction?, hrun, hrest, hne, List.take_left' hlength, digitsValue_padded]

theorem timestamp?_exact (h : t.date.IsReal) (hmilli : milli < 1000) :
    timestamp? (t.exact milli) = some ⟨t.moment.second, milli⟩ := by
  have hvalid := t.isValid_date_iff.mpr h
  have htext : t.exact milli =
      t.yearFirst '-' ++ 'T' :: (t.timeText ++ '.' :: (padded 3 milli ++ ['Z'])) := by
    simp [exact, Stamp.text, dateText, clockText]
  rw [htext, t.timestamp?_dashed (Or.inl rfl), fraction?_padded hmilli]
  exact DateTime.toInstant?_of_isValid hvalid t.hour_lt t.minute_lt t.second_lt

theorem trim_exact (t : Stamp) (milli : Nat) : trim (t.exact milli) = t.exact milli := by
  have hfirst : ∀ c ∈ (t.exact milli).head?, isBlank c = false := by
    rw [exact, Stamp.text, List.append_assoc]
    exact t.isBlank_head_dateText _ _
  have hlast : ∀ c ∈ (t.exact milli).getLast?, isBlank c = false := by
    rw [exact, ← List.cons_append, ← List.append_assoc, List.getLast?_concat]
    rintro c ⟨⟩
    decide
  have hne : t.exact milli ≠ [] := by simp [exact]
  have hnothing : ∀ c ∈ ([] : List Char), isBlank c = true := by simp
  simpa using trim_surrounded hnothing hnothing hfirst hlast hne

theorem instant?_exact (h : t.date.IsReal) (hmilli : milli < 1000) :
    Value.instant? (.string (String.ofList (t.exact milli))) = some ⟨t.moment.second, milli⟩ := by
  have hinteger : int64? (t.exact milli) = none := by
    rw [exact, Stamp.text, List.append_assoc]
    exact t.int64?_dateText _ _
  simp only [Value.instant?, String.toList_ofList, trim_exact, hinteger, timestamp?_exact h hmilli]
  rfl

end Stamp

theorem Instant.ofMillis?_eq_some {second : Int} {milli : Nat} (hmilli : milli < 1000)
    (hlow : firstDay ≤ second / secondsPerDay) (hhigh : second / secondsPerDay ≤ lastDay) :
    ofMillis? (second * 1000 + milli) = some ⟨second, milli⟩ := by
  have hdiv : (second * 1000 + milli) / 1000 = second := by omega
  have hmod : ((second * 1000 + milli) % 1000).toNat = milli := by omega
  simp only [ofMillis?, hdiv, hmod]
  exact if_pos ⟨hlow, hhigh⟩

open Value

variable {env : Environment} {text : String} {ms : Int}

/-- The forms of an instant that have a name. -/
def dateForms (text : String) (ms : Int) : List (String × Value) :=
  [("json", .string text), ("milliseconds", .int (Int64.ofInt ms)),
    ("javascript", .int (Int64.ofInt ms)), ("unix", .int (Int64.ofInt (ms / 1000)))]

/-- The filter takes the value for the instant that is so many milliseconds after the start of 1970
and is written as the text. -/
structure IsDate (env : Environment) (v : Value) (text : String) (ms : Int) : Prop where
  bare : ∀ scope root : Value,
    applyFilter env "date" [] scope root (some v) = .ok (some (.string text))
  named : ∀ name form, (name, form) ∈ dateForms text ms → ∀ (param : String) (scope root : Value),
    evaluateIn env param scope root = .ok (some (.string name)) →
    applyFilter env "date" [param] scope root (some v) = .ok (some form)

theorem format_of_mem_dateForms {t : Instant} {name : String} {form : Value}
    (h : (name, form) ∈ dateForms (String.ofList t.toText) t.toMillis) (hmilli : t.milli < 1000) :
    t.format (some name) = form := by
  have hsecond : t.second = t.toMillis / 1000 := by
    rw [Instant.toMillis]
    omega
  simp only [dateForms, List.mem_cons, Prod.mk.injEq, List.not_mem_nil, or_false] at h
  rcases h with ⟨rfl, rfl⟩ | ⟨rfl, rfl⟩ | ⟨rfl, rfl⟩ | ⟨rfl, rfl⟩
  · rfl
  · rfl
  · rfl
  · rw [← hsecond]
    rfl

theorem isDate_of_instant? {v : Value} {t : Instant} (h : v.instant? = some t)
    (hmilli : t.milli < 1000) : IsDate env v (String.ofList t.toText) t.toMillis where
  bare := by
    intro scope root
    have hnone : Filter.resolveParams (evaluateIn env) scope root [] = .ok [] := rfl
    have hdate := applyFilter_of_resolved (f := .date) (by decide) hnone (some v)
    have hrun : Filter.date.run env scope [] (some v) = some (t.format none) := by
      simp [Filter.run, h, Filter.argText, Filter.arg]
    rw [hrun] at hdate
    exact hdate
  named := by
    intro name form hform param scope root hparam
    have hdate := applyFilter_of_evaluateIn (f := .date) (by decide) hparam (some v)
    have hrun : Filter.date.run env scope [some (.string name)] (some v) = some form := by
      simp [Filter.run, h, Filter.argText, Filter.arg, Value.text,
        format_of_mem_dateForms hform hmilli]
    rw [hrun] at hdate
    exact hdate

theorem instant?_int {second : Int} {milli : Nat} (hlow : -62167219200000 ≤ ms)
    (hhigh : ms ≤ 253402300799999) (hmilli : milli < 1000) (hms : second * 1000 + milli = ms) :
    (Value.int (Int64.ofInt ms)).instant? = some ⟨second, milli⟩ := by
  have hfirst : Instant.firstDay ≤ -719528 := by decide
  have hlast : 2932896 ≤ Instant.lastDay := by decide
  have hspan : Instant.firstDay ≤ second / 86400 ∧ second / 86400 ≤ Instant.lastDay := by omega
  have hint : (Int64.ofInt ms).toInt = ms := by
    apply Int64.toInt_ofInt_of_le <;> omega
  rw [Value.instant?, hint, ← hms]
  exact Instant.ofMillis?_eq_some hmilli hspan.1 hspan.2

/-- In the years 0 to 9999 an integer of milliseconds is written as a real date with its time, and
the filter takes the text for the same instant in all of its forms. -/
theorem applyFilter_date_roundTrip (hlow : -62167219200000 ≤ ms) (hhigh : ms ≤ 253402300799999) :
    ∃ (t : Stamp) (milli : Nat), t.date.IsReal ∧ milli < 1000 ∧
      t.moment.second * 1000 + milli = ms ∧
      ∀ env, IsDate env (.int (Int64.ofInt ms)) (String.ofList (t.exact milli)) ms ∧
        IsDate env (.string (String.ofList (t.exact milli))) (String.ofList (t.exact milli))
          ms := by
  have hfirst : yearStart 0 = -719528 := by decide
  have hlast : yearStart 10000 = 2932897 := by decide
  obtain ⟨t, hreal, hsecond⟩ := @Stamp.exists_moment (ms / 1000) (by omega) (by omega)
  obtain ⟨milli, hmilli⟩ : ∃ milli : Nat, ms % 1000 = milli := ⟨(ms % 1000).toNat, by omega⟩
  have hlt : milli < 1000 := by omega
  have hms : t.moment.second * 1000 + milli = ms := by omega
  have htext : Instant.toText ⟨t.moment.second, milli⟩ = t.exact milli :=
    Stamp.toText_moment hreal hlt
  have hmillis : Instant.toMillis ⟨t.moment.second, milli⟩ = ms := hms
  refine ⟨t, milli, hreal, hlt, hms, fun env => ⟨?_, ?_⟩⟩
  · have hinteger := @isDate_of_instant? env _ _ (instant?_int hlow hhigh hlt hms) hlt
    rwa [htext, hmillis] at hinteger
  · have hwritten := @isDate_of_instant? env _ _ (Stamp.instant?_exact hreal hlt) hlt
    rwa [htext, hmillis] at hwritten

/-- The last millisecond before 1970 is in the second before it. -/
theorem applyFilter_date_beforeStart :
    applyFilter ⟨⟨0, 0⟩, id⟩ "date" [] .null .null (some (.int (-1))) =
        .ok (some (.string "1969-12-31T23:59:59.999Z")) ∧
      applyFilter ⟨⟨0, 0⟩, id⟩ "date" ["'unix'"] .null .null
        (some (.string "1969-12-31T23:59:59.999Z")) = .ok (some (.int (-1))) := by
  obtain ⟨t, milli, _, _, _, hdate⟩ := @applyFilter_date_roundTrip (-1) (by decide) (by decide)
  obtain ⟨hinteger, hwritten⟩ := hdate ⟨⟨0, 0⟩, id⟩
  have hbare := hinteger.bare .null .null
  have htext : applyFilter ⟨⟨0, 0⟩, id⟩ "date" [] .null .null (some (.int (-1))) =
      .ok (some (.string "1969-12-31T23:59:59.999Z")) := by cbv
  have hparam : evaluateIn ⟨⟨0, 0⟩, id⟩ "'unix'" .null .null = .ok (some (.string "unix")) := by cbv
  have hunix := hwritten.named "unix" (.int (-1)) (by simp [dateForms]) _ _ _ hparam
  have hsame : String.ofList (t.exact milli) = "1969-12-31T23:59:59.999Z" := by
    simpa using hbare.symm.trans htext
  rw [hsame] at hunix
  exact ⟨htext, hunix⟩

end Reshape
