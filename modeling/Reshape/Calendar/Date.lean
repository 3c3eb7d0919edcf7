/-! Dates of the Gregorian calendar, carried back to all years before it, and the count of days. -/
namespace Reshape

structure Date where
  year : Int
  month : Nat
  day : Nat
deriving DecidableEq, Repr

def isLeapYear (year : Int) : Bool := year % 4 == 0 && (year % 100 != 0 || year % 400 == 0)

/-- The lengths of the months of a year. -/
def monthLengths (leap : Bool) : List Nat :=
  [31, if leap then 29 else 28, 31, 30, 31, 30, 31, 31, 30, 31, 30, 31]

/-- How many leap years there are up to a year, counted from year zero. -/
def leapYearsThrough (year : Int) : Int := year / 4 - year / 100 + year / 400

/-- The first day of a year, counted from the first of January 1970. -/
def yearStart (year : Int) : Int :=
  365 * (year - 1970) + (leapYearsThrough (year - 1) - leapYearsThrough 1969)

namespace Date

/-- Whether the month and the day exist, in a year that can be told. -/
def isValid (d : Date) : Bool :=
  -262143 ≤ d.year && d.year ≤ 262142 && 1 ≤ d.month && 1 ≤ d.day &&
    ((monthLengths (isLeapYear d.year))[d.month - 1]?).any fun length => d.day ≤ length

/-- The days from the first of January 1970 to the date. -/
def toDays (d : Date) : Int :=
  yearStart d.year +
    (((monthLengths (isLeapYear d.year)).take (d.month - 1)).foldl Nat.add 0 + (d.day - 1) : Nat)

/-- The year that a day is in: an estimate by the mean length of years, which misses by one at
most. -/
def yearOfDays (days : Int) : Int :=
  let guess := 1970 + days * 400 / 146097
  if days < yearStart guess then guess - 1
  else if yearStart (guess + 1) ≤ days then guess + 1
  else guess

/-- The month and the day in it of a day of the year. -/
def splitMonths (month day : Nat) : List Nat → Nat × Nat
  | [] => (month, day + 1)
  | length :: rest =>
    if day < length then (month, day + 1) else splitMonths (month + 1) (day - length) rest

/-- The date that is some days after the first of January 1970. -/
def ofDays (days : Int) : Date :=
  let year := yearOfDays days
  let (month, day) := splitMonths 1 (days - yearStart year).toNat (monthLengths (isLeapYear year))
  ⟨year, month, day⟩

end Date

end Reshape
