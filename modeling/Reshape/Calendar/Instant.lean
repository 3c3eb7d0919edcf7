import Reshape.Calendar.Date
import Reshape.Value.Basic

/-! Instants of universal time, and the forms they are written in. -/
namespace Reshape

/-- An instant: whole seconds since the start of 1970, and milliseconds. A leap second counts as
milliseconds from 1000 on. -/
structure Instant where
  second : Int
  milli : Nat
deriving DecidableEq, Repr

/-- Two digits at least, with a zero in front. -/
def padded (width n : Nat) : List Char :=
  let digits := Nat.toDigits 10 n
  List.replicate (width - digits.length) '0' ++ digits

namespace Instant

def secondsPerDay : Int := 86400

/-- The first and the last day of the calendar. -/
def firstDay : Int := yearStart (-262143)

def lastDay : Int := yearStart 262143 - 1

/-- The instant some milliseconds after the start of 1970, if it is inside the calendar. -/
def ofMillis? (ms : Int) : Option Instant :=
  let second := ms / 1000
  let day := second / secondsPerDay
  if firstDay ≤ day ∧ day ≤ lastDay then some ⟨second, (ms % 1000).toNat⟩ else none

def toMillis (t : Instant) : Int := t.second * 1000 + t.milli

/-- A year with four digits, and with a sign when they are not enough. -/
def yearText (year : Int) : List Char :=
  if 0 ≤ year ∧ year ≤ 9999 then padded 4 year.toNat
  else (if year < 0 then '-' else '+') :: padded 4 year.natAbs

/-- Date and time to the millisecond, the way JSON documents carry them. -/
def toText (t : Instant) : List Char :=
  let date := Date.ofDays (t.second / secondsPerDay)
  let time := (t.second % secondsPerDay).toNat
  let leap := if 1000 ≤ t.milli then 1 else 0
  yearText date.year ++ '-' :: padded 2 date.month ++ '-' :: padded 2 date.day ++
    'T' :: padded 2 (time / 3600) ++ ':' :: padded 2 (time / 60 % 60) ++
    ':' :: padded 2 (time % 60 + leap) ++ '.' :: padded 3 (t.milli % 1000) ++ ['Z']

/-- The forms of an instant by their names; an unknown name gives the text. -/
def format (t : Instant) : Option String → Value
  | some "milliseconds" => .int (Int64.ofInt t.toMillis)
  | some "javascript" => .int (Int64.ofInt t.toMillis)
  | some "unix" => .int (Int64.ofInt t.second)
  | _ => .ofText t.toText

end Instant

end Reshape
