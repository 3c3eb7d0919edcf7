import Reshape.Calendar.Instant
import Reshape.Number.Numeral
import Reshape.Text.Blank

/-! Reading instants from numbers and from texts in several forms. -/
namespace Reshape

/-- The parts of a date and time as they were read. -/
structure DateTime where
  year : Int
  month : Nat
  day : Nat
  hour : Nat
  minute : Nat
  second : Nat
  milli : Nat
deriving DecidableEq, Repr

namespace DateTime

def start : DateTime := ⟨0, 1, 1, 0, 0, 0, 0⟩

/-- The instant of a date and time that is `offset` seconds ahead of universal time. Second 60 is a
leap second. -/
def toInstant? (t : DateTime) (offset : Int) : Option Instant :=
  let date : Date := ⟨t.year, t.month, t.day⟩
  if date.isValid && t.hour < 24 && t.minute < 60 && t.second ≤ 60 then
    let leap := t.second == 60
    let time := t.hour * 3600 + t.minute * 60 + (if leap then 59 else t.second)
    some ⟨date.toDays * Instant.secondsPerDay + time - offset,
      t.milli + (if leap then 1000 else 0)⟩
  else none

end DateTime

/-- A number that may be part of a date or time. -/
inductive DateField where
  | year
  | month
  | day
  | hour
  | minute
  | second
deriving DecidableEq, Repr

/-- A part of a form of dates: a number, a character that must stand there, or any white space. -/
inductive DateItem where
  | number (field : DateField)
  | char (c : Char)
  | space
deriving DecidableEq, Repr

namespace DateField

/-- Sets the part of a date and time. -/
def put (field : DateField) (n : Int) (t : DateTime) : DateTime :=
  match field with
  | .year => { t with year := n }
  | .month => { t with month := n.toNat }
  | .day => { t with day := n.toNat }
  | .hour => { t with hour := n.toNat }
  | .minute => { t with minute := n.toNat }
  | .second => { t with second := n.toNat }

/-- Between one and `width` digits, with the rest of the text. -/
def digits? (width : Nat) (text : List Char) : Option (Nat × List Char) :=
  let run := (text.take width).takeWhile Char.isDigit
  if run.isEmpty then none else some (digitsValue run, text.drop run.length)

/-- A year may have a sign and then any number of digits, otherwise up to four; all else has up to
two. White space before a number is left out. -/
def read? (field : DateField) (text : List Char) : Option (Int × List Char) :=
  match field, trimStart text with
  | .year, '-' :: rest => (digits? rest.length rest).map fun (n, rest) => (-(n : Int), rest)
  | .year, '+' :: rest => (digits? rest.length rest).map fun (n, rest) => ((n : Int), rest)
  | .year, text => (digits? 4 text).map fun (n, rest) => ((n : Int), rest)
  | _, text => (digits? 2 text).map fun (n, rest) => ((n : Int), rest)

end DateField

/-- Reads a whole text in one form. -/
def readItems? (t : DateTime) : List DateItem → List Char → Option DateTime
  | [], text => if text.isEmpty then some t else none
  | .number field :: items, text =>
    match field.read? text with
    | some (n, rest) => readItems? (field.put n t) items rest
    | none => none
  | .char _ :: _, [] => none
  | .char c :: items, d :: rest => if c = d then readItems? t items rest else none
  | .space :: items, text => readItems? t items (trimStart text)

namespace DateForm

def yearFirst (separator : Char) : List DateItem :=
  [.number .year, .char separator, .number .month, .char separator, .number .day]

def monthFirst : List DateItem :=
  [.number .month, .char '/', .number .day, .char '/', .number .year]

def time : List DateItem :=
  [.number .hour, .char ':', .number .minute, .char ':', .number .second]

/-- The forms that are tried, in this order; times go before bare dates. -/
def all : List (List DateItem) :=
  [yearFirst '-' ++ .char 'T' :: time, yearFirst '-' ++ .space :: time,
    monthFirst ++ .space :: time, yearFirst '/' ++ .space :: time,
    yearFirst '-', monthFirst, yearFirst '/']

end DateForm

/-- Exactly `width` digits, with the rest of the text. -/
def fixedDigits? (width : Nat) (text : List Char) : Option (Nat × List Char) :=
  let run := text.take width
  if run.length = width ∧ run.all Char.isDigit then some (digitsValue run, text.drop width)
  else none

def expect? (c : Char) : List Char → Option (List Char)
  | d :: rest => if d = c then some rest else none
  | [] => none

/-- Milliseconds from the digits after a point; what is finer is dropped. -/
def fraction? (text : List Char) : Option (Nat × List Char) :=
  match text with
  | '.' :: rest =>
    let run := rest.takeWhile Char.isDigit
    if run.isEmpty then none
    else some (digitsValue ((run ++ ['0', '0']).take 3), rest.dropWhile Char.isDigit)
  | _ => some (0, text)

/-- The offset from universal time in seconds, less than a day. -/
def offset? (text : List Char) : Option (Int × List Char) := do
  let (sign, text) ← match text with
    | 'Z' :: _ => some (0, text)
    | 'z' :: _ => some (0, text)
    | '+' :: rest => some ((1 : Int), rest)
    | '-' :: rest => some ((-1 : Int), rest)
    | c :: rest => if c.toNat = 0x2212 then some ((-1 : Int), rest) else none
    | [] => none
  if sign = 0 then some (0, text.drop 1)
  else
    let (hours, text) ← fixedDigits? 2 text
    let text ← expect? ':' text
    let (minutes, text) ← fixedDigits? 2 text
    if hours < 24 ∧ minutes < 60 then some (sign * (hours * 3600 + minutes * 60 : Nat), text)
    else none

/-- Reads a timestamp with all its fields and an offset. -/
def timestamp? (text : List Char) : Option Instant := do
  let (year, text) ← fixedDigits? 4 text
  let (month, text) ← fixedDigits? 2 (← expect? '-' text)
  let (day, text) ← fixedDigits? 2 (← expect? '-' text)
  let text ← match text with
    | c :: rest => if c = 'T' ∨ c = 't' ∨ c = ' ' then some rest else none
    | [] => none
  let (hour, text) ← fixedDigits? 2 text
  let (minute, text) ← fixedDigits? 2 (← expect? ':' text)
  let (second, text) ← fixedDigits? 2 (← expect? ':' text)
  let (milli, text) ← fraction? text
  let (offset, text) ← offset? text
  if text.isEmpty then
    DateTime.toInstant? ⟨year, month, day, hour, minute, second, milli⟩ offset
  else none

/-- The first form in which a text can be read. -/
def firstForm? (text : List Char) : List (List DateItem) → Option Instant
  | [] => none
  | form :: rest =>
    match (readItems? .start form text).bind fun t => t.toInstant? 0 with
    | some t => some t
    | none => firstForm? text rest

/-- An instant from milliseconds, as a number or as text, or from a text in one of the forms for
dates. Forms without an offset are universal time. -/
def Value.instant? : Value → Option Instant
  | .int ms => Instant.ofMillis? ms.toInt
  | .float x => x.toInt?.bind Instant.ofMillis?
  | .string s =>
    let text := trim s.toList
    match int64? text with
    | some ms => Instant.ofMillis? ms.toInt
    | none => (timestamp? text).orElse fun _ => firstForm? text DateForm.all
  | _ => none

end Reshape
