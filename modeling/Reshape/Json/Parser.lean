import Reshape.Number.Numeral
import Reshape.Value.Basic

/-! Strict JSON texts read as values. -/
namespace Reshape.Json

/-- White space between the parts of a JSON text. -/
def isSpace (c : Char) : Bool := c = ' ' || c = '\t' || c = '\n' || c = '\r'

def skipSpace (text : List Char) : List Char := text.dropWhile isSpace

/-- Appends digits to a coefficient as long as it stays below `2 ^ 64`; with the coefficient comes
the count of digits left over. -/
def gather (coefficient : Nat) : List Char → Nat × Nat
  | [] => (coefficient, 0)
  | d :: rest =>
    let next := Nat.ofDigitChars 10 [d] coefficient
    if next < 0x10000000000000000 then gather next rest else (coefficient, rest.length + 1)

/-- Divides by a power of ten in parts of at most 308 places. -/
def scaleDown (x : Binary64) (power : Nat) : Nat → Binary64
  | 0 => .zero
  | fuel + 1 =>
    if power ≤ 308 then x.div (.ofDecimal false 1 power)
    else scaleDown (x.div (.ofDecimal false 1 308)) (power - 308) fuel

/-- Multiplies a coefficient by a power of ten, in binary arithmetic with its rounding; none past
the largest number. Three parts are enough to bring any coefficient down to zero. -/
def scale? (coefficient : Nat) (power : Int) : Option Binary64 :=
  let x := Binary64.ofInt coefficient
  if power < 0 then some (scaleDown x power.natAbs 3)
  else if coefficient = 0 then some .zero
  else if 308 < power then none
  else
    let y := x.mul (.ofDecimal false 1 power)
    if y.isFinite then some y else none

/-- The float with the given digits before and after the point and the given exponent. -/
def float? (negative : Bool) (whole fraction : List Char) (exponent : Int) : Option Value :=
  let (coefficient, left) := gather 0 whole
  let (coefficient, fractionLeft) := gather coefficient fraction
  let power := (left : Int) - (fraction.length - fractionLeft : Nat) + exponent
  (scale? coefficient power).map fun x => .float (if negative then x.neg else x)

/-- A numeral without fraction and exponent is an integer if it fits 64 bits. A minus before zero
makes a float. -/
def whole? (negative : Bool) (digits : List Char) : Option Value :=
  let n := digitsValue digits
  if negative then
    if n ≠ 0 ∧ n ≤ 0x8000000000000000 then some (.int (Int64.ofInt (-n)))
    else float? true digits [] 0
  else if n < 0x8000000000000000 then some (.int (Int64.ofInt n))
  else float? false digits [] 0

/-- The fraction of a numeral, with the rest of the text; a point needs digits after it. -/
def fraction? : List Char → Option (Option (List Char) × List Char)
  | '.' :: text =>
    let digits := text.takeWhile Char.isDigit
    if digits.isEmpty then none else some (some digits, text.dropWhile Char.isDigit)
  | text => some (none, text)

/-- The exponent of a numeral, with the rest of the text; a mark needs digits after it. -/
def exponent? : List Char → Option (Option Int × List Char)
  | [] => some (none, [])
  | c :: text =>
    if c = 'e' ∨ c = 'E' then
      let (negative, text) := splitSign text
      let digits := text.takeWhile Char.isDigit
      let n : Int := digitsValue digits
      if digits.isEmpty then none
      else some (some (if negative then -n else n), text.dropWhile Char.isDigit)
    else some (none, c :: text)

def number? (text : List Char) : Option (Value × List Char) :=
  let (negative, text) := match text with
    | '-' :: rest => (true, rest)
    | rest => (false, rest)
  let whole := text.takeWhile Char.isDigit
  if whole.isEmpty ∨ (whole.head? = some '0' ∧ whole ≠ ['0']) then none
  else do
    let (fraction, text) ← fraction? (text.dropWhile Char.isDigit)
    let (exponent, text) ← exponent? text
    let value ← match fraction, exponent with
      | none, none => whole? negative whole
      | _, _ => float? negative whole (fraction.getD []) (exponent.getD 0)
    some (value, text)

def hexDigit? (c : Char) : Option Nat :=
  if '0' ≤ c ∧ c ≤ '9' then some (c.toNat - '0'.toNat)
  else if 'a' ≤ c ∧ c ≤ 'f' then some (c.toNat - 'a'.toNat + 10)
  else if 'A' ≤ c ∧ c ≤ 'F' then some (c.toNat - 'A'.toNat + 10)
  else none

def hex4? (a b c d : Char) : Option Nat := do
  let a ← hexDigit? a
  let b ← hexDigit? b
  let c ← hexDigit? c
  let d ← hexDigit? d
  some (((a * 16 + b) * 16 + c) * 16 + d)

/-- The character that a backslash and a letter stand for. -/
def unescape? (c : Char) : Option Char :=
  if c = '"' ∨ c = '\\' ∨ c = '/' then some c
  else if c = 'b' then some '\x08'
  else if c = 'f' then some '\x0c'
  else if c = 'n' then some '\n'
  else if c = 'r' then some '\r'
  else if c = 't' then some '\t'
  else none

def push (c : Char) (result : Option (List Char × List Char)) : Option (List Char × List Char) :=
  result.map fun (text, rest) => (c :: text, rest)

/-- The rest of a string after its opening quote: its characters, and the text after the closing
quote. Halves of a surrogate pair must stand together. -/
def string? : List Char → Option (List Char × List Char)
  | [] => none
  | '"' :: rest => some ([], rest)
  | '\\' :: 'u' :: a :: b :: c :: d :: rest =>
    match hex4? a b c d with
    | none => none
    | some n =>
      if 0xD800 ≤ n ∧ n < 0xDC00 then
        match rest with
        | '\\' :: 'u' :: e :: f :: g :: h :: rest =>
          match hex4? e f g h with
          | none => none
          | some low =>
            if 0xDC00 ≤ low ∧ low < 0xE000 then
              push (Char.ofNat (0x10000 + (n - 0xD800) * 0x400 + (low - 0xDC00))) (string? rest)
            else none
        | _ => none
      else if 0xDC00 ≤ n ∧ n < 0xE000 then none
      else push (Char.ofNat n) (string? rest)
  | '\\' :: c :: rest =>
    match unescape? c with
    | none => none
    | some c => push c (string? rest)
  | c :: rest => if c.toNat < 32 then none else push c (string? rest)

mutual

/-- Reads one value; `depth` says how many arrays and objects may still be opened. -/
def value? (depth : Nat) (text : List Char) : Nat → Option (Value × List Char)
  | 0 => none
  | fuel + 1 =>
    match skipSpace text with
    | 'n' :: 'u' :: 'l' :: 'l' :: rest => some (.null, rest)
    | 't' :: 'r' :: 'u' :: 'e' :: rest => some (.bool true, rest)
    | 'f' :: 'a' :: 'l' :: 's' :: 'e' :: rest => some (.bool false, rest)
    | '"' :: rest => (string? rest).map fun (text, rest) => (.ofText text, rest)
    | '[' :: rest =>
      if depth = 0 then none
      else match skipSpace rest with
        | ']' :: rest => some (.array [], rest)
        | rest => (items? (depth - 1) rest fuel).map fun (items, rest) => (.array items, rest)
    | '{' :: rest =>
      if depth = 0 then none
      else match skipSpace rest with
        | '}' :: rest => some (.object [], rest)
        | rest => (entries? (depth - 1) rest fuel).map fun (entries, rest) =>
            (.object (Fields.ofList entries), rest)
    | rest => number? rest

/-- Reads the elements of an array that has some, up to its closing bracket. -/
def items? (depth : Nat) (text : List Char) : Nat → Option (List Value × List Char)
  | 0 => none
  | fuel + 1 => do
    let (v, text) ← value? depth text fuel
    match skipSpace text with
    | ',' :: rest =>
      let (items, rest) ← items? depth rest fuel
      some (v :: items, rest)
    | ']' :: rest => some ([v], rest)
    | _ => none

/-- Reads the entries of an object that has some, up to its closing brace. -/
def entries? (depth : Nat) (text : List Char) : Nat → Option (List (String × Value) × List Char)
  | 0 => none
  | fuel + 1 => do
    let (key, text) ← match skipSpace text with
      | '"' :: rest => string? rest
      | _ => none
    let text ← match skipSpace text with
      | ':' :: rest => some rest
      | _ => none
    let (v, text) ← value? depth text fuel
    match skipSpace text with
    | ',' :: rest =>
      let (entries, rest) ← entries? depth rest fuel
      some ((String.ofList key, v) :: entries, rest)
    | '}' :: rest => some ([(String.ofList key, v)], rest)
    | _ => none

end

/-- Reads a whole text as one value with at most `depth` nested arrays and objects. Every second
step of the reader takes a character, which bounds their number. -/
def parseWithin? (depth : Nat) (text : List Char) : Option Value := do
  let (v, rest) ← value? depth text (2 * text.length + 2)
  if (skipSpace rest).isEmpty then some v else none

def maxDepth : Nat := 127

/-- Reads a whole text as one JSON value. -/
def parse? (text : List Char) : Option Value := parseWithin? maxDepth text

end Reshape.Json
