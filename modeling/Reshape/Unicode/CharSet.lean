import Reshape.Text.Split
import Reshape.Unicode.CaseTable

/-! Sets of characters as ordered ranges of code points. -/
namespace Reshape

/-- Ranges of code points in ascending order, with gaps between them. -/
structure CharSet where
  ranges : List (Nat × Nat)
deriving DecidableEq, Repr

namespace CharSet

/-- Whether a code point is in one of some ordered ranges. -/
def inRanges (n : Nat) : List (Nat × Nat) → Bool
  | [] => false
  | (lo, hi) :: rest => if n < lo then false else if n ≤ hi then true else inRanges n rest

def contains (s : CharSet) (c : Char) : Bool := inRanges c.toNat s.ranges

/-- Joins ranges that touch or overlap, when they are ordered by their starts. -/
def join : List (Nat × Nat) → List (Nat × Nat)
  | [] => []
  | range :: rest => go range rest
where
  go (range : Nat × Nat) : List (Nat × Nat) → List (Nat × Nat)
    | [] => [range]
    | next :: rest =>
      if next.1 ≤ range.2 + 1 then go (range.1, max range.2 next.2) rest
      else range :: go next rest

def ofRanges (ranges : List (Nat × Nat)) : CharSet :=
  ⟨join ((ranges.filter fun r => r.1 ≤ r.2).mergeSort fun a b => a.1 ≤ b.1)⟩

def empty : CharSet := ⟨[]⟩

def lastCodePoint : Nat := 0x10FFFF

def full : CharSet := ⟨[(0, lastCodePoint)]⟩

def single (c : Char) : CharSet := ⟨[(c.toNat, c.toNat)]⟩

def union (s t : CharSet) : CharSet := ofRanges (s.ranges ++ t.ranges)

/-- The gaps between ordered ranges, from a given start on. -/
def gaps (start : Nat) : List (Nat × Nat) → List (Nat × Nat)
  | [] => if start ≤ lastCodePoint then [(start, lastCodePoint)] else []
  | (lo, hi) :: rest =>
    if start < lo then (start, lo - 1) :: gaps (hi + 1) rest else gaps (hi + 1) rest

def complement (s : CharSet) : CharSet := ⟨gaps 0 s.ranges⟩

def inter (s t : CharSet) : CharSet := (s.complement.union t.complement).complement

def diff (s t : CharSet) : CharSet := s.inter t.complement

def symmDiff (s t : CharSet) : CharSet := (s.diff t).union (t.diff s)

/-- The code points that differ from a given one in case only; no cycle is longer than four. -/
def caseCycle (n : Nat) : List Nat :=
  match Unicode.shift? Unicode.foldShifts n with
  | none => []
  | some a =>
    let next k := (Unicode.shift? Unicode.foldShifts k).getD n
    [a, next a, next (next a)]

/-- The code points in a set that a shift maps, with the rest of their cycles. -/
def shifted (ranges : List (Nat × Nat)) (shift : Unicode.Shift) : List Nat :=
  let candidates := (List.range ((shift.last - shift.first) / shift.step + 1)).map fun i =>
    shift.first + i * shift.step
  (candidates.filter fun n => inRanges n ranges).flatMap caseCycle

/-- The set with all characters that differ from one of its own in case only. -/
def caseClosure (s : CharSet) : CharSet :=
  let touched := Unicode.foldShifts.filter fun shift =>
    s.ranges.any fun r => r.1 ≤ shift.last && shift.first ≤ r.2
  let added := touched.flatMap (shifted s.ranges)
  ofRanges (s.ranges ++ added.map fun n => (n, n))

/-- The number that hexadecimal digits in upper case stand for. -/
def hexValue (text : List Char) : Nat :=
  text.foldl (fun n c => n * 16 + (if c.isDigit then c.toNat - 48 else c.toNat - 55)) 0

def readRange (text : List Char) : Nat × Nat :=
  match text.splitOn '-' with
  | [lo, hi] => (hexValue lo, hexValue hi)
  | _ => (hexValue text, hexValue text)

/-- Reads ranges like `41-5A 5F`, with spaces or line breaks between them. -/
def parse (text : String) : CharSet :=
  let words := (text.toList.map fun c => if c = '\n' then ' ' else c).splitOn ' '
  ⟨(words.filter fun word => !word.isEmpty).map readRange⟩

end CharSet

end Reshape
