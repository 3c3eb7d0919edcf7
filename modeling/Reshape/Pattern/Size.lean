import Reshape.Pattern.Basic

/-! The memory that the automaton for a pattern takes. It reads the bytes of a text in UTF-8, and a
second one of its kind reads them backwards. -/
namespace Reshape

/-- A state with one way to go on. -/
def stateBytes : Nat := 32

/-- A range of a state that has several. -/
def rangeBytes : Nat := 8

/-- A state with two ways to go on. -/
def forkBytes : Nat := stateBytes + 8

namespace CharSet

/-- The bytes of the numbers between two of them, where the first byte is counted from `lead` and
`more` bytes of six digits stand behind it. Every list has a range for each byte. -/
def byteRanges (lead : Nat) : Nat → Nat → Nat → List (List (Nat × Nat))
  | 0, lo, hi => [[(lead + lo, lead + hi)]]
  | more + 1, lo, hi =>
    let unit := Nat.pow 64 (more + 1)
    let under byte lo hi := (byteRanges 0x80 more lo hi).map ((lead + byte, lead + byte) :: ·)
    if lo / unit = hi / unit then under (lo / unit) (lo % unit) (hi % unit)
    else
      -- The first bytes from `full` up to `stop` have every byte behind them.
      let full := (lo + (unit - 1)) / unit
      let stop := (hi + 1) / unit
      let whole := (lead + full, lead + (stop - 1)) :: List.replicate (more + 1) (0x80, 0xBF)
      (if full = lo / unit then [] else under (lo / unit) (lo % unit) (unit - 1)) ++
        (if full < stop then [whole] else []) ++
        (if stop = hi / unit then under (hi / unit) 0 (hi % unit) else [])

/-- The code points with encodings of one length, by where their first bytes are counted from, how
many bytes follow, and the least and the largest one. Surrogates have none. -/
def encodings : List (Nat × Nat × Nat × Nat) :=
  [(0, 0, 0, 0x7F), (0xC0, 1, 0x80, 0x7FF), (0xE0, 2, 0x800, 0xD7FF), (0xE0, 2, 0xE000, 0xFFFF),
    (0xF0, 3, 0x10000, lastCodePoint)]

/-- The encodings of all characters of a set, in order. -/
def byteSequences (s : CharSet) : List (List (Nat × Nat)) :=
  s.ranges.flatMap fun (lo, hi) =>
    encodings.flatMap fun (lead, more, first, last) =>
      if max lo first ≤ min hi last then byteRanges lead more (max lo first) (min hi last) else []

/-- How many bytes two sequences have in common at their starts. -/
def shared : List (Nat × Nat) → List (Nat × Nat) → Nat
  | r :: rest, s :: more => if r = s then shared rest more + 1 else 0
  | _, _ => 0

/-- A state for each byte of ordered sequences, less what each one shares with the one before. -/
def sequenceStates (before : List (Nat × Nat)) : List (List (Nat × Nat)) → Nat
  | [] => 0
  | s :: rest => s.length - shared before s + sequenceStates s rest

/-- The bytes that a set takes. A single character is a chain of its bytes, a set within ASCII one
state and its end; any other set is largest in the automaton that reads backwards, where it has an
arm for each sequence. -/
def bytes (s : CharSet) : Nat :=
  match s.ranges with
  | [(n, m)] =>
    if n = m then (Char.ofNat n).utf8Size * stateBytes
    else if m ≤ 0x7F then 2 * stateBytes
    else severalBytes s.byteSequences
  | ranges =>
    if ranges.all (·.2 ≤ 0x7F) then 2 * stateBytes + ranges.length * rangeBytes
    else severalBytes s.byteSequences
where
  severalBytes (sequences : List (List (Nat × Nat))) : Nat :=
    (2 + sequenceStates [] sequences) * stateBytes + sequences.length * 4

end CharSet

namespace Pattern

/-- The bytes of a repetition, with a copy of the body for each time that it may match if there is a
limit, and for each time that it must if there is none. -/
def timesBytes (body : Nat) (nullable : Bool) (min : Nat) : Option Nat → Nat
  | none =>
    if min = 0 then body + forkBytes + (if nullable then forkBytes + stateBytes else 0)
    else min * body + forkBytes
  | some max =>
    let forced := if min = 0 then stateBytes else min * body
    if max ≤ min then forced
    else if max = 1 then body + forkBytes + stateBytes
    else forced + (max - min) * (body + forkBytes) + stateBytes

mutual

/-- The bytes that a pattern takes when it is compiled as it is written. -/
def bytes : Pattern → Nat
  | .empty => stateBytes
  | .set s => s.bytes
  | .anchor _ => stateBytes
  | .group body => body.bytes
  | .capture _ body => body.bytes + 2 * stateBytes
  | .sequence parts => allBytes parts
  | .choice arms => allBytes arms + arms.length * 4 + 2 * stateBytes
  | .times min max _ body => timesBytes body.bytes body.nullable min max

def allBytes : List Pattern → Nat
  | [] => 0
  | p :: rest => p.bytes + allBytes rest

end

/-- With the search for a first place in front of the pattern, the places of the whole match, and
acceptance. -/
def automatonBytes (p : Pattern) : Nat := p.bytes + forkBytes + 5 * stateBytes

/-- Ten mebibytes, which no automaton may exceed. -/
def maxBytes : Nat := 0xA00000

end Pattern

end Reshape
