import Reshape.Pattern.Program

/-! Finding the leftmost match of a program in a text. At every place the ways through the program
are kept in order of preference, each instruction once, so that a search takes no longer than the
product of the two lengths from each start. -/
namespace Reshape.Pattern

/-- The places noted so far; the slots of a group are its number doubled and the one after. -/
abbrev Slots := List (Option Nat)

/-- A way through the program: the address it has come to, and its slots. -/
abbrev Thread := Nat × Slots

/-- A place in a text: its number, and the characters on both sides. -/
structure Place where
  index : Nat
  before : Option Char
  after : Option Char

namespace Place

/-- Whether two word tests on the left and the right make the given edge. -/
def hasEdge (edge : WordEdge) (left right : Bool) : Bool :=
  match edge with
  | .boundary => left != right
  | .noBoundary => left == right
  | .start => !left && right
  | .stop => left && !right
  | .halfStart => !left
  | .halfStop => !right

/-- A line begins at the start and after a line feed; with `crlf` also after a carriage return that
no line feed follows. -/
def beginsLine (p : Place) (crlf : Bool) : Bool :=
  p.before.isNone || p.before == some '\n' ||
    (crlf && p.before == some '\r' && p.after != some '\n')

/-- A line ends at the end and before a line feed; with `crlf` also before a carriage return, and
then not between the two. -/
def endsLine (p : Place) (crlf : Bool) : Bool :=
  p.after.isNone ||
    (p.after == some '\n' && !(crlf && p.before == some '\r')) ||
    (crlf && p.after == some '\r')

def satisfies (p : Place) : Anchor → Bool
  | .textStart => p.before.isNone
  | .textEnd => p.after.isNone
  | .lineStart crlf => p.beginsLine crlf
  | .lineEnd crlf => p.endsLine crlf
  | .word edge letters =>
    hasEdge edge (p.before.any letters.contains) (p.after.any letters.contains)

end Place

/-- Follows threads to the instructions that take a character or accept. The stack holds the threads
still to follow, the preferred one first; an address is followed once. -/
def follow (prog : Array Instruction) (place : Place) :
    Nat → List Thread → Array Bool → List Thread → List Thread
  | 0, _, _, found => found.reverse
  | _, [], _, found => found.reverse
  | fuel + 1, (pc, slots) :: stack, seen, found =>
    if seen.getD pc true then follow prog place fuel stack seen found
    else
      let seen := seen.setIfInBounds pc true
      match prog[pc]? with
      | none => follow prog place fuel stack seen found
      | some (.char _) => follow prog place fuel stack seen ((pc, slots) :: found)
      | some .accept => follow prog place fuel stack seen ((pc, slots) :: found)
      | some (.anchor a) =>
        if place.satisfies a then follow prog place fuel ((pc + 1, slots) :: stack) seen found
        else follow prog place fuel stack seen found
      | some (.save slot) =>
        follow prog place fuel ((pc + 1, slots.set slot (some place.index)) :: stack) seen found
      | some (.fork a b) => follow prog place fuel ((a, slots) :: (b, slots) :: stack) seen found
      | some (.jump target) => follow prog place fuel ((target, slots) :: stack) seen found

/-- All threads that the given ones lead to without taking a character. Each address puts at most
two more on the stack. -/
def closure (prog : Array Instruction) (place : Place) (threads : List Thread) : List Thread :=
  follow prog place (2 * prog.size + threads.length + 1) threads
    (Array.replicate prog.size false) []

/-- Lets threads take a character. One that accepts ends the list: what comes after it is not
preferred. -/
def advance (prog : Array Instruction) (c : Option Char) :
    List Thread → List Thread × Option Slots
  | [] => ([], none)
  | (pc, slots) :: rest =>
    match prog[pc]? with
    | some .accept => ([], some slots)
    | some (.char s) =>
      let (next, accepted) := advance prog c rest
      if c.any s.contains then ((pc + 1, slots) :: next, accepted) else (next, accepted)
    | _ => advance prog c rest

/-- Runs threads through a text and gives the end and the slots of the preferred match. -/
def runThreads (prog : Array Instruction) (index : Nat) (before : Option Char)
    (threads : List Thread) (best : Option (Nat × Slots)) : List Char → Option (Nat × Slots)
  | [] =>
    let closed := closure prog ⟨index, before, none⟩ threads
    match (advance prog none closed).2 with
    | some slots => some (index, slots)
    | none => best
  | c :: rest =>
    let closed := closure prog ⟨index, before, some c⟩ threads
    let (next, accepted) := advance prog (some c) closed
    let best := match accepted with
      | some slots => some (index, slots)
      | none => best
    if next.isEmpty then best else runThreads prog (index + 1) (some c) next best rest

/-- A match: where it starts and ends, and the slots of its groups. -/
structure Match where
  start : Nat
  stop : Nat
  slots : Slots
deriving DecidableEq, Repr

/-- The match that begins at a place, if there is one. -/
def matchAt (prog : Array Instruction) (slots : Slots) (index : Nat) (before : Option Char)
    (text : List Char) : Option Match :=
  (runThreads prog index before [(0, slots)] none text).map fun (stop, slots) =>
    ⟨index, stop, slots⟩

/-- The matches in a text from left to right without overlap, after skipping some characters. An
empty match may not stand where the match before it ended. -/
def matchesFrom (prog : Array Instruction) (slots : Slots) (index : Nat) (before : Option Char)
    (lastStop : Option Nat) : Nat → List Char → List Match
  | _, [] =>
    match matchAt prog slots index before [] with
    | some m => if lastStop = some index then [] else [m]
    | none => []
  | skip + 1, c :: rest => matchesFrom prog slots (index + 1) (some c) lastStop skip rest
  | 0, c :: rest =>
    match matchAt prog slots index before (c :: rest) with
    | none => matchesFrom prog slots (index + 1) (some c) lastStop 0 rest
    | some m =>
      if m.stop ≠ index then
        m :: matchesFrom prog slots (index + 1) (some c) (some m.stop) (m.stop - index - 1) rest
      else if lastStop = some index then
        matchesFrom prog slots (index + 1) (some c) lastStop 0 rest
      else m :: matchesFrom prog slots (index + 1) (some c) (some index) 0 rest

end Reshape.Pattern
