import Reshape.Pattern.Basic

/-! Patterns as programs: lists of instructions that pass on to the next one, jump or fork. -/
namespace Reshape

inductive Instruction where
  /-- Takes a character of a set. -/
  | char (s : CharSet)
  | anchor (a : Anchor)
  /-- Notes the place in the text in a slot. -/
  | save (slot : Nat)
  /-- Goes on at two addresses, the first one being preferred. -/
  | fork (preferred other : Nat)
  | jump (target : Nat)
  | accept
deriving DecidableEq, Repr

namespace Pattern

/-- A fork between repeating and leaving. -/
def choose (greedy : Bool) (again leave : Nat) : Instruction :=
  if greedy then .fork again leave else .fork leave again

/-- A piece of code for every address that it may stand at. -/
abbrev Code := Nat → List Instruction

namespace Code

def append (a b : Code) : Code := fun start =>
  let first := a start
  first ++ b (start + first.length)

def exactly (body : Code) : Nat → Code
  | 0 => fun _ => []
  | n + 1 => body.append (exactly body n)

def optional (greedy : Bool) (body : Code) : Code := fun start =>
  let inner := body (start + 1)
  choose greedy (start + 1) (start + 1 + inner.length) :: inner

def plus (greedy : Bool) (body : Code) : Code := fun start =>
  let inner := body start
  inner ++ [choose greedy start (start + inner.length + 1)]

def star (greedy : Bool) (body : Code) : Code := fun start =>
  let inner := body (start + 1)
  choose greedy (start + 1) (start + inner.length + 2) :: inner ++ [.jump start]

/-- Up to `n` repetitions, each one inside the one before it. -/
def upTo (greedy : Bool) (body : Code) : Nat → Code
  | 0 => fun _ => []
  | n + 1 => optional greedy (body.append (upTo greedy body n))

/-- Repetition without limit. A body that may be empty is repeated as an optional run of at least
one, which keeps the order of preference. -/
def atLeast (greedy nullable : Bool) (body : Code) : Nat → Code
  | 0 => if nullable then optional greedy (plus greedy body) else star greedy body
  | n + 1 => (exactly body n).append (plus greedy body)

/-- One code or the other, which is tried second. -/
def orElse (a b : Code) : Code := fun start =>
  let first := a (start + 1)
  let second := b (start + first.length + 2)
  .fork (start + 1) (start + first.length + 2) :: first ++
    .jump (start + first.length + 2 + second.length) :: second

end Code

mutual

def code : Pattern → Code
  | .empty => fun _ => []
  | .set s => fun _ => [.char s]
  | .anchor a => fun _ => [.anchor a]
  | .group body => code body
  | .capture index body =>
    Code.append (fun _ => [.save (2 * index)])
      (Code.append (code body) fun _ => [.save (2 * index + 1)])
  | .sequence parts => codeAll parts
  | .choice arms => codeAny arms
  | .times min none greedy body => Code.atLeast greedy body.nullable (code body) min
  | .times min (some max) greedy body =>
    Code.append (Code.exactly (code body) min) (Code.upTo greedy (code body) (max - min))

def codeAll : List Pattern → Code
  | [] => fun _ => []
  | p :: rest => Code.append (code p) (codeAll rest)

def codeAny : List Pattern → Code
  | [] => fun _ => []
  | p :: rest => if rest.isEmpty then code p else Code.orElse (code p) (codeAny rest)

end

/-- The program for a pattern: its code and then acceptance. -/
def program (p : Pattern) : Array Instruction := (code p 0 ++ [Instruction.accept]).toArray

end Pattern

end Reshape
