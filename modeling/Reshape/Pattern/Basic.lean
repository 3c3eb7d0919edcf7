import Reshape.Unicode.CharSet

/-! Regular expressions as trees. -/
namespace Reshape

/-- Where two neighbouring characters meet, one of them being part of a word or not. -/
inductive WordEdge where
  | boundary
  | noBoundary
  | start
  | stop
  | halfStart
  | halfStop
deriving DecidableEq, Repr

/-- A condition on a place in the text. -/
inductive Anchor where
  | textStart
  | textEnd
  /-- After a line break; with `crlf` a carriage return breaks lines too. -/
  | lineStart (crlf : Bool)
  | lineEnd (crlf : Bool)
  | word (edge : WordEdge) (letters : CharSet)
deriving DecidableEq, Repr

inductive Pattern where
  | empty
  /-- One character of a set. -/
  | set (s : CharSet)
  | anchor (a : Anchor)
  /-- Parentheses that only group. -/
  | group (body : Pattern)
  /-- Parentheses whose match is kept under a number. -/
  | capture (index : Nat) (body : Pattern)
  | sequence (parts : List Pattern)
  | choice (arms : List Pattern)
  /-- Repetition, at most `max` times if that is given; a greedy one prefers more. -/
  | times (min : Nat) (max : Option Nat) (greedy : Bool) (body : Pattern)

namespace Pattern

mutual

/-- Whether the pattern may match the empty text. -/
def nullable : Pattern → Bool
  | .empty => true
  | .set _ => false
  | .anchor _ => true
  | .group body => body.nullable
  | .capture _ body => body.nullable
  | .sequence parts => allNullable parts
  | .choice arms => anyNullable arms
  | .times min _ _ body => min == 0 || body.nullable

def allNullable : List Pattern → Bool
  | [] => true
  | p :: rest => p.nullable && allNullable rest

def anyNullable : List Pattern → Bool
  | [] => false
  | p :: rest => p.nullable || anyNullable rest

end

mutual

/-- Whether the pattern matches nothing but the empty text. -/
def isWidthless : Pattern → Bool
  | .empty => true
  | .set _ => false
  | .anchor _ => true
  | .group body => body.isWidthless
  | .capture _ body => body.isWidthless
  | .sequence parts => allWidthless parts
  | .choice arms => allWidthless arms
  | .times _ max _ body => max == some 0 || body.isWidthless

def allWidthless : List Pattern → Bool
  | [] => true
  | p :: rest => p.isWidthless && allWidthless rest

end

mutual

/-- How deep the pattern is nested. -/
def depth : Pattern → Nat
  | .empty => 0
  | .set _ => 0
  | .anchor _ => 0
  | .group body => body.depth + 1
  | .capture _ body => body.depth + 1
  | .sequence parts => maxDepth parts + 1
  | .choice arms => maxDepth arms + 1
  | .times _ _ _ body => body.depth + 1

def maxDepth : List Pattern → Nat
  | [] => 0
  | p :: rest => max p.depth (maxDepth rest)

end

end Pattern

end Reshape
