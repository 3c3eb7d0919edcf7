import Reshape.Pattern.Parser
import Reshape.Pattern.Search
import Reshape.Pattern.Size

/-! Regular expressions ready for use: searching a text and replacing what is found. -/
namespace Reshape

/-- A program with the numbered groups of its pattern. -/
structure Regex where
  program : Array Instruction
  groups : Pattern.Groups

namespace Regex

/-- The regular expression of a text; none when it is no pattern or too large a one. -/
def parse? (flags : Pattern.Flags) (text : List Char) : Option Regex :=
  match Pattern.parse? flags text with
  | some (p, groups) =>
    if p.automatonBytes ≤ Pattern.maxBytes then some ⟨p.program, groups⟩ else none
  | none => none

/-- All matches in a text, from left to right. -/
def findAll (r : Regex) (text : List Char) : List Pattern.Match :=
  let slots := List.replicate (2 * (r.groups.count + 1)) none
  Pattern.matchesFrom r.program slots 0 none none 0 text

/-- The part of a text between two places. -/
def between (text : List Char) (start stop : Nat) : List Char :=
  (text.drop start).take (stop - start)

/-- The text of a numbered group in a match; number zero is the whole match. -/
def groupText? (text : List Char) (m : Pattern.Match) (index : Nat) : Option (List Char) :=
  if index = 0 then some (between text m.start m.stop)
  else
    match m.slots.getD (2 * index) none, m.slots.getD (2 * index + 1) none with
    | some start, some stop => some (between text start stop)
    | _, _ => none

/-- A part of a replacement text. -/
inductive Piece where
  | text (s : List Char)
  /-- A group by its number or its name. -/
  | reference (name : List Char)
deriving DecidableEq, Repr

def isReferenceChar (c : Char) : Bool := c.isAlphanum || c == '_'

/-- Reads what follows a dollar sign: another one, a name in braces or as long as it goes; anything
else leaves the dollar sign as it is. -/
def reference (text : List Char) : Piece × List Char :=
  match text with
  | '$' :: rest => (.text ['$'], rest)
  | '{' :: inner =>
    match inner.dropWhile (· ≠ '}') with
    | _ :: rest => (.reference (inner.takeWhile (· ≠ '}')), rest)
    | [] => (.text ['$'], text)
  | _ =>
    let name := text.takeWhile isReferenceChar
    if name.isEmpty then (.text ['$'], text) else (.reference name, text.dropWhile isReferenceChar)

/-- Cuts a replacement text into its parts; each step takes a character. -/
def pieces (text : List Char) : Nat → List Piece
  | 0 => []
  | fuel + 1 =>
    match text with
    | [] => []
    | '$' :: rest =>
      let (piece, rest) := reference rest
      piece :: pieces rest fuel
    | c :: rest => .text [c] :: pieces rest fuel

/-- What a part of a replacement gives for a match; a group that is unknown or has not matched gives
nothing. -/
def expand (r : Regex) (text : List Char) (m : Pattern.Match) : Piece → List Char
  | .text s => s
  | .reference name =>
    let index := match index? name with
      | some n => some n
      | none => r.groups.names.lookup (String.ofList name)
    (index.bind (groupText? text m)).getD []

/-- A text with the given matches replaced, from a place on. -/
def replaceFrom (r : Regex) (replacement : List Piece) (text : List Char) (start : Nat) :
    List Pattern.Match → List Char
  | [] => text.drop start
  | m :: rest =>
    between text start m.start ++ replacement.flatMap (r.expand text m) ++
      replaceFrom r replacement text m.stop rest

/-- Replaces matches in a text by a replacement text. -/
def replace (r : Regex) (replacement text : List Char) (found : List Pattern.Match) : List Char :=
  r.replaceFrom (pieces replacement replacement.length) text 0 found

end Regex

end Reshape
