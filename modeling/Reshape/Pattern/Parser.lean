import Reshape.Number.Numeral
import Reshape.Pattern.Basic
import Reshape.Pattern.Class

/-! Texts of regular expressions read as patterns. -/
namespace Reshape.Pattern

/-- The switches that change the meaning of the text after them. -/
structure Flags where
  ignoreCase : Bool
  multiLine : Bool
  dotAll : Bool
  swapGreed : Bool
  unicode : Bool
  verbose : Bool
  crlf : Bool
deriving DecidableEq, Repr

namespace Flags

def default : Flags := ⟨false, false, false, false, true, false, false⟩

/-- Turns the flag of a letter on or off. -/
def put? (f : Flags) (letter : Char) (on : Bool) : Option Flags :=
  match letter with
  | 'i' => some { f with ignoreCase := on }
  | 'm' => some { f with multiLine := on }
  | 's' => some { f with dotAll := on }
  | 'U' => some { f with swapGreed := on }
  | 'u' => some { f with unicode := on }
  | 'x' => some { f with verbose := on }
  | 'R' => some { f with crlf := on }
  | _ => none

/-- Leaves out white space and, from a number sign to the end of the line, comments. -/
def skipVerbose (inComment : Bool) : List Char → List Char
  | [] => []
  | c :: rest =>
    if inComment then skipVerbose (c != '\n') rest
    else if c = '#' then skipVerbose true rest
    else if isBlank c then skipVerbose false rest
    else c :: rest

def skip (f : Flags) (text : List Char) : List Char :=
  if f.verbose then skipVerbose false text else text

/-- A set with the characters that the flags let stand for its own. -/
def widen (f : Flags) (s : CharSet) : CharSet :=
  if !f.ignoreCase then s
  else if f.unicode then s.caseClosure
  else
    let ascii : CharSet := ⟨[(0, 127)]⟩
    s.union ((s.inter ascii).caseClosure.inter ascii)

/-- Whether a class may name a character; without Unicode it has to be ASCII. -/
def allows (f : Flags) (c : Char) : Bool := f.unicode || c.toNat < 128

/-- The complement of a set; without Unicode it may not reach beyond ASCII. -/
def complement? (f : Flags) (s : CharSet) : Option CharSet :=
  if f.unicode then some s.complement else none

end Flags

/-- What an escape or a plain character stands for. -/
inductive Atom where
  | char (c : Char)
  | set (s : CharSet)
  | anchor (a : Anchor)

def isScalar (n : Nat) : Bool := n < 0xD800 || (0xE000 ≤ n && n < 0x110000)

def hexNumber? (digits : List Char) : Option Nat :=
  let upper := digits.map Char.toUpper
  if digits.isEmpty ∨ !upper.all fun c => c.isDigit || ('A' ≤ c && c ≤ 'F') then none
  else some (CharSet.hexValue upper)

/-- The character of a hexadecimal number: `width` digits, or any number of them in braces. Without
Unicode, two digits stand for a byte, which has to be ASCII. -/
def hexEscape? (f : Flags) (width : Nat) (text : List Char) : Option (Atom × List Char) := do
  let (digits, rest, isByte) ← match f.skip text with
    | '{' :: inner =>
      match inner.dropWhile (· ≠ '}') with
      | '}' :: rest => some (inner.takeWhile (· ≠ '}'), rest, false)
      | _ => none
    | text =>
      if width ≤ text.length then some (text.take width, text.drop width, width == 2) else none
  let n ← hexNumber? digits
  if isScalar n ∧ (f.unicode ∨ !isByte ∨ n < 128) then some (.char (Char.ofNat n), rest) else none

/-- Splits a text at the first place where another text stands. -/
def cutAt? (mark : List Char) : List Char → Option (List Char × List Char)
  | [] => none
  | c :: rest =>
    if mark.isPrefixOf (c :: rest) then some ([], (c :: rest).drop mark.length)
    else (cutAt? mark rest).map fun (before, after) => (c :: before, after)

/-- The set of a property in braces: a name, or a name and a value. Which of the signs stands
between them makes no difference. -/
def propertySet? (text : List Char) : Option CharSet :=
  let parts := (cutAt? ['!', '='] text).orElse fun _ =>
    (cutAt? [':'] text).orElse fun _ => cutAt? ['='] text
  match parts with
  | some (name, value) => CharSet.valued? name value
  | none => CharSet.named? text

def propertyEscape? (f : Flags) (negated : Bool) (text : List Char) :
    Option (Atom × List Char) := do
  let (s, rest) ← match f.skip text with
    | '{' :: inner =>
      match inner.dropWhile (· ≠ '}') with
      | '}' :: rest => (propertySet? (inner.takeWhile (· ≠ '}'))).map fun s => (s, rest)
      | _ => none
    | '\\' :: _ => none
    | c :: rest => (CharSet.named? [c]).map fun s => (s, rest)
    | [] => none
  if f.unicode then
    let s := f.widen s
    some (.set (if negated then s.complement else s), rest)
  else none

/-- The classes of digits, white space and word characters. -/
def letterSet (f : Flags) (letter : Char) : CharSet :=
  if letter = 'd' then if f.unicode then CharSet.digits else CharSet.asciiDigits
  else if letter = 's' then if f.unicode then CharSet.white else CharSet.asciiWhite
  else if f.unicode then CharSet.word
  else CharSet.asciiWord

def wordAnchor (f : Flags) (edge : WordEdge) : Atom := .anchor (.word edge (letterSet f 'w'))

/-- A word boundary, or one of the kinds that follow it in braces. Braces with anything but letters
belong to a repetition. -/
def boundaryEscape? (f : Flags) (text : List Char) : Option (Atom × List Char) :=
  let isNamePart (c : Char) := c.isAlpha || c == '-'
  match text with
  | '{' :: inner =>
    match f.skip inner with
    | [] => none
    | c :: rest =>
      if isNamePart c then do
        let after ← match (c :: rest).dropWhile isNamePart with
          | '}' :: after => some after
          | _ => none
        let edge ← match String.ofList ((c :: rest).takeWhile isNamePart) with
          | "start" => some WordEdge.start
          | "end" => some WordEdge.stop
          | "start-half" => some WordEdge.halfStart
          | "end-half" => some WordEdge.halfStop
          | _ => none
        some (wordAnchor f edge, after)
      else some (wordAnchor f .boundary, text)
  | _ => some (wordAnchor f .boundary, text)

/-- What stands after a backslash. Punctuation stands for itself. -/
def escape? (f : Flags) : List Char → Option (Atom × List Char)
  | [] => none
  | c :: rest =>
    match c with
    | 'x' => hexEscape? f 2 rest
    | 'u' => hexEscape? f 4 rest
    | 'U' => hexEscape? f 8 rest
    | 'p' => propertyEscape? f false rest
    | 'P' => propertyEscape? f true rest
    | 'd' => some (.set (letterSet f 'd'), rest)
    | 's' => some (.set (letterSet f 's'), rest)
    | 'w' => some (.set (letterSet f 'w'), rest)
    | 'D' => (f.complement? (letterSet f 'd')).map fun s => (.set s, rest)
    | 'S' => (f.complement? (letterSet f 's')).map fun s => (.set s, rest)
    | 'W' => (f.complement? (letterSet f 'w')).map fun s => (.set s, rest)
    | 'a' => some (.char '\x07', rest)
    | 'f' => some (.char '\x0c', rest)
    | 't' => some (.char '\t', rest)
    | 'n' => some (.char '\n', rest)
    | 'r' => some (.char '\r', rest)
    | 'v' => some (.char '\x0b', rest)
    | 'A' => some (.anchor .textStart, rest)
    | 'z' => some (.anchor .textEnd, rest)
    | 'b' => boundaryEscape? f rest
    | 'B' => some (wordAnchor f .noBoundary, rest)
    | '<' => some (wordAnchor f .start, rest)
    | '>' => some (wordAnchor f .stop, rest)
    | c => if c.toNat < 128 ∧ !c.isAlphanum then some (.char c, rest) else none

/-- How two parts of a class are combined. -/
inductive ClassOp where
  | inter
  | diff
  | symmDiff
deriving DecidableEq, Repr

def ClassOp.apply (op : ClassOp) (s t : CharSet) : CharSet :=
  match op with
  | .inter => s.inter t
  | .diff => s.diff t
  | .symmDiff => s.symmDiff t

/-- The part of a class read so far: the parts before the last operator, and the set after it. -/
structure ClassPart where
  before : Option (CharSet × ClassOp)
  current : CharSet

namespace ClassPart

def empty : ClassPart := ⟨none, .empty⟩

def add (p : ClassPart) (s : CharSet) : ClassPart := { p with current := p.current.union s }

def total (f : Flags) (p : ClassPart) : CharSet :=
  match p.before with
  | none => p.current
  | some (s, op) => op.apply (f.widen s) (f.widen p.current)

def operator (f : Flags) (p : ClassPart) (op : ClassOp) : ClassPart :=
  ⟨some (p.total f, op), .empty⟩

end ClassPart

/-- A class like `[:alpha:]` without its first bracket. -/
def asciiClass? (f : Flags) : List Char → Option (CharSet × List Char)
  | ':' :: text => do
    let (negated, text) := match text with
      | '^' :: rest => (true, rest)
      | rest => (false, rest)
    let (name, rest) ← cutAt? [':', ']'] text
    let s ← CharSet.ascii? (String.ofList name)
    let s := f.widen s
    let s ← if negated then f.complement? s else some s
    some (s, rest)
  | _ => none

/-- Hyphens at the start of a class, and a closing bracket that stands first, are plain
characters. -/
def classStart (f : Flags) (text : List Char) : ClassPart × List Char :=
  let hyphens := text.takeWhile (· = '-')
  let rest := f.skip (text.dropWhile (· = '-'))
  if hyphens.isEmpty then
    match rest with
    | ']' :: rest => (ClassPart.empty.add (.single ']'), f.skip rest)
    | rest => (.empty, rest)
  else (ClassPart.empty.add (.single '-'), rest)

def classAtom? (f : Flags) : List Char → Option (Atom × List Char)
  | [] => none
  | '\\' :: rest =>
    match escape? f rest with
    | some (.anchor _, _) => none
    | some (.char c, rest) => if f.allows c then some (.char c, rest) else none
    | result => result
  | c :: rest => if f.allows c then some (.char c, rest) else none

/-- A single character, an escaped class, or a range between two characters. -/
def classItem? (f : Flags) (text : List Char) : Option (CharSet × List Char) := do
  let (first, rest) ← classAtom? f text
  let alone : Option (CharSet × List Char) := match first with
    | .char c => some (.single c, rest)
    | .set s => some (s, rest)
    | .anchor _ => none
  match f.skip rest with
  | [] => none
  | '-' :: rest =>
    match f.skip rest with
    | ']' :: _ => alone
    | '-' :: _ => alone
    | rest =>
      let (last, rest) ← classAtom? f rest
      match first, last with
      | .char lo, .char hi => if lo ≤ hi then some (⟨[(lo.toNat, hi.toNat)]⟩, rest) else none
      | _, _ => none
  | _ => alone

mutual

/-- A class after its opening bracket, up to its closing one. -/
def class? (f : Flags) (text : List Char) : Nat → Option (CharSet × List Char)
  | 0 => none
  | fuel + 1 => do
    let (negated, text) := match f.skip text with
      | '^' :: rest => (true, f.skip rest)
      | rest => (false, rest)
    let (start, text) := classStart f text
    let (s, rest) ← classRest? f start text fuel
    let s := f.widen s
    let s ← if negated then f.complement? s else some s
    some (s, rest)

/-- The items and operators of a class. -/
def classRest? (f : Flags) (part : ClassPart) (text : List Char) :
    Nat → Option (CharSet × List Char)
  | 0 => none
  | fuel + 1 =>
    match f.skip text with
    | [] => none
    | ']' :: rest => some (part.total f, rest)
    | '[' :: rest =>
      match asciiClass? f rest with
      | some (s, rest) => classRest? f (part.add s) rest fuel
      | none => do
        let (s, rest) ← class? f rest fuel
        classRest? f (part.add s) rest fuel
    | '&' :: '&' :: rest => classRest? f (part.operator f .inter) rest fuel
    | '-' :: '-' :: rest => classRest? f (part.operator f .diff) rest fuel
    | '~' :: '~' :: rest => classRest? f (part.operator f .symmDiff) rest fuel
    | text => do
      let (s, rest) ← classItem? f text
      classRest? f (part.add s) rest fuel

end

/-- The numbered groups opened so far, with the names of those that have one. -/
structure Groups where
  count : Nat
  names : List (String × Nat)

/-- A set of flags that ends with a colon or a parenthesis: the flags, whether there are any, the
character at the end and the text after it. No flag may be given twice. -/
def flags? (f : Flags) (seen : List Char) (off : Bool) :
    List Char → Option (Flags × Bool × Char × List Char)
  | [] => none
  | c :: rest =>
    if c = ':' ∨ c = ')' then
      if seen.head? = some '-' then none else some (f, !seen.isEmpty, c, rest)
    else if seen.contains c then none
    else if c = '-' then flags? f (c :: seen) true rest
    else do
      let f ← f.put? c (!off)
      flags? f (c :: seen) off rest

def isNameStart (c : Char) : Bool :=
  c == '_' || (CharSet.parse Unicode.alphabeticRanges).contains c

def isNamePart (c : Char) : Bool :=
  isNameStart c || c == '.' || c == '[' || c == ']' ||
    ((CharSet.category? "N").any fun numbers => numbers.contains c)

/-- The name of a group, up to the closing angle bracket. -/
def groupName? (text : List Char) : Option (String × List Char) :=
  match cutAt? ['>'] text with
  | some (c :: name, rest) =>
    if isNameStart c && name.all isNamePart then some (String.ofList (c :: name), rest) else none
  | _ => none

/-- What an opening parenthesis begins. -/
inductive Opening where
  /-- Flags for the rest of the group around it. -/
  | flags (f : Flags)
  /-- A group with flags of its own, numbered if it is to be kept. -/
  | group (f : Flags) (index : Option Nat) (groups : Groups)

def namedGroup? (f : Flags) (groups : Groups) (text : List Char) :
    Option (Opening × List Char) := do
  let (name, rest) ← groupName? text
  if groups.names.any fun entry => entry.1 == name then none
  else
    let index := groups.count + 1
    some (.group f (some index) ⟨index, (name, index) :: groups.names⟩, rest)

/-- What follows an opening parenthesis; there is no looking around. -/
def opening? (f : Flags) (groups : Groups) (text : List Char) : Option (Opening × List Char) :=
  match f.skip text with
  | '?' :: '=' :: _ => none
  | '?' :: '!' :: _ => none
  | '?' :: '<' :: '=' :: _ => none
  | '?' :: '<' :: '!' :: _ => none
  | '?' :: 'P' :: '<' :: rest => namedGroup? f groups rest
  | '?' :: '<' :: rest => namedGroup? f groups rest
  | '?' :: rest =>
    match flags? f [] false rest with
    | none => none
    | some (inner, nonempty, closing, rest) =>
      if closing = ')' then if nonempty then some (.flags inner, rest) else none
      else some (.group inner none groups, rest)
  | rest =>
    let index := groups.count + 1
    some (.group f (some index) { groups with count := index }, rest)

/-- A number in a repetition, with white space around it; a verbose one may have some inside. -/
def repeatCount? (f : Flags) (text : List Char) : Option (Nat × List Char) := do
  let text := trimStart text
  let isPart (c : Char) := c.isDigit || (f.verbose && isBlank c)
  let n ← natural? ((text.takeWhile isPart).filter Char.isDigit)
  if n < 0x100000000 then some (n, f.skip (trimStart (text.dropWhile isPart))) else none

/-- A repetition after its opening brace. -/
def repeatRange? (f : Flags) (text : List Char) : Option ((Nat × Option Nat) × List Char) := do
  let (min, rest) ← repeatCount? f (f.skip text)
  match rest with
  | '}' :: rest => some ((min, some min), f.skip rest)
  | ',' :: rest =>
    match f.skip rest with
    | '}' :: rest => some ((min, none), f.skip rest)
    | rest => do
      let (max, rest) ← repeatCount? f rest
      match rest with
      | '}' :: rest => if min ≤ max then some ((min, some max), f.skip rest) else none
      | _ => none
  | _ => none

/-- A repetition after the operator, which a question mark makes lazy; repeating what is without
width again changes nothing. -/
def repetition (f : Flags) (range : Nat × Option Nat) (body : Pattern) (text : List Char) :
    Pattern × List Char :=
  let (lazy, rest) := match text with
    | '?' :: rest => (true, rest)
    | rest => (false, rest)
  let (min, max) :=
    if body.isWidthless then (Nat.min range.1 1, some ((range.2.map fun n => Nat.min n 1).getD 1))
    else range
  (.times min max (lazy == f.swapGreed) body, rest)

/-- The parts of a sequence, last one first, as one pattern; flags among them leave a gap. -/
def ofParts (parts : List (Option Pattern)) : Pattern :=
  match parts.reverse.filterMap id with
  | [] => .empty
  | [p] => p
  | ps => .sequence ps

/-- The arms of a choice, last one first, as one pattern. -/
def ofArms (arms : List Pattern) : Pattern :=
  match arms.reverse with
  | [p] => p
  | ps => .choice ps

def dotSet (f : Flags) : CharSet :=
  if f.dotAll then .full
  else if f.crlf then ⟨[(0, 9), (11, 12), (14, CharSet.lastCodePoint)]⟩
  else ⟨[(0, 9), (11, CharSet.lastCodePoint)]⟩

/-- One character outside groups, classes and repetitions, or its escape. -/
def atom? (f : Flags) : List Char → Option (Pattern × List Char)
  | [] => none
  | '.' :: rest => if f.unicode then some (.set (dotSet f), rest) else none
  | '^' :: rest => some (.anchor (if f.multiLine then .lineStart f.crlf else .textStart), rest)
  | '$' :: rest => some (.anchor (if f.multiLine then .lineEnd f.crlf else .textEnd), rest)
  | '\\' :: rest =>
    (escape? f rest).map fun (atom, rest) =>
      match atom with
      | .char c => (.set (f.widen (.single c)), rest)
      | .set s => (.set s, rest)
      | .anchor a => (.anchor a, rest)
  | c :: rest => some (.set (f.widen (.single c)), rest)

/-- Reads a choice up to its end or to a closing parenthesis. With it go the arms read before, the
parts of the arm being read, and the groups opened so far. -/
def choice? (f : Flags) (groups : Groups) (arms : List Pattern) (parts : List (Option Pattern))
    (text : List Char) : Nat → Option (Pattern × List Char × Groups)
  | 0 => none
  | fuel + 1 =>
    let repeated (range : Nat × Option Nat) (rest : List Char) :=
      match parts with
      | some body :: parts =>
        let (p, rest) := repetition f range body rest
        choice? f groups arms (some p :: parts) rest fuel
      | _ => none
    match f.skip text with
    | [] => some (ofArms (ofParts parts :: arms), [], groups)
    | ')' :: rest => some (ofArms (ofParts parts :: arms), ')' :: rest, groups)
    | '|' :: rest => choice? f groups (ofParts parts :: arms) [] rest fuel
    | '*' :: rest => repeated (0, none) rest
    | '+' :: rest => repeated (1, none) rest
    | '?' :: rest => repeated (0, some 1) rest
    | '{' :: rest =>
      match repeatRange? f rest with
      | some (range, rest) => repeated range rest
      | none => none
    | '[' :: rest =>
      match class? f rest fuel with
      | some (s, rest) => choice? f groups arms (some (.set s) :: parts) rest fuel
      | none => none
    | '(' :: rest =>
      match opening? f groups rest with
      | none => none
      | some (.flags f, rest) => choice? f groups arms (none :: parts) rest fuel
      | some (.group inner index groups, rest) =>
        match choice? inner groups [] [] rest fuel with
        | some (body, ')' :: rest, groups) =>
          let p := match index with
            | some index => .capture index body
            | none => .group body
          choice? f groups arms (some p :: parts) rest fuel
        | _ => none
    | text =>
      match atom? f text with
      | some (p, rest) => choice? f groups arms (some p :: parts) rest fuel
      | none => none

def maxPatternDepth : Nat := 250

/-- Reads a whole text as a pattern, with its groups. Every step of the reader takes a character. -/
def parse? (f : Flags) (text : List Char) : Option (Pattern × Groups) :=
  match choice? f ⟨0, []⟩ [] [] text (2 * text.length + 2) with
  | some (p, [], groups) => if p.depth ≤ maxPatternDepth then some (p, groups) else none
  | _ => none

end Reshape.Pattern
