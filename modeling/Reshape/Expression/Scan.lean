import Reshape.Expression.Token
import Reshape.Text.Blank

/-! Cutting an expression into tokens in one pass. No text is refused: a delimiter that is never
closed leaves what was read in the last token. -/
namespace Reshape

/-- An opened delimiter. -/
inductive Delimiter where
  | quote
  | paren
  | bracket
  | brace
  | doubleBrace
deriving DecidableEq, Repr

/-- Whether one character closes the delimiter; quotes and double braces close in other ways. -/
def Delimiter.closedBy (d : Delimiter) (c : Char) : Bool :=
  match d with
  | .paren => c = ')'
  | .bracket => c = ']'
  | .brace => c = '}'
  | .quote => false
  | .doubleBrace => false

/-- Which part of the token takes the next plain character. -/
inductive Scanner.Mode where
  | body
  | inner
  | filterName
  | filterParams
deriving DecidableEq, Repr

/-- A pass over an expression at one place of it. -/
structure Scanner where
  input : List Char
  position : Nat
  /-- The open delimiters, innermost first. -/
  stack : List Delimiter
  mode : Scanner.Mode
  /-- The finished tokens, last one first. -/
  done : List Token
  token : Token
  /-- Where the token begins, once it has taken a character. -/
  start : Option Nat
  /-- Where the last character taken by a token ends. -/
  stop : Nat

namespace Scanner

def init (input : List Char) : Scanner := ⟨input, 0, [], .body, [], .empty, none, 0⟩

def depth (s : Scanner) : Nat := s.stack.length

def opened (s : Scanner) (d : Delimiter) : Scanner := { s with stack := d :: s.stack }

def closed (s : Scanner) : Scanner := { s with stack := s.stack.tail }

def within (s : Scanner) (mode : Mode) : Scanner := { s with mode := mode }

def withToken (s : Scanner) (token : Token) : Scanner := { s with token := token }

/-- Moves past characters that belong to the token. -/
def consume (s : Scanner) (n : Nat) : Scanner :=
  { s with
    start := some (s.start.getD s.position)
    position := s.position + n
    stop := s.position + n }

/-- Moves past a character that belongs to no token. -/
def skip (s : Scanner) : Scanner := { s with position := s.position + 1 }

/-- Writes a character to the part of the token that is being read. -/
def push (s : Scanner) (c : Char) : Scanner :=
  let t := s.token
  s.withToken <| match s.mode with
    | .body => { t with body := t.body.push c }
    | .inner => { t with inner := modifyLast (·.push c) t.inner }
    | .filterName => { t with filters := modifyLast (FilterCall.pushName c) t.filters }
    | .filterParams => { t with filters := modifyLast (FilterCall.pushParam c) t.filters }

/-- Takes a character as part of the token. -/
def append (s : Scanner) (c : Char) : Scanner := (s.push c).consume 1

/-- The parameters with a single empty one left out. -/
def tidyParams (params : List String) : List String := if params = [""] then [] else params

/-- A token with its place in the input, and without parameters that were opened but not written. -/
def complete (s : Scanner) : Token :=
  let start := s.start.getD s.stop
  { s.token with
    start := start
    stop := s.stop
    source := String.ofList ((s.input.drop start).take (s.stop - start))
    inner := tidyParams s.token.inner
    filters := s.token.filters.map fun f => { f with params := tidyParams f.params } }

/-- Ends the token and begins a new one; a blank token is dropped. -/
def finish (s : Scanner) : Scanner :=
  { s with
    done := if s.token.isBlank then s.done else s.complete :: s.done
    token := .empty
    start := none
    mode := .body }

def hasFilterName (s : Scanner) : Bool := s.token.filters.getLast?.any fun f => !f.name.isEmpty

/-- A character between quotes. -/
def quoted (s : Scanner) (c : Char) : Scanner :=
  if c = '\'' then
    let s := s.closed
    if s.stack.isEmpty then
      (if s.mode = .body then s.withToken { s.token with kind := .literal } else s).consume 1
    else s.append c
  else s.append c

/-- An opening quote; inside other delimiters it is kept as text. -/
def quote (s : Scanner) : Scanner :=
  let s := s.opened .quote
  (if 1 < s.depth then s.push '\'' else s).consume 1

/-- Begins the expression of a suffix or scope switch, or the parameters of a call. -/
def beginInner (s : Scanner) (token : Token) : Scanner :=
  ((s.withToken { token with inner := [""] }).within .inner).consume 1

/-- An opening parenthesis begins the parameters of a filter or of a call. -/
def paren (s : Scanner) : Scanner :=
  let s := s.opened .paren
  if s.depth = 1 ∧ s.mode = .filterName ∧ s.hasFilterName then
    let filters := modifyLast FilterCall.openParam s.token.filters
    ((s.withToken { s.token with filters := filters }).within .filterParams).consume 1
  else if s.depth = 1 ∧ s.mode = .body ∧ s.token.kind = .path ∧ !s.token.body.isEmpty then
    s.beginInner { s.token with kind := .call }
  else s.append '('

/-- Whether a bracket or brace may begin a suffix. -/
def atSuffix (s : Scanner) : Bool :=
  decide (s.depth = 1 ∧ s.mode = .body ∧ s.token.kind = .path ∧ s.token.shape = none)

/-- An opening bracket begins a scope switch or, after a path, a suffix. -/
def bracket (s : Scanner) : Scanner :=
  let s := s.opened .bracket
  if s.atSuffix then
    if s.token.isBlank then s.beginInner { s.token with kind := .scopeSwitch }
    else s.beginInner { s.token with shape := some .array }
  else s.append '['

/-- An opening brace begins a suffix after a path. -/
def brace (s : Scanner) : Scanner :=
  let s := s.opened .brace
  if s.atSuffix && !s.token.body.isEmpty then s.beginInner { s.token with shape := some .object }
  else s.append '{'

/-- Two opening braces begin an embedded expression, which takes over a caret before it; inside
other parts they are text. -/
def openBraces (s : Scanner) : Scanner :=
  if s.stack.isEmpty ∧ s.mode = .body then
    let rooted := s.token.isBlank && s.token.rooted
    let caret := if rooted then s.start else none
    let s := (if rooted then s.withToken { s.token with rooted := false } else s).finish
    let s := s.withToken { s.token with kind := .embedded, rooted := rooted }
    (({ s with start := caret }).opened .doubleBrace).consume 2
  else (((s.opened .doubleBrace).push '{').push '{').consume 2

/-- Two closing braces end an embedded expression; inside other parts they are text. -/
def closeBraces (s : Scanner) : Scanner :=
  let s := s.closed
  if s.stack.isEmpty ∧ s.token.kind = .embedded then (s.consume 2).finish
  else ((s.push '}').push '}').consume 2

/-- A closing parenthesis, bracket or brace. The one that closes the outermost delimiter ends the
part of the token that it belongs to. -/
def close (s : Scanner) (c : Char) : Scanner :=
  match s.stack with
  | [] => s.append c
  | top :: _ =>
    if top.closedBy c then
      let s := s.closed
      if s.stack.isEmpty ∧ s.mode = .inner then
        let s := (s.consume 1).within .body
        if s.token.kind = .scopeSwitch then s.finish else s
      else if s.stack.isEmpty ∧ s.mode = .filterParams then (s.consume 1).within .filterName
      else s.append c
    else s.append c

/-- Takes up the token finished last, when nothing has been read since. -/
def resume (s : Scanner) : Scanner :=
  match s.done with
  | [] => s
  | previous :: done =>
    if s.mode = .body ∧ s.token.isBlank ∧ !s.token.rooted then
      { s with done := done, token := previous, start := some previous.start }
    else s

/-- A bar begins a filter of the token, which white space may have ended before. -/
def bar (s : Scanner) : Scanner :=
  let s := s.resume
  let filters := s.token.filters ++ [.empty]
  ((s.withToken { s.token with filters := filters }).within .filterName).consume 1

/-- A comma at the outermost level separates parameters. -/
def comma (s : Scanner) : Scanner :=
  if s.mode = .filterParams then
    let filters := modifyLast FilterCall.openParam s.token.filters
    (s.withToken { s.token with filters := filters }).consume 1
  else if s.mode = .inner ∧ s.token.kind = .call then
    (s.withToken { s.token with inner := s.token.inner ++ [""] }).consume 1
  else s.append ','

/-- White space ends a token, is left out between parameters, and is text elsewhere. -/
def blank (s : Scanner) (c : Char) : Scanner :=
  if s.stack.isEmpty then
    let ends := (s.mode = .filterName ∧ s.hasFilterName) ∨ (s.mode = .body ∧ !s.token.isBlank)
    (if ends then s.finish else s).skip
  else if s.depth = 1 ∧ (s.mode = .filterParams ∨ (s.mode = .inner ∧ s.token.kind = .call)) then
    s.skip
  else s.append c

/-- One character outside a pair of braces. -/
def step (s : Scanner) (c : Char) : Scanner :=
  if s.stack.head? = some .quote then s.quoted c
  else if c = '\'' then s.quote
  else if c = '^' ∧ s.mode = .body ∧ s.stack.isEmpty ∧ s.token.isBlank ∧ !s.token.rooted then
    (s.withToken { s.token with rooted := true }).consume 1
  else if c = '(' then s.paren
  else if c = '[' then s.bracket
  else if c = '{' then s.brace
  else if c = ')' ∨ c = ']' ∨ c = '}' then s.close c
  else if c = '|' ∧ s.stack.isEmpty then s.bar
  else if c = ',' ∧ s.depth = 1 then s.comma
  else if Reshape.isBlank c then s.blank c
  else s.append c

/-- What two characters do together, if they are a pair of braces. -/
def pair? (s : Scanner) (c d : Char) : Option Scanner :=
  if s.stack.head? = some .quote then none
  else if c = '{' ∧ d = '{' then some s.openBraces
  else if c = '}' ∧ d = '}' ∧ s.stack.head? = some .doubleBrace then some s.closeBraces
  else none

def run (s : Scanner) : List Char → Scanner
  | [] => s
  | [c] => s.step c
  | c :: d :: rest =>
    match s.pair? c d with
    | some s => run s rest
    | none => run (s.step c) (d :: rest)

end Scanner

/-- The tokens of an expression, in order. -/
def tokenize (expr : String) : List Token :=
  ((Scanner.init expr.toList).run expr.toList).finish.done.reverse

end Reshape
