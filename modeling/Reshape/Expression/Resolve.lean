import Reshape.Expression.Scan
import Reshape.Filter.Apply

/-! Resolving expressions against a scope and a root. -/
namespace Reshape

/-- Where an expression stands in a template. A key that leads nowhere stands for its own text. -/
inductive Context where
  | key
  | value
deriving DecidableEq, Repr

/-- What an expression resolves to. -/
structure Resolution where
  /-- The container that a suffix of a key asks for. -/
  shape : Shape
  value : Option Value
  /-- The scope for what is nested below, given by a suffix or a scope switch. -/
  childScope : Option Value

/-- What the tokens read so far have changed: the scope of the next one, and the shape and scope for
what is nested below. -/
structure Progress where
  scope : Value
  shape : Shape
  childScope : Option Value

/-- A token's value put in the place of its text. A path that leads nowhere keeps its text. -/
def Token.replacement (t : Token) (value : Option Value) : List Char :=
  match t.kind, value with
  | .scopeSwitch, _ => []
  | _, some v => v.text.toList
  | .path, none => t.source.toList
  | _, none => []

/-- The text of an expression from a place on, with every token replaced by its value. -/
def interpolateFrom (text : List Char) (cursor : Nat) : List (Token × Option Value) → List Char
  | [] => text.drop cursor
  | (t, value) :: rest =>
    (text.drop cursor).take (t.start - cursor) ++ t.replacement value ++
      interpolateFrom text t.stop rest

/-- The value of an expression: that of its only token with a value, or a text when there are
several, or else the scope that it switches to. -/
def combine (expr : String) (childScope : Option Value) (results : List (Token × Option Value)) :
    Option Value :=
  match results.filter fun result => result.1.yieldsValue with
  | [] => if results.isEmpty then none else childScope
  | [(_, value)] => value
  | _ => some (.ofText (interpolateFrom expr.toList 0 results))

namespace Resolution

variable (env : Environment) (resolve : ParamResolver)

/-- Sends a value through the filters of a token. -/
def applyFilters (scope root : Value) (piped : Option Value) :
    List FilterCall → Except ResolveError (Option Value)
  | [] => .ok piped
  | call :: rest => do
    let value ← Filter.apply env resolve call.name call.params scope root piped
    applyFilters scope root value rest

/-- A suffix of a path sets the shape and the scope below when its expression has a value. A key
whose suffix has none is taken as it is written. -/
def resolveSuffix (root : Value) (context : Context) (t : Token) (shape : Shape)
    (value : Option Value) (p : Progress) : Except ResolveError (Option Value × Progress) := do
  let child ← resolve t.innerExpression p.scope root
  match child with
  | some child => .ok (value, { p with shape := shape, childScope := some child })
  | none =>
    match context with
    | .key => .ok (some (.string t.literalKey), p)
    | .value => .ok (value, p)

/-- The value of a path; a key that leads nowhere stands for its text. -/
def lookup (base : Value) (context : Context) (path : String) : Option Value :=
  match base.atPath path, context with
  | some v, _ => some v
  | none, .key => some (.string path)
  | none, .value => none

/-- The value of a token before its filters. -/
def resolveBody (root : Value) (context : Context) (t : Token) (p : Progress) :
    Except ResolveError (Option Value × Progress) :=
  let base := if t.rooted then root else p.scope
  match t.kind with
  | .path =>
    let value := lookup base context t.body
    match t.shape with
    | some shape => resolveSuffix resolve root context t shape value p
    | none => .ok (value, p)
  | .literal => .ok (some (.string t.body), p)
  | .embedded => do
    let value ← resolve t.body base root
    .ok (value, p)
  | .call => do
    let value ← Filter.apply env resolve t.body t.inner p.scope root none
    .ok (value, p)
  | .scopeSwitch => .ok (none, p)

/-- A scope switch starts from the scope of the whole expression, and null stands for nothing. -/
def resolveSwitch (scope root : Value) (t : Token) (p : Progress) :
    Except ResolveError (Option Value × Progress) := do
  let base := if t.rooted then root else scope
  let value ← resolve t.innerExpression base root
  let value ← applyFilters env resolve base root value t.filters
  let switched := value.getD .null
  .ok (none, { p with scope := switched, childScope := some switched })

def resolveToken (scope root : Value) (context : Context) (t : Token) (p : Progress) :
    Except ResolveError (Option Value × Progress) :=
  if t.kind = .scopeSwitch then resolveSwitch env resolve scope root t p
  else do
    let (value, next) ← resolveBody env resolve root context t p
    let value ← applyFilters env resolve p.scope root value t.filters
    .ok (value, next)

/-- Resolves tokens from left to right. -/
def resolveTokens (scope root : Value) (context : Context) :
    List Token → Progress → Except ResolveError (List (Token × Option Value) × Progress)
  | [], p => .ok ([], p)
  | t :: rest, p => do
    let (value, p) ← resolveToken env resolve scope root context t p
    let (results, p) ← resolveTokens scope root context rest p
    .ok ((t, value) :: results, p)

/-- Resolves an expression, given how to resolve the shorter ones inside it. -/
def step (expr : String) (scope root : Value) (context : Context) :
    Except ResolveError Resolution := do
  let (results, p) ←
    resolveTokens env resolve scope root context (tokenize expr) ⟨scope, .object, none⟩
  .ok ⟨p.shape, combine expr p.childScope results, p.childScope⟩

end Resolution

/-- Resolves expressions that are nested at most `depth` deep; what lies deeper is absent. -/
def resolveWithin (env : Environment) : Nat → String → Value → Value → Context →
    Except ResolveError Resolution
  | 0, _, _, _, _ => .ok ⟨.object, none, none⟩
  | depth + 1, expr, scope, root, context =>
    let inner : ParamResolver := fun expr scope root =>
      (resolveWithin env depth expr scope root .value).map Resolution.value
    Resolution.step env inner expr scope root context

/-- Resolves an expression. Every expression inside it is shorter, so its length bounds the
depth. -/
def resolve (env : Environment) (expr : String) (scope root : Value) (context : Context) :
    Except ResolveError Resolution :=
  resolveWithin env (expr.length + 1) expr scope root context

/-- The value of an expression against a scope and a root. -/
def evaluateIn (env : Environment) (expr : String) (scope root : Value) :
    Except ResolveError (Option Value) :=
  (resolve env expr scope root .value).map Resolution.value

/-- The value of an expression against a scope that is also the root. -/
def evaluate (env : Environment) (expr : String) (scope : Value) :
    Except ResolveError (Option Value) :=
  evaluateIn env expr scope scope

/-- Applies a filter to a piped value, with parameters as texts of expressions. -/
def applyFilter (env : Environment) (name : String) (params : List String) (scope root : Value)
    (piped : Option Value) : Except ResolveError (Option Value) :=
  Filter.apply env (evaluateIn env) name params scope root piped

end Reshape
