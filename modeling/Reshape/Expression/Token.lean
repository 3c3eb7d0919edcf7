/-! The units that an expression is made of. -/
namespace Reshape

/-- What a token stands for when its expression is resolved. -/
inductive Token.Kind where
  /-- A dotted path, looked up in the scope. -/
  | path
  /-- A quoted text, taken as it is. -/
  | literal
  /-- A bracketed expression whose value is the scope of the tokens after it. -/
  | scopeSwitch
  /-- An expression in double braces. -/
  | embedded
  /-- A filter called without a piped value. -/
  | call
deriving DecidableEq, Repr

/-- The container that a key with a suffix asks for. -/
inductive Shape where
  /-- One entry for every element of the suffix. -/
  | array
  /-- A single value. -/
  | object
deriving DecidableEq, Repr

/-- A filter after a bar, with its parameters as texts of expressions. -/
structure FilterCall where
  name : String
  params : List String
deriving DecidableEq, Repr

/-- Changes the last element of a list. -/
def modifyLast (f : α → α) (items : List α) : List α := items.modify (items.length - 1) f

@[simp] theorem modifyLast_concat (f : α → α) (items : List α) (x : α) :
    modifyLast f (items ++ [x]) = items ++ [f x] := by
  rw [modifyLast, List.length_append, List.length_singleton, Nat.add_sub_cancel]
  induction items with
  | nil => rfl
  | cons y rest ih => exact congrArg (y :: ·) ih

namespace FilterCall

/-- A filter whose name has not been read. -/
def empty : FilterCall := ⟨"", []⟩

/-- Adds a character to the name. -/
def pushName (c : Char) (f : FilterCall) : FilterCall := { f with name := f.name.push c }

/-- Adds a character to the last parameter. -/
def pushParam (c : Char) (f : FilterCall) : FilterCall :=
  { f with params := modifyLast (·.push c) f.params }

/-- Begins a parameter. -/
def openParam (f : FilterCall) : FilterCall := { f with params := f.params ++ [""] }

end FilterCall

/-- One unit of an expression. -/
structure Token where
  kind : Token.Kind
  /-- The path, the quoted text, the expression in double braces or the name of the call. -/
  body : String
  /-- The text of the expression that the token covers, filters included. -/
  source : String
  /-- The place of the first character of `source`. -/
  start : Nat
  /-- The place after the last character of `source`. -/
  stop : Nat
  /-- Whether a caret sends the token to the root scope. -/
  rooted : Bool
  /-- The kind of suffix of a path, if it has one. -/
  shape : Option Shape
  /-- The expression of a suffix or scope switch, or the parameters of a call. -/
  inner : List String
  filters : List FilterCall
deriving DecidableEq, Repr

namespace Token

/-- A token of which nothing has been read. -/
def empty : Token := ⟨.path, "", "", 0, 0, false, none, [], []⟩

/-- Whether nothing but perhaps a caret has been read. -/
def isBlank (t : Token) : Bool :=
  t.kind = .path && t.body.isEmpty && t.shape.isNone && t.inner.isEmpty && t.filters.isEmpty

/-- Scope switches are the only tokens without a value. -/
def yieldsValue (t : Token) : Bool := t.kind ≠ .scopeSwitch

/-- The expression of a suffix or scope switch; empty when nothing was written there. -/
def innerExpression (t : Token) : String := t.inner.head?.getD ""

/-- The path with its suffix as text. -/
def literalKey (t : Token) : String :=
  match t.shape with
  | some .array => t.body ++ "[" ++ t.innerExpression ++ "]"
  | some .object => (t.body.push '{' ++ t.innerExpression).push '}'
  | none => t.body

end Token

end Reshape
