import Reshape.Value.Coercion
import Reshape.Value.Text

/-! Loose equality and order of values that may be absent. -/
namespace Reshape.Value

def isNull : Value → Bool
  | .null => true
  | _ => false

def isCollection : Value → Bool
  | .array _ => true
  | .object _ => true
  | _ => false

/-- Equality of present values: texts as texts, collections by structure, all else as numbers. -/
def looseEqPresent : Value → Value → Bool
  | .string s, .string t => s == t
  | a, b =>
    if a.isCollection || b.isCollection then a.same b else a.number.numEq b.number

/-- Absent and null equal each other and nothing else. -/
def looseEq (a b : Option Value) : Bool :=
  let isMissing := Option.all isNull
  match a, b with
  | some x, some y => if x.isNull || y.isNull then x.isNull && y.isNull else looseEqPresent x y
  | a, b => isMissing a && isMissing b

/-- Numeric order when both are numbers, the order of their texts otherwise. -/
def comparePresent (a b : Value) : Ordering :=
  match a.number.compare? b.number with
  | some order => order
  | none => compare a.text b.text

def compare? : Option Value → Option Value → Option Ordering
  | some a, some b => some (comparePresent a b)
  | _, _ => none

end Reshape.Value
