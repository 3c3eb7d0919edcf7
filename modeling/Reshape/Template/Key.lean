/-! The keys of object templates. -/
namespace Reshape

/-- What a key of an object template is for. -/
inductive TemplateKey where
  /-- Gives the scope of its level. -/
  | path
  /-- Gives the root of its level. -/
  | root
  /-- Puts the entries of its object into the object around it. -/
  | merge (expr : String)
  /-- Names the place of its value. -/
  | plain (expr : String)
deriving DecidableEq, Repr

namespace TemplateKey

def pathKey : String := "@path"

def rootKey : String := "@root"

def classify (key : String) : TemplateKey :=
  if key = pathKey then .path
  else if key = rootKey then .root
  else
    match key.toList with
    | '!' :: rest => .merge (String.ofList rest)
    | _ => .plain key

/-- The expression of a key that has one. -/
def expression? : TemplateKey → Option String
  | .merge expr => some expr
  | .plain expr => some expr
  | _ => none

end TemplateKey

end Reshape
