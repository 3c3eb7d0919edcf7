import Reshape.Calendar.Parser
import Reshape.Environment
import Reshape.Filter.Catalog
import Reshape.Filter.Collection
import Reshape.Filter.Text

/-! Applying a filter by its name. Parameters are expressions; how they are resolved is left to the
caller. -/
namespace Reshape

open Value

/-- Why an expression cannot be resolved. -/
inductive ResolveError where
  | unknownFilter (name : String)
deriving DecidableEq, Repr

def ResolveError.message : ResolveError → String
  | .unknownFilter name => "Unknown filter type: " ++ name

/-- Resolves an expression against a scope and a root. -/
abbrev ParamResolver := String → Value → Value → Except ResolveError (Option Value)

namespace Filter

/-- An argument by its place; absent when there is none. -/
def arg (args : List (Option Value)) (index : Nat) : Option Value := args.getD index none

def argText (args : List (Option Value)) (index : Nat) : Option String :=
  (arg args index).map text

/-- Whether two values stand in the order that the test accepts; without an order they do not. -/
def ordered (test : Ordering → Bool) (a b : Option Value) : Value := .bool ((compare? a b).any test)

/-- What a filter gives for a piped value and resolved arguments. A filter that looks into
elements is not decided here. -/
def run (env : Environment) (scope : Value) (args : List (Option Value)) (piped : Option Value) :
    Filter → Option Value
  | .add => some (Operation.add.fold piped args)
  | .subtract => some (Operation.subtract.fold piped args)
  | .multiply => some (Operation.multiply.fold piped args)
  | .divide => some (Operation.divide.fold piped args)
  | .increment => some (Operation.add.fold piped [some (.int 1)])
  | .decrement => some (Operation.subtract.fold piped [some (.int 1)])
  | .equal => some (.bool (looseEq piped (arg args 0)))
  | .greater => some (ordered Ordering.isGT piped (arg args 0))
  | .greaterEqual => some (ordered Ordering.isGE piped (arg args 0))
  | .less => some (ordered Ordering.isLT piped (arg args 0))
  | .lessEqual => some (ordered Ordering.isLE piped (arg args 0))
  | .and => some (.bool (piped.all isTruthy && args.all truthy))
  | .or => some (.bool (truthy piped || args.any truthy))
  | .not => some (.bool (!truthy (if args.isEmpty then piped else arg args 0)))
  | .toBool => some (.bool (truthy piped))
  | .fallback => if truthy piped then piped else arg args 0
  | .choose => arg args (if truthy piped then 0 else 1)
  | .concat => some (concatTexts piped args)
  | .join => piped.map (joinItems ((argText args 0).getD ","))
  | .split => piped.map (splitText ((argText args 0).getD ","))
  | .replace =>
    replaceText piped ((argText args 0).getD "") ((argText args 1).getD "") (arg args 2)
      ((argText args 3).getD "")
  | .search => searchText piped ((argText args 0).getD "") ((argText args 1).getD "i")
  | .trim => piped.map (mapText Reshape.trim)
  | .uppercase => piped.map (mapText Reshape.uppercase)
  | .lowercase => piped.map (mapText Reshape.lowercase)
  | .toText => piped.map fun v => .string v.text
  | .toArray => some (pushItems piped args)
  | .push => some (pushItems piped args)
  | .pop => piped.bind popItem
  | .pluck => piped.map (Reshape.pluck ((argText args 0).getD ""))
  | .prune => piped.map (keepKeys (keyList (args.filterMap id)))
  | .values => piped.map (valuesExcept (keyList (arg args 0).toList))
  | .keys => piped.bind keysOf
  | .slice => piped.map (Reshape.slice (arg args 0) (arg args 1))
  | .count => some (.int (Int64.ofInt (Reshape.count piped)))
  | .get =>
    let target := piped.getD scope
    if args.isEmpty then some target
    else (argText args 0).bind fun key => getKey key target
  | .put => do
    let target ← piped
    let key ← argText args 0
    some (setKey key ((arg args 1).getD .null) target)
  | .select => piped
  | .reduce =>
    let (key, mode) := if 2 ≤ args.length then (argText args 0, argText args 1)
      else (none, argText args 0)
    let measure : Value → Option Value := match key with
      | some path => atPath path
      | none => some
    piped.map (chooseItem (.ofName mode) measure)
  | .hash => some (.string (env.fingerprint (piped.getD .null).toJson))
  | .date => (piped.bind instant?).map fun t => t.format (argText args 0)
  | .now => some (env.now.format (argText args 0))
  | .fromJson => piped.bind Reshape.fromJson
  | .toInt => some (toInteger piped)
  | .toFloat => some (toRounded piped (arg args 0))

/-- Compares by an operator in text form; anything unknown asks for equality. -/
def compareBy (operator : String) (actual : Value) (expected : Option Value) : Bool :=
  let order := compare? (some actual) expected
  match operator with
  | "!=" => !looseEq (some actual) expected
  | ">" => order.any Ordering.isGT
  | ">=" => order.any Ordering.isGE
  | "<" => order.any Ordering.isLT
  | "<=" => order.any Ordering.isLE
  | _ => looseEq (some actual) expected

/-- Whether all predicates are true with an element as their scope. The first one that is not ends
the test. -/
def passes (resolve : ParamResolver) (root : Value) (params : List String) (item : Value) :
    Except ResolveError Bool :=
  match params with
  | [] => .ok true
  | param :: rest => do
    let verdict ← resolve param item root
    if truthy verdict then passes resolve root rest item else .ok false

/-- The elements that pass all predicates, one after the other. -/
def selectItems (resolve : ParamResolver) (root : Value) (params : List String) :
    List Value → Except ResolveError (List Value)
  | [] => .ok []
  | item :: rest => do
    let kept ← passes resolve root params item
    let others ← selectItems resolve root params rest
    .ok (if kept then item :: others else others)

/-- The elements whose value at a path stands in a relation to an expected value. -/
def selectByKey (args : List (Option Value)) (items : List Value) : List Value :=
  let key := (argText args 0).getD ""
  let operator := (argText args 1).getD "="
  items.filter fun item => (atPath key item).any fun v => compareBy operator v (arg args 2)

/-- Whether the parameters are a key, an operator and a value: the first one is a quoted text. -/
def namesKey (params : List String) : Bool := params.head?.any fun p => p.toList.head? == some '\''

def resolveParams (resolve : ParamResolver) (scope root : Value) (params : List String) :
    Except ResolveError (List (Option Value)) :=
  params.mapM fun param => resolve param scope root

/-- Keeps the elements of an array that pass. -/
def keepItems (resolve : ParamResolver) (params : List String) (scope root : Value) :
    Option Value → Except ResolveError (Option Value)
  | some (.array items) =>
    if namesKey params then do
      let args ← resolveParams resolve scope root params
      .ok (some (.array (selectByKey args items)))
    else do
      let kept ← selectItems resolve root params items
      .ok (some (.array kept))
  | piped => .ok piped

/-- Applies the filter of a name. Only an unknown name or a failing parameter makes it fail. -/
def apply (env : Environment) (resolve : ParamResolver) (name : String) (params : List String)
    (scope root : Value) (piped : Option Value) : Except ResolveError (Option Value) :=
  match ofName? name with
  | none => .error (.unknownFilter name)
  | some .select => keepItems resolve params scope root piped
  | some filter => do
    let args ← resolveParams resolve scope root params
    .ok (filter.run env scope args piped)

end Filter

end Reshape
