import Reshape.Expression.Resolve
import Reshape.Template.Key
import Reshape.Value.Assign

/-! Applying a template to a scope. A template has the form of its output: every level is filled
once for each element of its scope, and keys and texts are expressions. -/
namespace Reshape

namespace Template

/-- The elements that a level is filled for: those of an array, or the one value itself. -/
def elementsOf : Value → List Value
  | .array items => items
  | v => [v]

/-- An array template makes an array, an object template whatever its key asks for. -/
def emptyOutput (template : Value) (shape : Shape) : Value :=
  match template, shape with
  | .array _, _ => .array []
  | _, .array => .array []
  | _, .object => .object []

/-- How a level is filled: the entries of the template written for a scope and a root to an
output. -/
abbrev Fill := Value → Value → Value → Except ResolveError Value

/-- Fills a level once: as a new element when the output is an array, and in place otherwise. -/
def fillInto (fill : Fill) (scope root output : Value) : Except ResolveError Value :=
  match output with
  | .array items => do
    let item ← fill scope root (.object [])
    .ok (.array (if item.isEmptyCollection then items else items ++ [item]))
  | output => fill scope root output

/-- Fills a level for one value after the other. -/
def fillEach (fill : Fill) (root : Value) : List Value → Value → Except ResolveError Value
  | [], output => .ok output
  | scope :: rest, output => do
    let output ← fillInto fill scope root output
    fillEach fill root rest output

variable (env : Environment)

/-- The text under a reserved key. -/
def reserved? (key : String) (entries : Fields) : Option String :=
  match entries.lookup key with
  | some (.string expr) => some expr
  | _ => none

/-- The value of an expression, null standing for nothing. -/
def valueOrNull (expr : String) (scope root : Value) : Except ResolveError Value :=
  (evaluateIn env expr scope root).map fun v => v.getD .null

/-- The root of a level, which may be the value that the level is filled for. -/
def levelRoot (entries : Fields) (element root : Value) : Except ResolveError Value :=
  match reserved? TemplateKey.rootKey entries with
  | none => .ok root
  | some expr =>
    if expr = TemplateKey.pathKey then .ok element else valueOrNull env expr root root

/-- Fills an object template for one element of its scope. Its reserved keys may set another root
and another scope, and an array as that scope fills the level for each of its own elements. -/
def fillLevel (entries : Fields) (fill : Fill) (element root output : Value) :
    Except ResolveError Value := do
  let root ← levelRoot env entries element root
  match reserved? TemplateKey.pathKey entries with
  | none => fillInto fill element root output
  | some expr =>
    let scope ← if expr = TemplateKey.rootKey then .ok root else valueOrNull env expr element root
    fillEach fill root (elementsOf scope) output

/-- Fills an object template for the elements of a scope. -/
def fillLevels (entries : Fields) (fill : Fill) (root : Value) :
    List Value → Value → Except ResolveError Value
  | [], output => .ok output
  | element :: rest, output => do
    let output ← fillLevel env entries fill element root output
    fillLevels entries fill root rest output

/-- Runs one action on an output for every element of a scope. -/
def forElements (fill : Value → Value → Except ResolveError Value) :
    List Value → Value → Except ResolveError Value
  | [], output => .ok output
  | element :: rest, output => do
    let output ← fill element output
    forElements fill rest output

/-- Writes the entries of an object under their keys as they are. -/
def mergeInto (output : Value) (fields : Fields) : Value :=
  fields.foldl (fun output field => output.assignKey field.1 (some field.2)) output

/-- Writes the value built for a key to the output. -/
def writeKey (key : TemplateKey) (expr : String) (destination value : Option Value)
    (output : Value) : Value :=
  match key with
  | .merge _ =>
    match value with
    | some (.object fields) => mergeInto output fields
    | _ => output
  | _ => output.assign value ((destination.map Value.text).getD expr)

/-- Appends an element to an array output if it is present and no empty collection. -/
def appendItem (item : Option Value) (output : Value) : Value :=
  match output, written? item with
  | .array items, some item => .array (items ++ [item])
  | output, _ => output

mutual

/-- The output for a template below the top. -/
def build (template : Value) (scope root : Value) (shape : Shape) :
    Except ResolveError (Option Value) :=
  match template with
  | .object entries => do
    let output ← fillLevels env entries
      (fun scope root output => fillEntries entries scope root output)
      root (elementsOf scope) (emptyOutput template shape)
    .ok (some output)
  | .array items => do
    let output ← forElements (fun element output => fillItems items element root output)
      (elementsOf scope) (emptyOutput template shape)
    .ok (some output)
  | .string expr => evaluateIn env expr scope root
  | other => .ok (some other)

/-- Writes the entries of an object template for one scope. -/
def fillEntries (entries : List (String × Value)) (scope root output : Value) :
    Except ResolveError Value :=
  match entries with
  | [] => .ok output
  | (key, template) :: rest =>
    let role := TemplateKey.classify key
    match role.expression? with
    | none => fillEntries rest scope root output
    | some expr => do
      let resolved ← resolve env expr scope root .key
      let value ← build template (resolved.childScope.getD scope) root resolved.shape
      fillEntries rest scope root (writeKey role expr resolved.value value output)

/-- Appends the elements of an array template for one scope. -/
def fillItems (templates : List Value) (scope root output : Value) : Except ResolveError Value :=
  match templates with
  | [] => .ok output
  | template :: rest => do
    let item ← build template scope root .object
    fillItems rest scope root (appendItem item output)

end

end Template

/-- Applies a template to a scope that is also the root. A text is an expression, null standing for
nothing, and a template without expressions is its own output. -/
def transform (env : Environment) (scope template : Value) : Except ResolveError Value :=
  (Template.build env template scope scope .object).map fun v => v.getD .null

end Reshape
