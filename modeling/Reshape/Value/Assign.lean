import Reshape.Value.Path

/-! Writing values into an output tree. Absent values and empty collections are never written, and
an array written over an array is appended to it. -/
namespace Reshape

/-- The value that replaces an older one when it is written over it. -/
def Value.over : Value → Value → Value
  | .array old, .array new => .array (old ++ new)
  | _, new => new

/-- Writes one entry of an object. -/
def Fields.write (key : String) (value : Value) (fields : Fields) : Fields :=
  match fields.lookup key with
  | some old => Fields.insert key (old.over value) fields
  | none => Fields.insert key value fields

/-- What is worth writing: a value that is present and no empty collection. -/
def written? (value : Option Value) : Option Value := value.filter fun v => !v.isEmptyCollection

namespace Value

/-- Writes below the given levels, which are made when they are missing. A level that is there
and no object leaves everything as it is. -/
def writeAt (value : Value) (last : String) : List String → Value → Value
  | [], .object fields => .object (Fields.write last value fields)
  | segment :: rest, .object fields =>
    let level := (fields.lookup segment).getD (.object [])
    .object (Fields.insert segment (writeAt value last rest level) fields)
  | _, target => target

/-- Writes a value at a dotted path. -/
def assign (target : Value) (value : Option Value) (path : String) : Value :=
  match written? value with
  | none => target
  | some v =>
    let segments := pathSegments path
    writeAt v (segments.getLast?.getD "") segments.dropLast target

/-- Writes a value under a key taken as it is, dots included. -/
def assignKey (target : Value) (key : String) (value : Option Value) : Value :=
  match written? value with
  | none => target
  | some v => writeAt v key [] target

end Value

end Reshape
