import Reshape.Number.Numeral
import Reshape.Text.Split
import Reshape.Value.Basic

/-! Dotted paths into values. -/
namespace Reshape

/-- The parts of a path between its dots. -/
def pathSegments (path : String) : List String :=
  (path.toList.splitOn '.').map String.ofList

namespace Value

/-- The entry of an object under a key, or of an array at an index. -/
def child? (segment : String) : Value → Option Value
  | .object fields => fields.lookup segment
  | .array items =>
    match index? segment.toList with
    | some i => items[i]?
    | none => none
  | _ => none

/-- Follows one segment after the other. -/
def descend : List String → Value → Option Value
  | [], v => some v
  | segment :: rest, v => (v.child? segment).bind (descend rest)

theorem descend_append (first second : List String) (v : Value) :
    descend (first ++ second) v = (descend first v).bind (descend second) := by
  induction first generalizing v with
  | nil => rfl
  | cons segment rest ih =>
    simp only [List.cons_append, descend, Option.bind_assoc]
    congr
    funext w
    exact ih w

/-- The value at a dotted path; the empty path is the value itself. -/
def atPath (path : String) (v : Value) : Option Value :=
  if path.isEmpty then some v else descend (pathSegments path) v

@[simp] theorem atPath_empty (v : Value) : v.atPath "" = some v := by simp [atPath]

end Value

end Reshape
