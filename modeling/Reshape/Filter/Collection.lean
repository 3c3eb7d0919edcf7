import Reshape.Text.Split
import Reshape.Value.Order
import Reshape.Value.Path

/-! Filters on arrays, objects and the characters of texts. -/
namespace Reshape

open Value

/-- The elements of an array, none for an absent or null value, and any other value alone. -/
def asItems : Option Value → List Value
  | none => []
  | some .null => []
  | some (.array items) => items
  | some v => [v]

/-- The piped value as an array with the present arguments after it. -/
def pushItems (piped : Option Value) (args : List (Option Value)) : Value :=
  .array (asItems piped ++ args.filterMap id)

/-- The last element of an array. -/
def popItem : Value → Option Value
  | .array items => items.getLast?
  | v => some v

/-- What stands at a path in each element of an array that has it. -/
def pluck (path : String) : Value → Value
  | .array items => .array (items.filterMap (atPath path))
  | v => v

/-- The texts of values, with arrays spread out. -/
def keyList (values : List Value) : List String :=
  values.flatMap fun
    | .array items => texts items
    | v => [v.text]

/-- The entries of an object under the listed keys. -/
def keepKeys (keys : List String) : Value → Value
  | .object fields => .object (fields.filter fun field => keys.contains field.1)
  | v => v

/-- An object value remembers the key it stood under. -/
def tagWithKey (key : String) : Value → Value
  | .object fields => .object (Fields.insert "_key" (.string key) fields)
  | v => v

/-- The values of an object but for the listed keys. -/
def valuesExcept (keys : List String) : Value → Value
  | .object fields =>
    .array ((fields.filter fun field => !keys.contains field.1).map fun (key, v) =>
      tagWithKey key v)
  | v => v

/-- The keys of an object, or the indices of an array as text. -/
def keysOf : Value → Option Value
  | .object fields => some (.array (fields.map fun field => .string field.1))
  | .array items =>
    some (.array ((List.range items.length).map fun i => .ofText (Nat.toDigits 10 i)))
  | _ => none

/-- A place in a sequence of the given length: a number cut to an integer, counted from the end when
that is negative, and held inside the sequence. Absent and NaN give the default. -/
def slicePlace (index : Option Value) (length default : Nat) : Nat :=
  match index.map number with
  | none => default
  | some .nan => default
  | some (.infinite true) => 0
  | some (.infinite false) => length
  | some (.finite true m) => if m.floor = 0 then 0 else length - m.floor
  | some (.finite false m) => min m.floor length

/-- The part of a sequence between two places; empty when they cross. -/
def sliceList (items : List α) (start stop : Option Value) : List α :=
  let first := slicePlace start items.length 0
  let last := slicePlace stop items.length items.length
  (items.drop first).take (last - first)

def slice (start stop : Option Value) : Value → Value
  | .array items => .array (sliceList items start stop)
  | .string s => .ofText (sliceList s.toList start stop)
  | v => v

/-- The length of an array, object or text; any other present value counts as one. -/
def count : Option Value → Nat
  | none => 0
  | some (.array items) => items.length
  | some (.object fields) => fields.length
  | some (.string s) => s.toList.length
  | some _ => 1

/-- An element of an array or text by its index, or what stands at a path in an object. -/
def getKey (key : String) : Value → Option Value
  | .array items => (index? key.toList).bind fun i => items[i]?
  | .string s => (index? key.toList).bind fun i => s.toList[i]?.map fun c => .ofText [c]
  | .object fields => atPath key (.object fields)
  | _ => none

/-- Puts an element in the place of the one at an index, or at the end when there is none. -/
def setAt (items : List α) (index : Nat) (item : α) : List α :=
  if index < items.length then items.set index item else items ++ [item]

theorem setAt_of_lt {items : List α} {index : Nat} (h : index < items.length) (item : α) :
    setAt items index item = items.set index item := if_pos h

theorem setAt_of_le {items : List α} {index : Nat} (h : items.length ≤ index) (item : α) :
    setAt items index item = items ++ [item] := if_neg (Nat.not_lt.mpr h)

/-- The characters of a text with the one at an index replaced by another text. -/
def setCharAt (text : List Char) (index : Nat) (replacement : List Char) : List Char :=
  (setAt (text.map fun c => [c]) index replacement).flatten

/-- A copy with the value under a key replaced. -/
def setKey (key : String) (value : Value) : Value → Value
  | .array items =>
    match index? key.toList with
    | some i => .array (setAt items i value)
    | none => .array items
  | .string s =>
    match index? key.toList with
    | some i => .ofText (setCharAt s.toList i value.text.toList)
    | none => .string s
  | .object fields => .object (Fields.insert key value fields)
  | v => v

/-- Which element of an array is chosen. -/
inductive Extreme where
  | largest
  | smallest
  | longest
  | shortest
deriving DecidableEq, Repr

def Extreme.ofName : Option String → Extreme
  | some "smallest" => .smallest
  | some "longest" => .longest
  | some "shortest" => .shortest
  | _ => .largest

/-- Whether a measure takes the place of the one chosen so far. -/
def Extreme.beats (mode : Extreme) (candidate current : Value) : Bool :=
  match mode with
  | .largest => comparePresent candidate current == .gt
  | .smallest => comparePresent candidate current == .lt
  | .longest => count (some current) < count (some candidate)
  | .shortest => count (some candidate) < count (some current)

/-- Takes one element into the choice, a measure with its element. -/
def chooseStep (mode : Extreme) (measure : Value → Option Value) (best : Option (Value × Value))
    (item : Value) : Option (Value × Value) :=
  match measure item, best with
  | none, best => best
  | some candidate, none => some (candidate, item)
  | some candidate, some (current, chosen) =>
    if mode.beats candidate current then some (candidate, item) else some (current, chosen)

/-- The first element whose measure no other one beats; null when none has a measure. -/
def chooseItem (mode : Extreme) (measure : Value → Option Value) : Value → Value
  | .array items =>
    match items.foldl (chooseStep mode measure) none with
    | some (_, item) => item
    | none => .null
  | v => v

end Reshape
