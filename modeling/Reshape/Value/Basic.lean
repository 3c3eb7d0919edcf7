import Reshape.Number.Binary64

/-! The JSON values that templates, scopes and filters work on. -/
namespace Reshape

/-- A JSON value. Integers and floats stay apart, and an object keeps its entries in order. -/
inductive Value where
  | null
  | bool (b : Bool)
  | int (n : Int64)
  | float (x : Binary64)
  | string (s : String)
  | array (items : List Value)
  | object (fields : List (String × Value))
deriving Inhabited

/-- The entries of an object, in order. -/
abbrev Fields := List (String × Value)

/-- Puts a value under a key: in place when the key is there, at the end otherwise. -/
def Fields.insert (key : String) (value : Value) : Fields → Fields
  | [] => [(key, value)]
  | (k, v) :: rest => if k = key then (k, value) :: rest else (k, v) :: insert key value rest

/-- The entries of a list in which a repeated key keeps its first place and its last value. -/
def Fields.ofList (entries : List (String × Value)) : Fields :=
  entries.foldl (fun fields entry => Fields.insert entry.1 entry.2 fields) []

namespace Fields

theorem lookup_insert_self (key : String) (value : Value) (fields : Fields) :
    (Fields.insert key value fields).lookup key = some value := by
  induction fields with
  | nil => simp [Fields.insert]
  | cons field rest ih =>
    obtain ⟨k, v⟩ := field
    by_cases h : k = key
    · simp [Fields.insert, h]
    · have hk : (key == k) = false := by simpa using Ne.symm h
      simp [Fields.insert, h, List.lookup_cons, hk, ih]

theorem lookup_insert_of_ne {key other : String} (value : Value) (fields : Fields)
    (h : other ≠ key) : (Fields.insert key value fields).lookup other = fields.lookup other := by
  induction fields with
  | nil => simp [Fields.insert, h]
  | cons field rest ih =>
    obtain ⟨k, v⟩ := field
    by_cases hk : k = key
    · have ho : (other == key) = false := by simpa using h
      simp [Fields.insert, hk, List.lookup_cons, ho]
    · simp [Fields.insert, hk, List.lookup_cons, ih]

/-- Keys keep their order, and a new one comes last. -/
theorem keys_insert (key : String) (value : Value) (fields : Fields) :
    (Fields.insert key value fields).map Prod.fst =
      if key ∈ fields.map Prod.fst then fields.map Prod.fst
      else fields.map Prod.fst ++ [key] := by
  induction fields with
  | nil => simp [Fields.insert]
  | cons field rest ih =>
    obtain ⟨k, v⟩ := field
    by_cases h : k = key
    · simp [Fields.insert, h]
    · by_cases hm : key ∈ rest.map Prod.fst <;>
        simp_all [Fields.insert, Ne.symm h]

end Fields

namespace Value

/-- The name of the kind of value. -/
def typeName : Value → String
  | .null => "null"
  | .bool _ => "boolean"
  | .int _ => "integer"
  | .float _ => "float"
  | .string _ => "string"
  | .array _ => "array"
  | .object _ => "object"

/-- Whether the value is an array or object without entries. -/
def isEmptyCollection : Value → Bool
  | .array items => items.isEmpty
  | .object fields => fields.isEmpty
  | _ => false

def isArray : Value → Bool
  | .array _ => true
  | _ => false

def ofText (text : List Char) : Value := .string (String.ofList text)

mutual

/-- Structural equality: numbers of one kind by their number, objects without regard to the order
of their entries. -/
def same : Value → Value → Bool
  | .null, .null => true
  | .bool a, .bool b => a == b
  | .int m, .int n => m == n
  | .float x, .float y => x.numEq y
  | .string s, .string t => s == t
  | .array xs, .array ys => sameItems xs ys
  | .object fs, .object gs => fs.length == gs.length && sameFields fs gs
  | _, _ => false

def sameItems : List Value → List Value → Bool
  | [], [] => true
  | x :: xs, y :: ys => x.same y && sameItems xs ys
  | _, _ => false

/-- Whether every entry has an equal under its key among the others. -/
def sameFields : List (String × Value) → List (String × Value) → Bool
  | [], _ => true
  | (key, v) :: rest, gs =>
    (match gs.lookup key with
      | some w => v.same w
      | none => false) && sameFields rest gs

end

mutual

/-- Every object inside has each of its keys once. -/
def HasUniqueKeys : Value → Prop
  | .array items => itemsHaveUniqueKeys items
  | .object fields => (fields.map Prod.fst).Nodup ∧ fieldsHaveUniqueKeys fields
  | _ => True

def itemsHaveUniqueKeys : List Value → Prop
  | [] => True
  | v :: rest => v.HasUniqueKeys ∧ itemsHaveUniqueKeys rest

def fieldsHaveUniqueKeys : List (String × Value) → Prop
  | [] => True
  | (_, v) :: rest => v.HasUniqueKeys ∧ fieldsHaveUniqueKeys rest

end

end Value

end Reshape
