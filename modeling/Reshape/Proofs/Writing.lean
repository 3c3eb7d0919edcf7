import Mathlib
import Reshape.Value.Assign

/-! Writing under a key without dots. -/
namespace Reshape

theorem pathSegments_of_not_mem {key : String} (h : '.' ∉ key.toList) :
    pathSegments key = [key] := by
  simp [pathSegments, List.splitOn_eq_singleton h]

namespace Fields

theorem lookup_eq_none {key : String} {fields : Fields} (h : key ∉ fields.map Prod.fst) :
    fields.lookup key = none := by
  rw [List.lookup_eq_none_iff]
  intro field hfield
  have hne : key ≠ field.1 := fun he => h (he ▸ List.mem_map_of_mem hfield)
  simpa using hne

theorem insert_of_not_mem {key : String} (value : Value) {fields : Fields}
    (h : key ∉ fields.map Prod.fst) :
    Fields.insert key value fields = fields ++ [(key, value)] := by
  induction fields with
  | nil => rfl
  | cons field rest ih =>
    simp only [List.map_cons, List.mem_cons, not_or] at h
    rw [Fields.insert, if_neg (Ne.symm h.1), ih h.2]
    rfl

/-- A new key comes last. -/
theorem write_of_not_mem {key : String} (value : Value) {fields : Fields}
    (h : key ∉ fields.map Prod.fst) : Fields.write key value fields = fields ++ [(key, value)] := by
  rw [Fields.write, lookup_eq_none h]
  exact insert_of_not_mem value h

end Fields

namespace Value

theorem assign_of_written_none {value : Option Value} (h : written? value = none) (target : Value)
    (path : String) : target.assign value path = target := by
  rw [assign, h]

/-- A path of one segment is written like a key. -/
theorem assign_of_not_mem {path : String} (h : '.' ∉ path.toList) {value : Option Value} {v : Value}
    (hv : written? value = some v) (fields : Fields) :
    (Value.object fields).assign value path = .object (Fields.write path v fields) := by
  rw [assign, hv]
  simp [pathSegments_of_not_mem h, writeAt]

end Value

end Reshape
