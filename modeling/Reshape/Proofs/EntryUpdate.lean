import Reshape.Proofs.WritingPaths

/-! A write changes one entry of each object on its way. -/
namespace Reshape

namespace Fields

variable {key : String} {value : Value} {fields : Fields}

theorem mem_of_lookup (h : fields.lookup key = some value) : (key, value) ∈ fields := by
  obtain ⟨front, back, rfl, -⟩ := List.lookup_eq_some_iff.mp h
  simp

theorem insert_ne_nil (key : String) (value : Value) (fields : Fields) :
    Fields.insert key value fields ≠ [] := by
  cases fields with
  | nil => simp [Fields.insert]
  | cons field rest =>
    rw [Fields.insert]
    split <;> simp

theorem mem_insert {field : String × Value} (h : field ∈ Fields.insert key value fields) :
    field = (key, value) ∨ field ∈ fields := by
  induction fields with
  | nil => exact Or.inl (List.mem_singleton.mp h)
  | cons first rest ih =>
    rw [Fields.insert] at h
    split at h
    · rename_i hkey
      rcases List.mem_cons.mp h with rfl | hrest
      · exact Or.inl (by rw [hkey])
      · exact Or.inr (List.mem_cons_of_mem _ hrest)
    · rcases List.mem_cons.mp h with rfl | hrest
      · exact Or.inr List.mem_cons_self
      · exact (ih hrest).imp_right (List.mem_cons_of_mem _)

/-- What holds of a new value and of all others holds of the values after the change. -/
theorem forall_insert (P : Value → Prop) (hvalue : P value) (h : ∀ field ∈ fields, P field.2) :
    ∀ field ∈ Fields.insert key value fields, P field.2 := by
  intro field hfield
  rcases mem_insert hfield with rfl | hold
  · exact hvalue
  · exact h field hold

theorem nodup_keys_insert (h : (fields.map Prod.fst).Nodup) (key : String) (value : Value) :
    ((Fields.insert key value fields).map Prod.fst).Nodup := by
  rw [keys_insert]
  split
  · exact h
  · rename_i hnew
    exact List.nodup_append'.mpr ⟨h, List.nodup_singleton key, by simpa using hnew⟩

/-- The entries in front of another one do not have its key. -/
theorem key_not_mem_front {front back : Fields} {field : String × Value}
    (h : ((front ++ field :: back).map Prod.fst).Nodup) : field.1 ∉ front.map Prod.fst := by
  rw [List.map_append, List.map_cons] at h
  exact fun hmem => List.disjoint_of_nodup_append h hmem List.mem_cons_self

end Fields

theorem written?_eq_some_iff {value : Option Value} {v : Value} :
    written? value = some v ↔ value = some v ∧ v.isEmptyCollection = false := by
  simp [written?, Option.filter_eq_some_iff]

namespace Value

/-- Changes the entry under a key of an object. What is no object stays as it is. -/
def updateEntry (key : String) (change : Option Value → Value) : Value → Value
  | .object fields => .object (Fields.insert key (change (fields.lookup key)) fields)
  | target => target

theorem write_eq_insert_merged (key : String) (v : Value) (fields : Fields) :
    Fields.write key v fields = Fields.insert key (merged (fields.lookup key) v) fields := by
  unfold Fields.write
  cases fields.lookup key with
  | none => rfl
  | some old => cases old <;> cases v <;> rfl

theorem writeAt_nil_eq_updateEntry (v : Value) (last : String) (target : Value) :
    writeAt v last [] target = updateEntry last (fun old => merged old v) target := by
  cases target with
  | object fields => rw [writeAt, write_eq_insert_merged, updateEntry]
  | _ => rfl

/-- A level that is missing is written to as an empty object. -/
theorem writeAt_cons_eq_updateEntry (v : Value) (last segment : String) (rest : List String)
    (target : Value) :
    writeAt v last (segment :: rest) target =
      updateEntry segment (fun old => writeAt v last rest (old.getD (.object []))) target := by
  cases target <;> rfl

end Value

end Reshape
