import Reshape.Proofs.EntryUpdate

/-! Outputs stay free of empty collections: no run of writes leaves an empty array or object
anywhere inside its output, not even a level that was made on the way to a place. -/
namespace Reshape

namespace Value

mutual

/-- Neither the value nor anything inside it is an empty array or object. -/
def Clean : Value → Prop
  | .array items => items ≠ [] ∧ itemsAreClean items
  | .object fields => fields ≠ [] ∧ fieldsAreClean fields
  | _ => True

def itemsAreClean : List Value → Prop
  | [] => True
  | v :: rest => v.Clean ∧ itemsAreClean rest

def fieldsAreClean : List (String × Value) → Prop
  | [] => True
  | (_, v) :: rest => v.Clean ∧ fieldsAreClean rest

end

variable {v target : Value} {items : List Value} {fields : Fields} {key last : String}
  {levels place : List String}

theorem itemsAreClean_iff : itemsAreClean items ↔ ∀ item ∈ items, item.Clean := by
  induction items with
  | nil => simp [itemsAreClean]
  | cons item rest ih => rw [itemsAreClean, ih, List.forall_mem_cons]

theorem fieldsAreClean_iff : fieldsAreClean fields ↔ ∀ field ∈ fields, field.2.Clean := by
  induction fields with
  | nil => simp [fieldsAreClean]
  | cons field rest ih => rw [fieldsAreClean, ih, List.forall_mem_cons]

theorem clean_array_iff : (Value.array items).Clean ↔ items ≠ [] ∧ ∀ item ∈ items, item.Clean := by
  rw [Clean, itemsAreClean_iff]

theorem clean_object_iff :
    (Value.object fields).Clean ↔ fields ≠ [] ∧ ∀ field ∈ fields, field.2.Clean := by
  rw [Clean, fieldsAreClean_iff]

theorem Clean.isEmptyCollection (h : v.Clean) : v.isEmptyCollection = false := by
  cases v with
  | array items => simpa [Value.isEmptyCollection] using (clean_array_iff.mp h).1
  | object fields => simpa [Value.isEmptyCollection] using (clean_object_iff.mp h).1
  | _ => rfl

/-- An output that has been written to so far: nothing is empty in it, unless it is all empty. -/
def CleanOrNew (target : Value) : Prop := target = .object [] ∨ target.Clean

theorem CleanOrNew.clean_of_mem (h : CleanOrNew (.object fields)) :
    ∀ field ∈ fields, field.2.Clean := by
  rcases h with hnew | hclean
  · cases hnew
    simp
  · exact (clean_object_iff.mp hclean).2

theorem clean_merged {old : Option Value} (hold : ∀ w ∈ old, w.Clean) (hv : v.Clean) :
    (merged old v).Clean := by
  unfold merged
  split
  · rename_i olds news
    have holds := clean_array_iff.mp (hold _ rfl)
    have hnews := clean_array_iff.mp hv
    refine clean_array_iff.mpr ⟨by simp [holds.1], fun item hitem => ?_⟩
    rcases List.mem_append.mp hitem with hitem | hitem
    · exact holds.2 item hitem
    · exact hnews.2 item hitem
  · exact hv

theorem clean_updateEntry {change : Option Value → Value} (ht : CleanOrNew target)
    (hchange : ∀ old : Option Value, (∀ w ∈ old, w.Clean) → (change old).Clean) :
    (updateEntry key change target).Clean := by
  cases target with
  | object fields =>
    have hentry : (change (fields.lookup key)).Clean :=
      hchange _ fun w hw => ht.clean_of_mem _ (Fields.mem_of_lookup hw)
    exact clean_object_iff.mpr
      ⟨Fields.insert_ne_nil _ _ _, Fields.forall_insert Clean hentry ht.clean_of_mem⟩
  | _ => exact ht.resolve_left (by simp)

/-- A write leaves no level empty. A missing level is an empty object only until the write below it
is made, and a blocked write makes no level at all. -/
theorem clean_writeAt (hv : v.Clean) (ht : CleanOrNew target) :
    (writeAt v last levels target).Clean := by
  induction levels generalizing target with
  | nil =>
    rw [writeAt_nil_eq_updateEntry]
    exact clean_updateEntry ht fun old hold => clean_merged hold hv
  | cons segment rest ih =>
    rw [writeAt_cons_eq_updateEntry]
    refine clean_updateEntry ht fun old hold => ih ?_
    cases old with
    | none => exact Or.inl rfl
    | some level => exact Or.inr (hold level rfl)

/-- A write to an output, by a dotted path or by a key taken as it is. -/
inductive Write where
  | atPath (value : Option Value) (path : String)
  | atKey (value : Option Value) (key : String)

namespace Write

def value : Write → Option Value
  | .atPath value _ => value
  | .atKey value _ => value

def apply (target : Value) : Write → Value
  | .atPath value path => target.assign value path
  | .atKey value key => target.assignKey key value

/-- What is written is absent, an empty collection, or has no empty collection inside. -/
def IsClean (w : Write) : Prop := ∀ v ∈ w.value, v.isEmptyCollection = true ∨ v.Clean

end Write

/-- The state of an output after some writes, the first one first. -/
def writeAll (writes : List Write) (target : Value) : Value := writes.foldl Write.apply target

theorem clean_of_written {value : Option Value}
    (h : ∀ v ∈ value, v.isEmptyCollection = true ∨ v.Clean) (hv : written? value = some v) :
    v.Clean := by
  obtain ⟨hvalue, hkept⟩ := written?_eq_some_iff.mp hv
  exact (h v hvalue).resolve_left (by simp [hkept])

theorem cleanOrNew_apply {w : Write} (hw : w.IsClean) (ht : CleanOrNew target) :
    CleanOrNew (w.apply target) := by
  cases w with
  | atPath value path =>
    rw [Write.apply]
    cases hv : written? value with
    | none => rwa [assign_of_written_none hv]
    | some v =>
      rw [assign_of_written_some hv]
      exact Or.inr (clean_writeAt (clean_of_written hw hv) ht)
  | atKey value key =>
    rw [Write.apply, assignKey]
    cases hv : written? value with
    | none => exact ht
    | some v => exact Or.inr (clean_writeAt (clean_of_written hw hv) ht)

theorem cleanOrNew_writeAll {writes : List Write} (hw : ∀ w ∈ writes, w.IsClean)
    (ht : CleanOrNew target) : CleanOrNew (writeAll writes target) := by
  induction writes generalizing target with
  | nil => exact ht
  | cons w rest ih =>
    exact ih (fun w hw' => hw w (List.mem_cons_of_mem _ hw'))
      (cleanOrNew_apply (hw w List.mem_cons_self) ht)

theorem Clean.child {segment : String} {child : Value} (h : v.Clean)
    (hchild : v.child? segment = some child) : child.Clean := by
  cases v with
  | object fields => exact (clean_object_iff.mp h).2 _ (Fields.mem_of_lookup hchild)
  | array items =>
    simp only [child?] at hchild
    split at hchild
    · exact (clean_array_iff.mp h).2 child (List.mem_of_getElem? hchild)
    · cases hchild
  | _ => cases hchild

theorem Clean.descend {inner : Value} (h : v.Clean) (hinner : descend place v = some inner) :
    inner.Clean := by
  induction place generalizing v with
  | nil =>
    cases hinner
    exact h
  | cons segment rest ih =>
    obtain ⟨child, hchild, hrest⟩ := Option.bind_eq_some_iff.mp hinner
    exact ih (h.child hchild) hrest

/-- After any writes of clean values to a new output, by paths and by keys in any order, the output
is still new or has no empty collection in it. Whatever is found below it, the levels that were made
for a path included, is not empty. -/
theorem writeAll_leaves_nothing_empty {writes : List Write} (h : ∀ w ∈ writes, w.IsClean) :
    (writeAll writes (.object []) = .object [] ∨ (writeAll writes (.object [])).Clean) ∧
      ∀ place inner, place ≠ [] → Value.descend place (writeAll writes (.object [])) = some inner →
        inner.isEmptyCollection = false := by
  have hstate : CleanOrNew (writeAll writes (.object [])) := cleanOrNew_writeAll h (Or.inl rfl)
  refine ⟨hstate, fun place inner hplace hinner => ?_⟩
  rcases hstate with hnew | hclean
  · obtain ⟨segment, rest, rfl⟩ := List.exists_cons_of_ne_nil hplace
    rw [hnew] at hinner
    cases hinner
  · exact (hclean.descend hinner).isEmptyCollection

/-- An empty object written below a level that is missing, a write that is blocked by a text, and an
array that is written twice. -/
def sampleWrites : List Write :=
  [.atPath (some (.object [])) "a.b", .atPath (some (.string "c")) "d.e",
    .atPath (some .null) "d.e.f.g", .atPath (some (.array [.int 1])) "d.h",
    .atKey none "i.j", .atPath (some (.array [.null])) "d.h"]

theorem writeAll_sampleWrites :
    (∀ w ∈ sampleWrites, w.IsClean) ∧
      ((writeAll sampleWrites (.object []) = .object [] ∨
          (writeAll sampleWrites (.object [])).Clean) ∧
        ∀ place inner, place ≠ [] →
          Value.descend place (writeAll sampleWrites (.object [])) = some inner →
          inner.isEmptyCollection = false) := by
  have hclean : ∀ w ∈ sampleWrites, w.IsClean := by
    simp [sampleWrites, Write.IsClean, Write.value, Value.isEmptyCollection, Clean, itemsAreClean]
  exact ⟨hclean, writeAll_leaves_nothing_empty hclean⟩

end Value

end Reshape
