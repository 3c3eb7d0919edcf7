import Reshape.Proofs.Writing

/-! Writing at a dotted path. One place changes, with the levels that are missing above it, or
nothing does. -/
namespace Reshape

/-- The keys of an object after one of them is written: a new one comes last. -/
def keysWith (key : String) (keys : List String) : List String :=
  if key ∈ keys then keys else keys ++ [key]

namespace Fields

variable {key : String} {fields : Fields}

/-- Putting back what is there changes nothing. -/
theorem insert_lookup {value : Value} (h : fields.lookup key = some value) :
    Fields.insert key value fields = fields := by
  induction fields with
  | nil => simp at h
  | cons field rest ih =>
    obtain ⟨k, v⟩ := field
    by_cases hk : k = key
    · subst hk
      have hv : v = value := by simpa using h
      rw [Fields.insert, if_pos rfl, hv]
    · have hne : (key == k) = false := by simpa using Ne.symm hk
      rw [List.lookup_cons, hne] at h
      rw [Fields.insert, if_neg hk, ih h]

theorem write_eq_insert (key : String) (value : Value) (fields : Fields) :
    ∃ written, Fields.write key value fields = Fields.insert key written fields := by
  unfold Fields.write
  split
  · exact ⟨_, rfl⟩
  · exact ⟨value, rfl⟩

theorem lookup_write_of_ne {other : String} (value : Value) (fields : Fields) (h : other ≠ key) :
    (Fields.write key value fields).lookup other = fields.lookup other := by
  obtain ⟨written, hwritten⟩ := write_eq_insert key value fields
  rw [hwritten, lookup_insert_of_ne written fields h]

theorem keys_write (key : String) (value : Value) (fields : Fields) :
    (Fields.write key value fields).map Prod.fst = keysWith key (fields.map Prod.fst) := by
  obtain ⟨written, hwritten⟩ := write_eq_insert key value fields
  rw [hwritten]
  exact keys_insert key written fields

end Fields

namespace Value

variable {v target : Value} {last segment key : String} {rest above levels other : List String}
  {fields : Fields}

def isObject : Value → Bool
  | .object _ => true
  | _ => false

/-- What stands at a place after a value is written there: items are appended to an array, and
whatever else was there is replaced. -/
def merged : Option Value → Value → Value
  | some (.array old), .array new => .array (old ++ new)
  | _, new => new

/-- Following the levels through what is there leads to a value that is no object. -/
def Blocked (levels : List String) (target : Value) : Prop :=
  ∃ above, above <+: levels ∧ ∃ v, descend above target = some v ∧ v.isObject = false

/-- The keys of the object at a place; none when no object is there. -/
def keysAt (place : List String) (target : Value) : List String :=
  match descend place target with
  | some (.object fields) => fields.map Prod.fst
  | _ => []

theorem lookup_write_self (key : String) (v : Value) (fields : Fields) :
    (Fields.write key v fields).lookup key = some (merged (fields.lookup key) v) := by
  unfold Fields.write
  split
  · rename_i old hold
    rw [Fields.lookup_insert_self, hold]
    cases old <;> cases v <;> rfl
  · rename_i hnone
    rw [Fields.lookup_insert_self, hnone]
    rfl

/-- The object that is found under a segment or made there. -/
def levelAt (segment : String) (fields : Fields) : Value :=
  (fields.lookup segment).getD (.object [])

theorem writeAt_cons (v : Value) (last segment : String) (rest : List String) (fields : Fields) :
    writeAt v last (segment :: rest) (.object fields) =
      .object (Fields.insert segment (writeAt v last rest (levelAt segment fields)) fields) := rfl

theorem descend_cons_object (segment : String) (rest : List String) (fields : Fields) :
    descend (segment :: rest) (.object fields) = (fields.lookup segment).bind (descend rest) := rfl

/-- Nothing is found below a level that is missing. -/
theorem descend_levelAt (h : rest ≠ []) (segment : String) (fields : Fields) :
    descend rest (levelAt segment fields) = descend (segment :: rest) (.object fields) := by
  obtain ⟨s, more, rfl⟩ := List.exists_cons_of_ne_nil h
  rw [descend_cons_object, levelAt]
  cases fields.lookup segment <;> rfl

theorem descend_writeAt_cons (v : Value) (last segment : String) (levels place : List String)
    (fields : Fields) :
    descend (segment :: place) (writeAt v last (segment :: levels) (.object fields)) =
      descend place (writeAt v last levels (levelAt segment fields)) := by
  rw [writeAt_cons, descend_cons_object, Fields.lookup_insert_self]
  rfl

theorem keysAt_levelAt (place : List String) (segment : String) (fields : Fields) :
    keysAt place (levelAt segment fields) = keysAt (segment :: place) (.object fields) := by
  cases place with
  | nil =>
    rw [keysAt, keysAt, descend_cons_object, levelAt]
    cases fields.lookup segment <;> rfl
  | cons s more => rw [keysAt, keysAt, descend_levelAt (List.cons_ne_nil s more)]

theorem blocked_of_not_isObject (h : target.isObject = false) (levels : List String) :
    Blocked levels target :=
  ⟨[], List.nil_prefix, target, rfl, h⟩

theorem not_blocked_nil (fields : Fields) : ¬ Blocked [] (.object fields) := by
  rintro ⟨above, habove, v, hv, hobject⟩
  rw [List.prefix_nil.mp habove] at hv
  cases hv
  simp [isObject] at hobject

theorem blocked_cons_iff (segment : String) (rest : List String) (fields : Fields) :
    Blocked (segment :: rest) (.object fields) ↔ Blocked rest (levelAt segment fields) := by
  constructor
  · rintro ⟨above, habove, v, hv, hobject⟩
    cases above with
    | nil =>
      cases hv
      simp [isObject] at hobject
    | cons s more =>
      obtain ⟨rfl, hmore⟩ := List.cons_prefix_cons.mp habove
      refine ⟨more, hmore, v, ?_, hobject⟩
      rw [descend_cons_object] at hv
      cases hs : fields.lookup s with
      | none => simp [hs] at hv
      | some child => simpa [levelAt, hs] using hv
  · rintro ⟨above, habove, v, hv, hobject⟩
    refine ⟨segment :: above, List.cons_prefix_cons.mpr ⟨rfl, habove⟩, v, ?_, hobject⟩
    cases above with
    | nil =>
      cases hs : fields.lookup segment with
      | none =>
        rw [levelAt, hs] at hv
        cases hv
        simp [isObject] at hobject
      | some child => simpa [levelAt, hs, descend_cons_object] using hv
    | cons s more => rwa [← descend_levelAt (List.cons_ne_nil s more)]

theorem not_blocked_empty (levels : List String) : ¬ Blocked levels (.object []) := by
  rintro ⟨above, -, v, hv, hobject⟩
  cases above with
  | nil =>
    cases hv
    simp [isObject] at hobject
  | cons segment rest => simp [descend_cons_object] at hv

/-- What is no object on the way keeps everything as it is. -/
theorem writeAt_of_blocked (h : Blocked levels target) (v : Value) (last : String) :
    writeAt v last levels target = target := by
  induction levels generalizing target with
  | nil =>
    cases target with
    | object fields => exact (not_blocked_nil fields h).elim
    | _ => rfl
  | cons segment rest ih =>
    cases target with
    | object fields =>
      have hlevel := (blocked_cons_iff segment rest fields).mp h
      cases hs : fields.lookup segment with
      | none =>
        rw [levelAt, hs] at hlevel
        exact (not_blocked_empty rest hlevel).elim
      | some child =>
        rw [writeAt_cons, ih hlevel, levelAt, hs, Option.getD_some, Fields.insert_lookup hs]
    | _ => rfl

theorem exists_fields_of_not_blocked (h : ¬ Blocked levels target) :
    ∃ fields, target = .object fields := by
  cases target with
  | object fields => exact ⟨fields, rfl⟩
  | _ => exact (h (blocked_of_not_isObject rfl levels)).elim

theorem descend_writeAt_self (h : ¬ Blocked levels target) (v : Value) (last : String) :
    descend (levels ++ [last]) (writeAt v last levels target) =
      some (merged (descend (levels ++ [last]) target) v) := by
  induction levels generalizing target with
  | nil =>
    obtain ⟨fields, rfl⟩ := exists_fields_of_not_blocked h
    have hself := lookup_write_self last v fields
    simp only [List.nil_append, writeAt, descend_cons_object, hself]
    cases fields.lookup last <;> rfl
  | cons segment rest ih =>
    obtain ⟨fields, rfl⟩ := exists_fields_of_not_blocked h
    rw [blocked_cons_iff] at h
    rw [List.cons_append, descend_writeAt_cons, ih h,
      descend_levelAt (List.append_ne_nil_of_right_ne_nil rest (List.cons_ne_nil last []))]

/-- Places that are neither above nor below the written one stay as they were. -/
theorem descend_writeAt_of_not_prefix (hbelow : ¬ levels ++ [last] <+: other)
    (habove : ¬ other <+: levels ++ [last]) (v target : Value) :
    descend other (writeAt v last levels target) = descend other target := by
  induction levels generalizing target other with
  | nil =>
    cases other with
    | nil => exact (habove List.nil_prefix).elim
    | cons s more =>
      have hs : s ≠ last := by
        rintro rfl
        exact hbelow (List.cons_prefix_cons.mpr ⟨rfl, List.nil_prefix⟩)
      cases target with
      | object fields =>
        rw [writeAt, descend_cons_object, Fields.lookup_write_of_ne v fields hs,
          descend_cons_object]
      | _ => rfl
  | cons segment rest ih =>
    cases other with
    | nil => exact (habove List.nil_prefix).elim
    | cons s more =>
      cases target with
      | object fields =>
        by_cases hs : s = segment
        · subst hs
          have hbelow' : ¬ rest ++ [last] <+: more := fun h =>
            hbelow (List.cons_prefix_cons.mpr ⟨rfl, h⟩)
          have habove' : ¬ more <+: rest ++ [last] := fun h =>
            habove (List.cons_prefix_cons.mpr ⟨rfl, h⟩)
          have hne : more ≠ [] := by
            rintro rfl
            exact habove' List.nil_prefix
          rw [descend_writeAt_cons, ih hbelow' habove', descend_levelAt hne]
        · rw [writeAt_cons, descend_cons_object, Fields.lookup_insert_of_ne _ fields hs,
            descend_cons_object]
      | _ => rfl

/-- Above the written place every level has its keys in their order, and perhaps a new one. -/
theorem keys_writeAt (h : ¬ Blocked levels target) (hkey : above ++ [key] <+: levels ++ [last])
    (v : Value) :
    ∃ fields, descend above (writeAt v last levels target) = some (.object fields) ∧
      fields.map Prod.fst = keysWith key (keysAt above target) := by
  induction levels generalizing target above with
  | nil =>
    obtain ⟨fields, rfl⟩ := exists_fields_of_not_blocked h
    cases above with
    | nil =>
      obtain rfl : key = last := by simpa using hkey
      exact ⟨_, rfl, Fields.keys_write key v fields⟩
    | cons s more => simp at hkey
  | cons segment rest ih =>
    obtain ⟨fields, rfl⟩ := exists_fields_of_not_blocked h
    cases above with
    | nil =>
      obtain rfl : key = segment := by simpa using hkey
      exact ⟨_, rfl, Fields.keys_insert key _ fields⟩
    | cons s more =>
      obtain ⟨rfl, hmore⟩ := List.cons_prefix_cons.mp hkey
      rw [blocked_cons_iff] at h
      obtain ⟨level, hlevel, hkeys⟩ := ih h hmore
      refine ⟨level, ?_, ?_⟩
      · rw [descend_writeAt_cons, hlevel]
      · rw [hkeys, keysAt_levelAt]

theorem pathSegments_ne_nil (path : String) : pathSegments path ≠ [] := by
  simp [pathSegments, List.splitOn_ne_nil]

/-- The segments of a path above its last one. -/
def levelsOf (path : String) : List String := (pathSegments path).dropLast

theorem levelsOf_concat (path : String) :
    levelsOf path ++ [(pathSegments path).getLast?.getD ""] = pathSegments path := by
  have hne := pathSegments_ne_nil path
  rw [levelsOf, List.getLast?_eq_some_getLast hne, Option.getD_some,
    List.dropLast_concat_getLast hne]

theorem assign_of_written_some {value : Option Value} (h : written? value = some v) (target : Value)
    (path : String) :
    target.assign value path =
      writeAt v ((pathSegments path).getLast?.getD "") (levelsOf path) target := by
  rw [assign, h]
  rfl

theorem atPath_eq_descend {path : String} (h : path ≠ "") (v : Value) :
    v.atPath path = descend (pathSegments path) v := by
  simp [atPath, h]

/-- Assigning writes to one place or to none. An absent value, an empty collection and a way that
is blocked leave everything as it is. Otherwise the value stands at the path, after the items of an
array that was there; the places beside the path are as they were, and each level above it has its
keys in their order, with a new one at the end. -/
theorem assign_writes_one_place (target : Value) (value : Option Value) {path : String}
    (hpath : path ≠ "") :
    (value.all isEmptyCollection = true ∨ Blocked (levelsOf path) target →
      target.assign value path = target) ∧
    ∀ v, value = some v → v.isEmptyCollection = false → ¬ Blocked (levelsOf path) target →
      (target.assign value path).atPath path = some (merged (target.atPath path) v) ∧
      (∀ other, other ≠ "" → ¬ pathSegments path <+: pathSegments other →
        ¬ pathSegments other <+: pathSegments path →
        (target.assign value path).atPath other = target.atPath other) ∧
      ∀ above key, above ++ [key] <+: pathSegments path →
        ∃ fields, descend above (target.assign value path) = some (.object fields) ∧
          fields.map Prod.fst = keysWith key (keysAt above target) := by
  constructor
  · rintro (hempty | hblocked)
    · refine assign_of_written_none ?_ target path
      cases value <;> simp_all [written?]
    · cases hwritten : written? value with
      | none => exact assign_of_written_none hwritten target path
      | some v => rw [assign_of_written_some hwritten, writeAt_of_blocked hblocked]
  · rintro v rfl hempty hblocked
    have hwritten : written? (some v) = some v := by simp [written?, hempty]
    rw [assign_of_written_some hwritten]
    refine ⟨?_, ?_, ?_⟩
    · rw [atPath_eq_descend hpath, atPath_eq_descend hpath]
      have hself := descend_writeAt_self hblocked v ((pathSegments path).getLast?.getD "")
      rwa [levelsOf_concat] at hself
    · intro other hother hbelow habove
      rw [atPath_eq_descend hother, atPath_eq_descend hother]
      rw [← levelsOf_concat path] at hbelow habove
      exact descend_writeAt_of_not_prefix hbelow habove v target
    · intro above key hkey
      rw [← levelsOf_concat path] at hkey
      exact keys_writeAt hblocked hkey v

/-- An array below one key and a text under another. -/
def sampleTarget : Value :=
  .object [("a", .object [("b", .array [.int 1]), ("c", .null)]), ("d", .string "e")]

/-- A path through the text is blocked; the array is written to below an open level. -/
theorem assign_sampleTarget :
    sampleTarget.assign (some (.int 3)) "d.f.g" = sampleTarget ∧
      (sampleTarget.assign (some (.array [.int 2])) "a.b").atPath "a.b" =
        some (.array [.int 1, .int 2]) ∧
      (sampleTarget.assign (some (.array [.int 2])) "a.b").atPath "a.c" = some .null := by
  have hsegments : pathSegments "d.f.g" = ["d", "f", "g"] ∧ pathSegments "a.b" = ["a", "b"] ∧
      pathSegments "a.c" = ["a", "c"] := by decide
  obtain ⟨hdfg, hab, hac⟩ := hsegments
  have hblocked : Blocked (levelsOf "d.f.g") sampleTarget := by
    refine ⟨["d"], ?_, .string "e", rfl, rfl⟩
    simp [levelsOf, hdfg]
  have hopen : ¬ Blocked (levelsOf "a.b") sampleTarget := by
    rw [levelsOf, hab]
    exact (blocked_cons_iff "a" [] _).not.mpr (not_blocked_nil _)
  have hpath : "a.b" ≠ "" := by decide
  obtain ⟨hself, hother, -⟩ :=
    (assign_writes_one_place sampleTarget (some (.array [.int 2])) hpath).2 _ rfl rfl hopen
  refine ⟨(assign_writes_one_place sampleTarget (some (.int 3)) (by decide)).1 (Or.inr hblocked),
    hself, hother "a.c" (by decide) ?_ ?_⟩
  · simp [hab, hac]
  · simp [hab, hac]

end Value

end Reshape
