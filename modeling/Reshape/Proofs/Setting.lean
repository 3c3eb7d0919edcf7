import Reshape.Proofs.IndexTexts
import Reshape.Proofs.Selecting
import Reshape.Proofs.WritingPaths

/-! Setting an entry of an object, an element of an array or a character of a text, and what getting
finds afterwards. Setting takes the key of an object as it is and getting follows it as a path. -/
namespace Reshape

open Value

variable {env : Environment} {scope root : Value} {keyParam param getParam key : String} {v : Value}

/-- The parameter has a value, and this is its text. -/
def GivesText (env : Environment) (scope root : Value) (param s : String) : Prop :=
  ∃ v, evaluateIn env param scope root = .ok (some v) ∧ v.text = s

theorem GivesText.applyFilter_get (h : GivesText env scope root getParam key) (target : Value) :
    applyFilter env "get" [getParam] scope root (some target) = .ok (getKey key target) := by
  obtain ⟨k, hparam, rfl⟩ := h
  exact applyFilter_of_evaluateIn (f := .get) (by decide) hparam (some target)

theorem GivesText.applyFilter_set (h : GivesText env scope root keyParam key)
    (hvalue : evaluateIn env param scope root = .ok (some v)) (target : Value) :
    applyFilter env "set" [keyParam, param] scope root (some target) =
      .ok (some (setKey key v target)) := by
  obtain ⟨k, hparam, rfl⟩ := h
  have hargs : Filter.resolveParams (evaluateIn env) scope root [keyParam, param] =
      .ok [some k, some v] := Filter.resolveParams_of_forall₂ (.cons hparam (.cons hvalue .nil))
  exact applyFilter_of_resolved (f := .put) (by decide) hargs (some target)

theorem not_mem_of_mem_pathSegments {path segment : String} (h : segment ∈ pathSegments path) :
    '.' ∉ segment.toList := by
  obtain ⟨piece, hpiece, rfl⟩ := List.mem_map.mp h
  rw [String.toList_ofList]
  exact not_mem_of_mem_splitOn hpiece

/-- A path without a dot leads to the entry of its name. -/
theorem atPath_object {fields : Fields} (hne : key ≠ "") (hdot : '.' ∉ key.toList) :
    (Value.object fields).atPath key = fields.lookup key := by
  rw [atPath, if_neg (by simpa using hne), pathSegments_of_not_mem hdot]
  simp [descend, child?]

/-- A path with a dot does not lead through an entry that has the whole path as its key. -/
theorem atPath_insert_of_dot (hdot : '.' ∈ key.toList) (v : Value) (fields : Fields) :
    (Value.object (Fields.insert key v fields)).atPath key = (Value.object fields).atPath key := by
  have hne : key.isEmpty = false := by
    rw [Bool.eq_false_iff]
    intro hempty
    simp [String.isEmpty_iff.mp hempty] at hdot
  obtain ⟨first, rest, hsegments⟩ := List.exists_cons_of_ne_nil (pathSegments_ne_nil key)
  have hfirst : first ≠ key := by
    rintro rfl
    exact not_mem_of_mem_pathSegments (hsegments ▸ List.mem_cons_self) hdot
  simp only [atPath, hne, Bool.false_eq_true, if_false, hsegments, descend, child?,
    Fields.lookup_insert_of_ne v fields hfirst]

/-- Getting a key from what comes out of setting one. -/
def setThenGet (env : Environment) (keyParam param getParam : String) (scope root target : Value) :
    Except ResolveError (Option Value) :=
  applyFilter env "set" [keyParam, param] scope root (some target) >>=
    applyFilter env "get" [getParam] scope root

theorem setThenGet_eq (hkey : GivesText env scope root keyParam key)
    (hvalue : evaluateIn env param scope root = .ok (some v))
    (hget : GivesText env scope root getParam key) (target : Value) :
    setThenGet env keyParam param getParam scope root target =
      .ok (getKey key (setKey key v target)) := by
  rw [setThenGet, hkey.applyFilter_set hvalue]
  exact hget.applyFilter_get _

/-- In an object, getting finds what was set under the same key if the key is not empty and has no
dot. With a dot it finds what the path leads to in the object before, and with the empty key it
gives the whole object with the new entry. -/
theorem setThenGet_object (hkey : GivesText env scope root keyParam key)
    (hvalue : evaluateIn env param scope root = .ok (some v))
    (hget : GivesText env scope root getParam key) (fields : Fields) :
    (key ≠ "" → '.' ∉ key.toList →
        setThenGet env keyParam param getParam scope root (.object fields) = .ok (some v)) ∧
      ('.' ∈ key.toList →
        setThenGet env keyParam param getParam scope root (.object fields) =
          applyFilter env "get" [getParam] scope root (some (.object fields))) ∧
      (key = "" →
        setThenGet env keyParam param getParam scope root (.object fields) =
          .ok (some (.object (Fields.insert key v fields)))) := by
  rw [setThenGet_eq hkey hvalue hget, hget.applyFilter_get]
  refine ⟨fun hne hdot => ?_, fun hdot => ?_, ?_⟩
  · show Except.ok ((Value.object (Fields.insert key v fields)).atPath key) = _
    rw [atPath_object hne hdot, Fields.lookup_insert_self]
  · show Except.ok ((Value.object (Fields.insert key v fields)).atPath key) = _
    rw [atPath_insert_of_dot hdot]
    rfl
  · rintro rfl
    exact congrArg Except.ok (atPath_empty _)

/-- The three kinds of key: a name, one that is read as a path into what was there before, and the
empty one. -/
theorem setThenGet_object_sampleKeys :
    setThenGet ⟨⟨0, 0⟩, id⟩ "'b'" "'x'" "'b'" .null .null (.object [("b", .null)]) =
        .ok (some (.string "x")) ∧
      setThenGet ⟨⟨0, 0⟩, id⟩ "'a.b'" "'x'" "'a.b'" .null .null
          (.object [("a", .object [("b", .bool true)])]) = .ok (some (.bool true)) ∧
      setThenGet ⟨⟨0, 0⟩, id⟩ "''" "'x'" "''" .null .null (.object []) =
        .ok (some (.object [("", .string "x")])) := by
  have hname : evaluateIn ⟨⟨0, 0⟩, id⟩ "'b'" .null .null = .ok (some (.string "b")) := by cbv
  have hpath : evaluateIn ⟨⟨0, 0⟩, id⟩ "'a.b'" .null .null = .ok (some (.string "a.b")) := by cbv
  have hempty : evaluateIn ⟨⟨0, 0⟩, id⟩ "''" .null .null = .ok (some (.string "")) := by cbv
  have hvalue : evaluateIn ⟨⟨0, 0⟩, id⟩ "'x'" .null .null = .ok (some (.string "x")) := by cbv
  have hgiven {param s : String} (h : evaluateIn ⟨⟨0, 0⟩, id⟩ param .null .null =
      .ok (some (.string s))) : GivesText ⟨⟨0, 0⟩, id⟩ .null .null param s := ⟨_, h, rfl⟩
  have hbefore := (hgiven hpath).applyFilter_get (.object [("a", .object [("b", .bool true)])])
  have hsegments : pathSegments "a.b" = ["a", "b"] := by cbv
  refine ⟨(setThenGet_object (hgiven hname) hvalue (hgiven hname) _).1 (by decide) (by decide),
    ((setThenGet_object (hgiven hpath) hvalue (hgiven hpath) _).2.1 (by decide)).trans ?_,
    (setThenGet_object (hgiven hempty) hvalue (hgiven hempty) _).2.2 rfl⟩
  rw [hbefore]
  simp [getKey, atPath, hsegments, descend, child?]

/-- Whatever gives the key and the value, getting the key finds the value that was set under it. -/
def GetsWhatIsSet (env : Environment) (fields : Fields) (key : String) (v : Value) : Prop :=
  ∀ (keyParam param getParam : String) (scope root : Value),
    GivesText env scope root keyParam key → evaluateIn env param scope root = .ok (some v) →
    GivesText env scope root getParam key →
    setThenGet env keyParam param getParam scope root (.object fields) = .ok (some v)

/-- Under a key with a dot nothing is found. -/
theorem not_getsWhatIsSet_dotted :
    ¬ GetsWhatIsSet ⟨⟨0, 0⟩, id⟩ [("k", .int 1)] "a.b" (.string "x") := by
  intro h
  have hkey : evaluateIn ⟨⟨0, 0⟩, id⟩ "'a.b'" .null .null = .ok (some (.string "a.b")) := by cbv
  have hvalue : evaluateIn ⟨⟨0, 0⟩, id⟩ "'x'" .null .null = .ok (some (.string "x")) := by cbv
  have hgiven : GivesText ⟨⟨0, 0⟩, id⟩ .null .null "'a.b'" "a.b" := ⟨_, hkey, rfl⟩
  have hfound := h _ _ _ _ _ hgiven hvalue hgiven
  have hsegments : pathSegments "a.b" = ["a", "b"] := by cbv
  rw [setThenGet_eq hgiven hvalue hgiven] at hfound
  simp [getKey, setKey, Fields.insert, atPath, hsegments, descend, child?, List.lookup] at hfound

variable {α : Type} {wrap : List α → Value} {element : α → Value} {i : Nat}

/-- What holds a list in order: its length is what is counted, and an index gets one of its
items. -/
structure IsIndexed (wrap : List α → Value) (element : α → Value) : Prop where
  count_eq : ∀ items, count (some (wrap items)) = items.length
  getKey_eq : ∀ key items,
    getKey key (wrap items) = (index? key.toList).bind fun i => items[i]?.map element

theorem isIndexed_array : IsIndexed Value.array id where
  count_eq _ := rfl
  getKey_eq key items := by simp [getKey]

theorem isIndexed_text : IsIndexed ofText fun c => ofText [c] where
  count_eq text := by simp [ofText, count]
  getKey_eq key text := by simp [getKey, ofText]

/-- One place of a sequence has a new value and no other place has: so say its count and every index
that a parameter can give. -/
structure ReplacesAt (env : Environment) (i : Nat) (before after shown : Value) : Prop where
  count : count (some after) = count (some before)
  here : ∀ (param key : String) (scope root : Value), GivesText env scope root param key →
    SpellsIndex key i → applyFilter env "get" [param] scope root (some after) = .ok (some shown)
  others : ∀ (param key : String) (scope root : Value) (j : Nat),
    GivesText env scope root param key → SpellsIndex key j → j ≠ i →
    applyFilter env "get" [param] scope root (some after) =
      applyFilter env "get" [param] scope root (some before)

theorem IsIndexed.replacesAt (h : IsIndexed wrap element) {items : List α} (hi : i < items.length)
    (item : α) : ReplacesAt env i (wrap items) (wrap (items.set i item)) (element item) where
  count := by rw [h.count_eq, h.count_eq, List.length_set]
  here param key scope root hparam hindex := by
    rw [hparam.applyFilter_get, h.getKey_eq, index?_eq_some_iff.mpr hindex]
    simp [hi]
  others param key scope root j hparam hindex hne := by
    rw [hparam.applyFilter_get, hparam.applyFilter_get, h.getKey_eq, h.getKey_eq,
      index?_eq_some_iff.mpr hindex]
    simp [Ne.symm hne]

theorem flatten_singletons (text : List Char) : (text.map fun c => [c]).flatten = text := by
  rw [← List.flatMap_def, List.flatMap_singleton']

theorem setCharAt_of_lt {text : List Char} (h : i < text.length) (replacement : List Char) :
    setCharAt text i replacement = text.take i ++ replacement ++ text.drop (i + 1) := by
  have hlength : i < (text.map fun c => [c]).length := by simpa using h
  rw [setCharAt, setAt_of_lt hlength, List.set_eq_take_append_cons_drop, if_pos hlength,
    List.flatten_append, List.flatten_cons, ← List.map_take, ← List.map_drop, flatten_singletons,
    flatten_singletons, List.append_assoc]

theorem setCharAt_of_le {text : List Char} (h : text.length ≤ i) (replacement : List Char) :
    setCharAt text i replacement = text ++ replacement := by
  have hlength : (text.map fun c => [c]).length ≤ i := by simpa using h
  rw [setCharAt, setAt_of_le hlength, List.flatten_concat, flatten_singletons]

/-- A single character replaces another one. -/
theorem setCharAt_singleton {text : List Char} (h : i < text.length) (c : Char) :
    setCharAt text i [c] = text.set i c := by
  rw [setCharAt_of_lt h, List.set_eq_take_append_cons_drop, if_pos h, List.append_assoc,
    List.singleton_append]

theorem setKey_array {items : List Value} (h : SpellsIndex key i) :
    setKey key v (.array items) = .array (setAt items i v) := by
  rw [setKey, index?_eq_some_iff.mpr h]

theorem setKey_text {s : String} (h : SpellsIndex key i) :
    setKey key v (.string s) = ofText (setCharAt s.toList i v.text.toList) := by
  rw [setKey, index?_eq_some_iff.mpr h]

/-- Setting the place that an index stands for replaces the element or character there and leaves
every other place as it is; a place behind the end is a new one. Of a text the characters on both
sides stay, whatever stands between them now. A key that is no index changes nothing. -/
theorem applyFilter_set_sequence (hkey : GivesText env scope root keyParam key)
    (hvalue : evaluateIn env param scope root = .ok (some v)) :
    (∀ i, SpellsIndex key i →
      (∀ items : List Value, ∃ items',
        applyFilter env "set" [keyParam, param] scope root (some (.array items)) =
            .ok (some (.array items')) ∧
          (i < count (some (.array items)) →
            ReplacesAt env i (.array items) (.array items') v) ∧
          (count (some (.array items)) ≤ i → items' = items ++ [v])) ∧
      ∀ s : String, ∃ s',
        applyFilter env "set" [keyParam, param] scope root (some (.string s)) =
            .ok (some (.string s')) ∧
          (i < count (some (.string s)) →
            s'.toList = s.toList.take i ++ v.text.toList ++ s.toList.drop (i + 1)) ∧
          (count (some (.string s)) ≤ i → s' = s ++ v.text) ∧
          (i < count (some (.string s)) → v.text.length = 1 →
            ReplacesAt env i (.string s) (.string s') (.string v.text))) ∧
      ((∀ i, ¬ SpellsIndex key i) →
        (∀ items, applyFilter env "set" [keyParam, param] scope root (some (.array items)) =
          .ok (some (.array items))) ∧
        ∀ s, applyFilter env "set" [keyParam, param] scope root (some (.string s)) =
          .ok (some (.string s))) := by
  have hset (target : Value) := hkey.applyFilter_set hvalue target
  refine ⟨fun i hindex => ⟨fun items => ?_, fun s => ?_⟩, fun hnone => ?_⟩
  · refine ⟨setAt items i v, by rw [hset, setKey_array hindex], fun hi => ?_,
      fun hi => setAt_of_le hi v⟩
    rw [setAt_of_lt hi]
    exact isIndexed_array.replacesAt hi v
  · refine ⟨String.ofList (setCharAt s.toList i v.text.toList), ?_, fun hi => ?_, fun hi => ?_,
      fun hi hsingle => ?_⟩
    · rw [hset, setKey_text hindex, ofText]
    · rw [String.toList_ofList, setCharAt_of_lt hi]
    · rw [setCharAt_of_le hi, String.ofList_append, String.ofList_toList, String.ofList_toList]
    · obtain ⟨c, hc⟩ := List.length_eq_one_iff.mp (String.length_toList ▸ hsingle)
      have hreplaces :
          ReplacesAt env i (ofText s.toList) (ofText (s.toList.set i c)) (ofText [c]) :=
        isIndexed_text.replacesAt hi c
      rw [ofText, ofText, ofText, String.ofList_toList] at hreplaces
      rwa [hc, setCharAt_singleton hi, ← String.ofList_toList (s := v.text), hc]
  · have hindex := index?_eq_none_iff.mpr hnone
    refine ⟨fun items => ?_, fun s => ?_⟩
    · rw [hset, setKey, hindex]
    · rw [hset, setKey, hindex]

/-- An index with a plus and a zero, for a text that it is inside of and an array that ends before
it, and the first number that is too large for an index. -/
theorem applyFilter_set_sequence_signed :
    SpellsIndex "+01" 1 ∧ (∀ i, ¬ SpellsIndex "18446744073709551616" i) ∧
      applyFilter ⟨⟨0, 0⟩, id⟩ "set" ["'+01'", "'xy'"] .null .null (some (.string "añ😀")) =
        .ok (some (.string "axy😀")) ∧
      applyFilter ⟨⟨0, 0⟩, id⟩ "set" ["'+01'", "'xy'"] .null .null (some (.array [.null])) =
        .ok (some (.array [.null, .string "xy"])) ∧
      applyFilter ⟨⟨0, 0⟩, id⟩ "set" ["'18446744073709551616'", "'xy'"] .null .null
          (some (.array [])) = .ok (some (.array [])) := by
  have hindex : SpellsIndex "+01" 1 := ⟨by decide, true, 2, rfl⟩
  have hnone : ∀ i, ¬ SpellsIndex "18446744073709551616" i :=
    index?_eq_none_iff.mp (by decide +kernel)
  have hkey : evaluateIn ⟨⟨0, 0⟩, id⟩ "'+01'" .null .null = .ok (some (.string "+01")) := by cbv
  have hlarge : evaluateIn ⟨⟨0, 0⟩, id⟩ "'18446744073709551616'" .null .null =
      .ok (some (.string "18446744073709551616")) := by cbv
  have hvalue : evaluateIn ⟨⟨0, 0⟩, id⟩ "'xy'" .null .null = .ok (some (.string "xy")) := by cbv
  obtain ⟨harray, htext⟩ := (applyFilter_set_sequence ⟨_, hkey, rfl⟩ hvalue).1 1 hindex
  obtain ⟨items', hitems, -, hend⟩ := harray [.null]
  obtain ⟨s', hs, hinside, -⟩ := htext "añ😀"
  obtain rfl : s' = "axy😀" := by
    rw [← String.toList_inj, hinside (by decide)]
    rfl
  obtain rfl : items' = [.null, .string "xy"] := hend (by decide)
  have hleft := (applyFilter_set_sequence ⟨_, hlarge, rfl⟩ hvalue).2 hnone
  exact ⟨hindex, hnone, hs, hitems, hleft.1 []⟩

end Reshape
