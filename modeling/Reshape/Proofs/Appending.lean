import Reshape.Proofs.Reordering

/-! Writing arrays at one place. Two lists written one after the other leave what their
concatenation leaves when it is written at once. -/
namespace Reshape

namespace Value

variable {xs ys : List Value} {last : String} {levels : List String}

/-- Writes what is worth writing, below the given levels. -/
def writeGiven (value : Option Value) (last : String) (levels : List String) (target : Value) :
    Value :=
  match written? value with
  | none => target
  | some v => writeAt v last levels target

theorem assign_eq_writeGiven (target : Value) (value : Option Value) (path : String) :
    target.assign value path =
      writeGiven value ((pathSegments path).getLast?.getD "") (levelsOf path) target := rfl

theorem assignKey_eq_writeGiven (target : Value) (key : String) (value : Option Value) :
    target.assignKey key value = writeGiven value key [] target := rfl

theorem writeGiven_empty (last : String) (levels : List String) (target : Value) :
    writeGiven (some (.array [])) last levels target = target := rfl

theorem writeGiven_array (h : xs ≠ []) (last : String) (levels : List String) (target : Value) :
    writeGiven (some (.array xs)) last levels target = writeAt (.array xs) last levels target := by
  have hwritten : written? (some (.array xs)) = some (.array xs) := by
    refine written?_eq_some_iff.mpr ⟨rfl, ?_⟩
    simpa [isEmptyCollection] using h
  rw [writeGiven, hwritten]

/-- Whatever was there before, the second list comes after the first. -/
theorem merged_merged_array (old : Option Value) (xs ys : List Value) :
    merged (some (merged old (.array xs))) (.array ys) = merged old (.array (xs ++ ys)) := by
  cases old with
  | none => rfl
  | some v =>
    cases v with
    | array items => simp only [merged, List.append_assoc]
    | _ => rfl

theorem writeAt_append (xs ys : List Value) (last : String) (levels : List String)
    (target : Value) :
    writeAt (.array ys) last levels (writeAt (.array xs) last levels target) =
      writeAt (.array (xs ++ ys)) last levels target := by
  induction levels generalizing target with
  | nil => simp only [writeAt_nil_eq_updateEntry, Reordered.updateEntry_self, merged_merged_array]
  | cons segment rest ih =>
    -- The second write enters the level that the first one has found or made.
    simp only [writeAt_cons_eq_updateEntry, Reordered.updateEntry_self, Option.getD_some, ih]

theorem writeGiven_append (xs ys : List Value) (last : String) (levels : List String)
    (target : Value) :
    writeGiven (some (.array ys)) last levels (writeGiven (some (.array xs)) last levels target) =
      writeGiven (some (.array (xs ++ ys))) last levels target := by
  by_cases hxs : xs = []
  · subst hxs
    rw [writeGiven_empty, List.nil_append]
  · by_cases hys : ys = []
    · subst hys
      rw [writeGiven_empty, List.append_nil]
    · have happend : xs ++ ys ≠ [] := List.append_ne_nil_of_left_ne_nil hxs ys
      rw [writeGiven_array hxs, writeGiven_array hys, writeGiven_array happend, writeAt_append]

/-- Writing a list and then another one at the same path, or under the same key taken as it is,
leaves what writing both at once leaves. Either list may be empty, the way may be blocked or
missing, and something else may have been there. -/
theorem assign_append (target : Value) (xs ys : List Value) :
    (∀ path, (target.assign (some (.array xs)) path).assign (some (.array ys)) path =
      target.assign (some (.array (xs ++ ys))) path) ∧
    ∀ key, (target.assignKey key (some (.array xs))).assignKey key (some (.array ys)) =
      target.assignKey key (some (.array (xs ++ ys))) := by
  constructor
  · intro path
    simp only [assign_eq_writeGiven]
    exact writeGiven_append xs ys _ _ target
  · intro key
    simp only [assignKey_eq_writeGiven]
    exact writeGiven_append xs ys key [] target

/-- An array below a level that is not there yet, then more of it, then nothing. -/
example :
    (((Value.object []).assign (some (.array [.int 1])) "a.b").assign
      (some (.array [.int 2, .null])) "a.b").assign (some (.array [])) "a.b" =
      .object [("a", .object [("b", .array [.int 1, .int 2, .null])])] := by cbv

end Value

end Reshape
