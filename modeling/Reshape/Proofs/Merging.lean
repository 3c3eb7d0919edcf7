import Reshape.Proofs.EntryUpdate
import Reshape.Proofs.KeySuffix
import Reshape.Proofs.Outcome

/-! Keys that merge. An object that is built for a template has each key once and no empty
collection under any of them, so that writing its entries one by one into a new object gives the
same object. -/
namespace Reshape

open Template

/-- Each key stands once and nothing empty stands under any. -/
structure Fields.IsFilled (fields : Fields) : Prop where
  nodup : (fields.map Prod.fst).Nodup
  kept : ∀ field ∈ fields, field.2.isEmptyCollection = false

namespace Value

/-- An object as a level leaves it. -/
def IsFilled : Value → Prop
  | .object fields => Fields.IsFilled fields
  | _ => False

variable {v target output : Value} {last : String} {levels : List String}

theorem isFilled_new : IsFilled (.object []) := ⟨List.nodup_nil, by simp⟩

theorem IsFilled.isArray (h : target.IsFilled) : target.isArray = false := by
  cases target with
  | array items => exact h.elim
  | _ => rfl

theorem isFilled_updateEntry {key : String} {change : Option Value → Value} (h : target.IsFilled)
    (hchange : ∀ old : Option Value, (∀ w ∈ old, w.isEmptyCollection = false) →
      (change old).isEmptyCollection = false) :
    (updateEntry key change target).IsFilled := by
  cases target with
  | object fields =>
    have hentry : (change (fields.lookup key)).isEmptyCollection = false :=
      hchange _ fun w hw => h.kept _ (Fields.mem_of_lookup hw)
    exact ⟨Fields.nodup_keys_insert h.nodup key _,
      Fields.forall_insert (fun w => w.isEmptyCollection = false) hentry h.kept⟩
  | _ => exact h.elim

theorem isEmptyCollection_merged (hv : v.isEmptyCollection = false) (old : Option Value) :
    (merged old v).isEmptyCollection = false := by
  unfold merged
  split
  · simp_all [isEmptyCollection]
  · exact hv

/-- After a write there is something in an object, and in whatever had something in it before. -/
theorem isEmptyCollection_writeAt
    (h : target = .object [] ∨ target.isEmptyCollection = false) (v : Value) (last : String)
    (levels : List String) : (writeAt v last levels target).isEmptyCollection = false := by
  have hupdate : ∀ key change, (updateEntry key change target).isEmptyCollection = false := by
    intro key change
    cases target with
    | object fields =>
      simpa [updateEntry, isEmptyCollection] using Fields.insert_ne_nil key _ fields
    | _ => exact h.resolve_left (by simp)
  cases levels with
  | nil =>
    rw [writeAt_nil_eq_updateEntry]
    exact hupdate _ _
  | cons segment rest =>
    rw [writeAt_cons_eq_updateEntry]
    exact hupdate _ _

theorem isFilled_writeAt (hv : v.isEmptyCollection = false) (h : target.IsFilled) (last : String)
    (levels : List String) : (writeAt v last levels target).IsFilled := by
  cases levels with
  | nil =>
    rw [writeAt_nil_eq_updateEntry]
    exact isFilled_updateEntry h fun old _ => isEmptyCollection_merged hv old
  | cons segment rest =>
    rw [writeAt_cons_eq_updateEntry]
    refine isFilled_updateEntry h fun old hold => isEmptyCollection_writeAt ?_ v last rest
    cases old with
    | none => exact Or.inl rfl
    | some level => exact Or.inr (hold level rfl)

theorem isFilled_assign (h : target.IsFilled) (value : Option Value) (path : String) :
    (target.assign value path).IsFilled := by
  cases hv : written? value with
  | none => rwa [assign_of_written_none hv]
  | some v =>
    rw [assign_of_written_some hv]
    exact isFilled_writeAt (written?_eq_some_iff.mp hv).2 h _ _

theorem isFilled_assignKey (h : target.IsFilled) (key : String) (value : Option Value) :
    (target.assignKey key value).IsFilled := by
  rw [assignKey]
  cases hv : written? value with
  | none => exact h
  | some v => exact isFilled_writeAt (written?_eq_some_iff.mp hv).2 h _ _

end Value

namespace Template

open Value

variable {env : Environment} {scope root output : Value} {entries : Fields}

theorem isFilled_mergeInto (h : output.IsFilled) (fields : Fields) :
    (mergeInto output fields).IsFilled := by
  induction fields generalizing output with
  | nil => exact h
  | cons field rest ih => exact ih (isFilled_assignKey h field.1 (some field.2))

theorem isFilled_writeKey (h : output.IsFilled) (key : TemplateKey) (expr : String)
    (destination value : Option Value) : (writeKey key expr destination value output).IsFilled := by
  unfold writeKey
  split
  · split
    · exact isFilled_mergeInto h _
    · exact h
  · exact isFilled_assign h _ _

/-- Whatever is built for the keys, each of them writes once to the object or merges into it. -/
theorem fillEntries_isFilled (entries : Fields) (scope root : Value) (h : output.IsFilled) :
    GivesOnly IsFilled (fillEntries env entries scope root output) := by
  induction entries generalizing output with
  | nil =>
    rw [fillEntries]
    exact .ok h
  | cons entry rest ih =>
    obtain ⟨key, template⟩ := entry
    rw [fillEntries]
    cases (TemplateKey.classify key).expression? with
    | none => exact ih h
    | some expr =>
      exact .bind_any fun resolved => .bind_any fun value =>
        ih (isFilled_writeKey h (TemplateKey.classify key) expr resolved.value value)

section

variable {fill : Fill} {Q : Value → Prop} (harray : ∀ output, Q output → output.isArray = false)
  (hfill : ∀ scope root output, Q output → GivesOnly Q (fill scope root output))

include harray hfill

theorem fillInto_gives (scope root : Value) (h : Q output) :
    GivesOnly Q (fillInto fill scope root output) := by
  rw [fillInto_of_not_isArray (harray output h)]
  exact hfill scope root output h

theorem fillEach_gives (root : Value) (elements : List Value) (h : Q output) :
    GivesOnly Q (fillEach fill root elements output) := by
  induction elements generalizing output with
  | nil => exact .ok h
  | cons element rest ih =>
    rw [fillEach]
    exact (fillInto_gives harray hfill element root h).bind fun _ => ih

theorem fillLevel_gives (element root : Value) (h : Q output) :
    GivesOnly Q (fillLevel env entries fill element root output) := by
  rw [fillLevel]
  refine .bind_any fun root => ?_
  split
  · exact fillInto_gives harray hfill element root h
  · rename_i expr _
    show GivesOnly Q (if expr = TemplateKey.rootKey then _ else _)
    split
    · exact fillEach_gives harray hfill root (elementsOf root) h
    · exact .bind_any fun scope => fillEach_gives harray hfill root (elementsOf scope) h

/-- What every filling of a level keeps, the whole level keeps. -/
theorem fillLevels_gives (root : Value) (elements : List Value) (h : Q output) :
    GivesOnly Q (fillLevels env entries fill root elements output) := by
  induction elements generalizing output with
  | nil => exact .ok h
  | cons element rest ih =>
    rw [fillLevels]
    exact (fillLevel_gives harray hfill element root h).bind fun _ => ih

end

/-- What is built for an object template is an object as levels leave it. -/
theorem build_isFilled {value : Option Value}
    (h : build env (.object entries) scope root .object = .ok value) :
    ∃ fields, value = some (.object fields) ∧ Fields.IsFilled fields := by
  rw [build_object] at h
  obtain ⟨output, houtput, hvalue⟩ := bind_eq_ok.mp h
  have hfilled : output.IsFilled :=
    fillLevels_gives (fun _ => IsFilled.isArray)
      (fun scope root _ => fillEntries_isFilled entries scope root) root _ isFilled_new
      output houtput
  cases output with
  | object fields =>
    cases hvalue
    exact ⟨fields, rfl, hfilled⟩
  | _ => exact hfilled.elim

end Template

namespace Template

open Value

/-- Entries with new keys are appended. -/
theorem mergeInto_of_isFilled {front fields : Fields}
    (hnodup : ((front ++ fields).map Prod.fst).Nodup)
    (hkept : ∀ field ∈ fields, field.2.isEmptyCollection = false) :
    mergeInto (.object front) fields = .object (front ++ fields) := by
  induction fields generalizing front with
  | nil => simp [mergeInto]
  | cons field rest ih =>
    obtain ⟨key, v⟩ := field
    have hnew : key ∉ front.map Prod.fst := Fields.key_not_mem_front hnodup
    have hwritten : written? (some v) = some v :=
      written?_eq_some_iff.mpr ⟨rfl, hkept (key, v) List.mem_cons_self⟩
    have hassign : (Value.object front).assignKey key (some v) = .object (front ++ [(key, v)]) := by
      rw [assignKey, hwritten]
      simp only [writeAt, Fields.write_of_not_mem v hnew]
    show mergeInto ((Value.object front).assignKey key (some v)) rest = _
    rw [hassign, ih (by simpa using hnodup) fun field hf => hkept field (List.mem_cons_of_mem _ hf),
      List.append_assoc, List.singleton_append]

end Template

variable {env : Environment} {scope : Value} {entries : Fields} {m : String}

/-- A key that merges. -/
def mergeKey (m : String) : String := "!" ++ quote m

theorem classify_mergeKey (m : String) :
    mergeKey m ≠ TemplateKey.pathKey ∧ mergeKey m ≠ TemplateKey.rootKey ∧
      TemplateKey.classify (mergeKey m) = .merge (quote m) := by
  have hhead : (mergeKey m).toList = '!' :: (quote m).toList := by simp [mergeKey]
  have hpath : mergeKey m ≠ TemplateKey.pathKey := by
    intro h
    simp [h, TemplateKey.pathKey] at hhead
  have hroot : mergeKey m ≠ TemplateKey.rootKey := by
    intro h
    simp [h, TemplateKey.rootKey] at hhead
  refine ⟨hpath, hroot, ?_⟩
  rw [TemplateKey.classify, if_neg hpath, if_neg hroot, hhead]
  simp

/-- A template below a key that merges it into the object around it. -/
def wrapped (m : String) (template : Value) : Value := .object [(mergeKey m, template)]

/-- An object template may as well stand below a key that merges it. -/
theorem transform_wrapped (hs : scope.isArray = false) (hm : '\'' ∉ m.toList) (entries : Fields) :
    transform env scope (wrapped m (.object entries)) = transform env scope (.object entries) := by
  obtain ⟨hpath, hroot, hclass⟩ := classify_mergeKey m
  have hu : Unreserved [(mergeKey m, .object entries)] := by
    intro entry hentry
    rw [List.mem_singleton.mp hentry]
    exact ⟨hpath, hroot⟩
  rw [wrapped, transform_of_unreserved hu hs, fillEntries]
  simp only [hclass, TemplateKey.expression?, resolve_quote hm]
  show (build env (.object entries) scope scope .object >>= fun value => fillEntries env [] scope
    scope (writeKey (.merge (quote m)) (quote m) (some (.string m)) value (.object []))) = _
  rw [transform]
  cases hbuild : build env (.object entries) scope scope .object with
  | error e => rfl
  | ok value =>
    obtain ⟨fields, rfl, hfilled⟩ := build_isFilled hbuild
    have hmerge : mergeInto (.object []) fields = .object fields :=
      mergeInto_of_isFilled hfilled.nodup hfilled.kept
    show fillEntries env [] scope scope (mergeInto (.object []) fields) = .ok (.object fields)
    rw [fillEntries, hmerge]

/-- Any number of keys that merge, one below the other, change nothing about the object template at
the end: neither its output, with the order of its keys, nor its error. -/
theorem transform_wrapped_repeatedly (hs : scope.isArray = false) {ms : List String}
    (hms : ∀ m ∈ ms, '\'' ∉ m.toList) (entries : Fields) :
    transform env scope (ms.foldr wrapped (.object entries)) =
      transform env scope (.object entries) := by
  induction ms with
  | nil => rfl
  | cons m rest ih =>
    have hrest := ih fun m' hm' => hms m' (List.mem_cons_of_mem _ hm')
    obtain ⟨inner, hinner⟩ : ∃ inner, rest.foldr wrapped (.object entries) = .object inner := by
      cases rest <;> exact ⟨_, rfl⟩
    rw [List.foldr_cons, hinner, transform_wrapped hs (hms m List.mem_cons_self), ← hinner, hrest]

/-- A level that is filled once for each line, with a dotted key, an array that grows and an object
that is left empty. -/
def sampleLevel : Fields :=
  [("@path", .string "lines"), ("'a.b'", .string "id"), ("'c'", .array [.string "id"]),
    ("!'d'", .object [("'a.e'", .null), ("'f'", .object [])])]

theorem transform_wrapped_sampleLevel :
    transform ⟨⟨0, 0⟩, id⟩
        (.object [("lines", .array [.object [("id", .int 1)], .object [("id", .int 2)]])])
        (["", "|^!"].foldr wrapped (.object sampleLevel)) =
      .ok (.object [("a", .object [("e", .null)]), ("c", .array [.int 1, .int 2])]) :=
  (transform_wrapped_repeatedly rfl (by decide) sampleLevel).trans (by cbv)

end Reshape
