import Reshape.Proofs.Levels
import Reshape.Proofs.Writing

/-! A document written as a template of quoted texts has itself as its output, but for the empty
arrays and objects inside it. -/
namespace Reshape

namespace Value

mutual

/-- The template that spells a document, with its keys and texts in quotes. -/
def quoted : Value → Value
  | .string s => .string (quote s)
  | .array items => .array (quotedItems items)
  | .object fields => .object (quotedFields fields)
  | v => v

def quotedItems : List Value → List Value
  | [] => []
  | v :: rest => v.quoted :: quotedItems rest

def quotedFields : List (String × Value) → List (String × Value)
  | [] => []
  | (key, v) :: rest => (quote key, v.quoted) :: quotedFields rest

end

mutual

/-- The document without the empty collections inside it, and without those that are left empty by
that. -/
def pruned : Value → Value
  | .array items => .array (prunedItems items)
  | .object fields => .object (prunedFields fields)
  | v => v

def prunedItems : List Value → List Value
  | [] => []
  | v :: rest =>
    if v.pruned.isEmptyCollection then prunedItems rest else v.pruned :: prunedItems rest

def prunedFields : List (String × Value) → List (String × Value)
  | [] => []
  | (key, v) :: rest =>
    if v.pruned.isEmptyCollection then prunedFields rest
    else (key, v.pruned) :: prunedFields rest

end

mutual

/-- Quotes stand in no key and no text of the document, and dots in no key. -/
def IsQuotable : Value → Prop
  | .string s => '\'' ∉ s.toList
  | .array items => itemsAreQuotable items
  | .object fields => fieldsAreQuotable fields
  | _ => True

def itemsAreQuotable : List Value → Prop
  | [] => True
  | v :: rest => v.IsQuotable ∧ itemsAreQuotable rest

def fieldsAreQuotable : List (String × Value) → Prop
  | [] => True
  | (key, v) :: rest =>
    ('\'' ∉ key.toList ∧ '.' ∉ key.toList) ∧ v.IsQuotable ∧ fieldsAreQuotable rest

end

end Value

namespace Template

open Value

variable {env : Environment} {scope root : Value}

theorem classify_quote (key : String) :
    quote key ≠ TemplateKey.pathKey ∧ quote key ≠ TemplateKey.rootKey ∧
      TemplateKey.classify (quote key) = .plain (quote key) := by
  apply classify_of_head
  simp [quote]

theorem unreserved_quotedFields (fields : Fields) : Unreserved (quotedFields fields) := by
  induction fields with
  | nil => simp [Unreserved, quotedFields]
  | cons field rest ih =>
    obtain ⟨key, v⟩ := field
    intro entry hentry
    rcases List.mem_cons.mp hentry with rfl | hentry
    · exact ⟨(classify_quote key).1, (classify_quote key).2.1⟩
    · exact ih entry hentry

/-- What is written for an entry whose key is new. -/
theorem assign_pruned {key : String} (hk : '.' ∉ key.toList) {written : Fields}
    (hnew : key ∉ written.map Prod.fst) (v : Value) (rest : Fields) :
    ∃ written', (Value.object written).assign (some v.pruned) key = .object written' ∧
      written' ++ prunedFields rest = written ++ prunedFields ((key, v) :: rest) ∧
      ∀ k ∈ written'.map Prod.fst, k ∈ written.map Prod.fst ∨ k = key := by
  cases hempty : v.pruned.isEmptyCollection with
  | true =>
    have hw : written? (some v.pruned) = none := by simp [written?, hempty]
    refine ⟨written, assign_of_written_none hw _ _, ?_, fun k hk => Or.inl hk⟩
    simp [prunedFields, hempty]
  | false =>
    have hw : written? (some v.pruned) = some v.pruned := by simp [written?, hempty]
    refine ⟨written ++ [(key, v.pruned)], ?_, ?_, ?_⟩
    · rw [assign_of_not_mem hk hw, Fields.write_of_not_mem _ hnew]
    · simp [prunedFields, hempty]
    · simp

/-- What is appended for an item. -/
theorem appendItem_pruned (written : List Value) (v : Value) (rest : List Value) :
    ∃ written', appendItem (some v.pruned) (.array written) = .array written' ∧
      written' ++ prunedItems rest = written ++ prunedItems (v :: rest) := by
  cases hempty : v.pruned.isEmptyCollection with
  | true =>
    have hw : written? (some v.pruned) = none := by simp [written?, hempty]
    exact ⟨written, by simp [appendItem, hw], by simp [prunedItems, hempty]⟩
  | false =>
    have hw : written? (some v.pruned) = some v.pruned := by simp [written?, hempty]
    exact ⟨written ++ [v.pruned], by simp [appendItem, hw], by simp [prunedItems, hempty]⟩

mutual

theorem build_quoted (hs : scope.isArray = false) : (v : Value) → v.HasUniqueKeys →
    v.IsQuotable → build env v.quoted scope root .object = .ok (some v.pruned)
  | .null, _, _ => by rw [quoted, build, pruned] <;> simp
  | .bool b, _, _ => by rw [quoted, build, pruned] <;> simp
  | .int n, _, _ => by rw [quoted, build, pruned] <;> simp
  | .float x, _, _ => by rw [quoted, build, pruned] <;> simp
  | .string s, _, hq => by
    rw [IsQuotable] at hq
    rw [quoted, build, evaluateIn, resolve_quote hq]
    rfl
  | .array items, hu, hq => by
    rw [HasUniqueKeys] at hu
    rw [IsQuotable] at hq
    have hitems := fillItems_quoted hs items [] hu hq
    rw [quoted, build, elementsOf_of_not_isArray hs, forElements_singleton, emptyOutput, hitems,
      pruned]
    rfl
  | .object fields, hu, hq => by
    rw [HasUniqueKeys] at hu
    rw [IsQuotable] at hq
    have hfields := fillEntries_quoted hs fields [] hu.1 (by simp) hu.2 hq
    rw [quoted, build_of_unreserved (unreserved_quotedFields fields), elementsOf_of_not_isArray hs,
      fillEach_singleton, emptyOutput, fillInto, hfields, pruned]
    · rfl
    · simp
    · simp

theorem fillItems_quoted (hs : scope.isArray = false) : (items written : List Value) →
    itemsHaveUniqueKeys items → itemsAreQuotable items →
    fillItems env (quotedItems items) scope root (.array written) =
      .ok (.array (written ++ prunedItems items))
  | [], written, _, _ => by simp [quotedItems, prunedItems, fillItems]
  | v :: rest, written, hu, hq => by
    rw [itemsHaveUniqueKeys] at hu
    rw [itemsAreQuotable] at hq
    obtain ⟨written', happend, heq⟩ := appendItem_pruned written v rest
    have hrest := fillItems_quoted hs rest written' hu.2 hq.2
    rw [quotedItems, fillItems, build_quoted hs v hu.1 hq.1]
    show fillItems env (quotedItems rest) scope root
      (appendItem (some v.pruned) (.array written)) = _
    rw [happend, hrest, heq]

/-- What is written so far stays in front, and its keys are none of those to come. -/
theorem fillEntries_quoted (hs : scope.isArray = false) : (fields written : Fields) →
    (fields.map Prod.fst).Nodup → (∀ key ∈ fields.map Prod.fst, key ∉ written.map Prod.fst) →
    fieldsHaveUniqueKeys fields → fieldsAreQuotable fields →
    fillEntries env (quotedFields fields) scope root (.object written) =
      .ok (.object (written ++ prunedFields fields))
  | [], written, _, _, _, _ => by simp [quotedFields, prunedFields, fillEntries]
  | (key, v) :: rest, written, hn, hnew, hu, hq => by
    rw [fieldsHaveUniqueKeys] at hu
    rw [fieldsAreQuotable] at hq
    simp only [List.map_cons, List.nodup_cons] at hn
    obtain ⟨written', hassign, happend, hkeys⟩ :=
      assign_pruned hq.1.2 (hnew key (by simp)) v rest
    have hnew' : ∀ k ∈ rest.map Prod.fst, k ∉ written'.map Prod.fst := by
      intro k hk hmem
      rcases hkeys k hmem with hold | rfl
      · exact hnew k (List.mem_cons_of_mem _ hk) hold
      · exact hn.1 hk
    have hrest := fillEntries_quoted hs rest written' hn.2 hnew' hu.2 hq.2.2
    rw [quotedFields, fillEntries]
    simp only [(classify_quote key).2.2, TemplateKey.expression?, resolve_quote hq.1.1]
    show (build env v.quoted scope root .object >>= fun value => fillEntries env
      (quotedFields rest) scope root ((Value.object written).assign value key)) = _
    rw [build_quoted hs v hu.1 hq.2.1, ← happend, ← hrest, ← hassign]
    rfl

end

end Template

/-- A quoted document comes out as it stands, whatever single value it is applied to: only its
inner empty collections are missing. -/
theorem transform_quoted (env : Environment) {scope doc : Value} (hs : scope.isArray = false)
    (hu : doc.HasUniqueKeys) (hq : doc.IsQuotable) :
    transform env scope doc.quoted = .ok doc.pruned := by
  rw [transform, Template.build_quoted hs doc hu hq]
  rfl

/-- Texts that would mean something outside of quotes, and an object that is left empty by what it
held. -/
def sampleDocument : Value :=
  .object [("^a | b", .array [.object [("c(", .array [])], .string "\x7b\x7bd", .null]),
    ("@path", .object [("e", .object [])]), ("f", .int 7)]

theorem transform_sampleDocument :
    transform ⟨⟨0, 0⟩, id⟩ (.string "g") sampleDocument.quoted =
      .ok (.object [("^a | b", .array [.string "\x7b\x7bd", .null]), ("f", .int 7)]) :=
  transform_quoted ⟨⟨0, 0⟩, id⟩ rfl
    (by simp [sampleDocument, Value.HasUniqueKeys, Value.itemsHaveUniqueKeys,
      Value.fieldsHaveUniqueKeys])
    (by simp [sampleDocument, Value.IsQuotable, Value.itemsAreQuotable, Value.fieldsAreQuotable])

end Reshape
