import Reshape.Expression.Resolve
import Reshape.Proofs.EntryUpdate
import Reshape.Proofs.JsonTexts

/-! A value without floats is read back from its JSON text as it was, with the order of its keys,
whether the text stands on one line or is indented. -/
namespace Reshape

/-- The layout adds nothing to a text but white space. -/
structure Layout.IsBlank (layout : Layout) : Prop where
  lineBreak : ∀ level, ∀ c ∈ layout.lineBreak level, Json.isSpace c = true
  colon : ∃ blanks, layout.colon = ':' :: blanks ∧ ∀ c ∈ blanks, Json.isSpace c = true

theorem Layout.isBlank_compact : Layout.compact.IsBlank := ⟨by simp [compact], [], rfl, by simp⟩

theorem Layout.isBlank_pretty : Layout.pretty.IsBlank := by
  refine ⟨fun level c hc => ?_, [' '], rfl, by simp [Json.isSpace]⟩
  rcases List.mem_cons.mp hc with rfl | hspaces
  · rfl
  · rw [List.eq_of_mem_replicate hspaces]
    rfl

namespace Value

mutual

/-- Every number inside the value is an integer. -/
def FloatFree : Value → Prop
  | .float _ => False
  | .array items => itemsAreFloatFree items
  | .object fields => fieldsAreFloatFree fields
  | _ => True

def itemsAreFloatFree : List Value → Prop
  | [] => True
  | v :: rest => v.FloatFree ∧ itemsAreFloatFree rest

def fieldsAreFloatFree : List (String × Value) → Prop
  | [] => True
  | (_, v) :: rest => v.FloatFree ∧ fieldsAreFloatFree rest

end

mutual

/-- How many arrays and objects stand inside each other. -/
def nesting : Value → Nat
  | .array items => nestingOfItems items + 1
  | .object fields => nestingOfFields fields + 1
  | _ => 0

def nestingOfItems : List Value → Nat
  | [] => 0
  | v :: rest => max v.nesting (nestingOfItems rest)

def nestingOfFields : List (String × Value) → Nat
  | [] => 0
  | (_, v) :: rest => max v.nesting (nestingOfFields rest)

end

end Value

theorem Fields.foldl_insert_of_nodup {front fields : Fields}
    (h : ((front ++ fields).map Prod.fst).Nodup) :
    fields.foldl (fun fields entry => Fields.insert entry.1 entry.2 fields) front =
      front ++ fields := by
  induction fields generalizing front with
  | nil => simp
  | cons field rest ih =>
    rw [List.foldl_cons, insert_of_not_mem field.2 (key_not_mem_front h), ih (by simpa using h),
      List.append_assoc, List.singleton_append]

/-- Entries of which no two have the same key stay as they are. -/
theorem Fields.ofList_of_nodup {fields : Fields} (h : (fields.map Prod.fst).Nodup) :
    Fields.ofList fields = fields := foldl_insert_of_nodup h

namespace Json

open Value

variable {layout : Layout} {depth fuel level : Nat} {blanks closing text more rest : List Char}
  {v : Value} {items : List Value} {fields : Fields} {key : String}

theorem value?_skip (h : ∀ c ∈ blanks, isSpace c = true) (text : List Char) :
    value? depth (blanks ++ text) fuel = value? depth text fuel := by
  cases fuel with
  | zero => rfl
  | succ fuel => rw [value?, value?, skipSpace_append h]

theorem items?_skip (h : ∀ c ∈ blanks, isSpace c = true) (text : List Char) :
    items? depth (blanks ++ text) fuel = items? depth text fuel := by
  cases fuel with
  | zero => rfl
  | succ fuel => rw [items?, items?, value?_skip h]

theorem entries?_skip (h : ∀ c ∈ blanks, isSpace c = true) (text : List Char) :
    entries? depth (blanks ++ text) fuel = entries? depth text fuel := by
  cases fuel with
  | zero => rfl
  | succ fuel => rw [entries?, entries?, skipSpace_append h]

/-- What begins a number begins nothing else. -/
theorem value?_number {c : Char} (h : BeginsNumber c) (text : List Char) :
    value? depth (c :: text) (fuel + 1) = number? (c :: text) := by
  have hother : ∀ (d : Char) (other : List Char), ¬BeginsNumber d → c :: text ≠ d :: other := by
    rintro d other hd ⟨⟩
    exact hd h
  rw [value?, skipSpace_cons h.isSpace]
  split
  case h_7 => rfl
  all_goals
    rename_i heq
    exact (hother _ _ (by decide) heq).elim

theorem quote_append (s rest : List Char) :
    quote s ++ rest = '"' :: (s.flatMap escape ++ '"' :: rest) := by
  simp [quote]

theorem value?_quote (s : String) (rest : List Char) :
    value? depth (quote s.toList ++ rest) (fuel + 1) = some (.string s, rest) := by
  rw [quote_append, value?, skipSpace_cons rfl]
  show (string? (s.toList.flatMap escape ++ '"' :: rest)).map _ = _
  rw [string?_escaped]
  simp [ofText]

theorem value?_noItems (hdepth : depth ≠ 0) (rest : List Char) :
    value? depth ('[' :: ']' :: rest) (fuel + 1) = some (.array [], rest) := by
  rw [value?, skipSpace_cons rfl]
  simp only [if_neg hdepth, skipSpace_cons (show isSpace ']' = false from rfl)]

theorem value?_noEntries (hdepth : depth ≠ 0) (rest : List Char) :
    value? depth ('{' :: '}' :: rest) (fuel + 1) = some (.object [], rest) := by
  rw [value?, skipSpace_cons rfl]
  simp only [if_neg hdepth, skipSpace_cons (show isSpace '}' = false from rfl)]

/-- An array that has items is read from its first item on. -/
theorem value?_items (hdepth : depth ≠ 0) (h : ∀ c ∈ blanks, isSpace c = true) {c : Char}
    (hc : isSpace c = false) (hclose : c ≠ ']') (text : List Char) :
    value? depth ('[' :: (blanks ++ c :: text)) (fuel + 1) =
      (items? (depth - 1) (c :: text) fuel).map fun (items, rest) => (.array items, rest) := by
  rw [value?, skipSpace_cons rfl]
  simp only [if_neg hdepth, skipSpace_append_cons h hc]
  split
  · rename_i heq
    exact (hclose (List.cons.inj heq).1).elim
  · rfl

/-- An object that has entries is read from its first key on. -/
theorem value?_entries (hdepth : depth ≠ 0) (h : ∀ c ∈ blanks, isSpace c = true)
    (text : List Char) :
    value? depth ('{' :: (blanks ++ '"' :: text)) (fuel + 1) =
      (entries? (depth - 1) ('"' :: text) fuel).map fun (entries, rest) =>
        (.object (Fields.ofList entries), rest) := by
  rw [value?, skipSpace_cons rfl]
  simp only [if_neg hdepth, skipSpace_append_cons h (show isSpace '"' = false from rfl)]
  rfl

theorem items?_last (h : ∀ c ∈ closing, isSpace c = true)
    (hv : value? depth text fuel = some (v, closing ++ ']' :: rest)) :
    items? depth text (fuel + 1) = some ([v], rest) := by
  have hclose : skipSpace (closing ++ ']' :: rest) = ']' :: rest := skipSpace_append_cons h rfl _
  simp only [items?, hv, Option.bind_eq_bind, Option.bind_some, hclose]

theorem items?_more (h : ∀ c ∈ blanks, isSpace c = true)
    (hv : value? depth text fuel = some (v, ',' :: (blanks ++ more)))
    (hmore : items? depth more fuel = some (items, rest)) :
    items? depth text (fuel + 1) = some (v :: items, rest) := by
  have hcomma : skipSpace (',' :: (blanks ++ more)) = ',' :: (blanks ++ more) :=
    skipSpace_cons rfl _
  simp only [items?, hv, Option.bind_eq_bind, Option.bind_some, hcomma, items?_skip h, hmore]

/-- An entry is read as its key, the colon, and its value. -/
theorem entries?_last (h : ∀ c ∈ blanks, isSpace c = true)
    (hclosing : ∀ c ∈ closing, isSpace c = true)
    (hv : value? depth text fuel = some (v, closing ++ '}' :: rest)) :
    entries? depth (quote key.toList ++ ':' :: (blanks ++ text)) (fuel + 1) =
      some ([(key, v)], rest) := by
  have hcolon : skipSpace (':' :: (blanks ++ text)) = ':' :: (blanks ++ text) :=
    skipSpace_cons rfl _
  have hclose : skipSpace (closing ++ '}' :: rest) = '}' :: rest :=
    skipSpace_append_cons hclosing rfl _
  rw [quote_append, entries?, skipSpace_cons rfl]
  simp only [string?_escaped, Option.bind_eq_bind, Option.bind_some, hcolon, value?_skip h, hv,
    hclose, String.ofList_toList]

theorem entries?_more (h : ∀ c ∈ blanks, isSpace c = true) (hgap : ∀ c ∈ closing, isSpace c = true)
    (hv : value? depth text fuel = some (v, ',' :: (closing ++ more)))
    (hmore : entries? depth more fuel = some (fields, rest)) :
    entries? depth (quote key.toList ++ ':' :: (blanks ++ text)) (fuel + 1) =
      some ((key, v) :: fields, rest) := by
  have hcolon : skipSpace (':' :: (blanks ++ text)) = ':' :: (blanks ++ text) :=
    skipSpace_cons rfl _
  have hcomma : skipSpace (',' :: (closing ++ more)) = ',' :: (closing ++ more) :=
    skipSpace_cons rfl _
  rw [quote_append, entries?, skipSpace_cons rfl]
  simp only [string?_escaped, Option.bind_eq_bind, Option.bind_some, hcolon, value?_skip h, hv,
    hcomma, entries?_skip hgap, hmore, String.ofList_toList]

/-- The entries between two brackets, set apart by commas. -/
def joined (layout : Layout) (level : Nat) (parts : List (List Char)) : List Char :=
  (',' :: layout.lineBreak level).intercalate parts

theorem joined_singleton (part : List Char) : joined layout level [part] = part :=
  List.intercalate_singleton

theorem joined_cons_cons (part next : List Char) (parts : List (List Char)) :
    joined layout level (part :: next :: parts) =
      part ++ ',' :: (layout.lineBreak level ++ joined layout level (next :: parts)) := by
  simp [joined, List.intercalate_cons_cons]

theorem enclose_of_ne_nil {parts : List (List Char)} (h : parts ≠ []) (opening close : Char) :
    enclose layout level opening close parts =
      opening :: (layout.lineBreak (level + 1) ++ (joined layout (level + 1) parts ++
        (layout.lineBreak level ++ [close]))) := by
  simp [enclose, h, joined]

/-- A printed value begins with a character that ends nothing. -/
theorem print_eq_cons (hf : v.FloatFree) (layout : Layout) (level : Nat) :
    ∃ c text, print layout level v = c :: text ∧ isSpace c = false ∧ c ≠ ']' := by
  have henclose : ∀ (opening close : Char) (parts : List (List Char)),
      ∃ text, enclose layout level opening close parts = opening :: text := by
    intro opening close parts
    unfold enclose
    split <;> exact ⟨_, rfl⟩
  cases v with
  | null => exact ⟨'n', _, rfl, rfl, by decide⟩
  | bool b => cases b <;> exact ⟨_, _, rfl, rfl, by decide⟩
  | int n =>
    obtain ⟨c, text, htext, hc⟩ := intText_eq_cons n.toInt
    refine ⟨c, text, htext, hc.isSpace, ?_⟩
    rintro rfl
    exact absurd hc (by decide)
  | float x => exact hf.elim
  | string s => exact ⟨'"', _, rfl, rfl, by decide⟩
  | array items =>
    obtain ⟨text, htext⟩ := henclose '[' ']' (printItems layout (level + 1) items)
    exact ⟨'[', text, by rw [print, htext], rfl, by decide⟩
  | object fields =>
    obtain ⟨text, htext⟩ := henclose '{' '}' (printFields layout (level + 1) fields)
    exact ⟨'{', text, by rw [print, htext], rfl, by decide⟩

theorem endsNumber_of_mark {c : Char} (hc : c = ',' ∨ c = ']' ∨ c = '}') (text : List Char) :
    EndsNumber (c :: text) := by
  rintro d ⟨⟩
  rcases hc with rfl | rfl | rfl <;> decide

theorem joined_printItems_eq_cons (hf : v.FloatFree) (items : List Value) (layout : Layout)
    (level : Nat) :
    ∃ c text, joined layout level (printItems layout level (v :: items)) = c :: text ∧
      isSpace c = false ∧ c ≠ ']' := by
  obtain ⟨c, text, htext, hc⟩ := print_eq_cons hf layout level
  cases items with
  | nil => exact ⟨c, text, by rw [printItems, printItems, joined_singleton, htext], hc⟩
  | cons next items =>
    exact ⟨c, _, by rw [printItems, printItems, joined_cons_cons, htext, List.cons_append], hc⟩

theorem joined_printFields_eq_cons (key : String) (v : Value) (fields : Fields) (layout : Layout)
    (level : Nat) :
    ∃ text, joined layout level (printFields layout level ((key, v) :: fields)) = '"' :: text := by
  cases fields with
  | nil =>
    exact ⟨_, by rw [printFields, printFields, joined_singleton, List.append_assoc, quote_append]⟩
  | cons next fields =>
    exact ⟨_, by rw [printFields, printFields, joined_cons_cons, List.append_assoc,
      List.append_assoc, quote_append]⟩

mutual

/-- A printed value is read back with what stands behind it. Each array and object takes two steps
of the reader and at least two characters, the brackets. -/
theorem value?_print (hl : layout.IsBlank) : (v : Value) → v.HasUniqueKeys → v.FloatFree →
    (level depth fuel : Nat) → (rest : List Char) → v.nesting ≤ depth →
    2 * (print layout level v).length ≤ fuel → EndsNumber rest →
    value? depth (print layout level v ++ rest) fuel = some (v, rest)
  | v, hu, hf, level, depth, 0, rest, _, hfuel, _ => by
    obtain ⟨c, text, htext, -⟩ := print_eq_cons hf layout level
    simp [htext] at hfuel
  | .null, _, _, _, _, fuel + 1, _, _, _, _ => rfl
  | .bool true, _, _, _, _, fuel + 1, _, _, _, _ => rfl
  | .bool false, _, _, _, _, fuel + 1, _, _, _, _ => rfl
  | .int n, _, _, level, depth, fuel + 1, rest, _, _, hrest => by
    obtain ⟨c, text, htext, hc⟩ := intText_eq_cons n.toInt
    have hnumber := number?_intText n hrest
    rw [htext] at hnumber
    rw [print, htext, List.cons_append, value?_number hc]
    exact hnumber
  | .float x, _, hf, _, _, _ + 1, _, _, _, _ => hf.elim
  | .string s, _, _, level, depth, fuel + 1, rest, _, _, _ => by rw [print, value?_quote]
  | .array [], _, _, level, depth, fuel + 1, rest, hdepth, _, _ => by
    rw [nesting] at hdepth
    rw [print, printItems]
    exact value?_noItems (by omega) rest
  | .array (item :: items), hu, hf, level, depth, fuel + 1, rest, hdepth, hfuel, _ => by
    rw [HasUniqueKeys] at hu
    rw [FloatFree] at hf
    rw [nesting] at hdepth
    have hne : depth ≠ 0 := by omega
    have hparts : printItems layout (level + 1) (item :: items) ≠ [] := by simp [printItems]
    rw [print, enclose_of_ne_nil hparts] at hfuel ⊢
    simp only [List.length_cons, List.length_append] at hfuel
    have hitems := items?_print hl (item :: items) (by simp) hu hf (level + 1) (depth - 1) fuel
      (layout.lineBreak level) rest (hl.lineBreak level) (by omega) (by omega)
    obtain ⟨c, text, htext, hc, hclose⟩ := joined_printItems_eq_cons hf.1 items layout (level + 1)
    rw [htext] at hitems ⊢
    calc
      _ = value? depth ('[' :: (layout.lineBreak (level + 1) ++
            c :: (text ++ (layout.lineBreak level ++ ']' :: rest)))) (fuel + 1) := by simp
      _ = _ := value?_items hne (hl.lineBreak _) hc hclose _
      _ = _ := by
        rw [← List.cons_append, hitems]
        rfl
  | .object [], _, _, level, depth, fuel + 1, rest, hdepth, _, _ => by
    rw [nesting] at hdepth
    rw [print, printFields]
    exact value?_noEntries (by omega) rest
  | .object ((key, v) :: fields), hu, hf, level, depth, fuel + 1, rest, hdepth, hfuel, _ => by
    rw [HasUniqueKeys] at hu
    rw [FloatFree] at hf
    rw [nesting] at hdepth
    have hne : depth ≠ 0 := by omega
    have hparts : printFields layout (level + 1) ((key, v) :: fields) ≠ [] := by
      simp [printFields]
    rw [print, enclose_of_ne_nil hparts] at hfuel ⊢
    simp only [List.length_cons, List.length_append] at hfuel
    have hfields := entries?_print hl ((key, v) :: fields) (by simp) hu.2 hf (level + 1) (depth - 1)
      fuel (layout.lineBreak level) rest (hl.lineBreak level) (by omega) (by omega)
    obtain ⟨text, htext⟩ := joined_printFields_eq_cons key v fields layout (level + 1)
    rw [htext] at hfields ⊢
    calc
      _ = value? depth ('{' :: (layout.lineBreak (level + 1) ++
            '"' :: (text ++ (layout.lineBreak level ++ '}' :: rest)))) (fuel + 1) := by simp
      _ = _ := value?_entries hne (hl.lineBreak _) _
      _ = _ := by
        rw [← List.cons_append, hfields]
        simp only [Option.map_some, Fields.ofList_of_nodup hu.1]

theorem items?_print (hl : layout.IsBlank) : (items : List Value) → items ≠ [] →
    itemsHaveUniqueKeys items → itemsAreFloatFree items →
    (level depth fuel : Nat) → (closing rest : List Char) → (∀ c ∈ closing, isSpace c = true) →
    nestingOfItems items ≤ depth →
    2 * (joined layout level (printItems layout level items)).length + 1 ≤ fuel →
    items? depth (joined layout level (printItems layout level items) ++ (closing ++ ']' :: rest))
      fuel = some (items, rest)
  | [], hne, _, _, _, _, _, _, _, _, _, _ => (hne rfl).elim
  | _ :: _, _, _, _, _, _, 0, _, _, _, _, hfuel => by simp at hfuel
  | [v], _, hu, hf, level, depth, fuel + 1, closing, rest, hclosing, hdepth, hfuel => by
    rw [nestingOfItems] at hdepth
    rw [printItems, printItems, joined_singleton] at hfuel ⊢
    have hv := value?_print hl v hu.1 hf.1 level depth fuel (closing ++ ']' :: rest) (by omega)
      (by omega) (endsNumber_append hclosing (endsNumber_of_mark (by decide) rest))
    exact items?_last hclosing hv
  | v :: next :: items, _, hu, hf, level, depth, fuel + 1, closing, rest, hclosing, hdepth,
      hfuel => by
    rw [nestingOfItems] at hdepth
    rw [printItems, printItems, joined_cons_cons, ← printItems] at hfuel ⊢
    simp only [List.length_cons, List.length_append] at hfuel
    have hmore := items?_print hl (next :: items) (by simp) hu.2 hf.2 level depth fuel closing rest
      hclosing (by omega) (by omega)
    have hv := value?_print hl v hu.1 hf.1 level depth fuel
      (',' :: (layout.lineBreak level ++
        (joined layout level (printItems layout level (next :: items)) ++
          (closing ++ ']' :: rest)))) (by omega) (by omega)
      (endsNumber_of_mark (by decide) _)
    rw [List.append_assoc, List.cons_append, List.append_assoc]
    exact items?_more (hl.lineBreak level) hv hmore

theorem entries?_print (hl : layout.IsBlank) : (fields : List (String × Value)) → fields ≠ [] →
    fieldsHaveUniqueKeys fields → fieldsAreFloatFree fields →
    (level depth fuel : Nat) → (closing rest : List Char) → (∀ c ∈ closing, isSpace c = true) →
    nestingOfFields fields ≤ depth →
    2 * (joined layout level (printFields layout level fields)).length + 1 ≤ fuel →
    entries? depth
      (joined layout level (printFields layout level fields) ++ (closing ++ '}' :: rest)) fuel =
        some (fields, rest)
  | [], hne, _, _, _, _, _, _, _, _, _, _ => (hne rfl).elim
  | _ :: _, _, _, _, _, _, 0, _, _, _, _, hfuel => by simp at hfuel
  | [(key, v)], _, hu, hf, level, depth, fuel + 1, closing, rest, hclosing, hdepth, hfuel => by
    obtain ⟨blanks, hcolon, hblanks⟩ := hl.colon
    rw [nestingOfFields] at hdepth
    rw [printFields, printFields, joined_singleton, hcolon] at hfuel ⊢
    simp only [List.length_cons, List.length_append] at hfuel
    have hv := value?_print hl v hu.1 hf.1 level depth fuel (closing ++ '}' :: rest) (by omega)
      (by omega) (endsNumber_append hclosing (endsNumber_of_mark (by decide) rest))
    simp only [List.append_assoc, List.cons_append]
    exact entries?_last hblanks hclosing hv
  | (key, v) :: (nextKey, next) :: fields, _, hu, hf, level, depth, fuel + 1, closing, rest,
      hclosing, hdepth, hfuel => by
    obtain ⟨blanks, hcolon, hblanks⟩ := hl.colon
    rw [nestingOfFields] at hdepth
    rw [printFields, printFields, joined_cons_cons, ← printFields, hcolon] at hfuel ⊢
    simp only [List.length_cons, List.length_append] at hfuel
    have hmore := entries?_print hl ((nextKey, next) :: fields) (by simp) hu.2 hf.2 level depth fuel
      closing rest hclosing (by omega) (by omega)
    have hv := value?_print hl v hu.1 hf.1 level depth fuel
      (',' :: (layout.lineBreak level ++ (joined layout level
        (printFields layout level ((nextKey, next) :: fields)) ++ (closing ++ '}' :: rest))))
      (by omega) (by omega) (endsNumber_of_mark (by decide) _)
    simp only [List.append_assoc, List.cons_append]
    exact entries?_more hblanks (hl.lineBreak level) hv hmore

end

/-- Whatever the layout is, a whole text gives its value back. -/
theorem parse?_print (hl : layout.IsBlank) (hu : v.HasUniqueKeys) (hf : v.FloatFree)
    (hn : v.nesting ≤ maxDepth) : parse? (print layout 0 v) = some v := by
  have hv := value?_print hl v hu hf 0 maxDepth (2 * (print layout 0 v).length + 2) [] hn (by omega)
    endsNumber_nil
  rw [List.append_nil] at hv
  rw [parse?, parseWithin?, hv]
  rfl

end Json

/-- The JSON text of a value, on one line or indented, is read back by the filter as the same value:
every integer as an integer, every text with all its characters, and all entries in their order. -/
theorem applyFilter_json_of_text (env : Environment) {v : Value} (hu : v.HasUniqueKeys)
    (hf : v.FloatFree) (hn : v.nesting ≤ 127) (scope root : Value) :
    applyFilter env "json" [] scope root (some (.string v.toJson)) = .ok (some v) ∧
      applyFilter env "json" [] scope root (some (.string v.toPrettyJson)) = .ok (some v) := by
  have hfilter : ∀ s : String, applyFilter env "json" [] scope root (some (.string s)) =
      .ok (Json.parse? s.toList) := fun s => rfl
  rw [hfilter, hfilter, Value.toJson, Value.toPrettyJson, String.toList_ofList,
    String.toList_ofList, Json.parse?_print Layout.isBlank_compact hu hf hn,
    Json.parse?_print Layout.isBlank_pretty hu hf hn]
  exact ⟨rfl, rfl⟩

/-- The least integer, characters that are escaped, keys out of their alphabetical order, and empty
collections. -/
def sampleValue : Value :=
  .object [("b\\", .array [.int (-9223372036854775808), .string "\"\n\x01\u03b1/", .array []]),
    ("", .object [("z", .null), ("a", .bool false), ("e", .object [])])]

theorem applyFilter_json_sampleValue :
    sampleValue.HasUniqueKeys ∧ sampleValue.FloatFree ∧ sampleValue.nesting ≤ 127 ∧
      (applyFilter ⟨⟨0, 0⟩, id⟩ "json" [] .null .null (some (.string sampleValue.toJson)) =
          .ok (some sampleValue) ∧
        applyFilter ⟨⟨0, 0⟩, id⟩ "json" [] .null .null (some (.string sampleValue.toPrettyJson)) =
          .ok (some sampleValue)) := by
  have hu : sampleValue.HasUniqueKeys := by
    simp [sampleValue, Value.HasUniqueKeys, Value.itemsHaveUniqueKeys, Value.fieldsHaveUniqueKeys]
  have hf : sampleValue.FloatFree := by
    simp [sampleValue, Value.FloatFree, Value.itemsAreFloatFree, Value.fieldsAreFloatFree]
  have hn : sampleValue.nesting ≤ 127 := by decide
  exact ⟨hu, hf, hn, applyFilter_json_of_text ⟨⟨0, 0⟩, id⟩ hu hf hn .null .null⟩

end Reshape
