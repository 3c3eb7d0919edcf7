import Reshape.Proofs.RootFree
import Reshape.Proofs.Writing

/-! Keys with a suffix: brackets collect one object for each element of their value, and braces do
what a reserved path does. -/
namespace Reshape

open Template

variable {env : Environment} {scope root child : Value} {entries : Fields}
  {name inner key : String}

/-- Where a key of one name leads: to the value under the name, or to the name itself. -/
def destination (scope : Value) (name : String) : Value :=
  (scope.atPath name).getD (.string name)

theorem lookup_key (scope : Value) (name : String) :
    Resolution.lookup scope .key name = some (destination scope name) := by
  unfold Resolution.lookup
  split <;> simp_all [destination]

theorem transform_of_unreserved (hu : Unreserved entries) (hs : scope.isArray = false) :
    transform env scope (.object entries) = fillEntries env entries scope scope (.object []) := by
  rw [transform, build_of_unreserved hu, elementsOf_of_not_isArray hs, fillEach_singleton]
  show Except.map _ (Except.map some (fillEntries env entries scope scope (.object []))) = _
  cases fillEntries env entries scope scope (.object []) <;> rfl

/-- A template of one plain key is what is built below the key, written where the key leads. -/
theorem transform_singleton {shape : Shape} {target : Value} {child? : Option Value}
    (hs : scope.isArray = false) (hkey : ∀ c ∈ key.toList.head?, c ≠ '!' ∧ c ≠ '@')
    (hr : resolve env key scope scope .key = .ok ⟨shape, some target, child?⟩)
    (template : Value) :
    transform env scope (.object [(key, template)]) =
      (build env template (child?.getD scope) scope shape).map
        fun value => (Value.object []).assign value target.text := by
  obtain ⟨hpath, hroot, hclass⟩ := classify_of_head hkey
  have hu : Unreserved [(key, template)] := by
    intro entry hentry
    rw [List.mem_singleton.mp hentry]
    exact ⟨hpath, hroot⟩
  rw [transform_of_unreserved hu hs, fillEntries]
  simp only [hclass, TemplateKey.expression?, hr]
  show (build env template (child?.getD scope) scope shape >>= fun value =>
    fillEntries env [] scope scope ((Value.object []).assign value target.text)) = _
  cases build env template (child?.getD scope) scope shape with
  | error e => rfl
  | ok value =>
    show fillEntries env [] scope scope _ = _
    rw [fillEntries]
    rfl

theorem IsKeyName.head_append (h : IsKeyName name) (rest : List Char) :
    (name.toList ++ rest).head? = name.toList.head? := by
  have hne : name.toList ≠ [] := by simpa using h.nonempty
  exact List.head?_append_of_ne_nil _ hne

theorem transform_named (hs : scope.isArray = false) (hn : IsKeyName name) (template : Value) :
    transform env scope (.object [(name, template)]) =
      (build env template scope scope .object).map
        fun value => (Value.object []).assign value (destination scope name).text := by
  have hr : resolve env name scope scope .key =
      .ok ⟨.object, some (destination scope name), none⟩ := by
    rw [← lookup_key]
    exact resolve_path hn.isPath
  exact transform_singleton hs (fun c hc => (hn.unmarked c hc).2) hr template

/-- A suffix moves what stands below its key to another scope. -/
theorem transform_suffixed (hs : scope.isArray = false) (hn : IsKeyName name) (suffix : Suffix)
    (hinner : suffix.inner = inner.toList) (hkey : key.toList = name.toList ++ suffix.print)
    (hchild : evaluate env inner scope = .ok (some child)) (template : Value) :
    transform env scope (.object [(key, template)]) =
      (build env template child scope suffix.shape).map
        fun value => (Value.object []).assign value (destination scope name).text := by
  have hr : resolve env key scope scope .key =
      .ok ⟨suffix.shape, some (destination scope name), some child⟩ := by
    rw [← lookup_key]
    exact resolve_suffixed hn suffix hinner hkey hchild
  refine transform_singleton hs (fun c hc => ?_) hr template
  rw [hkey, hn.head_append] at hc
  exact (hn.unmarked c hc).2

/-- A reserved path whose value is there fills its level for that value. -/
theorem build_path (hs : scope.isArray = false) (hu : Unreserved entries)
    (hroot : inner ≠ TemplateKey.rootKey)
    (hchild : evaluateIn env inner scope root = .ok (some child)) :
    build env (.object ((TemplateKey.pathKey, .string inner) :: entries)) scope root .object =
      build env (.object entries) child root .object := by
  have hpath : reserved? TemplateKey.pathKey ((TemplateKey.pathKey, .string inner) :: entries) =
      some inner := by
    simp [reserved?]
  have hroot? : reserved? TemplateKey.rootKey ((TemplateKey.pathKey, .string inner) :: entries) =
      none := by
    apply reserved?_eq_none
    intro entry hentry
    rcases List.mem_cons.mp hentry with rfl | hentry
    · exact show TemplateKey.pathKey ≠ TemplateKey.rootKey by decide
    · exact (hu entry hentry).2
  have hskip : fillEntries env ((TemplateKey.pathKey, .string inner) :: entries) =
      fillEntries env entries := by
    funext scope root output
    rw [fillEntries]
    rfl
  have hvalue : valueOrNull env inner scope root = .ok child := by
    rw [valueOrNull, hchild]
    rfl
  rw [build_of_unreserved hu, build_object, elementsOf_of_not_isArray hs, hskip,
    fillLevels_singleton, fillLevel_of_path hroot? hpath hroot, hvalue]
  rfl

/-- A key whose template stands for one value. -/
def braced (name inner : String) : String := name ++ "\x7b" ++ inner ++ "\x7d"

/-- Braces behind a key mean a reserved path below it. -/
theorem transform_braced (hs : scope.isArray = false) (hn : IsKeyName name)
    (hb : Balanced inner.toList) (hbrace : inner.toList.head? ≠ some '{')
    (hroot : inner ≠ TemplateKey.rootKey)
    (hchild : evaluate env inner scope = .ok (some child)) (hu : Unreserved entries) :
    transform env scope (.object [(braced name inner, .object entries)]) =
      transform env scope
        (.object [(name, .object ((TemplateKey.pathKey, .string inner) :: entries))]) := by
  have hkey : (braced name inner).toList =
      name.toList ++ (Suffix.braces inner.toList hb hbrace).print := by
    simp [braced, Suffix.print]
  rw [transform_named hs hn, build_path hs hu hroot hchild]
  exact transform_suffixed hs hn _ rfl hkey hchild _

/-- The value of the path is an array here, whose elements write to one object. -/
theorem transform_braced_items :
    transform ⟨⟨0, 0⟩, id⟩ (.object [("items", .array [.string "a", .null])])
        (.object [(braced "by" "items", .object [("'b'", .int 1)])]) =
      transform ⟨⟨0, 0⟩, id⟩ (.object [("items", .array [.string "a", .null])])
        (.object [("by", .object [("@path", .string "items"), ("'b'", .int 1)])]) := by
  have hn : IsKeyName "by" := ⟨by simp, List.all_eq_true.mp rfl, by simp⟩
  have hb : Balanced "items".toList := balancedBy_of_plain (by simp [isDelimiter])
  have hu : Unreserved [("'b'", .int 1)] := by
    simp [Unreserved, TemplateKey.pathKey, TemplateKey.rootKey]
  exact transform_braced rfl hn hb (by decide) (by decide)
    (show evaluate _ _ _ = .ok (some (.array [.string "a", .null])) by cbv) hu

/-- The items that an array output keeps. -/
def kept (items : List Value) : List Value := items.filter fun item => !item.isEmptyCollection

/-- An object of one array under a name, which is left out when nothing is in it. -/
def collected (name : String) (items : List Value) : Value :=
  if items.isEmpty then .object [] else .object [(name, .array items)]

/-- An array output takes up what is filled for one element after the other. -/
theorem fillEach_array {fill : Fill} {es rs : List Value}
    (h : List.Forall₂ (fun e r => fill e root (.object []) = .ok r) es rs) (items : List Value) :
    fillEach fill root es (.array items) = .ok (.array (items ++ kept rs)) := by
  induction h generalizing items with
  | nil => simp [fillEach, kept]
  | @cons e r es rs he _ ih =>
    have hinto : fillInto fill e root (.array items) = .ok (.array (items ++ kept [r])) := by
      rw [fillInto, he]
      cases hr : r.isEmptyCollection <;> simp [kept, hr, bind, Except.bind]
    have hkept : kept (r :: rs) = kept [r] ++ kept rs := by
      rw [kept, kept, kept, ← List.filter_append, List.singleton_append]
    rw [fillEach, hinto, hkept, ← List.append_assoc]
    exact ih (items ++ kept [r])

/-- Each element of an array slot is filled as if it were the scope and the root of its own. -/
theorem build_array (hu : Unreserved entries) (hroot : (Value.object entries).RootFree)
    {es rs : List Value} (hes : ∀ e ∈ es, e.isArray = false)
    (h : List.Forall₂ (fun e r => transform env e (.object entries) = .ok r) es rs) :
    build env (.object entries) (.array es) root .array = .ok (some (.array (kept rs))) := by
  have hfill :
      List.Forall₂ (fun e r => fillEntries env entries e root (.object []) = .ok r) es rs := by
    rw [List.forall₂_iff_get] at h ⊢
    refine ⟨h.1, fun i hi hi' => ?_⟩
    have he := h.2 i hi hi'
    rw [transform_of_unreserved hu (hes _ (List.get_mem es ⟨i, hi⟩))] at he
    rw [Value.RootFree] at hroot
    rwa [fillEntries_root _ root entries hroot] at he
  rw [build_of_unreserved hu]
  show Except.map some (fillEach (fillEntries env entries) root es (.array [])) = _
  rw [fillEach_array hfill]
  rfl

theorem assign_collected (hdot : '.' ∉ name.toList) (items : List Value) :
    (Value.object []).assign (some (.array items)) name = collected name items := by
  cases items with
  | nil => exact Value.assign_of_written_none rfl _ _
  | cons item rest => exact Value.assign_of_not_mem hdot rfl []

/-- A key whose template stands for the elements of an array. -/
def bracketed (name inner : String) : String := name ++ "[" ++ inner ++ "]"

/-- Brackets behind a key collect what their template gives for each element alone. -/
theorem transform_bracketed (hs : scope.isArray = false) (hn : IsKeyName name)
    (hdot : '.' ∉ name.toList) (hfree : scope.atPath name = none) (hb : Balanced inner.toList)
    {es rs : List Value} (hinner : evaluate env inner scope = .ok (some (.array es)))
    (hes : ∀ e ∈ es, e.isArray = false) (hu : Unreserved entries)
    (hroot : (Value.object entries).RootFree)
    (h : List.Forall₂ (fun e r => transform env e (.object entries) = .ok r) es rs) :
    transform env scope (.object [(bracketed name inner, .object entries)]) =
      .ok (collected name (kept rs)) := by
  have hkey : (bracketed name inner).toList =
      name.toList ++ (Suffix.brackets inner.toList hb).print := by
    simp [bracketed, Suffix.print]
  have hname : (destination scope name).text = name := by
    rw [destination, hfree]
    rfl
  rw [transform_suffixed hs hn (.brackets inner.toList hb) rfl hkey hinner, hname]
  show Except.map _ (build env (.object entries) (.array es) scope .array) = _
  rw [build_array hu hroot hes h, ← assign_collected hdot]
  rfl

/-- Elements of which the second one leaves its object empty. -/
def sampleItems : List Value :=
  [.object [("sku", .string "a")], .null, .object [("sku", .int 2)]]

def sampleEntries : Fields := [("'id'", .string "sku")]

theorem transform_bracketed_items :
    transform ⟨⟨0, 0⟩, id⟩ (.object [("items", .array sampleItems)])
        (.object [(bracketed "list" "items", .object sampleEntries)]) =
      .ok (.object [("list", .array [.object [("id", .string "a")],
        .object [("id", .int 2)]])]) := by
  have hn : IsKeyName "list" := ⟨by simp, List.all_eq_true.mp rfl, by simp⟩
  have hb : Balanced "items".toList := balancedBy_of_plain (by simp [isDelimiter])
  have hes : ∀ e ∈ sampleItems, e.isArray = false := by simp [sampleItems, Value.isArray]
  have hu : Unreserved sampleEntries := by
    simp [Unreserved, sampleEntries, TemplateKey.pathKey, TemplateKey.rootKey]
  have hroot : (Value.object sampleEntries).RootFree := by
    simp [sampleEntries, Value.RootFree, Value.fieldsAreRootFree, TemplateKey.pathKey,
      TemplateKey.rootKey]
  have hresults : List.Forall₂
      (fun e r => transform ⟨⟨0, 0⟩, id⟩ e (.object sampleEntries) = .ok r) sampleItems
      [.object [("id", .string "a")], .object [], .object [("id", .int 2)]] :=
    .cons (by cbv) (.cons (by cbv) (.cons (by cbv) .nil))
  exact transform_bracketed rfl hn (by decide) rfl hb (by cbv) hes hu hroot hresults

end Reshape
