import Reshape.Proofs.Failure
import Reshape.Proofs.RootFree

/-! The one way for an expression or a template to fail: a filter that it names is unknown. -/
namespace Reshape

variable {P : ResolveError → Prop} {env : Environment} {r : ParamResolver} {texts : List String}

/-- Some expressions fail with errors of a kind only, whatever they are resolved against. -/
def FailsOnlyOn (P : ResolveError → Prop) (r : ParamResolver) (texts : List String) : Prop :=
  ∀ text ∈ texts, ∀ scope root, FailsOnlyWith P (r text scope root)

namespace Filter

theorem passes_fails (h : FailsOnlyOn P r texts) (root item : Value) :
    FailsOnlyWith P (passes r root texts item) := by
  induction texts with
  | nil => exact .ok true
  | cons text rest ih =>
    have hrest := ih fun text ht => h text (List.mem_cons_of_mem _ ht)
    rw [passes]
    refine (h text List.mem_cons_self item root).bind fun verdict => ?_
    split
    · exact hrest
    · exact .ok false

theorem selectItems_fails (h : FailsOnlyOn P r texts) (root : Value) (items : List Value) :
    FailsOnlyWith P (selectItems r root texts items) := by
  induction items with
  | nil => exact .ok []
  | cons item rest ih =>
    rw [selectItems]
    exact (passes_fails h root item).bind fun _ => ih.bind fun _ => .ok _

theorem keepItems_fails (h : FailsOnlyOn P r texts) (scope root : Value) (piped : Option Value) :
    FailsOnlyWith P (keepItems r texts scope root piped) := by
  have hrelated : RelatedOn (.onlyWith P) r r texts := fun text ht scope₁ root₁ scope₂ root₂ =>
    ⟨h text ht scope₁ root₁, h text ht scope₂ root₂⟩
  unfold keepItems
  split
  · split
    · exact (resolveParams_related hrelated scope root scope root).1.bind fun _ => .ok _
    · exact (selectItems_fails h root _).bind fun _ => .ok _
  · exact .ok _

end Filter

theorem permitsSelection_onlyWith (params : List String) :
    PermitsSelection (.onlyWith P) params := by
  intro r₁ r₂ h scope₁ root₁ piped₁ scope₂ root₂ piped₂
  have h₁ : FailsOnlyOn P r₁ params := fun text ht scope root => (h text ht scope root scope root).1
  have h₂ : FailsOnlyOn P r₂ params := fun text ht scope root => (h text ht scope root scope root).2
  exact ⟨Filter.keepItems_fails h₁ scope₁ root₁ piped₁,
    Filter.keepItems_fails h₂ scope₂ root₂ piped₂⟩

/-- A kind of errors has room for every unknown filter that an expression names. -/
def Admits (P : ResolveError → Prop) (expr : String) : Prop :=
  ∀ name, NamesFilter expr name → Filter.ofName? name = none → P (.unknownFilter name)

/-- An expression fails with an unknown filter that it names, itself or in an expression inside. -/
theorem resolve_fails {expr : String} (h : Admits P expr) (scope root : Value) (context : Context) :
    FailsOnlyWith P (resolve env expr scope root context) := by
  have hpermitted : ∀ t : Token, t.OccursIn expr → t.Permitted (.onlyWith P) := by
    refine fun t ht => ⟨fun name hname hnone => ?_, fun call _ _ => permitsSelection_onlyWith _⟩
    have herror : P (.unknownFilter name) := h name ⟨t, ht, hname⟩ hnone
    exact ⟨.error herror, .error herror⟩
  have hresolve : (FailureRelation.onlyWith P).Holds (resolve env expr scope root context)
      (resolve env expr scope root context) :=
    resolve_related hpermitted scope root scope root context context
  exact hresolve.1

theorem evaluateIn_fails {expr : String} (h : Admits P expr) (scope root : Value) :
    FailsOnlyWith P (evaluateIn env expr scope root) :=
  (resolve_fails h scope root .value).map _

namespace Value

mutual

/-- The texts of a template and its keys, in their order. -/
def expressions : Value → List String
  | .string s => [s]
  | .array items => itemExpressions items
  | .object fields => fieldExpressions fields
  | _ => []

def itemExpressions : List Value → List String
  | [] => []
  | v :: rest => v.expressions ++ itemExpressions rest

def fieldExpressions : List (String × Value) → List String
  | [] => []
  | (key, v) :: rest => TemplateKey.unmarked key :: (v.expressions ++ fieldExpressions rest)

end

theorem mem_fieldExpressions {fields : Fields} {key expr : String} {v : Value}
    (hmem : (key, v) ∈ fields) (h : expr ∈ v.expressions) : expr ∈ fieldExpressions fields := by
  induction fields with
  | nil => simp at hmem
  | cons field rest ih =>
    rw [fieldExpressions]
    rcases List.mem_cons.mp hmem with rfl | hmem
    · exact List.mem_cons_of_mem _ (List.mem_append_left _ h)
    · exact List.mem_cons_of_mem _ (List.mem_append_right _ (ih hmem))

end Value

namespace Template

open Value

section

variable {entries : Fields} {fill : Fill}
  (hentries : ∀ expr ∈ fieldExpressions entries, Admits P expr)
  (hfill : ∀ scope root output, FailsOnlyWith P (fill scope root output))

include hfill in
theorem fillInto_fails (scope root output : Value) :
    FailsOnlyWith P (fillInto fill scope root output) := by
  unfold fillInto
  split
  · exact (hfill _ _ _).bind fun _ => .ok _
  · exact hfill _ _ _

include hfill in
theorem fillEach_fails (root : Value) (elements : List Value) (output : Value) :
    FailsOnlyWith P (fillEach fill root elements output) := by
  induction elements generalizing output with
  | nil => exact .ok output
  | cons element rest ih =>
    rw [fillEach]
    exact (fillInto_fails hfill element root output).bind ih

include hentries in
/-- The text under a reserved key is an expression of the template. -/
theorem evaluate_reserved_fails {key expr : String} (h : reserved? key entries = some expr)
    (scope root : Value) : FailsOnlyWith P (valueOrNull env expr scope root) := by
  have hmem : expr ∈ fieldExpressions entries :=
    mem_fieldExpressions (mem_of_reserved? h) (by simp [expressions])
  exact (evaluateIn_fails (hentries expr hmem) scope root).map _

include hentries in
theorem levelRoot_fails (element root : Value) :
    FailsOnlyWith P (levelRoot env entries element root) := by
  unfold levelRoot
  split
  · exact .ok root
  · rename_i expr hreserved
    split
    · exact .ok element
    · exact evaluate_reserved_fails hentries hreserved root root

include hentries hfill in
theorem fillLevel_fails (element root output : Value) :
    FailsOnlyWith P (fillLevel env entries fill element root output) := by
  rw [fillLevel]
  refine (levelRoot_fails hentries element root).bind fun root => ?_
  split
  · exact fillInto_fails hfill element root output
  · rename_i expr hreserved
    show FailsOnlyWith P (if expr = TemplateKey.rootKey then _ else _)
    split
    · exact fillEach_fails hfill root (elementsOf root) output
    · exact (evaluate_reserved_fails hentries hreserved element root).bind fun scope =>
        fillEach_fails hfill root (elementsOf scope) output

include hentries hfill in
theorem fillLevels_fails (root : Value) (elements : List Value) (output : Value) :
    FailsOnlyWith P (fillLevels env entries fill root elements output) := by
  induction elements generalizing output with
  | nil => exact .ok output
  | cons element rest ih =>
    rw [fillLevels]
    exact (fillLevel_fails hentries hfill element root output).bind ih

end

theorem forElements_fails {run : Value → Value → Except ResolveError Value}
    (h : ∀ element output, FailsOnlyWith P (run element output)) (elements : List Value)
    (output : Value) : FailsOnlyWith P (forElements run elements output) := by
  induction elements generalizing output with
  | nil => exact .ok output
  | cons element rest ih =>
    rw [forElements]
    exact (h element output).bind ih

mutual

theorem build_fails : (template : Value) → (∀ expr ∈ template.expressions, Admits P expr) →
    (scope root : Value) → (shape : Shape) →
    FailsOnlyWith P (build env template scope root shape)
  | .null, _, _, _, _ => by rw [build] <;> simp [FailsOnlyWith]
  | .bool b, _, _, _, _ => by rw [build] <;> simp [FailsOnlyWith]
  | .int n, _, _, _, _ => by rw [build] <;> simp [FailsOnlyWith]
  | .float x, _, _, _, _ => by rw [build] <;> simp [FailsOnlyWith]
  | .string expr, h, scope, root, _ => by
    rw [build]
    exact evaluateIn_fails (h expr (by simp [Value.expressions])) scope root
  | .array items, h, scope, root, shape => by
    rw [Value.expressions] at h
    rw [build]
    refine FailsOnlyWith.bind (forElements_fails (fun element output => ?_) _ _) fun _ => .ok _
    exact fillItems_fails items h element root output
  | .object entries, h, scope, root, shape => by
    rw [Value.expressions] at h
    rw [build]
    refine FailsOnlyWith.bind
      (fillLevels_fails h (fun scope root output => ?_) _ _ _) fun _ => .ok _
    exact fillEntries_fails entries h scope root output

theorem fillEntries_fails : (entries : Fields) →
    (∀ expr ∈ fieldExpressions entries, Admits P expr) → (scope root output : Value) →
    FailsOnlyWith P (fillEntries env entries scope root output)
  | [], _, _, _, output => by
    rw [fillEntries]
    exact .ok output
  | (key, template) :: rest, h, scope, root, output => by
    rw [fieldExpressions] at h
    have hrest := fillEntries_fails rest fun expr he =>
      h expr (List.mem_cons_of_mem _ (List.mem_append_right _ he))
    have htemplate := build_fails template fun expr he =>
      h expr (List.mem_cons_of_mem _ (List.mem_append_left _ he))
    rw [fillEntries]
    cases hexpr : (TemplateKey.classify key).expression? with
    | none => exact hrest scope root output
    | some expr =>
      -- The value of the key decides where its template goes, but not whether it is built.
      have hkey : Admits P expr := TemplateKey.eq_unmarked hexpr ▸ h _ List.mem_cons_self
      exact (resolve_fails hkey scope root .key).bind fun _ =>
        (htemplate _ root _).bind fun _ => hrest scope root _

theorem fillItems_fails : (templates : List Value) →
    (∀ expr ∈ itemExpressions templates, Admits P expr) → (scope root output : Value) →
    FailsOnlyWith P (fillItems env templates scope root output)
  | [], _, _, _, output => by
    rw [fillItems]
    exact .ok output
  | template :: rest, h, scope, root, output => by
    rw [itemExpressions] at h
    rw [fillItems]
    refine (build_fails template (fun expr he => h expr (List.mem_append_left _ he)) scope root
      .object).bind fun item => ?_
    exact fillItems_fails rest (fun expr he => h expr (List.mem_append_right _ he)) scope root _

end

end Template

/-- A template names a filter in one of its expressions. -/
def Value.NamesFilter (template : Value) (name : String) : Prop :=
  ∃ expr ∈ template.expressions, Reshape.NamesFilter expr name

/-- A template that names known filters only gives an output for every scope. When a template fails,
then with a filter that it names and that is unknown. -/
theorem transform_fails_only_with_unknown (env : Environment) (template : Value) :
    ((∀ name, template.NamesFilter name → ∃ filter ∈ Filter.all, filter.name = name) →
      ∀ scope, ∃ output, transform env scope template = .ok output) ∧
    ∀ scope e, transform env scope template = .error e →
      ∃ name, e = .unknownFilter name ∧ template.NamesFilter name ∧
        ∀ filter ∈ Filter.all, filter.name ≠ name := by
  have hfails : ∀ scope, FailsOnlyWith
      (fun e => ∃ name, e = .unknownFilter name ∧ template.NamesFilter name ∧
        ∀ filter ∈ Filter.all, filter.name ≠ name) (transform env scope template) := by
    intro scope
    refine (Template.build_fails template (fun expr hexpr name hname hnone => ?_) scope scope
      .object).map _
    exact ⟨name, rfl, ⟨expr, hexpr, hname⟩, Filter.ofName?_eq_none_iff.mp hnone⟩
  refine ⟨fun hknown scope => ?_, hfails⟩
  cases htransform : transform env scope template with
  | ok output => exact ⟨output, rfl⟩
  | error e =>
    obtain ⟨name, -, hnamed, hunknown⟩ := hfails scope e htransform
    obtain ⟨filter, hfilter, hname⟩ := hknown name hnamed
    exact (hunknown filter hfilter hname).elim

/-- A known filter succeeds although nothing is piped to it, and an unknown one in a predicate fails
for the elements that there are. -/
theorem transform_sampleFilters :
    (∃ output, transform ⟨⟨0, 0⟩, id⟩ .null (.array [.string "a | count"]) = .ok output) ∧
      transform ⟨⟨0, 0⟩, id⟩ (.object [("a", .array [.null])])
          (.object [("!b", .object [("c", .string "a | filter(d | nope)")])]) =
        .error (.unknownFilter "nope") ∧
      Value.NamesFilter (.object [("!b", .object [("c", .string "a | filter(d | nope)")])]) "nope" ∧
      ∀ filter ∈ Filter.all, filter.name ≠ "nope" := by
  have hcount : tokenize "a | count" =
      [⟨.path, "a", "a | count", 0, 9, false, none, [], [⟨"count", []⟩]⟩] := by cbv
  have hknown : ∀ name, Value.NamesFilter (.array [.string "a | count"]) name →
      ∃ filter ∈ Filter.all, filter.name = name := by
    rintro name ⟨expr, hexpr, t, ht, hname⟩
    obtain rfl : expr = "a | count" := by
      simpa [Value.expressions, Value.itemExpressions] using hexpr
    rw [Token.occursIn_iff, hcount] at ht
    simp only [List.mem_singleton, exists_eq_left, Token.nested] at ht
    obtain rfl := ht.resolve_right (by simp)
    obtain rfl : name = "count" := by simpa [Token.filterNames] using hname
    exact ⟨.count, by decide, rfl⟩
  have hfails : transform ⟨⟨0, 0⟩, id⟩ (.object [("a", .array [.null])])
      (.object [("!b", .object [("c", .string "a | filter(d | nope)")])]) =
        .error (.unknownFilter "nope") := by cbv
  obtain ⟨name, hname, hnamed, hunknown⟩ :=
    (transform_fails_only_with_unknown ⟨⟨0, 0⟩, id⟩ _).2 _ _ hfails
  obtain rfl : name = "nope" := by simpa using hname.symm
  exact ⟨(transform_fails_only_with_unknown ⟨⟨0, 0⟩, id⟩ _).1 hknown .null, hfails, hnamed,
    hunknown⟩

end Reshape
