import Reshape.Proofs.Levels

/-! Templates that name the root nowhere come out the same under every root. -/
namespace Reshape

namespace Value

mutual

/-- No text and no key of the template has a caret, and no reserved key sets or reads a root. -/
def RootFree : Value → Prop
  | .string s => '^' ∉ s.toList
  | .array items => itemsAreRootFree items
  | .object fields => fieldsAreRootFree fields
  | _ => True

def itemsAreRootFree : List Value → Prop
  | [] => True
  | v :: rest => v.RootFree ∧ itemsAreRootFree rest

def fieldsAreRootFree : List (String × Value) → Prop
  | [] => True
  | (key, v) :: rest =>
    ('^' ∉ key.toList ∧ key ≠ TemplateKey.rootKey ∧
      ¬(key = TemplateKey.pathKey ∧ v = .string TemplateKey.rootKey)) ∧
    v.RootFree ∧ fieldsAreRootFree rest

end

theorem rootFree_of_mem {fields : Fields} (h : fieldsAreRootFree fields) {key : String} {v : Value}
    (hmem : (key, v) ∈ fields) :
    key ≠ TemplateKey.rootKey ∧
      ¬(key = TemplateKey.pathKey ∧ v = .string TemplateKey.rootKey) ∧ v.RootFree := by
  induction fields with
  | nil => simp at hmem
  | cons field rest ih =>
    rw [fieldsAreRootFree] at h
    rcases List.mem_cons.mp hmem with rfl | hmem
    · exact ⟨h.1.2.1, h.1.2.2, h.2.1⟩
    · exact ih h.2.2 hmem

end Value

/-- A key without the mark of those that merge their value into the object around them. -/
def TemplateKey.unmarked (key : String) : String :=
  match key.toList with
  | '!' :: rest => String.ofList rest
  | _ => key

theorem TemplateKey.eq_unmarked {key expr : String} (h : (classify key).expression? = some expr) :
    expr = unmarked key := by
  unfold classify at h
  split_ifs at h
  · cases h
  · cases h
  · split at h
    · rename_i rest hkey
      cases h
      simp only [unmarked, hkey]
    · rename_i hkey
      cases h
      unfold unmarked
      split
      · rename_i rest hmark
        exact (hkey rest hmark).elim
      · rfl

/-- The expression of a key is a part of the key. -/
theorem TemplateKey.mem_of_mem_expression {key expr : String} {c : Char}
    (h : (classify key).expression? = some expr) (hc : c ∈ expr.toList) : c ∈ key.toList := by
  rw [eq_unmarked h, unmarked] at hc
  split at hc
  · rename_i rest hkey
    rw [String.toList_ofList] at hc
    rw [hkey]
    exact List.mem_cons_of_mem _ hc
  · exact hc

namespace Template

open Value

variable {env : Environment} {entries : Fields} {fill : Fill} {root₁ root₂ : Value}

theorem mem_of_reserved? {key expr : String} (h : reserved? key entries = some expr) :
    (key, .string expr) ∈ entries := by
  unfold reserved? at h
  split at h
  · rename_i v hv
    cases h
    obtain ⟨l₁, l₂, rfl, -⟩ := List.lookup_eq_some_iff.mp hv
    simp
  · cases h

theorem fillInto_root (hfill : ∀ scope output, fill scope root₁ output = fill scope root₂ output)
    (scope output : Value) :
    fillInto fill scope root₁ output = fillInto fill scope root₂ output := by
  cases output <;> simp only [fillInto, hfill]

theorem fillEach_root (hfill : ∀ scope output, fill scope root₁ output = fill scope root₂ output)
    (elements : List Value) (output : Value) :
    fillEach fill root₁ elements output = fillEach fill root₂ elements output := by
  induction elements generalizing output with
  | nil => rfl
  | cons element rest ih => simp only [fillEach, fillInto_root hfill, ih]

theorem fillLevel_root (hentries : fieldsAreRootFree entries)
    (hfill : ∀ scope output, fill scope root₁ output = fill scope root₂ output)
    (element output : Value) :
    fillLevel env entries fill element root₁ output =
      fillLevel env entries fill element root₂ output := by
  have hroot : reserved? TemplateKey.rootKey entries = none := by
    apply reserved?_eq_none
    intro entry hentry
    exact (rootFree_of_mem hentries hentry).1
  cases hpath : reserved? TemplateKey.pathKey entries with
  | none =>
    rw [fillLevel_of_not_path hroot hpath, fillLevel_of_not_path hroot hpath]
    exact fillInto_root hfill element output
  | some expr =>
    obtain ⟨-, hne, hcaret⟩ := rootFree_of_mem hentries (mem_of_reserved? hpath)
    rw [RootFree] at hcaret
    have hexpr : expr ≠ TemplateKey.rootKey := by
      rintro rfl
      exact hne ⟨rfl, rfl⟩
    rw [fillLevel_of_path hroot hpath hexpr, fillLevel_of_path hroot hpath hexpr]
    simp only [valueOrNull, evaluateIn_root hcaret element root₁ root₂, fillEach_root hfill]

theorem fillLevels_root (hentries : fieldsAreRootFree entries)
    (hfill : ∀ scope output, fill scope root₁ output = fill scope root₂ output)
    (elements : List Value) (output : Value) :
    fillLevels env entries fill root₁ elements output =
      fillLevels env entries fill root₂ elements output := by
  induction elements generalizing output with
  | nil => rfl
  | cons element rest ih => simp only [fillLevels, fillLevel_root hentries hfill, ih]

variable (root₁ root₂)

mutual

/-- The root cannot be seen from a template that does not name it. -/
theorem build_root : (template : Value) → template.RootFree → (scope : Value) → (shape : Shape) →
    build env template scope root₁ shape = build env template scope root₂ shape
  | .null, _, _, _ => by rw [build, build] <;> simp
  | .bool b, _, _, _ => by rw [build, build] <;> simp
  | .int n, _, _, _ => by rw [build, build] <;> simp
  | .float x, _, _, _ => by rw [build, build] <;> simp
  | .string expr, h, scope, shape => by
    rw [RootFree] at h
    rw [build, build, evaluateIn_root h]
  | .array items, h, scope, shape => by
    rw [RootFree] at h
    simp only [build, fillItems_root items h]
  | .object entries, h, scope, shape => by
    rw [RootFree] at h
    rw [build, build, fillLevels_root h fun scope output => fillEntries_root entries h scope output]

theorem fillEntries_root : (entries : Fields) → fieldsAreRootFree entries → (scope output : Value) →
    fillEntries env entries scope root₁ output = fillEntries env entries scope root₂ output
  | [], _, _, _ => by rw [fillEntries, fillEntries]
  | (key, template) :: rest, h, scope, output => by
    rw [fieldsAreRootFree] at h
    rw [fillEntries, fillEntries]
    cases hexpr : (TemplateKey.classify key).expression? with
    | none => simp only [fillEntries_root rest h.2.2 scope]
    | some expr =>
      have hcaret : '^' ∉ expr.toList :=
        fun hc => h.1.1 (TemplateKey.mem_of_mem_expression hexpr hc)
      simp only [resolve, resolveWithin_root hcaret _ scope root₁ root₂, build_root template h.2.1,
        fillEntries_root rest h.2.2 scope]

theorem fillItems_root : (templates : List Value) → itemsAreRootFree templates →
    (scope output : Value) →
    fillItems env templates scope root₁ output = fillItems env templates scope root₂ output
  | [], _, _, _ => by rw [fillItems, fillItems]
  | template :: rest, h, scope, output => by
    rw [itemsAreRootFree] at h
    simp only [fillItems, build_root template h.1 scope, fillItems_root rest h.2 scope]

end

end Template

end Reshape
