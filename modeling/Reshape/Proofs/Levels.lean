import Reshape.Proofs.Keys

/-! Filling the levels of a template. -/
namespace Reshape.Template

variable {env : Environment} {scope root output : Value} {entries : Fields} {fill : Fill}

/-- No entry of the level itself sets its scope or root. -/
def Unreserved (entries : Fields) : Prop :=
  ∀ entry ∈ entries, entry.1 ≠ TemplateKey.pathKey ∧ entry.1 ≠ TemplateKey.rootKey

theorem reserved?_eq_none {key : String} (h : ∀ entry ∈ entries, entry.1 ≠ key) :
    reserved? key entries = none := by
  have hlookup : entries.lookup key = none := by
    rw [List.lookup_eq_none_iff]
    intro entry hentry
    simpa using Ne.symm (h entry hentry)
  rw [reserved?, hlookup]

/-- An output that is no array is filled in place. -/
theorem fillInto_of_not_isArray (h : output.isArray = false) (scope root : Value) :
    fillInto fill scope root output = fill scope root output := by
  cases output with
  | array items => simp [Value.isArray] at h
  | _ => rfl

theorem fillLevel_of_not_path {element : Value}
    (hroot : reserved? TemplateKey.rootKey entries = none)
    (hpath : reserved? TemplateKey.pathKey entries = none) :
    fillLevel env entries fill element root output = fillInto fill element root output := by
  rw [fillLevel, levelRoot, hroot, hpath]
  rfl

/-- A reserved path fills its level for the elements of its value. -/
theorem fillLevel_of_path {expr : String} {element : Value}
    (hroot : reserved? TemplateKey.rootKey entries = none)
    (hpath : reserved? TemplateKey.pathKey entries = some expr)
    (hne : expr ≠ TemplateKey.rootKey) :
    fillLevel env entries fill element root output =
      valueOrNull env expr element root >>= fun scope =>
        fillEach fill root (elementsOf scope) output := by
  rw [fillLevel, levelRoot, hroot, hpath]
  show (if expr = TemplateKey.rootKey then _ else _) = _
  rw [if_neg hne]

theorem fillLevel_of_unreserved (h : Unreserved entries) (element : Value) :
    fillLevel env entries fill element root output = fillInto fill element root output :=
  fillLevel_of_not_path (reserved?_eq_none fun entry he => (h entry he).2)
    (reserved?_eq_none fun entry he => (h entry he).1)

/-- Without reserved keys a level is filled for the elements of its scope. -/
theorem fillLevels_of_unreserved (h : Unreserved entries) (elements : List Value) :
    fillLevels env entries fill root elements output = fillEach fill root elements output := by
  induction elements generalizing output with
  | nil => rfl
  | cons element rest ih =>
    rw [fillLevels, fillEach, fillLevel_of_unreserved h]
    congr 1
    funext output
    exact ih

theorem build_object (shape : Shape) :
    build env (.object entries) scope root shape =
      (fillLevels env entries (fillEntries env entries) root (elementsOf scope)
        (emptyOutput (.object entries) shape)).map some := by
  rw [build]
  show (fillLevels env entries (fillEntries env entries) root (elementsOf scope)
    (emptyOutput (.object entries) shape) >>= fun output => .ok (some output)) = _
  cases fillLevels env entries (fillEntries env entries) root (elementsOf scope)
    (emptyOutput (.object entries) shape) <;> rfl

theorem build_of_unreserved (h : Unreserved entries) (shape : Shape) :
    build env (.object entries) scope root shape =
      (fillEach (fillEntries env entries) root (elementsOf scope)
        (emptyOutput (.object entries) shape)).map some := by
  rw [build_object, fillLevels_of_unreserved h]

theorem elementsOf_of_not_isArray (h : scope.isArray = false) : elementsOf scope = [scope] := by
  cases scope <;> simp_all [elementsOf, Value.isArray]

theorem fillEach_singleton (element : Value) :
    fillEach fill root [element] output = fillInto fill element root output := by
  rw [fillEach]
  cases fillInto fill element root output <;> rfl

theorem fillLevels_singleton (element : Value) :
    fillLevels env entries fill root [element] output =
      fillLevel env entries fill element root output := by
  rw [fillLevels]
  cases fillLevel env entries fill element root output <;> rfl

theorem forElements_singleton {run : Value → Value → Except ResolveError Value} (element : Value) :
    forElements run [element] output = run element output := by
  rw [forElements]
  cases run element output <;> rfl

end Reshape.Template
