import Reshape.Filter.Catalog
import Reshape.Proofs.TokenWeight

/-! Which tokens and filters occur in an expression and in the expressions inside it. -/
namespace Reshape

/-- What holds of an expression when it holds of all expressions inside it holds of every one. -/
theorem nested_induction {motive : String → Prop}
    (step : ∀ expr, (∀ t ∈ tokenize expr, ∀ text ∈ t.nested, motive text) → motive expr)
    (expr : String) : motive expr := by
  induction h : expr.length using Nat.strong_induction_on generalizing expr with
  | h n ih =>
    subst h
    exact step expr fun t ht text htext => ih _ (length_nested_lt ht htext) text rfl

/-- A token of the expression or of one inside it. -/
inductive Token.OccursIn (t : Token) : String → Prop
  | here {expr : String} : t ∈ tokenize expr → t.OccursIn expr
  | inside {expr text : String} {u : Token} :
    u ∈ tokenize expr → text ∈ u.nested → t.OccursIn text → t.OccursIn expr

theorem Token.occursIn_iff {t : Token} {expr : String} :
    t.OccursIn expr ↔ ∃ u ∈ tokenize expr, t = u ∨ ∃ text ∈ u.nested, t.OccursIn text := by
  constructor
  · intro h
    cases h with
    | here ht => exact ⟨t, ht, Or.inl rfl⟩
    | inside hu htext h => exact ⟨_, hu, Or.inr ⟨_, htext, h⟩⟩
  · rintro ⟨u, hu, rfl | ⟨text, htext, h⟩⟩
    · exact .here hu
    · exact .inside hu htext h

/-- The names of the filters that a token applies, by a call or behind bars. -/
def Token.filterNames (t : Token) : List String :=
  (if t.kind = .call then [t.body] else []) ++ t.filters.map FilterCall.name

theorem Token.name_mem_filterNames {t : Token} {call : FilterCall} (h : call ∈ t.filters) :
    call.name ∈ t.filterNames :=
  List.mem_append_right _ (List.mem_map_of_mem h)

/-- An expression names a filter, itself or in an expression inside it. -/
def NamesFilter (expr name : String) : Prop := ∃ t : Token, t.OccursIn expr ∧ name ∈ t.filterNames

theorem namesFilter_iff {expr name : String} :
    NamesFilter expr name ↔
      ∃ t ∈ tokenize expr, name ∈ t.filterNames ∨ ∃ text ∈ t.nested, NamesFilter text name := by
  constructor
  · rintro ⟨t, ht, hname⟩
    cases ht with
    | here ht => exact ⟨t, ht, Or.inl hname⟩
    | inside hu htext ht => exact ⟨_, hu, Or.inr ⟨_, htext, t, ht, hname⟩⟩
  · rintro ⟨t, ht, hname | ⟨text, htext, u, hu, hname⟩⟩
    · exact ⟨t, .here ht, hname⟩
    · exact ⟨u, .inside ht htext hu, hname⟩

namespace Filter

theorem name_of_ofName? {name : String} {filter : Filter} (h : ofName? name = some filter) :
    filter.name = name := by
  simpa using List.find?_some h

theorem ofName?_eq_none_iff {name : String} :
    ofName? name = none ↔ ∀ filter ∈ all, filter.name ≠ name := by
  simp [ofName?]

end Filter

end Reshape
