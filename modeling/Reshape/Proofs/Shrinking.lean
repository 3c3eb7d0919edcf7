import Reshape.Proofs.Occurrence
import Reshape.Proofs.Resolving

/-! The texts of a token are no longer than its expression, and those that are resolved again are
shorter, so that resolving an expression comes to an end and has one meaning. -/
namespace Reshape

variable {env : Environment} {expr text : String} {t : Token}

/-- The characters of a filter's name and of its parameters. -/
def FilterCall.textLength (f : FilterCall) : Nat := f.name.length + (f.params.map String.length).sum

/-- The characters of all texts of a token but its source: its body, what stands inside it, and the
names and parameters of its filters. -/
def Token.textLength (t : Token) : Nat :=
  t.body.length + (t.inner.map String.length).sum + (t.filters.map FilterCall.textLength).sum

namespace Weight

theorem texts_length (texts : List String) :
    Weight.length.texts texts = (texts.map String.length).sum := by
  induction texts with
  | nil => rfl
  | cons s rest ih =>
    have hs : Weight.length.text s.toList = s.length := by rw [text_length, String.length_toList]
    have hcons : Weight.length.texts (s :: rest) =
        Weight.length.text s.toList + Weight.length.texts rest := by simp [texts]
    rw [hcons, hs, ih, List.map_cons, List.sum_cons]

/-- A filter weighs its texts and its bar. -/
theorem filter_length (f : FilterCall) : Weight.length.filter f = f.textLength + 1 := by
  have hbar : Weight.length.char '|' = 1 := rfl
  have hname := text_length f.name.toList
  rw [String.length_toList] at hname
  simp only [filter, FilterCall.textLength, texts_length, hbar, hname]
  omega

theorem filters_length_le (filters : List FilterCall) :
    (filters.map FilterCall.textLength).sum ≤ Weight.length.filters filters := by
  induction filters with
  | nil => exact Nat.le_refl _
  | cons f rest ih =>
    have hf := filter_length f
    simp only [Weight.filters, List.map_cons, List.sum_cons] at ih ⊢
    omega

theorem token_length_le (t : Token) : t.textLength ≤ Weight.length.token t := by
  have hbody := text_length t.body.toList
  have hfilters := filters_length_le t.filters
  rw [String.length_toList] at hbody
  simp only [Token.textLength, token, texts_length, hbody]
  omega

end Weight

/-- All tokens of an expression together have no more characters than the expression. -/
theorem sum_textLength_le (expr : String) :
    ((tokenize expr).map Token.textLength).sum ≤ expr.length := by
  have htokens : ((tokenize expr).map Token.textLength).sum ≤
      ((tokenize expr).map Weight.length.token).sum :=
    List.sum_le_sum fun t _ => Weight.token_length_le t
  have hexpr := Weight.length.sum_tokenize_le expr
  rw [Weight.text_length, String.length_toList] at hexpr
  exact Nat.le_trans htokens hexpr

theorem textLength_le (ht : t ∈ tokenize expr) : t.textLength ≤ expr.length := by
  have hmem : t.textLength ≤ ((tokenize expr).map Token.textLength).sum :=
    List.le_sum_of_mem (List.mem_map_of_mem ht)
  exact Nat.le_trans hmem (sum_textLength_le expr)

/-- A way to resolve expressions. -/
abbrev Resolver := String → Value → Value → Context → Except ResolveError Resolution

/-- Every expression is resolved from the values that the same way gives to the expressions inside
it: parameters, predicates on elements, suffixes, scope switches and what is in double braces. -/
def Resolver.IsRecursive (env : Environment) (f : Resolver) : Prop :=
  ∀ expr scope root context, f expr scope root context =
    Resolution.step env (fun text scope root => (f text scope root .value).map Resolution.value)
      expr scope root context

theorem isRecursive_resolve (env : Environment) : Resolver.IsRecursive env (resolve env) :=
  resolve_eq_step

/-- By induction on the nesting there is no other way. -/
theorem Resolver.IsRecursive.eq_resolve {f : Resolver} (h : f.IsRecursive env) :
    f = resolve env := by
  funext expr scope root context
  induction expr using nested_induction generalizing scope root context with
  | step expr ih =>
    have hnested : ∀ t ∈ tokenize expr,
        AgreeOn (fun text scope root => (f text scope root .value).map Resolution.value)
          (evaluateIn env) root root t.nested := by
      intro t ht text htext scope
      show Except.map _ (f text scope root .value) = _
      rw [ih t ht text htext scope root .value]
      rfl
    calc f expr scope root context
        = Resolution.step env _ expr scope root context := h expr scope root context
      _ = Resolution.step env (evaluateIn env) expr scope root context :=
          Resolution.step_congr hnested (fun _ _ _ => rfl) scope context
      _ = resolve env expr scope root context := (resolve_eq_step expr scope root context).symm

/-- The texts of each token of an expression have together no more characters than the expression,
and each of them that is resolved again has fewer. So the recursion that resolves expressions
through those inside them has exactly one solution. -/
theorem resolve_recursion_shrinks (expr : String) :
    (∀ t ∈ tokenize expr, t.textLength ≤ expr.length ∧
      ∀ text ∈ t.nested, text.length < expr.length) ∧
    ∀ (env : Environment) (f : Resolver), f.IsRecursive env ↔ f = resolve env := by
  refine ⟨?_, ?_⟩
  · intro t ht
    exact ⟨textLength_le ht, fun text htext => length_nested_lt ht htext⟩
  · intro env f
    constructor
    · exact Resolver.IsRecursive.eq_resolve
    · rintro rfl
      exact isRecursive_resolve env

/-- A token taken back by a bar, with a parameter list that is opened twice and never closed. -/
theorem resolve_recursion_shrinks_unclosed :
    (⟨.call, "f", "f(a) | g(b)(c", 0, 13, false, none, ["a"], [⟨"g", ["b", "c"]⟩]⟩ : Token) ∈
        tokenize "f(a) | g(b)(c" ∧
      "c".length < "f(a) | g(b)(c".length := by
  have ht :
      (⟨.call, "f", "f(a) | g(b)(c", 0, 13, false, none, ["a"], [⟨"g", ["b", "c"]⟩]⟩ : Token) ∈
        tokenize "f(a) | g(b)(c" := by decide +kernel
  exact ⟨ht, ((resolve_recursion_shrinks "f(a) | g(b)(c").1 _ ht).2 "c" (by decide)⟩

end Reshape
