import Reshape.Proofs.Occurrence
import Reshape.Proofs.Resolving

/-! What an expression sees of its environment: the time through one filter and the fingerprint
through another, and nothing where neither of them occurs. -/
namespace Reshape

/-- Two environments are the same to the filter of a name. -/
structure Environment.AlikeFor (env₁ env₂ : Environment) (name : String) : Prop where
  now : name = Filter.now.name → env₁.now = env₂.now
  fingerprint : name = Filter.hash.name → env₁.fingerprint = env₂.fingerprint

variable {env₁ env₂ : Environment} {r : ParamResolver} {scope root : Value} {context : Context}

namespace Filter

theorem run_environment {filter : Filter} (h : env₁.AlikeFor env₂ filter.name) (scope : Value)
    (args : List (Option Value)) (piped : Option Value) :
    filter.run env₁ scope args piped = filter.run env₂ scope args piped := by
  cases filter with
  | now => simp only [run, h.now rfl]
  | hash => simp only [run, h.fingerprint rfl]
  | _ => rfl

theorem apply_environment {name : String} (h : env₁.AlikeFor env₂ name) (params : List String)
    (scope root : Value) (piped : Option Value) :
    apply env₁ r name params scope root piped = apply env₂ r name params scope root piped := by
  unfold apply
  split
  · rfl
  · rfl
  · rename_i filter _ hfilter
    rw [← name_of_ofName? hfilter] at h
    simp only [run_environment h]

end Filter

namespace Resolution

variable {t : Token} {p : Progress}

theorem applyFilters_environment {calls : List FilterCall}
    (h : ∀ call ∈ calls, env₁.AlikeFor env₂ call.name) (piped : Option Value) :
    applyFilters env₁ r scope root piped calls = applyFilters env₂ r scope root piped calls := by
  induction calls generalizing piped with
  | nil => rfl
  | cons call rest ih =>
    have hrest := ih fun c hc => h c (List.mem_cons_of_mem _ hc)
    simp only [applyFilters, Filter.apply_environment (h call List.mem_cons_self), hrest]

theorem resolveBody_environment (h : ∀ name ∈ t.filterNames, env₁.AlikeFor env₂ name) :
    resolveBody env₁ r root context t p = resolveBody env₂ r root context t p := by
  unfold resolveBody
  cases hk : t.kind with
  | call =>
    have hbody : env₁.AlikeFor env₂ t.body := h t.body (by simp [Token.filterNames, hk])
    simp only [Filter.apply_environment hbody]
  | _ => rfl

theorem resolveToken_environment (h : ∀ name ∈ t.filterNames, env₁.AlikeFor env₂ name) :
    resolveToken env₁ r scope root context t p = resolveToken env₂ r scope root context t p := by
  have hfilters : ∀ call ∈ t.filters, env₁.AlikeFor env₂ call.name :=
    fun call hcall => h call.name (Token.name_mem_filterNames hcall)
  simp only [resolveToken, resolveSwitch, resolveBody_environment h,
    applyFilters_environment hfilters]

theorem resolveTokens_environment {tokens : List Token}
    (h : ∀ t ∈ tokens, ∀ name ∈ t.filterNames, env₁.AlikeFor env₂ name) (p : Progress) :
    resolveTokens env₁ r scope root context tokens p =
      resolveTokens env₂ r scope root context tokens p := by
  induction tokens generalizing p with
  | nil => rfl
  | cons t rest ih =>
    have hrest := ih fun u hu => h u (List.mem_cons_of_mem _ hu)
    simp only [resolveTokens, resolveToken_environment (h t List.mem_cons_self), hrest]

/-- The tokens of an expression see the environment through the filters that they name. -/
theorem step_environment {expr : String}
    (h : ∀ t ∈ tokenize expr, ∀ name ∈ t.filterNames, env₁.AlikeFor env₂ name) :
    step env₁ r expr scope root context = step env₂ r expr scope root context := by
  simp only [step, resolveTokens_environment h]

end Resolution

/-- Environments that are the same to all filters of an expression give the same result. -/
theorem resolve_of_alikeFor {expr : String}
    (h : ∀ name, NamesFilter expr name → env₁.AlikeFor env₂ name) (scope root : Value)
    (context : Context) :
    resolve env₁ expr scope root context = resolve env₂ expr scope root context := by
  -- The data are general: a switch, a suffix and a predicate resolve their text against others.
  induction expr using nested_induction generalizing scope root context with
  | step expr ih =>
    have hnested : ∀ t ∈ tokenize expr,
        AgreeOn (evaluateIn env₁) (evaluateIn env₂) root root t.nested := by
      intro t ht text htext scope
      have hinside : ∀ name, NamesFilter text name → env₁.AlikeFor env₂ name :=
        fun name hname => h name (namesFilter_iff.mpr ⟨t, ht, Or.inr ⟨text, htext, hname⟩⟩)
      rw [evaluateIn, evaluateIn, ih t ht text htext hinside]
    have hhere : ∀ t ∈ tokenize expr, ∀ name ∈ t.filterNames, env₁.AlikeFor env₂ name :=
      fun t ht name hname => h name (namesFilter_iff.mpr ⟨t, ht, Or.inl hname⟩)
    rw [resolve_eq_step, resolve_eq_step, Resolution.step_environment hhere,
      Resolution.step_congr hnested (fun _ _ _ => rfl)]

/-- Environments of different times give the same result for an expression that names no filter for
the time, itself or inside, and environments of different fingerprints for one that takes none. -/
theorem resolve_environment {expr : String}
    (hnow : env₁.now = env₂.now ∨ ¬ NamesFilter expr "now")
    (hfingerprint : env₁.fingerprint = env₂.fingerprint ∨ ¬ NamesFilter expr "hash")
    (scope root : Value) (context : Context) :
    resolve env₁ expr scope root context = resolve env₂ expr scope root context := by
  refine resolve_of_alikeFor (fun name hname => ?_) scope root context
  constructor
  · rintro rfl
    exact hnow.resolve_right fun h => h hname
  · rintro rfl
    exact hfingerprint.resolve_right fun h => h hname

/-- A date is formatted and a fingerprint is taken of a list without a look at the time, and the
time is told without a fingerprint. -/
theorem resolve_environment_sampleTimes :
    resolve ⟨⟨0, 0⟩, id⟩ "days | filter(at | date('unix')) | hash"
          (.object [("days", .array [.object [("at", .int 2000)], .null])]) .null .value =
        resolve ⟨⟨7, 500⟩, id⟩ "days | filter(at | date('unix')) | hash"
          (.object [("days", .array [.object [("at", .int 2000)], .null])]) .null .value ∧
      resolve ⟨⟨7, 0⟩, fun _ => ""⟩ "now('unix')" .null .null .value =
        .ok ⟨.object, some (.int 7), none⟩ := by
  have hlist : tokenize "days | filter(at | date('unix')) | hash" =
      [⟨.path, "days", "days | filter(at | date('unix')) | hash", 0, 39, false, none, [],
        [⟨"filter", ["at|date('unix')"]⟩, ⟨"hash", []⟩]⟩] := by decide +kernel
  have hpredicate : tokenize "at|date('unix')" =
      [⟨.path, "at", "at|date('unix')", 0, 15, false, none, [], [⟨"date", ["'unix'"]⟩]⟩] := by
    decide +kernel
  have hcall : tokenize "now('unix')" =
      [⟨.call, "now", "now('unix')", 0, 11, false, none, ["'unix'"], []⟩] := by decide +kernel
  have hliteral :
      tokenize "'unix'" = [⟨.literal, "unix", "'unix'", 0, 6, false, none, [], []⟩] := by
    decide +kernel
  have hunnamed (name : String) : ¬ NamesFilter "'unix'" name := by
    rw [namesFilter_iff, hliteral]
    simp [Token.filterNames, Token.nested]
  have hdate : ¬ NamesFilter "at|date('unix')" "now" := by
    rw [namesFilter_iff, hpredicate]
    simp [Token.filterNames, Token.nested, hunnamed]
  have hnow : ¬ NamesFilter "days | filter(at | date('unix')) | hash" "now" := by
    rw [namesFilter_iff, hlist]
    simp [Token.filterNames, Token.nested, hdate]
  have hhash : ¬ NamesFilter "now('unix')" "hash" := by
    rw [namesFilter_iff, hcall]
    simp [Token.filterNames, Token.nested, hunnamed]
  have htime : Environment.fingerprint ⟨⟨0, 0⟩, id⟩ = Environment.fingerprint ⟨⟨7, 500⟩, id⟩ := rfl
  have hprint : Environment.now ⟨⟨7, 0⟩, fun _ => ""⟩ = Environment.now ⟨⟨7, 0⟩, id⟩ := rfl
  have htold : resolve ⟨⟨7, 0⟩, id⟩ "now('unix')" .null .null .value =
      .ok ⟨.object, some (.int 7), none⟩ := by cbv
  exact ⟨resolve_environment (Or.inr hnow) (Or.inl htime) _ _ _,
    (resolve_environment (Or.inl hprint) (Or.inr hhash) _ _ _).trans htold⟩

end Reshape
