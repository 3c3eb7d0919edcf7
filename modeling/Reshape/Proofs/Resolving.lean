import Reshape.Expression.Resolve
import Reshape.Proofs.TokenWeight

/-! What the value of an expression depends on: of the expressions inside it only their values, and
of the root nothing where no caret stands. -/
namespace Reshape

/-- Two resolvers, each with its root, give the same results for some expressions. -/
def AgreeOn (r₁ r₂ : ParamResolver) (root₁ root₂ : Value) (texts : List String) : Prop :=
  ∀ text ∈ texts, ∀ scope, r₁ text scope root₁ = r₂ text scope root₂

variable {env : Environment} {r₁ r₂ : ParamResolver} {root₁ root₂ : Value} {texts : List String}

theorem AgreeOn.subset (h : AgreeOn r₁ r₂ root₁ root₂ texts) {some : List String}
    (hs : ∀ text ∈ some, text ∈ texts) : AgreeOn r₁ r₂ root₁ root₂ some :=
  fun text ht => h text (hs text ht)

theorem AgreeOn.append {others : List String} : AgreeOn r₁ r₂ root₁ root₂ (texts ++ others) ↔
    AgreeOn r₁ r₂ root₁ root₂ texts ∧ AgreeOn r₁ r₂ root₁ root₂ others :=
  List.forall_mem_append

namespace Filter

theorem resolveParams_congr (h : AgreeOn r₁ r₂ root₁ root₂ texts) (scope : Value) :
    resolveParams r₁ scope root₁ texts = resolveParams r₂ scope root₂ texts := by
  induction texts with
  | nil => rfl
  | cons text rest ih =>
    have hrest := ih (h.subset fun text ht => List.mem_cons_of_mem _ ht)
    simp only [resolveParams, List.mapM_cons] at hrest ⊢
    rw [hrest, h text List.mem_cons_self]

theorem passes_congr (h : AgreeOn r₁ r₂ root₁ root₂ texts) (item : Value) :
    passes r₁ root₁ texts item = passes r₂ root₂ texts item := by
  induction texts with
  | nil => rfl
  | cons text rest ih =>
    have hrest := ih (h.subset fun text ht => List.mem_cons_of_mem _ ht)
    rw [passes, passes, h text List.mem_cons_self, hrest]

theorem selectItems_congr (h : AgreeOn r₁ r₂ root₁ root₂ texts) (items : List Value) :
    selectItems r₁ root₁ texts items = selectItems r₂ root₂ texts items := by
  induction items with
  | nil => rfl
  | cons item rest ih => rw [selectItems, selectItems, passes_congr h item, ih]

/-- A filter sees its parameters through the resolver only. -/
theorem apply_congr (h : AgreeOn r₁ r₂ root₁ root₂ texts) (name : String) (scope : Value)
    (piped : Option Value) :
    apply env r₁ name texts scope root₁ piped = apply env r₂ name texts scope root₂ piped := by
  have hparams := resolveParams_congr h scope
  unfold apply
  split
  · rfl
  · unfold keepItems
    split
    · rw [hparams, selectItems_congr h]
    · rfl
  · rw [hparams]

end Filter

namespace Resolution

theorem applyFilters_congr {calls : List FilterCall}
    (h : AgreeOn r₁ r₂ root₁ root₂ (calls.flatMap FilterCall.params)) (scope : Value)
    (piped : Option Value) :
    applyFilters env r₁ scope root₁ piped calls = applyFilters env r₂ scope root₂ piped calls := by
  induction calls generalizing piped with
  | nil => rfl
  | cons call rest ih =>
    rw [List.flatMap_cons] at h
    obtain ⟨hcall, hrest⟩ := AgreeOn.append.mp h
    rw [applyFilters, applyFilters, Filter.apply_congr hcall]
    congr 1
    funext value
    exact ih hrest value

theorem base_congr {rooted : Bool} (h : rooted = true → root₁ = root₂) (scope : Value) :
    (if rooted then root₁ else scope) = if rooted then root₂ else scope := by
  cases rooted with
  | false => rfl
  | true => exact h rfl

theorem resolveSwitch_congr {t : Token} (h : AgreeOn r₁ r₂ root₁ root₂ t.nested)
    (hroot : t.rooted = true → root₁ = root₂) (hk : t.kind = .scopeSwitch) (scope : Value)
    (p : Progress) :
    resolveSwitch env r₁ scope root₁ t p = resolveSwitch env r₂ scope root₂ t p := by
  have hinner := h t.innerExpression (Token.switch_mem_nested hk)
  have hfilters : AgreeOn r₁ r₂ root₁ root₂ (t.filters.flatMap FilterCall.params) :=
    h.subset Token.mem_nested_of_filters
  simp only [resolveSwitch, base_congr hroot, hinner, applyFilters_congr hfilters]

theorem resolveBody_congr {t : Token} (h : AgreeOn r₁ r₂ root₁ root₂ t.nested)
    (hroot : t.rooted = true → root₁ = root₂) (context : Context) (p : Progress) :
    resolveBody env r₁ root₁ context t p = resolveBody env r₂ root₂ context t p := by
  simp only [resolveBody, base_congr hroot]
  cases hk : t.kind with
  | path =>
    cases hs : t.shape with
    | none => rfl
    | some shape =>
      have hinner := h t.innerExpression (Token.suffix_mem_nested hk hs)
      simp only [resolveSuffix, hinner]
  | literal => rfl
  | scopeSwitch => rfl
  | embedded =>
    have hbody := h t.body (Token.body_mem_nested hk)
    simp only [hbody]
  | call =>
    have hparams : AgreeOn r₁ r₂ root₁ root₂ t.inner :=
      h.subset (Token.mem_nested_of_call hk)
    simp only [Filter.apply_congr hparams]

/-- A token takes its value from the expressions inside it, and from the root only behind a
caret. -/
theorem resolveToken_congr {t : Token} (h : AgreeOn r₁ r₂ root₁ root₂ t.nested)
    (hroot : t.rooted = true → root₁ = root₂) (scope : Value) (context : Context) (p : Progress) :
    resolveToken env r₁ scope root₁ context t p = resolveToken env r₂ scope root₂ context t p := by
  have hfilters : AgreeOn r₁ r₂ root₁ root₂ (t.filters.flatMap FilterCall.params) :=
    h.subset Token.mem_nested_of_filters
  unfold resolveToken
  split
  · rename_i hk
    exact resolveSwitch_congr h hroot hk scope p
  · simp only [resolveBody_congr h hroot, applyFilters_congr hfilters]

theorem resolveTokens_congr {tokens : List Token}
    (h : ∀ t ∈ tokens, AgreeOn r₁ r₂ root₁ root₂ t.nested)
    (hroot : ∀ t ∈ tokens, t.rooted = true → root₁ = root₂) (scope : Value) (context : Context)
    (p : Progress) :
    resolveTokens env r₁ scope root₁ context tokens p =
      resolveTokens env r₂ scope root₂ context tokens p := by
  induction tokens generalizing p with
  | nil => rfl
  | cons t rest ih =>
    have hfirst := h t List.mem_cons_self
    have hrest := ih (fun u hu => h u (List.mem_cons_of_mem _ hu))
      (fun u hu => hroot u (List.mem_cons_of_mem _ hu))
    simp only [resolveTokens, resolveToken_congr hfirst (hroot t List.mem_cons_self), hrest]

/-- An expression depends on the expressions inside it through their values only. -/
theorem step_congr {expr : String} (h : ∀ t ∈ tokenize expr, AgreeOn r₁ r₂ root₁ root₂ t.nested)
    (hroot : ∀ t ∈ tokenize expr, t.rooted = true → root₁ = root₂) (scope : Value)
    (context : Context) :
    step env r₁ expr scope root₁ context = step env r₂ expr scope root₂ context := by
  simp only [step, resolveTokens_congr h hroot]

end Resolution

/-- A depth above the length of an expression is enough for it. -/
theorem resolveWithin_stable {expr : String} {depth depth' : Nat} (h : expr.length < depth)
    (h' : expr.length < depth') (scope root : Value) (context : Context) :
    resolveWithin env depth expr scope root context =
      resolveWithin env depth' expr scope root context := by
  induction depth generalizing depth' expr scope root context with
  | zero => omega
  | succ depth ih =>
    obtain ⟨depth', rfl⟩ := Nat.exists_eq_add_one_of_ne_zero (Nat.ne_of_gt (Nat.zero_lt_of_lt h'))
    rw [resolveWithin, resolveWithin]
    refine Resolution.step_congr (fun t ht text htext scope => ?_) (fun _ _ _ => rfl) scope context
    have hlength := length_nested_lt ht htext
    have hdepth : text.length < depth := by omega
    show Except.map _ _ = Except.map _ _
    rw [ih hdepth (show text.length < depth' by omega)]

theorem resolveWithin_eq_resolve {expr : String} {depth : Nat} (h : expr.length < depth)
    (scope root : Value) (context : Context) :
    resolveWithin env depth expr scope root context = resolve env expr scope root context :=
  resolveWithin_stable h (Nat.lt_succ_self _) scope root context

/-- Resolving an expression resolves the expressions inside it in the same way. -/
theorem resolve_eq_step (expr : String) (scope root : Value) (context : Context) :
    resolve env expr scope root context =
      Resolution.step env (evaluateIn env) expr scope root context := by
  rw [resolve, resolveWithin]
  refine Resolution.step_congr (fun t ht text htext scope => ?_) (fun _ _ _ => rfl) scope context
  show Except.map _ _ = Except.map _ _
  rw [resolveWithin_eq_resolve (length_nested_lt ht htext)]

/-- Without a caret no expression sees the root. -/
theorem resolveWithin_root {expr : String} (h : '^' ∉ expr.toList) (depth : Nat)
    (scope root₁ root₂ : Value) (context : Context) :
    resolveWithin env depth expr scope root₁ context =
      resolveWithin env depth expr scope root₂ context := by
  induction depth generalizing expr scope context with
  | zero => rfl
  | succ depth ih =>
    rw [resolveWithin, resolveWithin]
    refine Resolution.step_congr (fun t ht text htext scope => ?_) (fun t ht hr => ?_) scope context
    · have hcaret : '^' ∉ text.toList := fun hc => h (mem_of_mem_nested ht htext hc)
      show Except.map _ _ = Except.map _ _
      rw [ih hcaret]
    · exact (h (caret_mem_of_rooted ht hr)).elim

theorem evaluateIn_root {expr : String} (h : '^' ∉ expr.toList) (scope root₁ root₂ : Value) :
    evaluateIn env expr scope root₁ = evaluateIn env expr scope root₂ := by
  rw [evaluateIn, evaluateIn, resolve, resolve, resolveWithin_root h _ scope root₁ root₂]

/-- An expression without a caret comes out the same under every root: its value, its shape and the
scope for what is nested below, or its error. -/
theorem resolve_root {expr : String} (h : '^' ∉ expr.toList) (scope root₁ root₂ : Value)
    (context : Context) :
    resolve env expr scope root₁ context = resolve env expr scope root₂ context :=
  resolveWithin_root h _ scope root₁ root₂ context

def sampleLines : Value := .array [.object [("due", .bool true)], .object []]

/-- A suffix, a predicate on elements, filters, and a scope switch in double braces, under a root
that has other values for all paths in them. -/
theorem resolve_root_sampleLines :
    '^' ∉ "due[lines] lines|filter(due)|count \x7b\x7b[order]id\x7d\x7d".toList ∧
      resolve ⟨⟨0, 0⟩, id⟩ "due[lines] lines|filter(due)|count \x7b\x7b[order]id\x7d\x7d"
          (.object [("order", .object [("id", .int 7)]), ("lines", sampleLines)])
          (.object [("due", .int 1), ("lines", .array []), ("order", .null), ("id", .int 8)]) .key =
        .ok ⟨.array, some (.string "due 1 7"), some sampleLines⟩ := by
  have hcaret : '^' ∉ "due[lines] lines|filter(due)|count \x7b\x7b[order]id\x7d\x7d".toList := by
    decide
  exact ⟨hcaret, (resolve_root hcaret _ _ .null .key).trans (by cbv)⟩

end Reshape
