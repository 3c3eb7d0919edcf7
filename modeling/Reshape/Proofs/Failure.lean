import Reshape.Proofs.Occurrence
import Reshape.Proofs.Outcome
import Reshape.Proofs.Resolving

/-! How expressions fail: by a filter that is unknown, and where no filter selects elements whatever
the data may be. -/
namespace Reshape

variable {R : FailureRelation ResolveError} {env₁ env₂ : Environment} {r₁ r₂ : ParamResolver}
  {texts : List String}

/-- Two resolvers are related on some expressions, whatever these are resolved against. -/
def RelatedOn (R : FailureRelation ResolveError) (r₁ r₂ : ParamResolver) (texts : List String) :
    Prop :=
  ∀ text ∈ texts, ∀ scope₁ root₁ scope₂ root₂, R.Holds (r₁ text scope₁ root₁) (r₂ text scope₂ root₂)

theorem RelatedOn.subset (h : RelatedOn R r₁ r₂ texts) {some : List String}
    (hs : ∀ text ∈ some, text ∈ texts) : RelatedOn R r₁ r₂ some :=
  fun text ht => h text (hs text ht)

theorem RelatedOn.append {others : List String} : RelatedOn R r₁ r₂ (texts ++ others) ↔
    RelatedOn R r₁ r₂ texts ∧ RelatedOn R r₁ r₂ others :=
  List.forall_mem_append

/-- The error of an unknown filter is related to itself. -/
def Permits (R : FailureRelation ResolveError) (name : String) : Prop :=
  Filter.ofName? name = none →
    R.Holds (.error (.unknownFilter name) : Except ResolveError (Option Value))
      (.error (.unknownFilter name))

/-- Selecting elements by some predicates is related to itself for all data. -/
def PermitsSelection (R : FailureRelation ResolveError) (params : List String) : Prop :=
  ∀ r₁ r₂, RelatedOn R r₁ r₂ params → ∀ scope₁ root₁ piped₁ scope₂ root₂ piped₂,
    R.Holds (Filter.keepItems r₁ params scope₁ root₁ piped₁)
      (Filter.keepItems r₂ params scope₂ root₂ piped₂)

namespace Filter

theorem resolveParams_related (h : RelatedOn R r₁ r₂ texts) (scope₁ root₁ scope₂ root₂ : Value) :
    R.Holds (resolveParams r₁ scope₁ root₁ texts) (resolveParams r₂ scope₂ root₂ texts) := by
  induction texts with
  | nil => exact R.ok [] []
  | cons text rest ih =>
    have hrest := ih (h.subset fun text ht => List.mem_cons_of_mem _ ht)
    simp only [resolveParams, List.mapM_cons] at hrest ⊢
    exact R.bind (h text List.mem_cons_self scope₁ root₁ scope₂ root₂) fun _ _ =>
      R.bind hrest fun _ _ => R.ok _ _

/-- All filters resolve all of their parameters, but for the one that selects elements. That one
resolves nothing when nothing is piped to it. -/
theorem apply_related {name : String} {piped₁ piped₂ : Option Value} (hname : Permits R name)
    (h : RelatedOn R r₁ r₂ texts)
    (hselect : name = Filter.select.name →
      PermitsSelection R texts ∨ piped₁ = none ∧ piped₂ = none)
    (scope₁ root₁ scope₂ root₂ : Value) :
    R.Holds (apply env₁ r₁ name texts scope₁ root₁ piped₁)
      (apply env₂ r₂ name texts scope₂ root₂ piped₂) := by
  unfold apply
  split
  · rename_i hnone
    exact hname hnone
  · rename_i hfilter
    rcases hselect (name_of_ofName? hfilter).symm with hkeep | ⟨rfl, rfl⟩
    · exact hkeep r₁ r₂ h scope₁ root₁ piped₁ scope₂ root₂ piped₂
    · exact R.ok none none
  · exact R.bind (resolveParams_related h scope₁ root₁ scope₂ root₂) fun _ _ => R.ok _ _

end Filter

/-- What a token asks of a relation so that its results are related for all data. -/
structure Token.Permitted (R : FailureRelation ResolveError) (t : Token) : Prop where
  names : ∀ name ∈ t.filterNames, Permits R name
  selections : ∀ call ∈ t.filters, call.name = Filter.select.name → PermitsSelection R call.params

namespace Resolution

variable {scope₁ root₁ scope₂ root₂ : Value} {context₁ context₂ : Context} {t : Token}

theorem applyFilters_related {calls : List FilterCall}
    (hnames : ∀ call ∈ calls, Permits R call.name)
    (hselect : ∀ call ∈ calls, call.name = Filter.select.name → PermitsSelection R call.params)
    (h : RelatedOn R r₁ r₂ (calls.flatMap FilterCall.params)) (piped₁ piped₂ : Option Value) :
    R.Holds (applyFilters env₁ r₁ scope₁ root₁ piped₁ calls)
      (applyFilters env₂ r₂ scope₂ root₂ piped₂ calls) := by
  induction calls generalizing piped₁ piped₂ with
  | nil => exact R.ok piped₁ piped₂
  | cons call rest ih =>
    rw [List.flatMap_cons] at h
    obtain ⟨hcall, hrest⟩ := RelatedOn.append.mp h
    rw [applyFilters, applyFilters]
    refine R.bind (Filter.apply_related (hnames call List.mem_cons_self) hcall (fun hname => ?_)
      scope₁ root₁ scope₂ root₂) ?_
    · exact Or.inl (hselect call List.mem_cons_self hname)
    · exact ih (fun c hc => hnames c (List.mem_cons_of_mem _ hc))
        (fun c hc => hselect c (List.mem_cons_of_mem _ hc)) hrest

theorem filters_related (ht : t.Permitted R) (h : RelatedOn R r₁ r₂ t.nested)
    (scope₁ root₁ scope₂ root₂ : Value) (piped₁ piped₂ : Option Value) :
    R.Holds (applyFilters env₁ r₁ scope₁ root₁ piped₁ t.filters)
      (applyFilters env₂ r₂ scope₂ root₂ piped₂ t.filters) :=
  applyFilters_related (fun call hcall => ht.names call.name (Token.name_mem_filterNames hcall))
    ht.selections (h.subset Token.mem_nested_of_filters) piped₁ piped₂

theorem resolveSwitch_related (ht : t.Permitted R) (h : RelatedOn R r₁ r₂ t.nested)
    (hk : t.kind = .scopeSwitch) (p₁ p₂ : Progress) :
    R.Holds (resolveSwitch env₁ r₁ scope₁ root₁ t p₁)
      (resolveSwitch env₂ r₂ scope₂ root₂ t p₂) := by
  have hinner := h t.innerExpression (Token.switch_mem_nested hk)
  exact R.bind (hinner _ _ _ _) fun _ _ =>
    R.bind (filters_related ht h _ _ _ _ _ _) fun _ _ => R.ok _ _

/-- A suffix is resolved whether its path leads anywhere or not. -/
theorem resolveSuffix_related {shape : Shape} {value₁ value₂ : Option Value} {p₁ p₂ : Progress}
    (h : ∀ scope₁ root₁ scope₂ root₂,
      R.Holds (r₁ t.innerExpression scope₁ root₁) (r₂ t.innerExpression scope₂ root₂)) :
    R.Holds (resolveSuffix r₁ root₁ context₁ t shape value₁ p₁)
      (resolveSuffix r₂ root₂ context₂ t shape value₂ p₂) := by
  refine R.bind (h _ _ _ _) fun child₁ child₂ => ?_
  cases child₁ <;> cases child₂ <;> cases context₁ <;> cases context₂ <;> exact R.ok _ _

theorem resolveBody_related (ht : t.Permitted R) (h : RelatedOn R r₁ r₂ t.nested)
    (p₁ p₂ : Progress) :
    R.Holds (resolveBody env₁ r₁ root₁ context₁ t p₁)
      (resolveBody env₂ r₂ root₂ context₂ t p₂) := by
  simp only [resolveBody]
  cases hk : t.kind with
  | path =>
    cases hs : t.shape with
    | none => exact R.ok _ _
    | some shape =>
      exact resolveSuffix_related (h t.innerExpression (Token.suffix_mem_nested hk hs))
  | literal => exact R.ok _ _
  | scopeSwitch => exact R.ok _ _
  | embedded =>
    have hbody := h t.body (Token.body_mem_nested hk)
    exact R.bind (hbody _ _ _ _) fun _ _ => R.ok _ _
  | call =>
    have hname := ht.names t.body (by simp [Token.filterNames, hk])
    have hparams : RelatedOn R r₁ r₂ t.inner :=
      h.subset (Token.mem_nested_of_call hk)
    exact R.bind (Filter.apply_related hname hparams (fun _ => Or.inr ⟨rfl, rfl⟩) _ _ _ _)
      fun _ _ => R.ok _ _

theorem resolveToken_related (ht : t.Permitted R) (h : RelatedOn R r₁ r₂ t.nested)
    (p₁ p₂ : Progress) :
    R.Holds (resolveToken env₁ r₁ scope₁ root₁ context₁ t p₁)
      (resolveToken env₂ r₂ scope₂ root₂ context₂ t p₂) := by
  unfold resolveToken
  split
  · rename_i hk
    exact resolveSwitch_related ht h hk p₁ p₂
  · exact R.bind (resolveBody_related ht h p₁ p₂) fun _ _ =>
      R.bind (filters_related ht h _ _ _ _ _ _) fun _ _ => R.ok _ _

theorem resolveTokens_related {tokens : List Token} (ht : ∀ t ∈ tokens, t.Permitted R)
    (h : ∀ t ∈ tokens, RelatedOn R r₁ r₂ t.nested) (p₁ p₂ : Progress) :
    R.Holds (resolveTokens env₁ r₁ scope₁ root₁ context₁ tokens p₁)
      (resolveTokens env₂ r₂ scope₂ root₂ context₂ tokens p₂) := by
  induction tokens generalizing p₁ p₂ with
  | nil => exact R.ok _ _
  | cons t rest ih =>
    have hrest := ih (fun u hu => ht u (List.mem_cons_of_mem _ hu))
      (fun u hu => h u (List.mem_cons_of_mem _ hu))
    rw [resolveTokens, resolveTokens]
    refine R.bind (resolveToken_related (ht t List.mem_cons_self) (h t List.mem_cons_self) p₁ p₂) ?_
    exact fun a b => R.bind (hrest a.2 b.2) fun _ _ => R.ok _ _

end Resolution

/-- What all tokens of an expression permit holds between any two results of the expression. -/
theorem resolve_related {expr : String} (h : ∀ t : Token, t.OccursIn expr → t.Permitted R)
    (scope₁ root₁ scope₂ root₂ : Value) (context₁ context₂ : Context) :
    R.Holds (resolve env₁ expr scope₁ root₁ context₁)
      (resolve env₂ expr scope₂ root₂ context₂) := by
  -- The data are general: a switch, a suffix and a predicate resolve their text against others.
  induction expr using nested_induction generalizing scope₁ root₁ scope₂ root₂ context₁ context₂
    with
  | step expr ih =>
    rw [resolve_eq_step, resolve_eq_step]
    have hnested : ∀ t ∈ tokenize expr,
        RelatedOn R (evaluateIn env₁) (evaluateIn env₂) t.nested := by
      intro t ht text htext scope₁ root₁ scope₂ root₂
      have hinside := ih t ht text htext (fun u hu => h u (.inside ht htext hu))
      exact R.map (hinside scope₁ root₁ scope₂ root₂ .value .value) _
    exact R.bind (Resolution.resolveTokens_related (fun t ht => h t (.here ht)) hnested _ _)
      fun _ _ => R.ok _ _

/-- Where no filter selects elements, an expression gives a value for all scopes, roots and contexts
or for none, and when it fails the same filter is unknown. -/
theorem resolve_failure_of_text {expr : String}
    (h : ∀ t : Token, t.OccursIn expr → ∀ call ∈ t.filters, call.name ≠ Filter.select.name)
    (scope₁ root₁ scope₂ root₂ : Value) (context₁ context₂ : Context) :
    ((∃ resolved, resolve env₁ expr scope₁ root₁ context₁ = .ok resolved) ↔
        ∃ resolved, resolve env₂ expr scope₂ root₂ context₂ = .ok resolved) ∧
      ∀ name, resolve env₁ expr scope₁ root₁ context₁ = .error (.unknownFilter name) ↔
        resolve env₂ expr scope₂ root₂ context₂ = .error (.unknownFilter name) := by
  have hpermitted : ∀ t : Token, t.OccursIn expr → t.Permitted (.alike ResolveError) := by
    intro t ht
    exact ⟨fun name _ _ => FailAlike.error (ResolveError.unknownFilter name),
      fun call hcall hname => (h t ht call hcall hname).elim⟩
  have halike : FailAlike (resolve env₁ expr scope₁ root₁ context₁)
      (resolve env₂ expr scope₂ root₂ context₂) :=
    resolve_related hpermitted scope₁ root₁ scope₂ root₂ context₁ context₂
  exact ⟨halike.exists_ok_iff, fun name => halike.eq_error_iff (.unknownFilter name)⟩

/-- The parameter of a fallback fails although the value that is piped needs none. -/
theorem resolve_failure_in_fallback :
    (∀ t : Token, t.OccursIn "a | default(b | nope)" →
        ∀ call ∈ t.filters, call.name ≠ Filter.select.name) ∧
      resolve ⟨⟨0, 0⟩, id⟩ "a | default(b | nope)" (.object [("a", .int 1)]) .null .key =
        .error (.unknownFilter "nope") := by
  have houter : tokenize "a | default(b | nope)" =
      [⟨.path, "a", "a | default(b | nope)", 0, 21, false, none, [],
        [⟨"default", ["b|nope"]⟩]⟩] := by
    cbv
  have hinner : tokenize "b|nope" =
      [⟨.path, "b", "b|nope", 0, 6, false, none, [], [⟨"nope", []⟩]⟩] := by cbv
  have hparam : ∀ t : Token, t.OccursIn "b|nope" → ∀ call ∈ t.filters, call.name ≠ "filter" := by
    intro t ht
    rw [Token.occursIn_iff, hinner] at ht
    simp_all [Token.nested]
  have hnone : ∀ t : Token, t.OccursIn "a | default(b | nope)" →
      ∀ call ∈ t.filters, call.name ≠ Filter.select.name := by
    intro t ht
    rw [Token.occursIn_iff, houter] at ht
    simp only [List.mem_singleton, exists_eq_left, Token.nested] at ht
    rcases ht with rfl | ht
    · simp [Filter.name]
    · exact hparam t (by simpa using ht)
  have hnull : resolve ⟨⟨0, 0⟩, id⟩ "a | default(b | nope)" .null .null .value =
      .error (.unknownFilter "nope") := by cbv
  exact ⟨hnone, ((resolve_failure_of_text hnone .null .null _ .null .value .key).2 "nope").mp hnull⟩

end Reshape
