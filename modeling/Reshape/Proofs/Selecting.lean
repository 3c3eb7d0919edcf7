import Reshape.Proofs.Composing

/-! Selecting the elements of an array, by predicates and by a key with an operator and a value. The
operators select what the filters for comparison select as predicates. -/
namespace Reshape

open Value

variable {env : Environment} {scope root : Value} {items : List Value}

namespace Filter

variable {resolver : ParamResolver} {params : List String}

/-- Predicates that do not fail keep the elements that pass them. -/
theorem selectItems_of_passes {test : Value → Bool}
    (h : ∀ item ∈ items, passes resolver root params item = .ok (test item)) :
    selectItems resolver root params items = .ok (items.filter test) := by
  induction items with
  | nil => rfl
  | cons item rest ih =>
    have hrest := ih fun other ho => h other (List.mem_cons_of_mem _ ho)
    rw [selectItems, h item List.mem_cons_self, hrest]
    cases ht : test item with
    | true => exact congrArg Except.ok (List.filter_cons_of_pos ht).symm
    | false => exact congrArg Except.ok (List.filter_cons_of_neg (by simp [ht])).symm

theorem passes_singleton {param : String} {item : Value} {verdict : Option Value}
    (h : resolver param item root = .ok verdict) :
    passes resolver root [param] item = .ok (truthy verdict) := by
  rw [passes, h]
  show (if truthy verdict = true then passes resolver root [] item else .ok false) = _
  cases truthy verdict <;> rfl

/-- When every parameter has a value, the values are the arguments. -/
theorem resolveParams_of_forall₂ {args : List (Option Value)}
    (h : List.Forall₂ (fun param arg => resolver param scope root = .ok arg) params args) :
    resolveParams resolver scope root params = .ok args := by
  induction h with
  | nil => rfl
  | cons hparam _ ih =>
    simp only [resolveParams, List.mapM_cons] at ih ⊢
    rw [hparam, ih]
    rfl

theorem ofName?_name (f : Filter) : ofName? f.name = some f := by
  cases f <;> rfl

end Filter

/-- A filter that selects nothing resolves its parameters and works on their values. -/
theorem applyFilter_eq_run {f : Filter} (hf : f ≠ .select) (params : List String)
    (piped : Option Value) :
    applyFilter env f.name params scope root piped =
      Filter.resolveParams (evaluateIn env) scope root params >>= fun args =>
        .ok (f.run env scope args piped) := by
  rw [applyFilter, Filter.apply, Filter.ofName?_name]
  split
  · rename_i hunknown
    cases hunknown
  · rename_i hselect
    exact absurd (Option.some.inj hselect) hf
  · rename_i g _ hg
    obtain rfl : f = g := Option.some.inj hg
    rfl

theorem applyFilter_of_resolved {f : Filter} (hf : f ≠ .select) {params : List String}
    {args : List (Option Value)}
    (h : Filter.resolveParams (evaluateIn env) scope root params = .ok args)
    (piped : Option Value) :
    applyFilter env f.name params scope root piped = .ok (f.run env scope args piped) := by
  rw [applyFilter_eq_run hf, h]
  rfl

/-- A single parameter is the only argument. -/
theorem applyFilter_of_evaluateIn {f : Filter} (hf : f ≠ .select) {param : String}
    {arg : Option Value} (h : evaluateIn env param scope root = .ok arg) (piped : Option Value) :
    applyFilter env f.name [param] scope root piped = .ok (f.run env scope [arg] piped) :=
  applyFilter_of_resolved hf (Filter.resolveParams_of_forall₂ (.cons h .nil)) piped

theorem evaluateIn_path {path : String} (h : IsPath path) (scope root : Value) :
    evaluateIn env path scope root = .ok (scope.atPath path) := by
  rw [evaluateIn, resolve_path h]
  unfold Resolution.lookup
  cases scope.atPath path <;> rfl

/-- Every value is that of some expression in some scope. -/
theorem evaluateIn_singleKey (v : Value) :
    evaluateIn env "n" (.object [("n", v)]) root = .ok (some v) := by
  have hpath : IsPath "n" := ⟨by simp, List.all_eq_true.mp rfl, by simp⟩
  have hsegments : pathSegments "n" = ["n"] := by cbv
  rw [evaluateIn_path hpath]
  simp [atPath, hsegments, descend, child?]

/-- A filter right behind an expression of one token is applied to its value. -/
theorem evaluateIn_pipe (env : Environment) (d : Phrase) (f : Pipe)
    (hkind : d.primary.token.kind ≠ .scopeSwitch) (scope root : Value) :
    evaluateIn env (String.ofList (Phrase.mk d.primary (d.pipes ++ [f])).print) scope root =
      evaluateIn env (String.ofList d.print) scope root >>=
        applyFilter env f.call.name f.call.params scope root := by
  have hbare (d : Phrase) : d.print = printPhrases .empty [(.empty, d)] := by
    simp [printPhrases, Blanks.empty]
  rw [evaluateIn, evaluateIn, hbare, resolve_pipe .empty .empty .empty d f hkind, ← hbare]
  cases resolve env (String.ofList d.print) scope root .value with
  | error e => rfl
  | ok resolved =>
    show Except.map _ (Except.map _ (applyFilter env f.call.name f.call.params scope root
      resolved.value)) = applyFilter env f.call.name f.call.params scope root resolved.value
    cases applyFilter env f.call.name f.call.params scope root resolved.value <;> rfl

/-- A filter right behind a bar. -/
def Filter.pipe (f : Filter) (params : Option Params) : Pipe :=
  ⟨.empty, .empty, ⟨f.name.toList, by simpa using (isFilterName_name f).1, (isFilterName_name f).2⟩,
    params⟩

theorem isParam_quote {s : String} (h : '\'' ∉ s.toList) : IsParam (quote s) := by
  have hquoted : BalancedBy isParamChar ('\'' :: (s.toList ++ '\'' :: [])) := .quoted h .nil
  exact ⟨by simp [quote, ← String.toList_inj], by simpa [quote] using hquoted⟩

theorem resolveParams_quote {texts : List String} (h : ∀ s ∈ texts, '\'' ∉ s.toList)
    (scope root : Value) :
    Filter.resolveParams (evaluateIn env) scope root (texts.map quote) =
      .ok (texts.map fun s => some (.string s)) := by
  apply Filter.resolveParams_of_forall₂
  rw [List.forall₂_map_left_iff, List.forall₂_map_right_iff, List.forall₂_same]
  intro s hs
  rw [evaluateIn, resolve_quote (h s hs)]
  rfl

/-- A path with a filter right behind it that takes a text. -/
def tested (path : String) (f : Filter) (s : String) : String :=
  path ++ "|" ++ f.name ++ "(" ++ quote s ++ ")"

theorem exists_tested {path s : String} (hpath : IsPath path) (f : Filter) (hs : '\'' ∉ s.toList) :
    ∃ (n : Name) (p : Pipe), String.ofList (Phrase.mk (.path false n) []).print = path ∧
      String.ofList (Phrase.mk (.path false n) [p]).print = tested path f s ∧
      p.call = ⟨f.name, [quote s]⟩ := by
  obtain ⟨n, hn⟩ := hpath.exists_name
  refine ⟨n, f.pipe (some (.listed (bareParam (quote s) (isParam_quote hs)) [])), ?_, ?_, ?_⟩
  · simp [Phrase.print, Primary.print, printPipes, printCaret, hn]
  · simp [Phrase.print, Primary.print, printPipes, printCaret, hn, tested, Filter.pipe, Pipe.print,
      Params.print, Param.print, printMore, bareParam, Blanks.empty, ← String.toList_inj]
  · simp [Filter.pipe, Pipe.call, Params.texts, bareParam]

/-- The value of the path is looked up in the element and goes through the filter. -/
theorem evaluateIn_tested {path s : String} {f : Filter} (hpath : IsPath path)
    (hs : '\'' ∉ s.toList) (hf : f ≠ .select) (item root : Value) :
    evaluateIn env (tested path f s) item root =
      .ok (f.run env item [some (.string s)] (item.atPath path)) := by
  obtain ⟨n, p, hprint, htested, hcall⟩ := exists_tested hpath f hs
  have hkind : (Phrase.mk (.path false n) []).primary.token.kind ≠ .scopeSwitch := by
    simp [Primary.token, Token.empty]
  have hparams : Filter.resolveParams (evaluateIn env) item root [quote s] =
      .ok [some (.string s)] := resolveParams_quote (List.forall_mem_singleton.mpr hs) item root
  have hpipe := evaluateIn_pipe env ⟨.path false n, []⟩ p hkind item root
  rw [hprint, evaluateIn_path hpath, List.nil_append, htested, hcall] at hpipe
  rw [hpipe]
  exact applyFilter_of_resolved hf hparams (item.atPath path)

/-- What comes out of the filter may be negated. -/
theorem evaluateIn_tested_not {path s : String} {f : Filter} (hpath : IsPath path)
    (hs : '\'' ∉ s.toList) (hf : f ≠ .select) (item root : Value) :
    evaluateIn env (tested path f s ++ "|not") item root =
      .ok (some (.bool (!truthy (f.run env item [some (.string s)] (item.atPath path))))) := by
  obtain ⟨n, p, -, htested, -⟩ := exists_tested hpath f hs
  have hkind : (Phrase.mk (.path false n) [p]).primary.token.kind ≠ .scopeSwitch := by
    simp [Primary.token, Token.empty]
  have hnot : String.ofList (Phrase.mk (.path false n) ([p] ++ [Filter.not.pipe none])).print =
      tested path f s ++ "|not" := by
    rw [← htested]
    simp [Phrase.print, printPipes, Filter.pipe, Pipe.print, Blanks.empty, Filter.name,
      ← String.toList_inj]
  have hpipe := evaluateIn_pipe env ⟨.path false n, [p]⟩ (Filter.not.pipe none) hkind item root
  rw [hnot, htested, evaluateIn_tested hpath hs hf] at hpipe
  rw [hpipe]
  have hparams : Filter.resolveParams (evaluateIn env) item root [] = .ok [] := rfl
  exact applyFilter_of_resolved (f := .not) (by decide) hparams _

/-- The operators that are filters under another name. -/
def comparisons : List (String × Filter) :=
  [("=", .equal), (">", .greater), (">=", .greaterEqual), ("<", .less), ("<=", .lessEqual)]

/-- For a text to compare with, a filter asks what its operator asks of a value that is there, and
nothing passes that is not. -/
theorem truthy_run_comparison {operator : String} {f : Filter} (h : (operator, f) ∈ comparisons)
    (scope : Value) (s : String) (actual : Option Value) :
    truthy (f.run env scope [some (.string s)] actual) =
      actual.any fun v => Filter.compareBy operator v (some (.string s)) := by
  simp only [comparisons, List.mem_cons, Prod.mk.injEq, List.not_mem_nil, or_false] at h
  rcases h with ⟨rfl, rfl⟩ | ⟨rfl, rfl⟩ | ⟨rfl, rfl⟩ | ⟨rfl, rfl⟩ | ⟨rfl, rfl⟩ <;>
    cases actual <;> rfl

theorem plain_of_mem_comparisons {operator : String} {f : Filter}
    (h : (operator, f) ∈ comparisons) : '\'' ∉ operator.toList ∧ f ≠ .select := by
  have hall : ∀ c ∈ comparisons, '\'' ∉ c.1.toList ∧ c.2 ≠ .select := by decide
  exact hall (operator, f) h

/-- The negated test for equality, of values that are there, is the operator of inequality. -/
theorem truthy_not_equal (scope : Value) (s : String) (actual : Option Value) :
    (truthy (some (.bool (!truthy (Filter.equal.run env scope [some (.string s)] actual)))) &&
        actual.isSome) =
      actual.any fun v => Filter.compareBy "!=" v (some (.string s)) := by
  cases actual with
  | none => rfl
  | some v =>
    rw [Option.isSome_some, Bool.and_true]
    rfl

theorem applyFilter_select (params : List String) (piped : Option Value) :
    applyFilter env "filter" params scope root piped =
      Filter.keepItems (evaluateIn env) params scope root piped := rfl

/-- A quoted key with a quoted operator and a quoted text selects by what stands at the key. -/
theorem applyFilter_select_byKey {key operator s : String} (hkey : '\'' ∉ key.toList)
    (hoperator : '\'' ∉ operator.toList) (hs : '\'' ∉ s.toList) (items : List Value) :
    applyFilter env "filter" [quote key, quote operator, quote s] scope root (some (.array items)) =
      .ok (some (.array (items.filter fun item =>
        (item.atPath key).any fun v => Filter.compareBy operator v (some (.string s))))) := by
  have hquoted : ∀ text ∈ [key, operator, s], '\'' ∉ text.toList := by
    simp [hkey, hoperator, hs]
  have hparams : Filter.resolveParams (evaluateIn env) scope root
      [quote key, quote operator, quote s] =
        .ok [some (.string key), some (.string operator), some (.string s)] :=
    resolveParams_quote hquoted scope root
  have hnames : Filter.namesKey [quote key, quote operator, quote s] = true := by
    simp [Filter.namesKey, quote]
  rw [applyFilter_select, Filter.keepItems, if_pos hnames, hparams]
  rfl

/-- A predicate that does not fail selects the elements for which it is true. -/
theorem applyFilter_select_predicate {param : String} (hparam : param.toList.head? ≠ some '\'')
    {verdict : Value → Option Value}
    (h : ∀ item ∈ items, evaluateIn env param item root = .ok (verdict item)) :
    applyFilter env "filter" [param] scope root (some (.array items)) =
      .ok (some (.array (items.filter fun item => truthy (verdict item)))) := by
  have hnames : ¬ Filter.namesKey [param] = true := by simpa [Filter.namesKey] using hparam
  have hselect := Filter.selectItems_of_passes fun item hitem =>
    Filter.passes_singleton (h item hitem)
  rw [applyFilter_select, Filter.keepItems, if_neg hnames, hselect]
  rfl

theorem head_tested {path : String} (hpath : IsPath path) (f : Filter) (s : String)
    (more : List Char) :
    ((tested path f s).toList ++ more).head? ≠ some '\'' := by
  have hne : path.toList ≠ [] := by simpa using hpath.nonempty
  obtain ⟨c, rest, hpath'⟩ := List.exists_cons_of_ne_nil hne
  have hc : isWordChar c = true := hpath.plain c (by simp [hpath'])
  simp only [tested, String.toList_append, hpath', List.cons_append, List.head?_cons, ne_eq,
    Option.some.injEq]
  rintro rfl
  simp [isWordChar, isDelimiter] at hc

/-- Selecting by a key, an operator and a text is the same as selecting by the predicate that sends
the key through the filter of the operator. For the operator of inequality it is the same as by the
negated predicate, among the elements that have the key. -/
theorem applyFilter_select_agrees {key s : String} (hkey : IsPath key) (hs : '\'' ∉ s.toList)
    (items : List Value) (scope root : Value) :
    (∀ operator f, (operator, f) ∈ comparisons → ∃ kept,
      applyFilter env "filter" [quote key, quote operator, quote s] scope root
          (some (.array items)) = .ok (some (.array kept)) ∧
        applyFilter env "filter" [tested key f s] scope root (some (.array items)) =
          .ok (some (.array kept))) ∧
    ∃ kept,
      applyFilter env "filter" [quote key, quote "!=", quote s] scope root (some (.array items)) =
          .ok (some (.array kept)) ∧
        applyFilter env "filter" [tested key .equal s ++ "|not"] scope root
            (some (.array (items.filter fun item => (item.atPath key).isSome))) =
          .ok (some (.array kept)) := by
  have hquote : '\'' ∉ key.toList := by
    intro hmem
    simpa [isWordChar, isDelimiter] using hkey.plain '\'' hmem
  constructor
  · intro operator f hcomparison
    obtain ⟨hoperator, hf⟩ := plain_of_mem_comparisons hcomparison
    have hhead : (tested key f s).toList.head? ≠ some '\'' := by
      simpa using head_tested hkey f s []
    refine ⟨_, applyFilter_select_byKey hquote hoperator hs items, ?_⟩
    rw [applyFilter_select_predicate hhead fun item _ => evaluateIn_tested hkey hs hf item root]
    simp only [truthy_run_comparison hcomparison]
  · have hhead : (tested key .equal s ++ "|not").toList.head? ≠ some '\'' := by
      simpa using head_tested hkey .equal s "|not".toList
    refine ⟨_, applyFilter_select_byKey hquote (by decide) hs items, ?_⟩
    rw [applyFilter_select_predicate hhead fun item _ =>
      evaluateIn_tested_not hkey hs (by decide) item root, List.filter_filter]
    simp only [truthy_not_equal]

/-- Elements with the text under the key, with a null there, and without the key. -/
def sampleStocks : List Value :=
  [.object [("a", .object [("b", .string "v")])], .object [("a", .object [("b", .null)])],
    .object [("a", .array [])], .string "v", .null]

theorem applyFilter_select_agrees_sampleStocks :
    IsPath "a.b" ∧ '\'' ∉ "v".toList ∧
      applyFilter ⟨⟨0, 0⟩, id⟩ "filter" ["a.b|eq('v')"] .null .null
          (some (.array sampleStocks)) = .ok (some (.array (sampleStocks.take 1))) ∧
        applyFilter ⟨⟨0, 0⟩, id⟩ "filter" ["a.b|eq('v')|not"] .null .null
          (some (.array (sampleStocks.take 2))) =
            .ok (some (.array [.object [("a", .object [("b", .null)])]])) := by
  have hkey : IsPath "a.b" := ⟨by decide, List.all_eq_true.mp rfl, by decide⟩
  have hs : '\'' ∉ "v".toList := by decide
  have hsegments : pathSegments "a.b" = ["a", "b"] := by cbv
  have hindex : index? ['b'] = none := rfl
  have hfound : (sampleStocks.filter fun item => (item.atPath "a.b").isSome) =
      sampleStocks.take 2 := by
    simp [sampleStocks, atPath, hsegments, descend, child?, hindex]
  have hequal : (sampleStocks.filter fun item => (item.atPath "a.b").any fun v =>
      Filter.compareBy "=" v (some (.string "v"))) = sampleStocks.take 1 := by
    simp [sampleStocks, atPath, hsegments, descend, child?, hindex, Filter.compareBy, looseEq,
      looseEqPresent, isNull]
  have hdistinct : (sampleStocks.filter fun item => (item.atPath "a.b").any fun v =>
      Filter.compareBy "!=" v (some (.string "v"))) =
        [.object [("a", .object [("b", .null)])]] := by
    simp [sampleStocks, atPath, hsegments, descend, child?, hindex, Filter.compareBy, looseEq,
      looseEqPresent, isNull]
  have hplain : '\'' ∉ "a.b".toList ∧ '\'' ∉ "=".toList ∧ '\'' ∉ "!=".toList := by decide
  obtain ⟨hagrees, kept, hlegacy, hnot⟩ := @applyFilter_select_agrees ⟨⟨0, 0⟩, id⟩ _ _ hkey hs
    sampleStocks .null .null
  obtain ⟨kept', hlegacy', hpredicate⟩ := hagrees "=" .equal (by decide)
  rw [applyFilter_select_byKey hplain.1 hplain.2.1 hs, hequal] at hlegacy'
  rw [applyFilter_select_byKey hplain.1 hplain.2.2 hs, hdistinct] at hlegacy
  rw [← hlegacy'] at hpredicate
  rw [hfound, ← hlegacy] at hnot
  exact ⟨hkey, hs, hpredicate, hnot⟩

end Reshape
