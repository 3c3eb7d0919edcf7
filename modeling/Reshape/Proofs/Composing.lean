import Reshape.Proofs.Keys

/-! Expressions that are made from another one: with double braces around it, and with a filter
behind it. -/
namespace Reshape

variable {env : Environment} {scope root : Value} {context : Context} {expr name : String}
  {params : List String}

namespace Resolution

/-- Between double braces stands the value of an expression, for the scope or, behind a caret, for
the root. -/
theorem resolveToken_embedded {resolver : ParamResolver} {t : Token} {p : Progress}
    (hk : t.kind = .embedded) (hf : t.filters = []) :
    resolveToken env resolver scope root context t p =
      (resolver t.body (if t.rooted then root else p.scope) root).map fun value => (value, p) := by
  simp only [resolveToken, resolveBody, hk, hf, reduceCtorEq, if_false]
  cases resolver t.body (if t.rooted then root else p.scope) root <;> rfl

end Resolution

/-- An expression between double braces. -/
def embedded (expr : String) : String := "\x7b\x7b" ++ expr ++ "\x7d\x7d"

theorem balanced_embedded (hb : Balanced expr.toList) : Balanced (embedded expr).toList := by
  have henclosed : Balanced _ := .enclosed .doubleBraces hb .nil
  simpa [embedded, Enclosure.opening, Enclosure.closing] using henclosed

theorem balanced_iterate_embedded (hb : Balanced expr.toList) (n : Nat) :
    Balanced (embedded^[n] expr).toList := by
  induction n with
  | zero => exact hb
  | succ n ih =>
    rw [Function.iterate_succ_apply']
    exact balanced_embedded ih

/-- A value that comes without a shape or a scope for what is nested below. -/
def Resolution.plain (value : Option Value) : Resolution := ⟨.object, value, none⟩

theorem resolve_embedded_once (rooted : Bool) (hb : Balanced expr.toList) (scope root : Value)
    (context : Context) :
    resolve env (String.ofList (printCaret rooted) ++ embedded expr) scope root context =
      (evaluateIn env expr (if rooted then root else scope) root).map Resolution.plain := by
  let d : Phrase := ⟨.embedded rooted expr.toList hb, []⟩
  have hprint : String.ofList (printCaret rooted) ++ embedded expr = String.ofList d.print := by
    simp [← String.toList_inj, embedded, d, Phrase.print, Primary.print, printPipes]
  have ht : tokenize (String.ofList (printCaret rooted) ++ embedded expr) = [d.token 0] :=
    hprint ▸ tokenize_print d
  have hbody : (d.token 0).body = expr := String.ofList_toList
  have hrooted : (d.token 0).rooted = rooted := rfl
  rw [resolve_eq_resolveToken ht rfl, Resolution.resolveToken_embedded rfl rfl, hbody, hrooted]
  cases evaluateIn env expr (if rooted then root else scope) root <;> rfl

theorem evaluateIn_embedded (hb : Balanced expr.toList) (scope root : Value) :
    evaluateIn env (embedded expr) scope root = evaluateIn env expr scope root := by
  have hresolve : resolve env (embedded expr) scope root .value =
      (evaluateIn env expr scope root).map Resolution.plain := by
    simpa [printCaret] using resolve_embedded_once false hb scope root .value
  have hvalue : evaluateIn env (embedded expr) scope root =
      ((evaluateIn env expr scope root).map Resolution.plain).map Resolution.value := by
    rw [← hresolve, evaluateIn]
  rw [hvalue]
  cases evaluateIn env expr scope root <;> rfl

theorem evaluateIn_iterate_embedded (hb : Balanced expr.toList) (n : Nat) (scope root : Value) :
    evaluateIn env (embedded^[n] expr) scope root = evaluateIn env expr scope root := by
  induction n with
  | zero => rfl
  | succ n ih =>
    rw [Function.iterate_succ_apply', evaluateIn_embedded (balanced_iterate_embedded hb n), ih]

/-- Any number of double braces around an expression leaves its value, or its error, as it is; a
caret in front of them sends it to the root. -/
theorem resolve_embedded (hb : Balanced expr.toList) (n : Nat) (scope root : Value)
    (context : Context) :
    resolve env (embedded^[n + 1] expr) scope root context =
        (evaluateIn env expr scope root).map Resolution.plain ∧
      resolve env ("^" ++ embedded^[n + 1] expr) scope root context =
        (evaluateIn env expr root root).map Resolution.plain := by
  have hresolve (rooted : Bool) :
      resolve env (String.ofList (printCaret rooted) ++ embedded^[n + 1] expr) scope root context =
        (evaluateIn env expr (if rooted then root else scope) root).map Resolution.plain := by
    rw [Function.iterate_succ_apply', resolve_embedded_once rooted (balanced_iterate_embedded hb n),
      evaluateIn_iterate_embedded hb]
  exact ⟨by simpa [printCaret] using hresolve false, by simpa [printCaret] using hresolve true⟩

/-- Two pairs of double braces around a quoted text and another embedded expression. -/
theorem resolve_embedded_twice :
    Balanced "'x]' \x7b\x7by\x7d\x7d".toList ∧
      resolve ⟨⟨0, 0⟩, id⟩ "\x7b\x7b\x7b\x7b'x]' \x7b\x7by\x7d\x7d\x7d\x7d\x7d\x7d"
          (.object [("y", .int 1)]) .null .key =
        .ok ⟨.object, some (.string "x] 1"), none⟩ := by
  have hy : Balanced ['y'] := balancedBy_of_plain (by simp [isDelimiter])
  have hb : Balanced "'x]' \x7b\x7by\x7d\x7d".toList :=
    .quoted (by decide : '\'' ∉ ['x', ']']) (.plain rfl rfl (.enclosed .doubleBraces hy .nil))
  have hvalue : evaluateIn ⟨⟨0, 0⟩, id⟩ "'x]' \x7b\x7by\x7d\x7d" (.object [("y", .int 1)]) .null =
      .ok (some (.string "x] 1")) := by cbv
  refine ⟨hb, (resolve_embedded hb 1 _ .null .key).1.trans ?_⟩
  rw [hvalue]
  rfl

namespace Resolution

variable {resolver : ParamResolver}

theorem applyFilters_concat (calls : List FilterCall) (call : FilterCall) (piped : Option Value) :
    applyFilters env resolver scope root piped (calls ++ [call]) =
      applyFilters env resolver scope root piped calls >>=
        Filter.apply env resolver call.name call.params scope root := by
  induction calls generalizing piped with
  | nil =>
    show Filter.apply env resolver call.name call.params scope root piped >>= Except.ok =
      Filter.apply env resolver call.name call.params scope root piped
    cases Filter.apply env resolver call.name call.params scope root piped <;> rfl
  | cons first rest ih =>
    rw [List.cons_append, applyFilters, applyFilters]
    cases Filter.apply env resolver first.name first.params scope root piped with
    | error e => rfl
    | ok value => exact ih value

/-- A further filter works on the value that the token has without it. -/
theorem resolveToken_addFilter {t : Token} (hk : t.kind ≠ .scopeSwitch) (call : FilterCall)
    (p : Progress) :
    resolveToken env resolver scope root context (t.addFilter call) p =
      resolveToken env resolver scope root context t p >>= fun result =>
        (Filter.apply env resolver call.name call.params p.scope root result.1).map
          fun value => (value, result.2) := by
  have hbody : resolveBody env resolver root context (t.addFilter call) p =
      resolveBody env resolver root context t p := rfl
  have hfilters : (t.addFilter call).filters = t.filters ++ [call] := rfl
  have hk' : (t.addFilter call).kind ≠ .scopeSwitch := hk
  rw [resolveToken, resolveToken, if_neg hk, if_neg hk', hbody]
  cases resolveBody env resolver root context t p with
  | error e => rfl
  | ok result =>
    obtain ⟨value, next⟩ := result
    show (applyFilters env resolver p.scope root value (t.addFilter call).filters >>= _) =
      (applyFilters env resolver p.scope root value t.filters >>= _) >>= _
    rw [hfilters, applyFilters_concat]
    cases applyFilters env resolver p.scope root value t.filters with
    | error e => rfl
    | ok value =>
      show (Filter.apply env resolver call.name call.params p.scope root value >>= _) =
        (Filter.apply env resolver call.name call.params p.scope root value).map _
      cases Filter.apply env resolver call.name call.params p.scope root value <;> rfl

end Resolution

/-- A name by which a filter can be called, known or not. -/
def IsFilterName (name : String) : Prop := name ≠ "" ∧ ∀ c ∈ name.toList, isWordChar c = true

theorem isFilterName_name (f : Filter) : IsFilterName f.name := by
  have hname : f.name ≠ "" := by cases f <;> simp [Filter.name]
  have hword : f.name.toList.all isWordChar = true := by cases f <;> decide +kernel
  exact ⟨hname, List.all_eq_true.mp hword⟩

/-- A text that can be a parameter: commas and white space stand in its quotes and enclosures
only. -/
def IsParam (text : String) : Prop := text ≠ "" ∧ BalancedBy isParamChar text.toList

/-- An expression with a filter behind it. -/
def piped (expr name : String) (params : List String) : String :=
  expr ++ " | " ++ name ++ "(" ++ ",".intercalate params ++ ")"

def bareParam (text : String) (h : IsParam text) : Param :=
  ⟨.empty, text.toList, .empty, by simpa using h.1, h.2⟩

theorem exists_more (h : ∀ p ∈ params, IsParam p) :
    ∃ more : List Param, printMore more = params.flatMap (fun p => ',' :: p.toList) ∧
      more.map (fun p => String.ofList p.text) = params := by
  induction params with
  | nil => exact ⟨[], rfl, rfl⟩
  | cons text rest ih =>
    obtain ⟨more, hprint, htexts⟩ := ih fun p hp => h p (List.mem_cons_of_mem _ hp)
    refine ⟨bareParam text (h text List.mem_cons_self) :: more, ?_, ?_⟩
    · simp [printMore, bareParam, Param.print, Blanks.empty, hprint]
    · simp [bareParam, htexts]

theorem toList_intercalate_comma (first : String) (rest : List String) :
    (",".intercalate (first :: rest)).toList =
      first.toList ++ rest.flatMap fun p => ',' :: p.toList := by
  induction rest generalizing first with
  | nil => simp
  | cons next rest ih =>
    have hnext := ih next
    simp only [String.toList_intercalate, List.map_cons, List.flatMap_cons] at hnext ⊢
    rw [List.intercalate_cons_cons, hnext, List.append_assoc]
    rfl

/-- Parameters with commas between them are the parameters of a filter. -/
theorem exists_params (h : ∀ p ∈ params, IsParam p) :
    ∃ listed : Params, listed.print = '(' :: ((",".intercalate params).toList ++ [')']) ∧
      listed.texts = params := by
  cases params with
  | nil => exact ⟨.none .empty, by simp [Params.print, Blanks.empty], rfl⟩
  | cons first rest =>
    obtain ⟨more, hprint, htexts⟩ := exists_more fun p hp => h p (List.mem_cons_of_mem _ hp)
    refine ⟨.listed (bareParam first (h first List.mem_cons_self)) more, ?_, ?_⟩
    · rw [toList_intercalate_comma]
      simp [Params.print, bareParam, Param.print, Blanks.empty, hprint]
    · simp [Params.texts, bareParam, htexts]

/-- A filter behind an expression of one token becomes a filter of the token. -/
theorem exists_piped (gap trailing : Blanks) (d : Phrase)
    (hexpr : expr = String.ofList (printPhrases trailing [(gap, d)])) (hname : IsFilterName name)
    (hparams : ∀ p ∈ params, IsParam p) :
    ∃ f : Pipe, f.call = ⟨name, params⟩ ∧
      piped expr name params =
        String.ofList (printPhrases .empty [(gap, ⟨d.primary, d.pipes ++ [f]⟩)]) := by
  obtain ⟨listed, hprint, htexts⟩ := exists_params hparams
  let one : Blanks := ⟨[' '], List.all_eq_true.mp rfl⟩
  let before : Blanks := ⟨trailing.chars ++ one.chars, fun c hc =>
    (List.mem_append.mp hc).elim (trailing.blank c) (one.blank c)⟩
  let word : Word := ⟨name.toList, by simpa using hname.1, hname.2⟩
  refine ⟨⟨before, one, word, some listed⟩, ?_, ?_⟩
  · simp [Pipe.call, word, htexts]
  · rw [← String.toList_inj, hexpr]
    simp [piped, printPhrases, Phrase.print, printPipes, Pipe.print, Blanks.empty, before, one,
      word, hprint]

theorem tokenize_phrase (gap trailing : Blanks) (d : Phrase) :
    tokenize (String.ofList (printPhrases trailing [(gap, d)])) = [d.token gap.chars.length] := by
  have htokens := tokenize_printPhrases [(gap, d)] trailing (by simp [Separated])
  simpa [phraseTokens] using htokens

/-- The place of a token has no part in its value. -/
theorem Resolution.resolveToken_place {resolver : ParamResolver} (t : Token) (source : String)
    (stop : Nat) (p : Progress) :
    resolveToken env resolver scope root context { t with source := source, stop := stop } p =
      resolveToken env resolver scope root context t p := rfl

theorem token_concat (primary : Primary) (pipes : List Pipe) (f : Pipe) (start : Nat) :
    (Phrase.mk primary (pipes ++ [f])).token start =
      { ((Phrase.mk primary pipes).token start).addFilter f.call with
        source := ((Phrase.mk primary (pipes ++ [f])).token start).source
        stop := ((Phrase.mk primary (pipes ++ [f])).token start).stop } := by
  simp [Phrase.token, Token.addFilter]

/-- A filter behind an expression of one token is applied to the value of the expression. -/
theorem resolve_pipe (gap trailing trailing' : Blanks) (d : Phrase) (f : Pipe)
    (hkind : d.primary.token.kind ≠ .scopeSwitch) (scope root : Value) (context : Context) :
    resolve env (String.ofList (printPhrases trailing' [(gap, ⟨d.primary, d.pipes ++ [f]⟩)]))
        scope root context =
      resolve env (String.ofList (printPhrases trailing [(gap, d)])) scope root context >>=
        fun resolved =>
          (applyFilter env f.call.name f.call.params scope root resolved.value).map
            fun value => { resolved with value := value } := by
  have hkind' : (d.token gap.chars.length).kind ≠ .scopeSwitch := hkind
  have hyields : (d.token gap.chars.length).yieldsValue = true := decide_eq_true hkind
  have hyields' :
      ((Phrase.mk d.primary (d.pipes ++ [f])).token gap.chars.length).yieldsValue = true :=
    decide_eq_true hkind
  rw [resolve_eq_resolveToken (tokenize_phrase gap trailing' _) hyields',
    resolve_eq_resolveToken (tokenize_phrase gap trailing d) hyields, token_concat,
    Resolution.resolveToken_place, Resolution.resolveToken_addFilter hkind']
  cases Resolution.resolveToken env (evaluateIn env) scope root context
      (d.token gap.chars.length) ⟨scope, .object, none⟩ with
  | error e => rfl
  | ok result =>
    obtain ⟨value, p⟩ := result
    show Except.map _ ((Filter.apply env (evaluateIn env) f.call.name f.call.params scope root
        value).map _) =
      (Filter.apply env (evaluateIn env) f.call.name f.call.params scope root value).map _
    cases Filter.apply env (evaluateIn env) f.call.name f.call.params scope root value <;> rfl

/-- A filter written behind an expression of one token is applied to the value of the expression,
whose shape and scope for what is nested below stay. What fails first gives the error. -/
theorem resolve_piped (gap trailing : Blanks) (d : Phrase)
    (hexpr : expr = String.ofList (printPhrases trailing [(gap, d)]))
    (hkind : d.primary.token.kind ≠ .scopeSwitch) (hname : IsFilterName name)
    (hparams : ∀ p ∈ params, IsParam p) (scope root : Value) (context : Context) :
    resolve env (piped expr name params) scope root context =
      resolve env expr scope root context >>= fun resolved =>
        (applyFilter env name params scope root resolved.value).map
          fun value => { resolved with value := value } := by
  obtain ⟨f, hcall, hpiped⟩ := exists_piped gap trailing d hexpr hname hparams
  rw [hpiped, resolve_pipe gap trailing _ d f hkind scope root context, hcall, hexpr]

/-- A literal with a filter, and a further filter with a quoted parameter and a path. -/
theorem resolve_piped_concat :
    (∀ p ∈ ["'b, c'", "d"], IsParam p) ∧
      resolve ⟨⟨0, 0⟩, id⟩ (piped " 'a' | uppercase " "concat" ["'b, c'", "d"])
          (.object [("d", .int 1)]) .null .value =
        .ok ⟨.object, some (.string "Ab, c1"), none⟩ := by
  let one : Blanks := ⟨[' '], List.all_eq_true.mp rfl⟩
  let f : Pipe := ⟨one, one, ⟨"uppercase".toList, by simp, List.all_eq_true.mp rfl⟩, none⟩
  let d : Phrase := ⟨.literal ['a'] (by decide), [f]⟩
  have hquoted : IsParam "'b, c'" :=
    ⟨by simp, .quoted (by decide : '\'' ∉ ['b', ',', ' ', 'c']) .nil⟩
  have hpath : IsParam "d" := ⟨by simp, .plain rfl rfl .nil⟩
  have hparams : ∀ p ∈ ["'b, c'", "d"], IsParam p := by simp [hquoted, hpath]
  have hkind : d.primary.token.kind ≠ .scopeSwitch := by simp [d, Primary.token, Token.empty]
  have hexpr : " 'a' | uppercase " = String.ofList (printPhrases one [(one, d)]) := by cbv
  refine ⟨hparams, (resolve_piped one one d hexpr hkind (isFilterName_name .concat) hparams
    _ .null .value).trans ?_⟩
  cbv

end Reshape
