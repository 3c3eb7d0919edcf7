import Mathlib
import Reshape.Expression.Scan

/-! The texts of tokens are made of the characters of their expression, each used once. -/
namespace Reshape

/-- Weights of characters, and a weight for the mark of a token that is no plain path. Such a token
has an opening quote or delimiter that stands in none of its texts. -/
structure Weight where
  char : Char → Nat
  mark : Nat
  mark_le : ∀ c ∈ ['\'', '(', '[', '{'], mark ≤ char c

namespace Weight

/-- Every character counts. -/
def length : Weight := ⟨fun _ => 1, 1, fun _ _ => Nat.le_refl 1⟩

/-- One character counts. -/
def count (c : Char) : Weight := ⟨fun d => if d = c then 1 else 0, 0, fun _ _ => Nat.zero_le _⟩

variable (w : Weight)

def text (text : List Char) : Nat := (text.map w.char).sum

def texts (texts : List String) : Nat := (texts.map fun s => w.text s.toList).sum

/-- A filter begins with a bar that stands in none of its texts. -/
def filter (f : FilterCall) : Nat := w.char '|' + w.text f.name.toList + w.texts f.params

def filters (filters : List FilterCall) : Nat := (filters.map w.filter).sum

def caret (rooted : Bool) : Nat := if rooted then w.char '^' else 0

def kindMark : Token.Kind → Option Shape → Nat
  | .path, none => 0
  | _, _ => w.mark

def token (t : Token) : Nat :=
  w.text t.body.toList + w.texts t.inner + w.filters t.filters + w.caret t.rooted +
    w.kindMark t.kind t.shape

def scanner (s : Scanner) : Nat := w.token s.token + (s.done.map w.token).sum

@[simp] theorem text_nil : w.text [] = 0 := rfl

@[simp] theorem text_cons (c : Char) (rest : List Char) :
    w.text (c :: rest) = w.char c + w.text rest := by simp [text]

@[simp] theorem text_append (first second : List Char) :
    w.text (first ++ second) = w.text first + w.text second := by simp [text]

@[simp] theorem texts_nil : w.texts [] = 0 := rfl

@[simp] theorem texts_append (first second : List String) :
    w.texts (first ++ second) = w.texts first + w.texts second := by simp [texts]

@[simp] theorem texts_singleton (s : String) : w.texts [s] = w.text s.toList := by simp [texts]

theorem text_push (s : String) (c : Char) :
    w.text (s.push c).toList = w.text s.toList + w.char c := by
  simp

theorem sum_modifyLast_le {α : Type} (g : α → Nat) (f : α → α) (n : Nat)
    (h : ∀ x, g (f x) ≤ g x + n) (items : List α) :
    ((modifyLast f items).map g).sum ≤ (items.map g).sum + n := by
  rcases List.eq_nil_or_concat items with rfl | ⟨rest, x, rfl⟩
  · simp [modifyLast]
  · have hlast := h x
    simp only [List.concat_eq_append, modifyLast_concat, List.map_append, List.sum_append,
      List.map_singleton, List.sum_singleton]
    omega

theorem texts_tidyParams_le (params : List String) :
    w.texts (Scanner.tidyParams params) ≤ w.texts params := by
  rw [Scanner.tidyParams]
  split
  · exact Nat.zero_le _
  · exact Nat.le_refl _

theorem filter_openParam (f : FilterCall) : w.filter f.openParam = w.filter f := by
  simp [filter, FilterCall.openParam]

theorem filters_openParam_le (filters : List FilterCall) :
    w.filters (modifyLast FilterCall.openParam filters) ≤ w.filters filters :=
  sum_modifyLast_le w.filter _ 0 (fun f => Nat.le_of_eq (w.filter_openParam f)) filters

theorem filters_tidy_le (filters : List FilterCall) :
    w.filters (filters.map fun f => { f with params := Scanner.tidyParams f.params }) ≤
      w.filters filters := by
  induction filters with
  | nil => exact Nat.le_refl _
  | cons f rest ih =>
    have := w.texts_tidyParams_le f.params
    simp only [Weight.filters, List.map_cons, List.sum_cons, filter] at ih ⊢
    omega

theorem filters_concat (filters : List FilterCall) (f : FilterCall) :
    w.filters (filters ++ [f]) = w.filters filters + w.filter f := by
  simp [Weight.filters]

theorem kindMark_le (kind : Token.Kind) (shape : Option Shape) :
    w.kindMark kind shape ≤ w.mark := by
  unfold kindMark
  split
  · exact Nat.zero_le _
  · exact Nat.le_refl _

@[simp] theorem token_empty : w.token .empty = 0 := rfl

variable (s : Scanner) (c : Char)

@[simp] theorem scanner_consume (n : Nat) : w.scanner (s.consume n) = w.scanner s := rfl

@[simp] theorem scanner_skip : w.scanner s.skip = w.scanner s := rfl

@[simp] theorem scanner_opened (d : Delimiter) : w.scanner (s.opened d) = w.scanner s := rfl

@[simp] theorem scanner_closed : w.scanner s.closed = w.scanner s := rfl

@[simp] theorem scanner_within (mode : Scanner.Mode) :
    w.scanner (s.within mode) = w.scanner s := rfl

theorem scanner_withToken (t : Token) :
    w.scanner (s.withToken t) = w.token t + (s.done.map w.token).sum := rfl

theorem texts_push_le (texts : List String) :
    w.texts (modifyLast (·.push c) texts) ≤ w.texts texts + w.char c :=
  sum_modifyLast_le (fun s : String => w.text s.toList) _ _
    (fun s => Nat.le_of_eq (w.text_push s c)) texts

theorem filters_pushName_le (filters : List FilterCall) :
    w.filters (modifyLast (FilterCall.pushName c) filters) ≤ w.filters filters + w.char c := by
  refine sum_modifyLast_le w.filter _ _ (fun f => ?_) filters
  simp only [filter, FilterCall.pushName, w.text_push]
  omega

theorem filters_pushParam_le (filters : List FilterCall) :
    w.filters (modifyLast (FilterCall.pushParam c) filters) ≤ w.filters filters + w.char c := by
  refine sum_modifyLast_le w.filter _ _ (fun f => ?_) filters
  have := w.texts_push_le c f.params
  simp only [filter, FilterCall.pushParam]
  omega

theorem scanner_push_le : w.scanner (s.push c) ≤ w.scanner s + w.char c := by
  rw [Scanner.push, scanner_withToken, scanner]
  cases s.mode with
  | body =>
    simp only [token, w.text_push]
    omega
  | inner =>
    have := w.texts_push_le c s.token.inner
    simp only [token]
    omega
  | filterName =>
    have := w.filters_pushName_le c s.token.filters
    simp only [token]
    omega
  | filterParams =>
    have := w.filters_pushParam_le c s.token.filters
    simp only [token]
    omega

theorem scanner_append_le : w.scanner (s.append c) ≤ w.scanner s + w.char c :=
  w.scanner_push_le s c

/-- Ending a token forgets a blank one and otherwise keeps its texts. -/
theorem scanner_finish_le : w.scanner s.finish ≤ w.scanner s := by
  have hcomplete : w.token s.complete ≤ w.token s.token := by
    have hinner := w.texts_tidyParams_le s.token.inner
    have hfilters := w.filters_tidy_le s.token.filters
    simp only [token, Scanner.complete]
    omega
  simp only [scanner, Scanner.finish, token_empty]
  split
  · omega
  · simp only [List.map_cons, List.sum_cons]
    omega

theorem scanner_quoted_le : w.scanner (s.quoted c) ≤ w.scanner s + w.char c := by
  simp only [Scanner.quoted]
  split
  · rename_i hc
    subst hc
    have hmark := w.mark_le '\'' (by simp)
    have hkind := w.kindMark_le .literal s.token.shape
    split
    · rw [scanner_consume]
      split
      · simp only [scanner, token, Scanner.withToken, Scanner.closed]
        omega
      · exact Nat.le_add_right _ _
    · exact w.scanner_append_le s.closed '\''
  · exact w.scanner_append_le s c

theorem scanner_quote_le : w.scanner s.quote ≤ w.scanner s + w.char '\'' := by
  rw [Scanner.quote, scanner_consume]
  split
  · exact w.scanner_push_le (s.opened .quote) '\''
  · exact Nat.le_add_right _ _

theorem scanner_beginInner_le (t : Token) :
    w.scanner (s.beginInner t) ≤ w.token t + (s.done.map w.token).sum := by
  rw [Scanner.beginInner, scanner_consume, scanner_within, scanner_withToken]
  simp [token]

theorem scanner_paren_le : w.scanner s.paren ≤ w.scanner s + w.char '(' := by
  simp only [Scanner.paren]
  split
  · have := w.filters_openParam_le s.token.filters
    rw [scanner_consume, scanner_within]
    simp only [scanner, token, Scanner.withToken, Scanner.opened]
    omega
  · split
    · have hmark := w.mark_le '(' (by simp)
      have hkind := w.kindMark_le .call s.token.shape
      refine Nat.le_trans (w.scanner_beginInner_le _ _) ?_
      simp only [scanner, token, Scanner.opened]
      omega
    · exact w.scanner_append_le (s.opened .paren) '('

theorem scanner_bracket_le : w.scanner s.bracket ≤ w.scanner s + w.char '[' := by
  have hmark := w.mark_le '[' (by simp)
  have hswitch := w.kindMark_le .scopeSwitch s.token.shape
  have hsuffix := w.kindMark_le s.token.kind (some .array)
  simp only [Scanner.bracket]
  split
  · split <;>
    · refine Nat.le_trans (w.scanner_beginInner_le _ _) ?_
      simp only [scanner, token, Scanner.opened]
      omega
  · exact w.scanner_append_le (s.opened .bracket) '['

theorem scanner_brace_le : w.scanner s.brace ≤ w.scanner s + w.char '{' := by
  have hmark := w.mark_le '{' (by simp)
  have hsuffix := w.kindMark_le s.token.kind (some .object)
  simp only [Scanner.brace]
  split
  · refine Nat.le_trans (w.scanner_beginInner_le _ _) ?_
    simp only [scanner, token, Scanner.opened]
    omega
  · exact w.scanner_append_le (s.opened .brace) '{'

/-- An embedded expression takes over the caret of the blank token before it. -/
theorem scanner_openBraces_le :
    w.scanner s.openBraces ≤ w.scanner s + w.char '{' + w.char '{' := by
  simp only [Scanner.openBraces]
  split
  · let rooted := s.token.isBlank && s.token.rooted
    let s₁ := if rooted then s.withToken { s.token with rooted := false } else s
    have hcaret : w.scanner s₁ + w.caret rooted ≤ w.scanner s := by
      cases hr : rooted with
      | false => simp [s₁, hr, caret]
      | true =>
        have hrooted : s.token.rooted = true := by simp_all [rooted]
        simp [s₁, hr, scanner, token, Scanner.withToken, caret, hrooted]
        omega
    have hmark := w.mark_le '{' (by simp)
    have hkind := w.kindMark_le .embedded none
    have hfinish := w.scanner_finish_le s₁
    have htoken : w.token { s₁.finish.token with kind := .embedded, rooted := rooted } =
        w.caret rooted + w.kindMark .embedded none := by
      simp [token, Scanner.finish, Token.empty, Weight.filters]
    rw [scanner_consume, scanner_opened]
    have hdone : w.scanner s₁.finish = (s₁.finish.done.map w.token).sum := by
      simp [scanner, Scanner.finish]
    calc w.token { s₁.finish.token with kind := .embedded, rooted := rooted } +
          (s₁.finish.done.map w.token).sum
        ≤ w.scanner s + w.char '{' := by omega
      _ ≤ w.scanner s + w.char '{' + w.char '{' := Nat.le_add_right _ _
  · have h₁ := w.scanner_push_le (s.opened .doubleBrace) '{'
    have h₂ := w.scanner_push_le ((s.opened .doubleBrace).push '{') '{'
    rw [scanner_opened] at h₁
    rw [scanner_consume]
    omega

theorem scanner_closeBraces_le :
    w.scanner s.closeBraces ≤ w.scanner s + w.char '}' + w.char '}' := by
  simp only [Scanner.closeBraces]
  split
  · have := w.scanner_finish_le (s.closed.consume 2)
    rw [scanner_consume, scanner_closed] at this
    omega
  · have h₁ := w.scanner_push_le s.closed '}'
    have h₂ := w.scanner_push_le (s.closed.push '}') '}'
    rw [scanner_closed] at h₁
    rw [scanner_consume]
    omega

theorem scanner_close_le : w.scanner (s.close c) ≤ w.scanner s + w.char c := by
  have happend := w.scanner_append_le s c
  have hclosed := w.scanner_append_le s.closed c
  rw [scanner_closed] at hclosed
  have hfinish := w.scanner_finish_le ((s.closed.consume 1).within .body)
  rw [scanner_within, scanner_consume, scanner_closed] at hfinish
  simp only [Scanner.close]
  split
  · exact happend
  · split
    · split
      · split
        · omega
        · exact Nat.le_add_right _ _
      · split
        · exact Nat.le_add_right _ _
        · exact hclosed
    · exact happend

theorem scanner_resume_le : w.scanner s.resume ≤ w.scanner s := by
  simp only [Scanner.resume]
  split
  · exact Nat.le_refl _
  · rename_i previous done hdone
    split
    · simp only [scanner, hdone, List.map_cons, List.sum_cons]
      omega
    · exact Nat.le_refl _

theorem scanner_bar_le : w.scanner s.bar ≤ w.scanner s + w.char '|' := by
  have hresume := w.scanner_resume_le s
  have hempty : w.filter .empty = w.char '|' := by simp [filter, FilterCall.empty]
  simp only [Scanner.bar]
  rw [scanner_consume, scanner_within]
  simp only [scanner, token, Scanner.withToken, filters_concat, hempty] at hresume ⊢
  omega

theorem scanner_comma_le : w.scanner s.comma ≤ w.scanner s + w.char ',' := by
  simp only [Scanner.comma]
  split
  · have := w.filters_openParam_le s.token.filters
    rw [scanner_consume]
    simp only [scanner, token, Scanner.withToken]
    omega
  · split
    · rw [scanner_consume]
      simp [scanner, token, Scanner.withToken]
    · exact w.scanner_append_le s ','

theorem scanner_blank_le : w.scanner (s.blank c) ≤ w.scanner s + w.char c := by
  have := w.scanner_finish_le s
  simp only [Scanner.blank]
  split
  · rw [scanner_skip]
    split <;> omega
  · split
    · exact Nat.le_add_right _ _
    · exact w.scanner_append_le s c

theorem scanner_caret_le (h : s.token.rooted = false) :
    w.scanner ((s.withToken { s.token with rooted := true }).consume 1) ≤
      w.scanner s + w.char '^' := by
  rw [scanner_consume]
  simp only [scanner, token, Scanner.withToken, caret, h, ↓reduceIte]
  omega

theorem scanner_ite_le {p : Prop} [Decidable p] {first second : Scanner} {n : Nat}
    (hfirst : p → w.scanner first ≤ n) (hsecond : w.scanner second ≤ n) :
    w.scanner (if p then first else second) ≤ n := by
  by_cases h : p
  · rw [if_pos h]
    exact hfirst h
  · rw [if_neg h]
    exact hsecond

theorem scanner_step_le : w.scanner (s.step c) ≤ w.scanner s + w.char c := by
  rw [Scanner.step]
  -- The branches of the step in their order, each with its own bound.
  refine w.scanner_ite_le (fun _ => w.scanner_quoted_le s c) ?_
  refine w.scanner_ite_le (fun hc => hc ▸ w.scanner_quote_le s) ?_
  refine w.scanner_ite_le (fun hc => ?_) ?_
  · obtain ⟨rfl, _, _, _, hrooted⟩ := hc
    exact w.scanner_caret_le s (by simpa using hrooted)
  refine w.scanner_ite_le (fun hc => hc ▸ w.scanner_paren_le s) ?_
  refine w.scanner_ite_le (fun hc => hc ▸ w.scanner_bracket_le s) ?_
  refine w.scanner_ite_le (fun hc => hc ▸ w.scanner_brace_le s) ?_
  refine w.scanner_ite_le (fun _ => w.scanner_close_le s c) ?_
  refine w.scanner_ite_le (fun hc => hc.1 ▸ w.scanner_bar_le s) ?_
  refine w.scanner_ite_le (fun hc => hc.1 ▸ w.scanner_comma_le s) ?_
  exact w.scanner_ite_le (fun _ => w.scanner_blank_le s c) (w.scanner_append_le s c)

theorem scanner_pair_le {d : Char} {s' : Scanner} (h : s.pair? c d = some s') :
    w.scanner s' ≤ w.scanner s + w.char c + w.char d := by
  rw [Scanner.pair?] at h
  split_ifs at h with _ hopen hclose
  · obtain ⟨rfl, rfl⟩ := hopen
    exact Option.some.inj h ▸ w.scanner_openBraces_le s
  · obtain ⟨rfl, rfl, _⟩ := hclose
    exact Option.some.inj h ▸ w.scanner_closeBraces_le s

/-- A run adds no more than the weight of what it reads. -/
theorem scanner_run_le (text : List Char) : w.scanner (s.run text) ≤ w.scanner s + w.text text := by
  fun_induction Scanner.run s text with
  | case1 s => exact Nat.le_refl _
  | case2 s c =>
    have := w.scanner_step_le s c
    simpa using this
  | case3 s c d rest s' hpair ih =>
    have := w.scanner_pair_le s c hpair
    simp only [text_cons] at ih ⊢
    omega
  | case4 s c d rest hpair ih =>
    have := w.scanner_step_le s c
    simp only [text_cons] at ih ⊢
    omega

/-- The tokens of an expression weigh no more than the expression. -/
theorem sum_tokenize_le (expr : String) :
    ((tokenize expr).map w.token).sum ≤ w.text expr.toList := by
  have hrun := w.scanner_run_le (Scanner.init expr.toList) expr.toList
  have hfinish := w.scanner_finish_le ((Scanner.init expr.toList).run expr.toList)
  have hinit : w.scanner (Scanner.init expr.toList) = 0 := rfl
  have hdone : ((tokenize expr).map w.token).sum =
      w.scanner ((Scanner.init expr.toList).run expr.toList).finish := by
    simp [tokenize, scanner, Scanner.finish]
  omega

theorem token_le_of_mem {expr : String} {t : Token} (h : t ∈ tokenize expr) :
    w.token t ≤ w.text expr.toList := by
  have hmem : w.token t ≤ ((tokenize expr).map w.token).sum :=
    List.le_sum_of_mem (List.mem_map_of_mem h)
  exact Nat.le_trans hmem (w.sum_tokenize_le expr)

theorem text_length (text : List Char) : Weight.length.text text = text.length := by
  induction text with
  | nil => rfl
  | cons c rest ih =>
    rw [text_cons, ih, List.length_cons, Nat.add_comm]
    rfl

theorem text_count (c : Char) (text : List Char) : (Weight.count c).text text = text.count c := by
  induction text with
  | nil => rfl
  | cons d rest ih =>
    rw [text_cons, ih, List.count_cons, Nat.add_comm]
    by_cases h : d = c <;> simp [count, h]

end Weight

/-- The texts of a token that are expressions themselves. -/
def Token.nested (t : Token) : List String :=
  (match t.kind, t.shape with
    | .embedded, _ => [t.body]
    | .call, _ => t.inner
    | .scopeSwitch, _ => [t.innerExpression]
    | .path, some _ => [t.innerExpression]
    | _, _ => []) ++ t.filters.flatMap FilterCall.params

namespace Token

variable {t : Token}

theorem switch_mem_nested (hk : t.kind = .scopeSwitch) : t.innerExpression ∈ t.nested := by
  simp [nested, hk]

theorem suffix_mem_nested {shape : Shape} (hk : t.kind = .path) (hs : t.shape = some shape) :
    t.innerExpression ∈ t.nested := by
  simp [nested, hk, hs]

theorem body_mem_nested (hk : t.kind = .embedded) : t.body ∈ t.nested := by
  simp [nested, hk]

theorem mem_nested_of_call (hk : t.kind = .call) : ∀ text ∈ t.inner, text ∈ t.nested := by
  simp only [nested, hk]
  exact fun text h => List.mem_append_left _ h

theorem mem_nested_of_filters : ∀ text ∈ t.filters.flatMap FilterCall.params, text ∈ t.nested :=
  fun _ h => List.mem_append_right _ h

end Token

namespace Weight

variable (w : Weight) {t : Token} {text : String}

theorem text_le_texts {texts : List String} (h : text ∈ texts) :
    w.text text.toList ≤ w.texts texts :=
  List.le_sum_of_mem (List.mem_map_of_mem h)

theorem innerExpression_le (t : Token) : w.text t.innerExpression.toList ≤ w.texts t.inner := by
  cases h : t.inner with
  | nil => simp [Token.innerExpression, h]
  | cons first rest => simp [Token.innerExpression, h, texts]

/-- A nested expression leaves out the mark of its token or the bar of its filter. -/
theorem nested_le (h : text ∈ t.nested) (hm : w.mark ≤ w.char '|') :
    w.text text.toList + w.mark ≤ w.token t := by
  have hinner := w.innerExpression_le t
  rw [Token.nested, List.mem_append] at h
  rcases h with h | h
  · simp only [token]
    split at h
    · rename_i hkind
      obtain rfl : text = t.body := by simpa using h
      simp only [hkind, kindMark]
      omega
    · rename_i hkind
      have := w.text_le_texts h
      simp only [hkind, kindMark]
      omega
    · rename_i hkind
      obtain rfl : text = t.innerExpression := by simpa using h
      simp only [hkind, kindMark]
      omega
    · rename_i hkind hshape
      obtain rfl : text = t.innerExpression := by simpa using h
      simp only [hkind, hshape, kindMark]
      omega
    · simp at h
  · obtain ⟨f, hf, htext⟩ := List.mem_flatMap.mp h
    have hparams := w.text_le_texts htext
    have hfilter : w.filter f ≤ w.filters t.filters :=
      List.le_sum_of_mem (List.mem_map_of_mem hf)
    simp only [filter] at hfilter
    simp only [token]
    omega

end Weight

/-- Every expression inside another one is shorter. -/
theorem length_nested_lt {expr text : String} {t : Token} (ht : t ∈ tokenize expr)
    (h : text ∈ t.nested) : text.length < expr.length := by
  have htoken := Weight.length.token_le_of_mem ht
  have hnested := Weight.length.nested_le h (Nat.le_refl _)
  have hmark : Weight.length.mark = 1 := rfl
  rw [Weight.text_length, String.length_toList] at htoken hnested
  omega

/-- Every character of an expression inside another one is a character of the other one. -/
theorem mem_of_mem_nested {expr text : String} {t : Token} {c : Char} (ht : t ∈ tokenize expr)
    (h : text ∈ t.nested) (hc : c ∈ text.toList) : c ∈ expr.toList := by
  have htoken := (Weight.count c).token_le_of_mem ht
  have hnested := (Weight.count c).nested_le h (Nat.zero_le _)
  rw [Weight.text_count] at htoken hnested
  have hpos := List.count_pos_iff.mpr hc
  apply List.count_pos_iff.mp
  omega

/-- Only a caret sends a token to the root. -/
theorem caret_mem_of_rooted {expr : String} {t : Token} (ht : t ∈ tokenize expr)
    (h : t.rooted = true) : '^' ∈ expr.toList := by
  have htoken := (Weight.count '^').token_le_of_mem ht
  rw [Weight.text_count] at htoken
  have hcaret : (Weight.count '^').caret true = 1 := rfl
  apply List.count_pos_iff.mp
  simp only [Weight.token, h, hcaret] at htoken
  omega

end Reshape
