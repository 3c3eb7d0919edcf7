import Reshape.Proofs.Resolving
import Reshape.Proofs.TokenRoundTrip
import Reshape.Template.Transform

/-! What quoted texts, names and names with a suffix resolve to. -/
namespace Reshape

variable {env : Environment} {scope root : Value} {context : Context}

/-- An expression of one token has the result of the token. -/
theorem resolve_eq_resolveToken {expr : String} {t : Token} (ht : tokenize expr = [t])
    (hk : t.yieldsValue = true) :
    resolve env expr scope root context =
      (Resolution.resolveToken env (evaluateIn env) scope root context t
        ⟨scope, .object, none⟩).map fun result =>
          ⟨result.2.shape, result.1, result.2.childScope⟩ := by
  have hcombine (p : Progress) (value : Option Value) :
      combine expr p.childScope [(t, value)] = value := by
    simp [combine, hk]
  rw [resolve_eq_step, Resolution.step, ht, Resolution.resolveTokens]
  cases Resolution.resolveToken env (evaluateIn env) scope root context t
      ⟨scope, .object, none⟩ with
  | error e => rfl
  | ok result =>
    obtain ⟨value, p⟩ := result
    show Except.ok (Resolution.mk p.shape (combine expr p.childScope [(t, value)]) p.childScope) = _
    rw [hcombine]
    rfl

theorem resolve_of_tokenize {expr : String} {t : Token} {value : Option Value} {p : Progress}
    (ht : tokenize expr = [t]) (hk : t.yieldsValue = true)
    (h : Resolution.resolveToken env (evaluateIn env) scope root context t ⟨scope, .object, none⟩ =
      .ok (value, p)) :
    resolve env expr scope root context = .ok ⟨p.shape, value, p.childScope⟩ := by
  rw [resolve_eq_resolveToken ht hk, h]
  rfl

namespace Resolution

variable {resolver : ParamResolver} {t : Token} {p : Progress}

theorem resolveToken_literal (hk : t.kind = .literal) (hf : t.filters = []) :
    resolveToken env resolver scope root context t p = .ok (some (.string t.body), p) := by
  simp only [resolveToken, resolveBody, hk, hf, reduceCtorEq, if_false]
  rfl

theorem resolveToken_path (hk : t.kind = .path) (hr : t.rooted = false) (hs : t.shape = none)
    (hf : t.filters = []) :
    resolveToken env resolver scope root context t p =
      .ok (lookup p.scope context t.body, p) := by
  simp only [resolveToken, resolveBody, hk, hr, hs, hf, reduceCtorEq, if_false,
    Bool.false_eq_true]
  rfl

theorem resolveToken_suffixed {shape : Shape} {child : Value} (hk : t.kind = .path)
    (hr : t.rooted = false) (hs : t.shape = some shape) (hf : t.filters = [])
    (hchild : resolver t.innerExpression p.scope root = .ok (some child)) :
    resolveToken env resolver scope root context t p =
      .ok (lookup p.scope context t.body, { p with shape := shape, childScope := some child }) := by
  simp only [resolveToken, resolveBody, resolveSuffix, hk, hr, hs, hf, hchild, reduceCtorEq,
    if_false, Bool.false_eq_true]
  rfl

end Resolution

/-- A text between quotes. -/
def quote (s : String) : String := "'" ++ s ++ "'"

theorem resolve_quote {s : String} (hs : '\'' ∉ s.toList) :
    resolve env (quote s) scope root context = .ok ⟨.object, some (.string s), none⟩ := by
  let d : Phrase := ⟨.literal s.toList hs, []⟩
  have hprint : quote s = String.ofList d.print := by
    simp [← String.toList_inj, quote, d, Phrase.print, Primary.print, printPipes]
  have ht : tokenize (quote s) = [d.token 0] := hprint ▸ tokenize_print d
  have hbody : (d.token 0).body = s := String.ofList_toList
  rw [resolve_of_tokenize ht rfl (Resolution.resolveToken_literal rfl rfl), hbody]

/-- A key that begins with neither of the marks is a plain one. -/
theorem classify_of_head {key : String} (h : ∀ c ∈ key.toList.head?, c ≠ '!' ∧ c ≠ '@') :
    key ≠ TemplateKey.pathKey ∧ key ≠ TemplateKey.rootKey ∧
      TemplateKey.classify key = .plain key := by
  have hpath : key ≠ TemplateKey.pathKey := by
    rintro rfl
    exact (h '@' rfl).2 rfl
  have hroot : key ≠ TemplateKey.rootKey := by
    rintro rfl
    exact (h '@' rfl).2 rfl
  refine ⟨hpath, hroot, ?_⟩
  rw [TemplateKey.classify, if_neg hpath, if_neg hroot]
  split
  · rename_i rest hrest
    exact ((h '!' (by simp [hrest])).1 rfl).elim
  · rfl

/-- A path that stands for itself as an expression: a word without a caret before it. -/
structure IsPath (path : String) : Prop where
  nonempty : path ≠ ""
  plain : ∀ c ∈ path.toList, isWordChar c = true
  uncareted : path.toList.head? ≠ some '^'

theorem IsPath.exists_name {path : String} (h : IsPath path) :
    ∃ n : Name, n.chars = path.toList := by
  have hne : path.toList ≠ [] := by simpa using h.nonempty
  exact ⟨⟨⟨path.toList, hne, h.plain⟩, h.uncareted⟩, rfl⟩

theorem resolve_path {path : String} (h : IsPath path) :
    resolve env path scope root context =
      .ok ⟨.object, Resolution.lookup scope context path, none⟩ := by
  obtain ⟨n, hn⟩ := h.exists_name
  let d : Phrase := ⟨.path false n, []⟩
  have hprint : path = String.ofList d.print := by
    simp [d, Phrase.print, Primary.print, printPipes, printCaret, hn]
  have ht : tokenize path = [d.token 0] := by
    have := tokenize_print d
    rwa [← hprint] at this
  have hbody : (d.token 0).body = path := by
    simp [d, Phrase.token, Primary.token, hn]
  rw [resolve_of_tokenize ht rfl (Resolution.resolveToken_path rfl rfl rfl rfl), hbody]

/-- A name of a plain key: neither rooted, merged nor reserved. -/
structure IsKeyName (name : String) : Prop where
  nonempty : name ≠ ""
  plain : ∀ c ∈ name.toList, isWordChar c = true
  unmarked : ∀ c ∈ name.toList.head?, c ≠ '^' ∧ c ≠ '!' ∧ c ≠ '@'

theorem IsKeyName.isPath {name : String} (h : IsKeyName name) : IsPath name where
  nonempty := h.nonempty
  plain := h.plain
  uncareted := fun hc => (h.unmarked '^' hc).1 rfl

/-- A name with a suffix is one token. -/
theorem exists_suffixed_token {name inner key : String} (h : IsKeyName name) (suffix : Suffix)
    (hinner : suffix.inner = inner.toList) (hkey : key.toList = name.toList ++ suffix.print) :
    ∃ t, tokenize key = [t] ∧ t.kind = .path ∧ t.rooted = false ∧ t.shape = some suffix.shape ∧
      t.filters = [] ∧ t.body = name ∧ t.innerExpression = inner := by
  obtain ⟨n, hn⟩ := h.isPath.exists_name
  let d : Phrase := ⟨.suffixed false n suffix, []⟩
  have hprint : key = String.ofList d.print := by
    simp [← String.toList_inj, d, Phrase.print, Primary.print, printPipes, printCaret, hn, hkey]
  have ht : tokenize key = [d.token 0] := hprint ▸ tokenize_print d
  have hbody : (d.token 0).body = name := by
    simp [d, Phrase.token, Primary.token, hn]
  have hexpr : (d.token 0).innerExpression = inner := by
    by_cases he : inner = "" <;>
      simp [d, Phrase.token, Primary.token, Token.innerExpression, innerTexts, hinner, he]
  exact ⟨d.token 0, ht, rfl, rfl, rfl, rfl, hbody, hexpr⟩

theorem Token.yieldsValue_of_path {t : Token} (h : t.kind = .path) : t.yieldsValue = true := by
  simp [yieldsValue, h]

/-- A suffix with a value gives its shape and its value to what is nested below. -/
theorem resolve_suffixed {name inner key : String} {child : Value} (h : IsKeyName name)
    (suffix : Suffix) (hinner : suffix.inner = inner.toList)
    (hkey : key.toList = name.toList ++ suffix.print)
    (hchild : evaluateIn env inner scope root = .ok (some child)) :
    resolve env key scope root context =
      .ok ⟨suffix.shape, Resolution.lookup scope context name, some child⟩ := by
  obtain ⟨t, ht, hk, hr, hs, hf, hbody, hexpr⟩ := exists_suffixed_token h suffix hinner hkey
  rw [← hexpr] at hchild
  rw [resolve_of_tokenize ht (Token.yieldsValue_of_path hk)
    (Resolution.resolveToken_suffixed hk hr hs hf hchild), hbody]

end Reshape
