import Reshape.Proofs.KeySuffix
import Reshape.Proofs.WritingPaths

/-! Keys whose suffix has no value. Such a key stands for its own text, which is then read as a
path: it names one entry when no dot stands in its suffix, and is cut at the dots otherwise. -/
namespace Reshape

namespace Value

/-- A value below levels of one entry each. -/
def beneath (v : Value) (segments : List String) : Value :=
  segments.foldr (fun segment level => .object [(segment, level)]) v

theorem writeAt_new (v : Value) (last : String) (levels : List String) :
    writeAt v last levels (.object []) = v.beneath (levels ++ [last]) := by
  induction levels with
  | nil => rfl
  | cons segment rest ih =>
    show Value.object [(segment, writeAt v last rest (.object []))] = _
    rw [ih]
    rfl

/-- Into an empty object a path is written level by level. -/
theorem assign_new {value : Option Value} {v : Value} (h : written? value = some v)
    (path : String) :
    (Value.object []).assign value path = v.beneath (pathSegments path) := by
  rw [assign_of_written_some h, writeAt_new, levelsOf_concat]

/-- A text stands right below its path only if there is nothing to cut the path at. -/
theorem beneath_pathSegments_eq_iff (s path : String) :
    (Value.string s).beneath (pathSegments path) = .object [(path, .string s)] ↔
      '.' ∉ path.toList := by
  constructor
  · intro h
    obtain ⟨segment, rest, hsegments⟩ := List.exists_cons_of_ne_nil (pathSegments_ne_nil path)
    rw [hsegments] at h
    cases rest with
    | nil =>
      obtain ⟨piece, hpiece, -⟩ := List.map_eq_singleton_iff.mp hsegments
      exact not_mem_of_splitOn_eq_singleton hpiece
    | cons next more => simp [beneath] at h
  · intro h
    rw [pathSegments_of_not_mem h]
    rfl

end Value

variable {env : Environment} {scope root : Value} {name inner key : String}

/-- A key of a name with an expression behind it, in brackets or in braces. -/
inductive IsSuffixed (name inner : String) : String → Prop
  | brackets : IsSuffixed name inner (bracketed name inner)
  | braces : inner.toList.head? ≠ some '{' → IsSuffixed name inner (braced name inner)

theorem IsSuffixed.exists_suffix (h : IsSuffixed name inner key) (hb : Balanced inner.toList) :
    ∃ suffix : Suffix, suffix.inner = inner.toList ∧ key.toList = name.toList ++ suffix.print := by
  cases h with
  | brackets => exact ⟨.brackets inner.toList hb, rfl, by simp [bracketed, Suffix.print]⟩
  | braces hsingle => exact ⟨.braces inner.toList hb hsingle, rfl, by simp [braced, Suffix.print]⟩

theorem IsSuffixed.dot_mem_iff (h : IsSuffixed name inner key) (hdot : '.' ∉ name.toList) :
    '.' ∈ key.toList ↔ '.' ∈ inner.toList := by
  cases h <;> simp [bracketed, braced, hdot]

namespace Resolution

variable {resolver : ParamResolver} {t : Token} {p : Progress} {shape : Shape}

/-- The key as it is written takes the place of whatever its name leads to. -/
theorem resolveToken_suffixed_absent (hk : t.kind = .path) (hs : t.shape = some shape)
    (hf : t.filters = []) (habsent : resolver t.innerExpression p.scope root = .ok none) :
    resolveToken env resolver scope root .key t p = .ok (some (.string t.literalKey), p) := by
  simp only [resolveToken, resolveBody, resolveSuffix, hk, hs, hf, habsent, reduceCtorEq, if_false]
  rfl

end Resolution

/-- A key whose suffix has no value resolves to its own text and leaves the scope as it is. -/
theorem resolve_suffixed_absent (h : IsSuffixed name inner key) (hn : IsKeyName name)
    (hb : Balanced inner.toList) (habsent : evaluateIn env inner scope root = .ok none) :
    resolve env key scope root .key = .ok ⟨.object, some (.string key), none⟩ := by
  obtain ⟨suffix, hinner, hkey⟩ := h.exists_suffix hb
  obtain ⟨t, ht, hk, -, hs, hf, hbody, hexpr⟩ := exists_suffixed_token hn suffix hinner hkey
  have hliteral : t.literalKey = key := by
    cases suffix <;>
      simp_all [Token.literalKey, Suffix.shape, Suffix.inner, Suffix.print, ← String.toList_inj]
  rw [← hexpr] at habsent
  rw [resolve_of_tokenize ht (Token.yieldsValue_of_path hk)
    (Resolution.resolveToken_suffixed_absent hk hs hf habsent), hliteral]

/-- Under a key whose suffix has no value a text is written at the path that the whole key spells.
It stands under the key as one literal key when there is no dot in the suffix, and only then. -/
theorem transform_suffixed_absent (hs : scope.isArray = false) (hn : IsKeyName name)
    (hdot : '.' ∉ name.toList) (hb : Balanced inner.toList) (h : IsSuffixed name inner key)
    (habsent : evaluate env inner scope = .ok none) {s : String} (hquote : '\'' ∉ s.toList) :
    transform env scope (.object [(key, .string (quote s))]) =
        .ok ((Value.string s).beneath (pathSegments key)) ∧
      (transform env scope (.object [(key, .string (quote s))]) =
        .ok (.object [(key, .string s)]) ↔ '.' ∉ inner.toList) := by
  have hmarks : ∀ c ∈ key.toList.head?, c ≠ '!' ∧ c ≠ '@' := by
    intro c hc
    obtain ⟨suffix, -, hkey⟩ := h.exists_suffix hb
    rw [hkey, hn.head_append] at hc
    exact (hn.unmarked c hc).2
  have hr := resolve_suffixed_absent h hn hb habsent
  have hvalue : Template.build env (.string (quote s)) scope scope .object =
      .ok (some (.string s)) := by
    rw [Template.build, evaluateIn, resolve_quote hquote]
    rfl
  have htransform : transform env scope (.object [(key, .string (quote s))]) =
      .ok ((Value.string s).beneath (pathSegments key)) := by
    rw [transform_singleton hs hmarks hr, Option.getD_none, hvalue]
    exact congrArg Except.ok (Value.assign_new rfl key)
  refine ⟨htransform, ?_⟩
  rw [htransform, Except.ok.injEq, Value.beneath_pathSegments_eq_iff, h.dot_mem_iff hdot]

/-- A path that leads nowhere is cut, a filter without a dot is not. -/
theorem transform_suffixed_absent_twice :
    transform ⟨⟨0, 0⟩, id⟩ (.object [("k", .int 1)])
        (.object [(bracketed "k" "a.b", .string "'s'")]) =
        .ok (.object [("k[a", .object [("b]", .string "s")])]) ∧
      transform ⟨⟨0, 0⟩, id⟩ (.object [("k", .int 1)])
        (.object [(braced "k" "a | trim", .string "'s'")]) =
        .ok (.object [(braced "k" "a | trim", .string "s")]) := by
  have hn : IsKeyName "k" := ⟨by simp, List.all_eq_true.mp rfl, by simp⟩
  have hpath : Balanced "a.b".toList := balancedBy_of_plain (by simp [isDelimiter])
  have hpipe : Balanced "a | trim".toList := balancedBy_of_plain (by simp [isDelimiter])
  have hnowhere : evaluate ⟨⟨0, 0⟩, id⟩ "a.b" (.object [("k", .int 1)]) = .ok none := by cbv
  have htrimmed : evaluate ⟨⟨0, 0⟩, id⟩ "a | trim" (.object [("k", .int 1)]) = .ok none := by cbv
  have hs : '\'' ∉ "s".toList := by decide
  have hcut := transform_suffixed_absent rfl hn (by decide) hpath .brackets hnowhere hs
  have hwhole :=
    transform_suffixed_absent rfl hn (by decide) hpipe (.braces (by decide)) htrimmed hs
  exact ⟨hcut.1, hwhole.2.mpr (by decide)⟩

end Reshape
