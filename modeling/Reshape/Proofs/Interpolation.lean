import Reshape.Proofs.Outcome
import Reshape.Proofs.Resolving
import Reshape.Proofs.TokenSpans

/-! What an expression of several tokens resolves to: its own text, in which every token has given
way to its value and nothing else has changed. -/
namespace Reshape

/-- What stands in the place of a token of some value: nothing for a scope switch, and else the text
of the value. Of absent values only that of a path leaves the token's own text. -/
inductive Token.StandIn (t : Token) : Option Value → List Char → Prop
  | scopeSwitch (value : Option Value) : t.kind = .scopeSwitch → t.StandIn value []
  | present (v : Value) : t.kind ≠ .scopeSwitch → t.StandIn (some v) v.text.toList
  | path : t.kind = .path → t.StandIn none t.source.toList
  | absent : t.kind ≠ .path → t.StandIn none []

theorem Token.standIn_replacement (t : Token) (value : Option Value) :
    t.StandIn value (t.replacement value) := by
  by_cases hs : t.kind = .scopeSwitch
  · have hnew : t.replacement value = [] := by simp only [Token.replacement, hs]
    exact hnew ▸ .scopeSwitch value hs
  · cases value with
    | some v =>
      have hnew : t.replacement (some v) = v.text.toList := by
        cases hk : t.kind <;> simp_all [Token.replacement]
      exact hnew ▸ .present v hs
    | none =>
      by_cases hp : t.kind = .path
      · have hnew : t.replacement none = t.source.toList := by simp only [Token.replacement, hp]
        exact hnew ▸ .path hp
      · have hnew : t.replacement none = [] := by
          cases hk : t.kind <;> simp_all [Token.replacement]
        exact hnew ▸ .absent hp

/-- What comes of the character at a place of a text when spans of the text are replaced. It stays
when it lies in no span, and the whole of a span gives way at its first character. -/
def replaceAt (spans : List (Token × List Char)) (place : Char × Nat) : List Char :=
  (spans.filter fun span => span.1.start = place.2).flatMap Prod.snd ++
    if ∃ span ∈ spans, span.1.start ≤ place.2 ∧ place.2 < span.1.stop then [] else [place.1]

/-- A text with another text in the place of each of the given spans. -/
def replaceSpans (spans : List (Token × List Char)) (text : List Char) : List Char :=
  text.zipIdx.flatMap (replaceAt spans)

variable {spans : List (Token × List Char)} {t : Token} {text new : List Char} {c : Char} {i : Nat}

theorem filter_start_eq_nil (h : ∀ span ∈ spans, i < span.1.start) :
    (spans.filter fun span => span.1.start = i) = [] := by
  rw [List.filter_eq_nil_iff]
  intro span hspan
  simpa using Nat.ne_of_gt (h span hspan)

theorem replaceAt_of_before (h : ∀ span ∈ spans, i < span.1.start) :
    replaceAt spans (c, i) = [c] := by
  have houtside : ¬ ∃ span ∈ spans, span.1.start ≤ i ∧ i < span.1.stop := by
    rintro ⟨span, hspan, hle, -⟩
    exact Nat.not_lt.mpr hle (h span hspan)
  rw [replaceAt, filter_start_eq_nil h, if_neg houtside]
  rfl

theorem replaceAt_start (hstop : t.start < t.stop) (h : ∀ span ∈ spans, t.stop ≤ span.1.start) :
    replaceAt ((t, new) :: spans) (c, t.start) = new := by
  have hwithin : ∃ span ∈ (t, new) :: spans, span.1.start ≤ t.start ∧ t.start < span.1.stop :=
    ⟨(t, new), List.mem_cons_self, Nat.le_refl _, hstop⟩
  have hlater : ∀ span ∈ spans, t.start < span.1.start :=
    fun span hspan => Nat.lt_of_lt_of_le hstop (h span hspan)
  rw [replaceAt, if_pos hwithin, List.filter_cons_of_pos (by simp), filter_start_eq_nil hlater]
  simp

theorem replaceAt_of_within (hstart : t.start < i) (hstop : i < t.stop)
    (h : ∀ span ∈ spans, t.stop ≤ span.1.start) : replaceAt ((t, new) :: spans) (c, i) = [] := by
  have hwithin : ∃ span ∈ (t, new) :: spans, span.1.start ≤ i ∧ i < span.1.stop :=
    ⟨(t, new), List.mem_cons_self, Nat.le_of_lt hstart, hstop⟩
  have hlater : ∀ span ∈ spans, i < span.1.start :=
    fun span hspan => Nat.lt_of_lt_of_le hstop (h span hspan)
  rw [replaceAt, if_pos hwithin, List.filter_cons_of_neg (by simpa using Nat.ne_of_lt hstart),
    filter_start_eq_nil hlater]
  rfl

theorem replaceAt_of_after (hspan : t.start < t.stop) (hstop : t.stop ≤ i) :
    replaceAt ((t, new) :: spans) (c, i) = replaceAt spans (c, i) := by
  have hne : t.start ≠ i := by omega
  have hout : ¬ (t.start ≤ i ∧ i < t.stop) := by omega
  rw [replaceAt, replaceAt, List.filter_cons_of_neg (by simpa using hne)]
  simp only [List.exists_mem_cons_iff, hout, false_or]

/-- A text in front of all spans stays. -/
theorem flatMap_replaceAt_before (h : ∀ span ∈ spans, i + text.length ≤ span.1.start) :
    (text.zipIdx i).flatMap (replaceAt spans) = text := by
  have hstays : ∀ place ∈ text.zipIdx i, replaceAt spans place = [place.1] := by
    rintro ⟨c, j⟩ hplace
    have hj := (List.mem_zipIdx hplace).2.1
    exact replaceAt_of_before fun span hspan => Nat.lt_of_lt_of_le hj (h span hspan)
  rw [List.flatMap_congr hstays, ← List.map_eq_flatMap, List.zipIdx_map_fst]

/-- A span gives way to its text. -/
theorem flatMap_replaceAt_span (hne : text ≠ []) (hlength : t.stop = t.start + text.length)
    (h : ∀ span ∈ spans, t.stop ≤ span.1.start) :
    (text.zipIdx t.start).flatMap (replaceAt ((t, new) :: spans)) = new := by
  obtain ⟨c, rest, rfl⟩ := List.exists_cons_of_ne_nil hne
  rw [List.length_cons] at hlength
  have hrest : (rest.zipIdx (t.start + 1)).flatMap (replaceAt ((t, new) :: spans)) = [] := by
    rw [List.flatMap_eq_nil_iff]
    rintro ⟨d, j⟩ hplace
    obtain ⟨hle, hlt, -⟩ := List.mem_zipIdx hplace
    exact replaceAt_of_within (by omega) (by omega) h
  rw [List.zipIdx_cons, List.flatMap_cons, replaceAt_start (by omega) h, hrest, List.append_nil]

/-- A span plays no part behind its end. -/
theorem flatMap_replaceAt_after (hspan : t.start < t.stop) :
    (text.zipIdx t.stop).flatMap (replaceAt ((t, new) :: spans)) =
      (text.zipIdx t.stop).flatMap (replaceAt spans) := by
  apply List.flatMap_congr
  rintro ⟨c, j⟩ hplace
  exact replaceAt_of_after hspan (List.mem_zipIdx hplace).1

/-- Tokens cover parts of a text behind a place, one after the other. -/
inductive Covers (text : List Char) : Nat → List Token → Prop
  | nil (place : Nat) : Covers text place []
  | cons {place : Nat} {t : Token} {tokens : List Token} :
    place ≤ t.start → t.start < t.stop → t.stop ≤ text.length →
    t.source.toList = (text.drop t.start).take (t.stop - t.start) →
    Covers text t.stop tokens → Covers text place (t :: tokens)

variable {tokens : List Token} {results : List (Token × Option Value)} {place : Nat}

theorem Covers.le_start (h : Covers text place tokens) : ∀ t ∈ tokens, place ≤ t.start := by
  induction h with
  | nil => simp
  | @cons place t tokens hle hlt _ _ _ ih =>
    intro u hu
    rcases List.mem_cons.mp hu with rfl | hu
    · exact hle
    · have := ih u hu
      omega

theorem covers_of_pairwise
    (hspans : ∀ t ∈ tokens, place ≤ t.start ∧ t.start < t.stop ∧ t.stop ≤ text.length ∧
      t.source.toList = (text.drop t.start).take (t.stop - t.start))
    (horder : tokens.Pairwise fun t u => t.stop ≤ u.start) : Covers text place tokens := by
  induction tokens generalizing place with
  | nil => exact .nil place
  | cons t rest ih =>
    obtain ⟨hle, hlt, hlength, hsource⟩ := hspans t List.mem_cons_self
    rw [List.pairwise_cons] at horder
    refine .cons hle hlt hlength hsource (ih (fun u hu => ?_) horder.2)
    exact ⟨horder.1 u hu, (hspans u (List.mem_cons_of_mem _ hu)).2⟩

/-- The tokens of an expression cover parts of it in their order. -/
theorem covers_tokenize (expr : String) : Covers expr.toList 0 (tokenize expr) := by
  obtain ⟨covered, remainder, hexpr, hdone, -⟩ := filled_run expr.toList.prefix_rfl
  have htokens : ((Scanner.init expr.toList).run expr.toList).finish.done =
      (tokenize expr).reverse := by
    rw [tokenize, List.reverse_reverse]
  rw [htokens] at hdone
  refine covers_of_pairwise (fun t ht => ?_) (List.pairwise_reverse.mp hdone.pairwise)
  have hmem := List.mem_reverse.mpr ht
  obtain ⟨hlt, hle⟩ := hdone.span_of_mem hmem
  refine ⟨Nat.zero_le _, hlt, ?_, ?_⟩
  · rw [hexpr, List.length_append]
    omega
  · rw [hexpr, hdone.source_of_mem hmem remainder, String.toList_ofList]

/-- A text from a place on is what stands before a span, the span, and what stands behind it. -/
theorem drop_eq_span (text : List Char) (hle : place ≤ t.start) (hlt : t.start < t.stop) :
    text.drop place = (text.drop place).take (t.start - place) ++
      ((text.drop t.start).take (t.stop - t.start) ++ text.drop t.stop) := by
  have hbehind : text.drop t.stop = (text.drop t.start).drop (t.stop - t.start) := by
    rw [List.drop_drop, Nat.add_sub_cancel' (Nat.le_of_lt hlt)]
  have hspan : text.drop t.start = (text.drop place).drop (t.start - place) := by
    rw [List.drop_drop, Nat.add_sub_cancel' hle]
  rw [hbehind, List.take_append_drop, hspan, List.take_append_drop]

/-- Up to the end of the first span a text keeps what stands before the span. -/
theorem flatMap_replaceAt_drop (hle : place ≤ t.start) (hlt : t.start < t.stop)
    (hlength : t.stop ≤ text.length) (hlater : ∀ span ∈ spans, t.stop ≤ span.1.start) :
    ((text.drop place).zipIdx place).flatMap (replaceAt ((t, new) :: spans)) =
      (text.drop place).take (t.start - place) ++
        (new ++ ((text.drop t.stop).zipIdx t.stop).flatMap (replaceAt spans)) := by
  -- The text is cut at both ends of the span, and each of the three parts has its own lemma.
  have hsplit := drop_eq_span text hle hlt
  generalize hgap : (text.drop place).take (t.start - place) = gap at hsplit ⊢
  generalize hown : (text.drop t.start).take (t.stop - t.start) = own at hsplit
  have hbefore : place + gap.length = t.start := by
    rw [← hgap, List.length_take, List.length_drop]
    omega
  have hspan : t.start + own.length = t.stop := by
    rw [← hown, List.length_take, List.length_drop]
    omega
  have hne : own ≠ [] := by
    rintro rfl
    simp only [List.length_nil] at hspan
    omega
  have hkept : (gap.zipIdx place).flatMap (replaceAt ((t, new) :: spans)) = gap := by
    apply flatMap_replaceAt_before
    intro span hmem
    rcases List.mem_cons.mp hmem with rfl | hmem
    · exact Nat.le_of_eq hbefore
    · have := hlater span hmem
      omega
  rw [hsplit, List.zipIdx_append, List.zipIdx_append, hbefore, hspan, List.flatMap_append,
    List.flatMap_append, hkept, flatMap_replaceAt_span hne hspan.symm hlater,
    flatMap_replaceAt_after hlt]

/-- The texts that stand in the places of tokens. -/
def replacements (results : List (Token × Option Value)) : List (Token × List Char) :=
  results.map fun result => (result.1, result.1.replacement result.2)

/-- Interpolation replaces the spans of the tokens and nothing else. -/
theorem interpolateFrom_eq_replace (h : Covers text place (results.map Prod.fst)) :
    interpolateFrom text place results =
      ((text.drop place).zipIdx place).flatMap (replaceAt (replacements results)) := by
  induction results generalizing place with
  | nil => exact (flatMap_replaceAt_before (by simp [replacements])).symm
  | cons result rest ih =>
    obtain ⟨t, value⟩ := result
    have hcovers : Covers text place (t :: rest.map Prod.fst) := h
    cases hcovers with
    | cons hle hlt hlength _ hrest =>
      have hlater : ∀ span ∈ replacements rest, t.stop ≤ span.1.start := by
        intro span hspan
        obtain ⟨result, hresult, rfl⟩ := List.mem_map.mp hspan
        exact hrest.le_start _ (List.mem_map_of_mem hresult)
      -- The rest of the tokens begins where this one ends, and so does the rest of the text.
      rw [interpolateFrom, ih hrest, List.append_assoc]
      exact (flatMap_replaceAt_drop hle hlt hlength hlater).symm

/-- When every token is a path that leads nowhere nothing is replaced. -/
theorem interpolateFrom_of_absent (h : Covers text place (results.map Prod.fst))
    (habsent : ∀ result ∈ results, result.1.kind = .path ∧ result.2 = none) :
    interpolateFrom text place results = text.drop place := by
  induction results generalizing place with
  | nil => rfl
  | cons result rest ih =>
    obtain ⟨t, value⟩ := result
    obtain ⟨hk, rfl⟩ : t.kind = .path ∧ value = none := habsent _ List.mem_cons_self
    have hcovers : Covers text place (t :: rest.map Prod.fst) := h
    cases hcovers with
    | cons hle hlt _ hsource hrest =>
      have hown : t.replacement none = (text.drop t.start).take (t.stop - t.start) := by
        rw [← hsource]
        simp only [Token.replacement, hk]
      rw [interpolateFrom, hown, ih hrest fun result hr => habsent _ (List.mem_cons_of_mem _ hr),
        List.append_assoc]
      exact (drop_eq_span text hle hlt).symm

/-- Two tokens with a value make an expression a text. -/
theorem combine_of_two_le {expr : String} {childScope : Option Value}
    (h : 2 ≤ results.countP fun result => result.1.yieldsValue) :
    combine expr childScope results = some (.ofText (interpolateFrom expr.toList 0 results)) := by
  rw [List.countP_eq_length_filter] at h
  unfold combine
  split
  · rename_i hnone
    simp [hnone] at h
  · rename_i hone
    simp [hone] at h
  · rfl

namespace Resolution

variable {env : Environment} {resolver : ParamResolver} {scope root : Value} {context : Context}

/-- Every token has its result, in order. -/
theorem map_fst_of_resolveTokens {p p' : Progress}
    (h : resolveTokens env resolver scope root context tokens p = .ok (results, p')) :
    results.map Prod.fst = tokens := by
  induction tokens generalizing p results with
  | nil =>
    rw [resolveTokens] at h
    cases h
    rfl
  | cons t rest ih =>
    rw [resolveTokens] at h
    obtain ⟨⟨value, next⟩, -, h⟩ := bind_eq_ok.mp h
    obtain ⟨⟨others, last⟩, hrest, h⟩ := bind_eq_ok.mp h
    cases h
    rw [List.map_cons, ih hrest]

theorem step_eq_ok {expr : String} {resolved : Resolution}
    (h : step env resolver expr scope root context = .ok resolved) :
    ∃ results p, resolveTokens env resolver scope root context (tokenize expr)
        ⟨scope, .object, none⟩ = .ok (results, p) ∧
      resolved.value = combine expr p.childScope results := by
  rw [step] at h
  obtain ⟨⟨results, p⟩, hrun, h⟩ := bind_eq_ok.mp h
  cases h
  exact ⟨results, p, hrun, rfl⟩

end Resolution

variable {env : Environment} {scope root : Value} {context : Context} {expr : String}
  {resolved : Resolution}

/-- An expression with two tokens or more that are no scope switches resolves to its own text with
the span of every token replaced by what stands for the value of the token. If all its tokens are
paths that lead nowhere this is the expression itself. -/
theorem resolve_eq_replaceSpans
    (htokens : 2 ≤ (tokenize expr).countP fun t => t.kind ≠ .scopeSwitch)
    (h : resolve env expr scope root context = .ok resolved) :
    ∃ results p texts,
      Resolution.resolveTokens env (evaluateIn env) scope root context (tokenize expr)
        ⟨scope, .object, none⟩ = .ok (results, p) ∧
      results.map Prod.fst = tokenize expr ∧
      List.Forall₂ (fun result text => result.1.StandIn result.2 text) results texts ∧
      resolved.value = some (.ofText (replaceSpans ((tokenize expr).zip texts) expr.toList)) ∧
      ((∀ result ∈ results, result.1.kind = .path ∧ result.2 = none) →
        resolved.value = some (.string expr)) := by
  rw [resolve_eq_step] at h
  obtain ⟨results, p, hrun, hvalue⟩ := Resolution.step_eq_ok h
  have hfst := Resolution.map_fst_of_resolveTokens hrun
  have hcovers : Covers expr.toList 0 (results.map Prod.fst) := hfst ▸ covers_tokenize expr
  have htwo : 2 ≤ results.countP fun result => result.1.yieldsValue := by
    rw [← hfst, List.countP_map] at htokens
    exact htokens
  rw [combine_of_two_le htwo] at hvalue
  refine ⟨results, p, results.map fun result => result.1.replacement result.2, hrun, hfst, ?_, ?_,
    fun habsent => ?_⟩
  · rw [List.forall₂_map_right_iff, List.forall₂_same]
    exact fun result _ => result.1.standIn_replacement result.2
  · have hspans : (tokenize expr).zip (results.map fun result => result.1.replacement result.2) =
        replacements results := by
      rw [← hfst, List.zip_map']
      rfl
    rw [hvalue, interpolateFrom_eq_replace hcovers, hspans]
    rfl
  · rw [hvalue, interpolateFrom_of_absent hcovers habsent, List.drop_zero, Value.ofText,
      String.ofList_toList]

/-- A letter with paths, embedded expressions, a scope switch and a literal, some of them absent. -/
def sampleLetter : String :=
  "Dear \x7b\x7bname\x7d\x7d,\n[order] pay 'EUR' \x7b\x7bnote\x7d\x7d total"

def sampleOrder : Value := .object [("total", .int 7)]

theorem resolve_sampleLetter :
    2 ≤ (tokenize sampleLetter).countP (fun t => t.kind ≠ .scopeSwitch) ∧
      resolve ⟨⟨0, 0⟩, id⟩ sampleLetter (.object [("name", .string "Ann"), ("order", sampleOrder)])
          .null .value =
        .ok ⟨.object, some (.string "Dear Ann,\n pay EUR  7"), some sampleOrder⟩ ∧
      ∃ results texts,
        results.map Prod.fst = tokenize sampleLetter ∧
        List.Forall₂ (fun result text => result.1.StandIn result.2 text) results texts ∧
        some (.string "Dear Ann,\n pay EUR  7") =
          some (Value.ofText
            (replaceSpans ((tokenize sampleLetter).zip texts) sampleLetter.toList)) := by
  have htokens : 2 ≤ (tokenize sampleLetter).countP (fun t => t.kind ≠ .scopeSwitch) := by cbv
  have hresolve : resolve ⟨⟨0, 0⟩, id⟩ sampleLetter
      (.object [("name", .string "Ann"), ("order", sampleOrder)]) .null .value =
        .ok ⟨.object, some (.string "Dear Ann,\n pay EUR  7"), some sampleOrder⟩ := by cbv
  obtain ⟨results, _, texts, -, hfst, htexts, hvalue, -⟩ :=
    resolve_eq_replaceSpans htokens hresolve
  exact ⟨htokens, hresolve, results, texts, hfst, htexts, hvalue⟩

end Reshape
