import Reshape.Proofs.LiteralPatterns
import Reshape.Proofs.Setting
import Reshape.Proofs.SplitAndJoin

/-! Replacing every occurrence of a text. It gives what splitting at the text and joining the pieces
by the replacement gives, whenever the text is compiled as a pattern. -/
namespace Reshape

open Value

variable {env : Environment} {scope root : Value} {pattern text : List Char} {p r s : String}

namespace Regex

/-- Without a dollar sign every character of a replacement stands for itself. -/
theorem pieces_of_not_mem {replacement : List Char} (h : '$' ∉ replacement) {fuel : Nat}
    (hfuel : replacement.length ≤ fuel) :
    pieces replacement fuel = replacement.map fun c => .text [c] := by
  induction replacement generalizing fuel with
  | nil => cases fuel <;> rfl
  | cons c rest ih =>
    rw [List.mem_cons, not_or] at h
    obtain ⟨fuel, rfl⟩ := Nat.exists_eq_add_one_of_ne_zero (Nat.ne_of_gt (Nat.zero_lt_of_lt hfuel))
    have hrest := ih h.2 (Nat.le_of_succ_le_succ hfuel)
    unfold pieces
    split
    · rename_i hcons
      cases hcons
    · rename_i hcons
      cases hcons
      exact (h.1 rfl).elim
    · rename_i hcons
      cases hcons
      rw [hrest, List.map_cons]

theorem expand_of_not_mem {replacement : List Char} (h : '$' ∉ replacement) (regex : Regex)
    (text : List Char) (m : Pattern.Match) :
    (pieces replacement replacement.length).flatMap (regex.expand text m) = replacement := by
  rw [pieces_of_not_mem h (Nat.le_refl _), List.flatMap_map]
  exact List.flatMap_singleton' replacement

theorem between_self (text : List Char) (place : Nat) : between text place place = [] := by
  simp [between]

/-- The character at the end of a part that goes on for one more. -/
theorem between_concat {start index : Nat} {c : Char} {rest : List Char} (hle : start ≤ index)
    (h : text.drop index = c :: rest) :
    between text start (index + 1) = between text start index ++ [c] := by
  have hchar : (text.drop start)[index - start]? = some c := by
    rw [List.getElem?_drop, Nat.add_sub_cancel' hle, ← List.head?_drop, h]
    rfl
  rw [between, between, Nat.succ_sub hle, List.take_add_one, hchar]
  rfl

theorem between_of_drop_eq_nil {start index : Nat} (h : text.drop index = []) :
    between text start index = text.drop start := by
  have hlength : text.length ≤ index := List.drop_eq_nil_iff.mp h
  exact List.take_of_length_le (by rw [List.length_drop]; omega)

/-- The text from a place on, with what is found behind a later place replaced: what stands between
the places, and the pieces behind the later one with the replacement between them. -/
theorem replaceFrom_matchesFrom (hne : pattern ≠ []) (regex : Regex) {replacement : List Char}
    (hr : '$' ∉ replacement) (slots : Pattern.Slots) (text input : List Char) (start index : Nat)
    (before : Option Char) (last : Option Nat) (hle : start ≤ index)
    (hinput : text.drop index = input) :
    regex.replaceFrom (pieces replacement replacement.length) text start
        (Pattern.matchesFrom (Pattern.spell pattern) slots index before last 0 input) =
      between text start index ++ replacement.intercalate (splitOn pattern input) := by
  have hempty : pattern.isPrefixOf [] = false := by
    obtain ⟨c, rest, rfl⟩ := List.exists_cons_of_ne_nil hne
    rfl
  have hlength : 0 < pattern.length := List.length_pos_iff.mpr hne
  -- The cases are those of the search for pieces; a match skips the same characters in both.
  fun_induction splitOn pattern input generalizing start index before last with
  | case1 =>
    rw [Pattern.matchesFrom, Pattern.matchAt_spell, hempty]
    simp [replaceFrom, between_of_drop_eq_nil hinput]
  | case2 c rest hfound ih =>
    have hstop : index + pattern.length ≠ index := by omega
    have hskip : index + pattern.length - index - 1 = pattern.length - 1 := by omega
    have hnext : index + 1 + (pattern.length - 1) = index + pattern.length := by omega
    have hfits : pattern.length - 1 ≤ rest.length := by
      have hprefix := (List.isPrefixOf_iff_prefix.mp hfound).length_le
      rw [List.length_cons] at hprefix
      omega
    have hdrop : text.drop (index + pattern.length) = rest.drop (pattern.length - 1) := by
      rw [← List.drop_drop, hinput, List.drop_cons hlength]
    obtain ⟨before', hmatches⟩ := Pattern.exists_matchesFrom_drop hfits
      (Pattern.spell pattern) slots (index + 1) (some c) (some (index + pattern.length))
    have hrest := ih (index + pattern.length) (index + pattern.length) before'
      (some (index + pattern.length)) (Nat.le_refl _) hdrop
    simp only [Pattern.matchesFrom, Pattern.matchAt_spell, hfound, if_true, if_pos hstop, hskip,
      hmatches, hnext, replaceFrom, hrest, expand_of_not_mem hr, between_self, List.nil_append,
      intercalate_nil_cons _ (splitOn_ne_nil _ _), List.append_assoc]
  | case3 c rest hmissing ih =>
    have hdrop : text.drop (index + 1) = rest := by
      rw [← List.drop_drop, hinput]
      rfl
    have hrest := ih start (index + 1) (some c) last (Nat.le_succ_of_le hle) hdrop
    rw [Pattern.matchesFrom, Pattern.matchAt_spell, if_neg hmissing,
      intercalate_modifyHead _ _ (splitOn_ne_nil _ _)]
    show regex.replaceFrom _ text start
      (Pattern.matchesFrom _ slots (index + 1) (some c) last 0 rest) = _
    rw [hrest, between_concat hle hinput, List.append_assoc]
    rfl

end Regex

/-- The flag for replacing every match is no flag of patterns. -/
theorem regex?_all (p : String) : regex? p "g" = Regex.parse? .default p.toList := rfl

/-- Without a fallback a text of which every match is replaced needs no match. -/
theorem replaceText_of_regex {flags : String} {regex : Regex} (h : regex? p flags = some regex)
    (hflags : flags.toList.contains 'g' = true) (r s : String) :
    replaceText (some (.string s)) p r none flags =
      some (ofText (regex.replace r.toList s.toList (regex.findAll s.toList))) := by
  have hscalar : (some (Value.string s)).bind scalarText? = some s := rfl
  rw [replaceText, hscalar]
  simp only [Option.bind_eq_bind, Option.bind_some, h, hflags, if_true]
  cases hfound : regex.findAll s.toList with
  | nil => simp [Regex.replace, Regex.replaceFrom, ofText]
  | cons first rest => rfl

theorem replaceText_of_refused {flags : String} (h : regex? p flags = none) (r s : String)
    (fallback : Option Value) :
    replaceText (some (.string s)) p r fallback flags = some (.string s) := by
  have hscalar : (some (Value.string s)).bind scalarText? = some s := rfl
  rw [replaceText, hscalar]
  simp only [Option.bind_eq_bind, Option.bind_some, h]

/-- Every occurrence of a text is replaced by splitting and joining, also where there is none. -/
theorem replaceText_literal (hne : p ≠ "") (hp : ∀ c ∈ p.toList, c.isAlphanum = true)
    {regex : Regex} (hregex : regex? p "g" = some regex) (hr : '$' ∉ r.toList) (s : String) :
    replaceText (some (.string s)) p r none "g" =
      some (joinItems r (splitText p (.string s))) := by
  have hchars : p.toList ≠ [] := by simpa using hne
  obtain rfl := Pattern.eq_spell_of_regexParse? hchars hp (regex?_all p ▸ hregex)
  have hfrom := Regex.replaceFrom_matchesFrom hchars ⟨Pattern.spell p.toList, ⟨0, []⟩⟩ hr
    (List.replicate 2 none) s.toList s.toList 0 0 none none (Nat.le_refl _) rfl
  rw [Regex.between_self, List.nil_append] at hfrom
  rw [joinItems_splitText_of_ne hne, replaceText_of_regex hregex rfl]
  exact congrArg (some ∘ ofText) hfrom

/-- Whatever gives the texts, replacing every occurrence of one by the other gives the same text as
splitting at the one and joining by the other. -/
def ReplacesAsSplit (p r s : String) : Prop :=
  ∀ (env : Environment) (scope root : Value) (pattern replacement fallback flags : String),
    GivesText env scope root pattern p → GivesText env scope root replacement r →
    evaluateIn env fallback scope root = .ok none → GivesText env scope root flags "g" →
    ∃ t : String,
      applyFilter env "replace" [pattern, replacement, fallback, flags] scope root
          (some (.string s)) = .ok (some (.string t)) ∧
        (applyFilter env "split" [pattern] scope root (some (.string s)) >>=
          applyFilter env "join" [replacement] scope root) = .ok (some (.string t))

theorem GivesText.applyFilter_replace {pattern replacement fallback flags g : String}
    {v : Option Value} (hp : GivesText env scope root pattern p)
    (hr : GivesText env scope root replacement r)
    (hf : evaluateIn env fallback scope root = .ok v) (hg : GivesText env scope root flags g)
    (piped : Option Value) :
    applyFilter env "replace" [pattern, replacement, fallback, flags] scope root piped =
      .ok (replaceText piped p r v g) := by
  obtain ⟨_, hp, rfl⟩ := hp
  obtain ⟨_, hr, rfl⟩ := hr
  obtain ⟨_, hg, rfl⟩ := hg
  have hargs := Filter.resolveParams_of_forall₂ (.cons hp (.cons hr (.cons hf (.cons hg .nil))))
  exact applyFilter_of_resolved (f := .replace) (by decide) hargs piped

theorem GivesText.givesSeparator {param : String} (h : GivesText env scope root param p) :
    GivesSeparator env scope root [param] p := by
  obtain ⟨v, hv, rfl⟩ := h
  exact .text hv

/-- Splitting at a text and joining by another one. -/
theorem GivesText.applyFilter_split_then_join {pattern replacement : String}
    (hp : GivesText env scope root pattern p) (hr : GivesText env scope root replacement r)
    (v : Value) :
    (applyFilter env "split" [pattern] scope root (some v) >>=
      applyFilter env "join" [replacement] scope root) =
        .ok (some (joinItems r (splitText p v))) := by
  rw [hp.givesSeparator.applyFilter_split]
  exact hr.givesSeparator.applyFilter_join _

/-- Replacing every occurrence of letters and digits by a text without a dollar sign is splitting
and joining, in every text, if the letters and digits are compiled at all. -/
theorem replacesAsSplit_of_compiles (hne : p ≠ "") (hp : ∀ c ∈ p.toList, c.isAlphanum = true)
    {regex : Regex} (hregex : regex? p "g" = some regex) (hr : '$' ∉ r.toList) (s : String) :
    ReplacesAsSplit p r s := by
  intro env scope root pattern replacement fallback flags hpattern hreplacement hfallback hflags
  refine ⟨String.ofList (r.toList.intercalate (splitOn p.toList s.toList)), ?_, ?_⟩
  · rw [hpattern.applyFilter_replace hreplacement hfallback hflags,
      replaceText_literal hne hp hregex hr, joinItems_splitText_of_ne hne, ofText]
  · rw [hpattern.applyFilter_split_then_join hreplacement, joinItems_splitText_of_ne hne, ofText]

/-- Occurrences that overlap, one at each end, and a replacement that has the text in it. -/
theorem replacesAsSplit_overlapping :
    (regex? "a0a" "g").isSome = true ∧ ReplacesAsSplit "a0a" "-a0a" "a0a0a\u00e9a0a" ∧
      applyFilter ⟨⟨0, 0⟩, id⟩ "replace" ["'a0a'", "'-a0a'", "none", "'g'"] .null .null
        (some (.string "a0a0a\u00e9a0a")) = .ok (some (.string "-a0a0a\u00e9-a0a")) := by
  have hplain : "a0a".toList.all Char.isAlphanum = true := by decide +kernel
  have hcompiles : (regex? "a0a" "g").isSome = true := by cbv
  obtain ⟨regex, hregex⟩ := Option.isSome_iff_exists.mp hcompiles
  have hagree := replacesAsSplit_of_compiles (p := "a0a") (r := "-a0a") (by decide)
    (List.all_eq_true.mp hplain) hregex (by decide) "a0a0a\u00e9a0a"
  have hpattern : evaluateIn ⟨⟨0, 0⟩, id⟩ "'a0a'" .null .null = .ok (some (.string "a0a")) := by cbv
  have hreplacement : evaluateIn ⟨⟨0, 0⟩, id⟩ "'-a0a'" .null .null =
      .ok (some (.string "-a0a")) := by cbv
  have hfallback : evaluateIn ⟨⟨0, 0⟩, id⟩ "none" .null .null = .ok none := by cbv
  have hflags : evaluateIn ⟨⟨0, 0⟩, id⟩ "'g'" .null .null = .ok (some (.string "g")) := by cbv
  obtain ⟨t, hreplace, hsplit⟩ := hagree _ _ _ _ _ _ _ ⟨_, hpattern, rfl⟩ ⟨_, hreplacement, rfl⟩
    hfallback ⟨_, hflags, rfl⟩
  have hjoined := GivesText.applyFilter_split_then_join (p := "a0a") (r := "-a0a")
    ⟨_, hpattern, rfl⟩ ⟨_, hreplacement, rfl⟩ (.string "a0a0a\u00e9a0a")
  have hpieces : joinItems "-a0a" (splitText "a0a" (.string "a0a0a\u00e9a0a")) =
      .string "-a0a0a\u00e9-a0a" := by cbv
  rw [hpieces] at hjoined
  exact ⟨hcompiles, hagree, hreplace.trans (hsplit.symm.trans hjoined)⟩

theorem splitOn_self (hne : pattern ≠ []) : splitOn pattern pattern = [[], []] := by
  obtain ⟨c, rest, rfl⟩ := List.exists_cons_of_ne_nil hne
  have hprefix : (c :: rest).isPrefixOf (c :: rest) = true :=
    List.isPrefixOf_iff_prefix.mpr List.prefix_rfl
  have hdrop : rest.drop ((c :: rest).length - 1) = [] := by simp
  rw [splitOn, if_pos hprefix, hdrop, splitOn]

theorem givesText_quote (h : '\'' ∉ s.toList) : GivesText env scope root (quote s) s := by
  refine ⟨.string s, ?_, rfl⟩
  rw [evaluateIn, resolve_quote h]
  rfl

/-- A text that is refused as a pattern is cut out of itself by splitting and is not replaced. -/
theorem not_replacesAsSplit_of_refused (hne : p ≠ "") (hquote : '\'' ∉ p.toList)
    (hregex : regex? p "g" = none) (hx : p ≠ "x") : ¬ ReplacesAsSplit p "x" p := by
  have hpattern : GivesText ⟨⟨0, 0⟩, id⟩ .null .null (quote p) p := givesText_quote hquote
  have hreplacement : GivesText ⟨⟨0, 0⟩, id⟩ .null .null (quote "x") "x" :=
    givesText_quote (by decide)
  have hflags : GivesText ⟨⟨0, 0⟩, id⟩ .null .null (quote "g") "g" := givesText_quote (by decide)
  have hfallback : evaluateIn ⟨⟨0, 0⟩, id⟩ "none" .null .null = .ok none := by cbv
  intro hagree
  obtain ⟨t, hreplace, hsplit⟩ := hagree _ _ _ _ _ _ _ hpattern hreplacement hfallback hflags
  have hchars : p.toList ≠ [] := by simpa using hne
  rw [hpattern.applyFilter_replace hreplacement hfallback hflags,
    replaceText_of_refused hregex] at hreplace
  rw [hpattern.applyFilter_split_then_join hreplacement, joinItems_splitText_of_ne hne,
    splitOn_self hchars] at hsplit
  obtain rfl : p = t := by simpa using hreplace
  exact hx (by simpa [ofText, ← String.toList_inj] using hsplit.symm)

/-- A text of one letter, a mebibyte long. -/
def manyLetters : String := String.ofList (List.replicate 0x100000 'a')

/-- Its automaton would have a state for each letter, and there is no room for so many. -/
theorem not_replacesAsSplit_manyLetters :
    manyLetters ≠ "" ∧ (∀ c ∈ manyLetters.toList, c.isAlphanum = true) ∧ '$' ∉ "x".toList ∧
      ¬ ReplacesAsSplit manyLetters "x" manyLetters := by
  have htext : manyLetters.toList = List.replicate 0x100000 'a' := String.toList_ofList
  have hp : ∀ c ∈ manyLetters.toList, c.isAlphanum = true := by
    intro c hc
    rw [htext] at hc
    rw [List.eq_of_mem_replicate hc]
    decide
  have hchars : manyLetters.toList ≠ [] := by
    rw [htext, ← List.length_pos_iff, List.length_replicate]
    decide
  have hlarge : Pattern.maxBytes < manyLetters.toList.length * stateBytes := by
    rw [htext, List.length_replicate]
    decide
  have hne : manyLetters ≠ "" := by
    intro hempty
    exact hchars (by rw [hempty, String.toList_empty])
  have hquote : '\'' ∉ manyLetters.toList := by
    intro hmem
    exact absurd (hp _ hmem) (by decide)
  have hx : manyLetters ≠ "x" := by
    intro hsame
    rw [hsame] at hlarge
    exact absurd hlarge (by decide)
  have hrefused : regex? manyLetters "g" = none :=
    (regex?_all _).trans (Pattern.regexParse?_eq_none hchars hp hlarge)
  exact ⟨hne, hp, by decide, not_replacesAsSplit_of_refused hne hquote hrefused hx⟩

end Reshape
