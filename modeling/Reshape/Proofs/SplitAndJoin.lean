import Reshape.Proofs.ScopeSwitches

/-! Splitting a text and joining the pieces. Joining undoes splitting whatever the separator is, and
splitting undoes joining when the separator is one character that is in no piece. -/
namespace Reshape

open Value

variable {env : Environment} {scope root : Value} {params params' : List String} {sep : String}

theorem texts_eq_map (values : List Value) : texts values = values.map Value.text := by
  induction values with
  | nil => rfl
  | cons v rest ih => rw [texts, ih, List.map_cons]

theorem texts_map_ofText (pieces : List (List Char)) :
    texts (pieces.map ofText) = pieces.map String.ofList := by
  simp [texts_eq_map, ofText, Value.text]

theorem texts_map_string (strings : List String) : texts (strings.map Value.string) = strings := by
  simp [texts_eq_map, Value.text, Function.comp_def]

theorem intercalate_nil_singletons (text : List Char) :
    ([] : List Char).intercalate (text.map fun c => [c]) = text := by
  induction text with
  | nil => rfl
  | cons c rest ih =>
    cases rest with
    | nil => rfl
    | cons d more =>
      simp only [List.map_cons] at ih ⊢
      rw [List.intercalate_cons_cons, ih]
      rfl

/-- Joining texts puts the separator between their characters. -/
theorem joinItems_ofText (sep : String) (pieces : List (List Char)) :
    joinItems sep (.array (pieces.map ofText)) = ofText (sep.toList.intercalate pieces) := by
  have hlists : String.toList ∘ String.ofList = id := by
    funext text
    simp
  rw [joinItems, texts_map_ofText, ofText, Value.string.injEq, ← String.toList_inj,
    String.toList_intercalate, List.map_map, hlists, List.map_id, String.toList_ofList]

/-- The pieces between the occurrences of a separator, with another one between them. -/
theorem joinItems_splitText_of_ne (hne : sep ≠ "") (other s : String) :
    joinItems other (splitText sep (.string s)) =
      ofText (other.toList.intercalate (splitOn sep.toList s.toList)) := by
  have hsome : sep.isEmpty = false := by simpa using hne
  rw [splitText, if_neg (by simp [hsome]), joinItems_ofText]

/-- Joining undoes splitting. -/
theorem joinItems_splitText (sep s : String) :
    joinItems sep (splitText sep (.string s)) = .string s := by
  by_cases hempty : sep = ""
  · subst hempty
    rw [splitText, if_pos (by decide), joinItems_ofText]
    exact (congrArg ofText (intercalate_nil_singletons s.toList)).trans (by simp [ofText])
  · have hchars : sep.toList ≠ [] := by simpa using hempty
    rw [joinItems_splitText_of_ne hempty, intercalate_splitOn hchars, ofText, String.ofList_toList]

/-- Splitting undoes joining by a character that is in none of the texts. -/
theorem splitText_joinItems {c : Char} {strings : List String} (hne : strings ≠ [])
    (h : ∀ s ∈ strings, c ∉ s.toList) :
    splitText (String.singleton c) (joinItems (String.singleton c) (.array (strings.map .string))) =
      .array (strings.map .string) := by
  have hsome : (String.singleton c).isEmpty = false := by simp
  have hpieces : ∀ piece ∈ strings.map String.toList, c ∉ piece := by simpa using h
  rw [joinItems, texts_map_string, splitText, if_neg (by simp [hsome]), String.toList_intercalate,
    String.toList_singleton, splitOn_singleton,
    List.splitOn_intercalate c hpieces (by simpa using hne)]
  simp [ofText]

/-- What the parameters give as a separator: the text of the only one, or a comma if there is none
or if it leads nowhere. -/
inductive GivesSeparator (env : Environment) (scope root : Value) : List String → String → Prop
  | comma : GivesSeparator env scope root [] ","
  | absent {param : String} (h : evaluateIn env param scope root = .ok none) :
    GivesSeparator env scope root [param] ","
  | text {param : String} {v : Value} (h : evaluateIn env param scope root = .ok (some v)) :
    GivesSeparator env scope root [param] v.text

theorem GivesSeparator.exists_args (h : GivesSeparator env scope root params sep) :
    ∃ args, Filter.resolveParams (evaluateIn env) scope root params = .ok args ∧
      (Filter.argText args 0).getD "," = sep := by
  cases h with
  | comma => exact ⟨[], rfl, rfl⟩
  | absent hparam => exact ⟨_, Filter.resolveParams_of_forall₂ (.cons hparam .nil), rfl⟩
  | text hparam => exact ⟨_, Filter.resolveParams_of_forall₂ (.cons hparam .nil), rfl⟩

theorem GivesSeparator.applyFilter_split (h : GivesSeparator env scope root params sep)
    (v : Value) :
    applyFilter env "split" params scope root (some v) = .ok (some (splitText sep v)) := by
  obtain ⟨args, hargs, rfl⟩ := h.exists_args
  exact applyFilter_of_resolved (f := .split) (by decide) hargs (some v)

theorem GivesSeparator.applyFilter_join (h : GivesSeparator env scope root params sep) (v : Value) :
    applyFilter env "join" params scope root (some v) = .ok (some (joinItems sep v)) := by
  obtain ⟨args, hargs, rfl⟩ := h.exists_args
  exact applyFilter_of_resolved (f := .join) (by decide) hargs (some v)

/-- With one separator on both sides, a text that is split and joined is the text again, and so are
texts without the separator that are joined and split, when it is a single character. -/
theorem applyFilter_split_join (h : GivesSeparator env scope root params sep)
    (h' : GivesSeparator env scope root params' sep) :
    (∀ s : String, (applyFilter env "split" params scope root (some (.string s)) >>=
        applyFilter env "join" params' scope root) = .ok (some (.string s))) ∧
      ∀ (c : Char) (strings : List String), sep = String.singleton c → strings ≠ [] →
        (∀ s ∈ strings, c ∉ s.toList) →
        (applyFilter env "join" params' scope root (some (.array (strings.map .string))) >>=
          applyFilter env "split" params scope root) =
            .ok (some (.array (strings.map .string))) := by
  constructor
  · intro s
    rw [h.applyFilter_split]
    show applyFilter env "join" params' scope root (some (splitText sep (.string s))) = _
    rw [h'.applyFilter_join, joinItems_splitText]
  · rintro c strings rfl hne hfree
    rw [h'.applyFilter_join]
    show applyFilter env "split" params scope root _ = _
    rw [h.applyFilter_split, splitText_joinItems hne hfree]

/-- A separator that overlaps itself in the text, and empty pieces on both sides of a comma. -/
theorem applyFilter_split_join_overlapping :
    (applyFilter ⟨⟨0, 0⟩, id⟩ "split" ["'aa'"] .null .null (some (.string "aaaba")) >>=
        applyFilter ⟨⟨0, 0⟩, id⟩ "join" ["'aa'"] .null .null) = .ok (some (.string "aaaba")) ∧
      (applyFilter ⟨⟨0, 0⟩, id⟩ "join" [] .null .null
          (some (.array [.string "", .string "aa", .string ""])) >>=
        applyFilter ⟨⟨0, 0⟩, id⟩ "split" [] .null .null) =
          .ok (some (.array [.string "", .string "aa", .string ""])) := by
  have hparam : evaluateIn ⟨⟨0, 0⟩, id⟩ "'aa'" .null .null = .ok (some (.string "aa")) := by cbv
  have hdoubled := applyFilter_split_join (.text hparam) (.text hparam)
  have hcomma := @applyFilter_split_join ⟨⟨0, 0⟩, id⟩ .null .null _ _ _ .comma .comma
  exact ⟨hdoubled.1 "aaaba", hcomma.2 ',' ["", "aa", ""] rfl (by decide) (by decide)⟩

end Reshape
