/-! Cutting a text at every occurrence of a separator of one or more characters. -/
namespace Reshape

/-- The pieces between the occurrences of a nonempty separator, found from left to right without
overlap. -/
def splitOn (sep : List Char) : List Char → List (List Char)
  | [] => [[]]
  | c :: rest =>
    if sep.isPrefixOf (c :: rest) then [] :: splitOn sep (rest.drop (sep.length - 1))
    else (splitOn sep rest).modifyHead (c :: ·)
termination_by text => text.length
decreasing_by
  · simp only [List.length_drop, List.length_cons]; omega
  · simp

theorem splitOn_ne_nil (sep text : List Char) : splitOn sep text ≠ [] := by
  fun_induction splitOn sep text with
  | case1 => simp
  | case2 => simp
  | case3 c rest hp ih => simpa using ih

theorem intercalate_modifyHead (sep : List Char) (c : Char) {pieces : List (List Char)}
    (h : pieces ≠ []) :
    sep.intercalate (pieces.modifyHead (c :: ·)) = c :: sep.intercalate pieces := by
  match pieces, h with
  | [piece], _ => simp
  | piece :: next :: rest, _ => simp [List.intercalate_cons_cons]

theorem intercalate_nil_cons (sep : List Char) {pieces : List (List Char)} (h : pieces ≠ []) :
    sep.intercalate ([] :: pieces) = sep ++ sep.intercalate pieces := by
  match pieces, h with
  | piece :: rest, _ => simp [List.intercalate_cons_cons]

/-- The pieces with the separator between them are the text again. -/
theorem intercalate_splitOn {sep : List Char} (h : sep ≠ []) (text : List Char) :
    sep.intercalate (splitOn sep text) = text := by
  fun_induction splitOn sep text with
  | case1 => simp
  | case2 c rest hp ih =>
    rw [intercalate_nil_cons _ (splitOn_ne_nil _ _), ih]
    obtain ⟨tail, ht⟩ := List.isPrefixOf_iff_prefix.mp hp
    obtain ⟨d, ds, rfl⟩ := List.exists_cons_of_ne_nil h
    rw [List.cons_append, List.cons.injEq] at ht
    simp [← ht.1, ← ht.2]
  | case3 c rest hp ih => rw [intercalate_modifyHead _ _ (splitOn_ne_nil _ _), ih]

/-- No piece between the occurrences of a character has it. -/
theorem not_mem_of_mem_splitOn {sep : Char} {text piece : List Char}
    (h : piece ∈ text.splitOn sep) : sep ∉ piece := by
  induction text generalizing piece with
  | nil =>
    obtain rfl : piece = [] := by simpa using h
    exact List.not_mem_nil
  | cons c rest ih =>
    rw [List.splitOn_cons_eq_if_modifyHead] at h
    obtain ⟨first, more, hpieces⟩ := List.exists_cons_of_ne_nil (List.splitOn_ne_nil sep rest)
    rw [hpieces] at h ih
    split at h
    · rcases List.mem_cons.mp h with rfl | hpiece
      · exact List.not_mem_nil
      · exact ih hpiece
    · rename_i hc
      rcases List.mem_cons.mp h with rfl | hpiece
      · have hne : sep ≠ c := fun he => hc (by simp [he])
        have hfirst := ih List.mem_cons_self
        simp [hne, hfirst]
      · exact ih (List.mem_cons_of_mem _ hpiece)

theorem not_mem_of_splitOn_eq_singleton {sep : Char} {text piece : List Char}
    (h : text.splitOn sep = [piece]) : sep ∉ text := by
  have hpiece : sep ∉ piece := not_mem_of_mem_splitOn (h ▸ List.mem_singleton_self piece)
  have htext : [sep].intercalate (text.splitOn sep) = text := List.intercalate_splitOn sep
  rw [h, List.intercalate_singleton] at htext
  rwa [← htext]

/-- A separator of one character. -/
theorem splitOn_singleton (c : Char) (text : List Char) : splitOn [c] text = text.splitOn c := by
  induction text with
  | nil => simp [splitOn]
  | cons d rest ih =>
    rw [splitOn, List.splitOn_cons_eq_if_modifyHead]
    by_cases hd : d = c
    · simp [hd, ih]
    · simp [hd, Ne.symm hd, ih]

end Reshape
