import Mathlib
import Reshape.Pattern.Regex

/-! Patterns of ASCII letters and digits. They stand for their own text, and a search finds them
where the text stands, from left to right without overlap. -/
namespace Reshape.Pattern

variable {text input front : List Char} {c d : Char}

/-- The pattern that stands for a text. -/
def literal : List Char → Pattern
  | [c] => .set (.single c)
  | text => .sequence (text.map fun c => .set (.single c))

/-- Letters and digits are no signs of patterns. -/
theorem cons_ne_of_isAlphanum (hc : c.isAlphanum = true) (hd : d.isAlphanum = false)
    (rest rest' : List Char) : c :: rest ≠ d :: rest' := by
  rintro ⟨⟩
  rw [hc] at hd
  cases hd

theorem atom?_of_isAlphanum (hc : c.isAlphanum = true) (f : Flags) (rest : List Char) :
    atom? f (c :: rest) = some (.set (f.widen (.single c)), rest) := by
  unfold atom?
  split
  case h_6 heq =>
    cases heq
    rfl
  case h_1 heq => cases heq
  all_goals
    rename_i heq
    exact (cons_ne_of_isAlphanum hc (by decide) _ _ heq).elim

/-- A letter or digit is one more part of the arm that is being read. -/
theorem choice?_of_isAlphanum (hc : c.isAlphanum = true) (groups : Groups) (arms : List Pattern)
    (parts : List (Option Pattern)) (rest : List Char) (fuel : Nat) :
    choice? .default groups arms parts (c :: rest) (fuel + 1) =
      choice? .default groups arms (some (.set (.single c)) :: parts) rest fuel := by
  have hskip : Flags.default.skip (c :: rest) = c :: rest := rfl
  rw [choice?, hskip]
  split
  case h_10 =>
    rw [atom?_of_isAlphanum hc]
    rfl
  case h_1 heq => cases heq
  all_goals
    rename_i heq
    exact (cons_ne_of_isAlphanum hc (by decide) _ _ heq).elim

/-- A text of letters and digits is read to its end, each of them as a part. -/
theorem choice?_literal (h : ∀ c ∈ text, c.isAlphanum = true) {fuel : Nat}
    (hfuel : text.length < fuel) (groups : Groups) (parts : List (Option Pattern)) :
    choice? .default groups [] parts text fuel =
      some (ofParts ((text.map fun c => some (.set (.single c))).reverse ++ parts), [],
        groups) := by
  induction text generalizing fuel parts with
  | nil =>
    obtain ⟨fuel, rfl⟩ := Nat.exists_eq_add_one_of_ne_zero (Nat.ne_of_gt hfuel)
    rfl
  | cons c rest ih =>
    obtain ⟨fuel, rfl⟩ := Nat.exists_eq_add_one_of_ne_zero (Nat.ne_of_gt (Nat.zero_lt_of_lt hfuel))
    have hrest : rest.length < fuel := by
      rw [List.length_cons] at hfuel
      omega
    rw [choice?_of_isAlphanum (h c List.mem_cons_self),
      ih (fun d hd => h d (List.mem_cons_of_mem _ hd)) hrest]
    simp

theorem ofParts_literal (hne : text ≠ []) :
    ofParts (text.map fun c => some (.set (.single c))).reverse = literal text := by
  have hparts : (text.map fun c => some (Pattern.set (.single c))).reverse.reverse.filterMap id =
      text.map fun c => .set (.single c) := by
    simp [List.filterMap_map]
  unfold ofParts
  rw [hparts]
  match text, hne with
  | [c], _ => rfl
  | c :: d :: rest, _ => rfl

theorem maxDepth_sets (text : List Char) :
    maxDepth (text.map fun c => .set (.single c)) = 0 := by
  induction text with
  | nil => rfl
  | cons c rest ih => simp [maxDepth, depth, ih]

theorem depth_literal_le (text : List Char) : (literal text).depth ≤ 1 := by
  unfold literal
  split
  · exact Nat.zero_le _
  · simp [depth, maxDepth_sets]

/-- A text of letters and digits is the pattern that stands for it. -/
theorem parse?_literal (hne : text ≠ []) (h : ∀ c ∈ text, c.isAlphanum = true) :
    parse? .default text = some (literal text, ⟨0, []⟩) := by
  have hdepth : (literal text).depth ≤ maxPatternDepth :=
    Nat.le_trans (depth_literal_le text) (by decide)
  have hfuel : text.length < 2 * text.length + 2 := by omega
  have hchoice := choice?_literal h hfuel ⟨0, []⟩ []
  rw [List.append_nil, ofParts_literal hne] at hchoice
  simp only [parse?, hchoice, if_pos hdepth]

theorem toNat_le_of_isAlphanum (h : c.isAlphanum = true) : c.toNat ≤ 122 := by
  simp only [Char.isAlphanum, Char.isAlpha, Char.isUpper, Char.isLower, Char.isDigit,
    Bool.or_eq_true, Bool.and_eq_true, decide_eq_true_eq, ge_iff_le,
    UInt32.le_iff_toNat_le] at h
  rcases h with (⟨_, h⟩ | ⟨_, h⟩) | ⟨_, h⟩ <;> exact Nat.le_trans h (by decide)

theorem bytes_set (h : c.isAlphanum = true) : (Pattern.set (.single c)).bytes = stateBytes := by
  have hascii : c.toNat ≤ 0x7F := Nat.le_trans (toNat_le_of_isAlphanum h) (by decide)
  have hlength : c.utf8Size = 1 := Char.utf8Size_eq_one_iff.mpr hascii
  simp [bytes, CharSet.bytes, CharSet.single, hlength]

/-- A literal pattern takes a state for each character. -/
theorem bytes_literal (h : ∀ c ∈ text, c.isAlphanum = true) :
    (literal text).bytes = text.length * stateBytes := by
  have hsets : allBytes (text.map fun c => .set (.single c)) = text.length * stateBytes := by
    induction text with
    | nil => rfl
    | cons c rest ih =>
      have hrest := ih fun d hd => h d (List.mem_cons_of_mem _ hd)
      rw [List.map_cons, allBytes, bytes_set (h c List.mem_cons_self), hrest, List.length_cons,
        Nat.succ_mul, Nat.add_comm]
  unfold literal
  split
  · rename_i c
    rw [bytes_set (h c List.mem_cons_self), List.length_singleton, Nat.one_mul]
  · exact hsets

/-- The characters of a text in their order, and then acceptance. -/
def spell (text : List Char) : Array Instruction :=
  (text.map (fun c => Instruction.char (.single c)) ++ [Instruction.accept]).toArray

theorem code_sets (text : List Char) (start : Nat) :
    codeAll (text.map fun c => .set (.single c)) start = text.map fun c => .char (.single c) := by
  induction text generalizing start with
  | nil => rfl
  | cons c rest ih =>
    simp only [List.map_cons, codeAll, Code.append, code, ih]
    rfl

theorem program_literal (text : List Char) : (literal text).program = spell text := by
  have hcode : code (literal text) 0 = text.map fun c => .char (.single c) := by
    unfold literal
    split
    · rfl
    · exact code_sets _ 0
  rw [program, hcode, spell]

/-- What a pattern of letters and digits is compiled to, unless it is refused. -/
theorem eq_spell_of_regexParse? (hne : text ≠ []) (h : ∀ c ∈ text, c.isAlphanum = true)
    {regex : Regex} (hregex : Regex.parse? .default text = some regex) :
    regex = ⟨spell text, ⟨0, []⟩⟩ := by
  simp only [Regex.parse?, parse?_literal hne h, program_literal] at hregex
  split at hregex
  · exact (Option.some.inj hregex).symm
  · cases hregex

/-- A pattern of letters and digits is refused when its states take too many bytes. -/
theorem regexParse?_eq_none (hne : text ≠ []) (h : ∀ c ∈ text, c.isAlphanum = true)
    (hlarge : maxBytes < text.length * stateBytes) : Regex.parse? .default text = none := by
  simp only [Regex.parse?, parse?_literal hne h, automatonBytes, bytes_literal h]
  rw [if_neg (by omega)]

theorem spell_accept (front : List Char) : (spell front)[front.length]? = some .accept := by
  simp [spell]

theorem spell_char (front : List Char) (c : Char) (rest : List Char) :
    (spell (front ++ c :: rest))[front.length]? = some (.char (.single c)) := by
  simp [spell]

theorem contains_single : (CharSet.single c).contains d = decide (d = c) := by
  simp only [CharSet.single, CharSet.contains, CharSet.inRanges, ← Char.toNat_inj]
  split_ifs <;> simp <;> omega

/-- A thread at an instruction that takes a character or accepts leads to itself only. -/
theorem closure_of_rests {prog : Array Instruction} {pc : Nat} {i : Instruction}
    (hi : prog[pc]? = some i) (hrests : i = .accept ∨ ∃ s, i = .char s) (place : Place)
    (slots : Slots) : closure prog place [(pc, slots)] = [(pc, slots)] := by
  have hpc : pc < prog.size := (Array.getElem?_eq_some_iff.mp hi).1
  have hunseen : (Array.replicate prog.size false).getD pc true = false := by simp [hpc]
  rw [closure, follow, hunseen]
  rcases hrests with rfl | ⟨s, rfl⟩ <;> simp [hi, follow]

/-- A thread that has taken a part of the text goes on to accept where the rest of the text stands,
and stops elsewhere. -/
theorem runThreads_spell (front rest : List Char) (index : Nat) (before : Option Char)
    (slots : Slots) (input : List Char) :
    runThreads (spell (front ++ rest)) index before [(front.length, slots)] none input =
      if rest.isPrefixOf input then some (index + rest.length, slots) else none := by
  induction rest generalizing front index before input with
  | nil =>
    have haccept := spell_accept front
    rw [List.append_nil]
    cases input with
    | nil => simp [runThreads, closure_of_rests haccept (Or.inl rfl), advance, haccept]
    | cons c input => simp [runThreads, closure_of_rests haccept (Or.inl rfl), advance, haccept]
  | cons d more ih =>
    have hchar := spell_char front d more
    have hclosure := closure_of_rests hchar (Or.inr ⟨_, rfl⟩)
    cases input with
    | nil => simp [runThreads, hclosure, advance, hchar]
    | cons c input =>
      by_cases hc : c = d
      · subst hc
        have hnext := ih (front ++ [c]) (index + 1) (some c) input
        simp only [List.append_assoc, List.singleton_append, List.length_append,
          List.length_singleton] at hnext
        simp [runThreads, hclosure, advance, hchar, contains_single, hnext, Nat.add_assoc,
          Nat.add_comm 1]
      · simp [runThreads, hclosure, advance, hchar, contains_single, hc, Ne.symm hc]

/-- A text is found at a place when it stands there. -/
theorem matchAt_spell (text : List Char) (slots : Slots) (index : Nat) (before : Option Char)
    (input : List Char) :
    matchAt (spell text) slots index before input =
      if text.isPrefixOf input then some ⟨index, index + text.length, slots⟩ else none := by
  have hrun := runThreads_spell [] text index before slots input
  rw [List.nil_append, List.length_nil] at hrun
  rw [matchAt, hrun]
  split_ifs <;> rfl

/-- Characters that are to be skipped are skipped. -/
theorem exists_matchesFrom_drop {skip : Nat} (h : skip ≤ input.length) (prog : Array Instruction)
    (slots : Slots) (index : Nat) (before : Option Char) (last : Option Nat) :
    ∃ before', matchesFrom prog slots index before last skip input =
      matchesFrom prog slots (index + skip) before' last 0 (input.drop skip) := by
  induction skip generalizing input index before with
  | zero => exact ⟨before, rfl⟩
  | succ skip ih =>
    cases input with
    | nil => cases h
    | cons c input =>
      obtain ⟨before', hrest⟩ := ih (Nat.le_of_succ_le_succ h) (index + 1) (some c)
      refine ⟨before', ?_⟩
      rw [matchesFrom, hrest, List.drop_succ_cons, Nat.add_assoc, Nat.add_comm 1]

end Reshape.Pattern
