import Reshape.Expression.Scan

/-! Texts in which every quote and delimiter is closed, and how the scanner reads them. -/
namespace Reshape

/-- The characters that open and close the parts of an expression. -/
def isDelimiter (c : Char) : Bool := ['\'', '(', ')', '[', ']', '{', '}'].contains c

/-- The characters that may be read in pairs. -/
def isBrace (c : Char) : Bool := c == '{' || c == '}'

/-- The delimiters that may stand around a part of a balanced text. -/
inductive Enclosure where
  | parens
  | brackets
  | doubleBraces
deriving DecidableEq, Repr

namespace Enclosure

def opening : Enclosure → List Char
  | parens => ['(']
  | brackets => ['[']
  | doubleBraces => ['{', '{']

def closing : Enclosure → List Char
  | parens => [')']
  | brackets => [']']
  | doubleBraces => ['}', '}']

def delimiter : Enclosure → Delimiter
  | parens => .paren
  | brackets => .bracket
  | doubleBraces => .doubleBrace

end Enclosure

/-- A text of plain characters, quoted parts and enclosed balanced parts. Only characters that pass
a test may stand plain outside the quotes and enclosures. -/
inductive BalancedBy : (Char → Bool) → List Char → Prop
  | nil {p : Char → Bool} : BalancedBy p []
  | plain {p : Char → Bool} {c : Char} {rest : List Char} :
    p c = true → isDelimiter c = false → BalancedBy p rest → BalancedBy p (c :: rest)
  | quoted {p : Char → Bool} {text rest : List Char} :
    '\'' ∉ text → BalancedBy p rest → BalancedBy p ('\'' :: (text ++ '\'' :: rest))
  | enclosed {p : Char → Bool} {inner rest : List Char} (e : Enclosure) :
    BalancedBy (fun _ => true) inner → BalancedBy p rest →
    BalancedBy p (e.opening ++ (inner ++ (e.closing ++ rest)))

/-- A text in which every quote and delimiter is closed. -/
abbrev Balanced (text : List Char) : Prop := BalancedBy (fun _ => true) text

theorem balancedBy_of_plain {p : Char → Bool} {text : List Char}
    (h : ∀ c ∈ text, p c = true ∧ isDelimiter c = false) : BalancedBy p text := by
  induction text with
  | nil => exact .nil
  | cons c rest ih =>
    obtain ⟨hp, hc⟩ := h c (by simp)
    exact .plain hp hc (ih fun d hd => h d (by simp [hd]))

namespace Scanner

variable {s s' t : Scanner} {c : Char} {first second text : List Char} {p : Char → Bool}

/-- Reading a text takes one scanner to another, whatever comes after the text. -/
def Reads (s : Scanner) (text : List Char) (s' : Scanner) : Prop :=
  ∀ rest, s.run (text ++ rest) = s'.run rest

theorem Reads.refl (s : Scanner) : s.Reads [] s := fun _ => rfl

theorem Reads.trans (h : s.Reads first s') (h' : s'.Reads second t) :
    s.Reads (first ++ second) t := by
  intro rest
  rw [List.append_assoc, h, h']

theorem reads_step (h : ∀ d, s.pair? c d = none) (hs : s.step c = s') : s.Reads [c] s' := by
  subst hs
  intro rest
  cases rest with
  | nil => simp [run]
  | cons d rest => simp [run, h d]

theorem pair?_eq_none_of_quote (h : s.stack.head? = some .quote) (c d : Char) :
    s.pair? c d = none := by
  simp [pair?, h]

/-- No character but a brace acts together with the next one. -/
theorem reads_char (hs : s.step c = s') (hc : isBrace c = false) : s.Reads [c] s' := by
  simp only [isBrace, Bool.or_eq_false_iff, beq_eq_false_iff_ne] at hc
  exact reads_step (fun d => by simp [pair?, hc.1, hc.2]) hs

theorem reads_plain (hs : s.step c = s') (hc : isDelimiter c = false) : s.Reads [c] s' := by
  refine reads_char hs ?_
  simp only [isDelimiter, List.contains_eq_mem, List.mem_cons, decide_eq_false_iff_not,
    not_or] at hc
  simp [isBrace, hc]

theorem reads_openBraces (h : s.stack.head? ≠ some .quote) :
    s.Reads ['{', '{'] s.openBraces := by
  intro rest
  simp [run, pair?, h]

theorem reads_closeBraces (h : s.stack.head? = some .doubleBrace) :
    s.Reads ['}', '}'] s.closeBraces := by
  intro rest
  simp [run, pair?, h]

/-- A single opening brace is read alone when no second one follows. -/
theorem run_brace (h : s.stack.head? ≠ some .quote) {rest : List Char}
    (hr : rest.head? ≠ some '{') : s.run ('{' :: rest) = s.brace.run rest := by
  have hs : s.step '{' = s.brace := by simp [step, h]
  cases rest with
  | nil => simp [run, hs]
  | cons d rest =>
    have hd : d ≠ '{' := by simpa using hr
    simp [run, pair?, hd, hs]

/-- Takes every character of a text as part of the token. -/
def appends (s : Scanner) (text : List Char) : Scanner := text.foldl append s

@[simp] theorem appends_nil (s : Scanner) : s.appends [] = s := rfl

@[simp] theorem appends_cons (s : Scanner) (c : Char) (text : List Char) :
    s.appends (c :: text) = (s.append c).appends text := rfl

theorem appends_append (s : Scanner) (first second : List Char) :
    s.appends (first ++ second) = (s.appends first).appends second := by
  simp [appends]

@[simp] theorem closed_opened (s : Scanner) (d : Delimiter) : (s.opened d).closed = s := rfl

theorem append_opened (s : Scanner) (d : Delimiter) (c : Char) :
    (s.opened d).append c = (s.append c).opened d := rfl

theorem appends_opened (s : Scanner) (d : Delimiter) (text : List Char) :
    (s.opened d).appends text = (s.appends text).opened d := by
  induction text generalizing s with
  | nil => rfl
  | cons c rest ih => rw [appends_cons, append_opened, ih, appends_cons]

@[simp] theorem stack_append (s : Scanner) (c : Char) : (s.append c).stack = s.stack := rfl

@[simp] theorem mode_append (s : Scanner) (c : Char) : (s.append c).mode = s.mode := rfl

@[simp] theorem kind_append (s : Scanner) (c : Char) :
    (s.append c).token.kind = s.token.kind := by
  simp only [append, push, consume, withToken]
  split <;> rfl

@[simp] theorem stack_appends (s : Scanner) (text : List Char) :
    (s.appends text).stack = s.stack := by
  induction text generalizing s with
  | nil => rfl
  | cons c rest ih => simp [ih]

/-- Whether commas and white space separate parameters here. -/
def Separates (s : Scanner) : Prop :=
  s.depth = 1 ∧ (s.mode = .filterParams ∨ s.mode = .inner ∧ s.token.kind = .call)

/-- The scanner is inside a delimiter and takes plain characters that pass a test as they are. -/
structure Takes (p : Char → Bool) (s : Scanner) : Prop where
  nested : s.stack ≠ []
  unquoted : s.stack.head? ≠ some .quote
  separates : s.Separates → ∀ c, p c = true → c ≠ ',' ∧ isBlank c = false

theorem Takes.append (h : s.Takes p) (c : Char) : (s.append c).Takes p where
  nested := h.nested
  unquoted := h.unquoted
  separates := by
    intro hs
    apply h.separates
    simpa [Separates, depth] using hs

theorem Takes.appends (h : s.Takes p) (text : List Char) : (s.appends text).Takes p := by
  induction text generalizing s with
  | nil => exact h
  | cons c rest ih => exact ih (h.append c)

/-- Below the outermost delimiter nothing separates parameters. -/
theorem Takes.opened (h : s.Takes p) {d : Delimiter} (hd : d ≠ .quote) :
    (s.opened d).Takes fun _ => true where
  nested := by simp [Scanner.opened]
  unquoted := by simpa [Scanner.opened] using hd
  separates := by
    rintro ⟨hs, _⟩
    simp [depth, Scanner.opened, h.nested] at hs

theorem step_of_takes (h : s.Takes p) (hp : p c = true) (hc : isDelimiter c = false) :
    s.step c = s.append c := by
  have hstack : s.stack.isEmpty = false := by simpa using h.nested
  simp only [isDelimiter, List.contains_eq_mem, List.mem_cons, decide_eq_false_iff_not,
    not_or] at hc
  obtain ⟨hq, hpo, hpc, hbo, hbc, hco, hcc, _⟩ := hc
  by_cases hsep : s.Separates
  · obtain ⟨hcomma, hblank⟩ := h.separates hsep c hp
    simp [step, h.unquoted, hstack, hq, hpo, hpc, hbo, hbc, hco, hcc, hcomma, hblank]
  · have hcomma : s.depth = 1 → s.comma = s.append ',' := by
      intro hd
      have hm : s.mode ≠ .filterParams := fun hm => hsep ⟨hd, Or.inl hm⟩
      have hk : ¬ (s.mode = .inner ∧ s.token.kind = .call) := fun hk => hsep ⟨hd, Or.inr hk⟩
      simp [comma, hm, hk]
    have hblank : s.blank c = s.append c := by
      simp only [Separates] at hsep
      simp [blank, hstack, hsep]
    by_cases hd : s.depth = 1 <;> by_cases hv : c = ',' <;> by_cases hb : Reshape.isBlank c <;>
      simp_all [step, h.unquoted]

/-- Between quotes every other character is taken as it is. -/
theorem reads_within_quotes (hs : s.stack.head? = some .quote) (ht : '\'' ∉ text) :
    s.Reads text (s.appends text) := by
  induction text generalizing s with
  | nil => exact Reads.refl s
  | cons c rest ih =>
    simp only [List.mem_cons, not_or] at ht
    have hstep : s.step c = s.append c := by simp [step, hs, quoted, Ne.symm ht.1]
    exact (reads_step (pair?_eq_none_of_quote hs c) hstep).trans (ih hs ht.2)

/-- Inside another delimiter a quoted part is taken with its quotes. -/
theorem reads_quoted (hs : s.Takes p) (ht : '\'' ∉ text) :
    s.Reads ('\'' :: (text ++ ['\''])) (s.appends ('\'' :: (text ++ ['\'']))) := by
  have hopen : s.step '\'' = (s.append '\'').opened .quote := by
    have hd : 1 < (s.opened .quote).depth := by
      have := List.length_pos_iff.mpr hs.nested
      simpa [depth, opened] using this
    simp only [step, if_neg hs.unquoted, quote, if_pos hd]
    rfl
  have hclose : (((s.append '\'').opened .quote).appends text).step '\'' =
      ((s.append '\'').appends text).append '\'' := by
    rw [appends_opened]
    simp only [step, quoted, closed_opened, if_pos]
    simp [opened, hs.nested]
  have hinner : ((s.append '\'').opened .quote).Reads text
      (((s.append '\'').opened .quote).appends text) := reads_within_quotes rfl ht
  have := (reads_char hopen rfl).trans (hinner.trans (reads_char hclose rfl))
  simpa [appends_append] using this

/-- An enclosure below the outermost delimiter begins as text. -/
theorem reads_opening (hs : s.Takes p) (e : Enclosure) :
    s.Reads e.opening ((s.appends e.opening).opened e.delimiter) := by
  have hd (d : Delimiter) : (s.opened d).depth ≠ 1 := by
    simpa [depth, opened] using hs.nested
  cases e with
  | parens =>
    have h : s.step '(' = (s.append '(').opened .paren := by
      simp [step, hs.unquoted, paren, hd, append_opened]
    exact reads_char h rfl
  | brackets =>
    have h : s.step '[' = (s.append '[').opened .bracket := by
      simp [step, hs.unquoted, bracket, atSuffix, hd, append_opened]
    exact reads_char h rfl
  | doubleBraces =>
    have h : s.openBraces = (s.appends ['{', '{']).opened .doubleBrace := by
      simp [openBraces, hs.nested]
      rfl
    exact h ▸ reads_openBraces hs.unquoted

/-- An enclosure below the outermost delimiter ends as text. -/
theorem reads_closing (hs : s.stack ≠ []) (e : Enclosure) :
    (s.opened e.delimiter).Reads e.closing (s.appends e.closing) := by
  cases e with
  | parens =>
    have h : (s.opened .paren).step ')' = s.append ')' := by
      simp [step, close, opened, closed, Delimiter.closedBy, hs]
    exact reads_char h rfl
  | brackets =>
    have h : (s.opened .bracket).step ']' = s.append ']' := by
      simp [step, close, opened, closed, Delimiter.closedBy, hs]
    exact reads_char h rfl
  | doubleBraces =>
    have h : (s.opened .doubleBrace).closeBraces = s.appends ['}', '}'] := by
      simp [closeBraces, hs]
      rfl
    exact h ▸ reads_closeBraces rfl

/-- A balanced text is taken as it is, and leaves the open delimiters as they were. -/
theorem reads_balanced (h : BalancedBy p text) (hs : s.Takes p) :
    s.Reads text (s.appends text) := by
  induction h generalizing s with
  | nil => exact Reads.refl s
  | @plain p c rest hp hc _ ih =>
    exact (reads_plain (step_of_takes hs hp hc) hc).trans (ih (hs.append c))
  | @quoted p text rest ht _ ih =>
    have := (reads_quoted hs ht).trans (ih (hs.appends _))
    rw [← appends_append] at this
    simpa using this
  | @enclosed p inner rest e _ _ ihInner ih =>
    have htakes : (s.appends e.opening).Takes p := hs.appends _
    have hinner : ((s.appends e.opening).opened e.delimiter).Takes fun _ => true :=
      htakes.opened (by cases e <;> decide)
    have hclosing := reads_closing (htakes.appends inner).nested e
    rw [← appends_opened] at hclosing
    have := (reads_opening hs e).trans ((ihInner hinner).trans (hclosing.trans (ih ?_)))
    · simpa only [← appends_append, List.append_assoc] using this
    · exact ((hs.appends _).appends _).appends _

end Scanner

end Reshape
