import Reshape.Proofs.Reading

/-! Cutting a written expression into tokens gives the tokens that were written. -/
namespace Reshape

namespace Scanner

variable {text : List Char} {place stop : Nat} {mode : Mode} {t u : Token} {s s' : Scanner}
  {c : Char}

theorem tidyParams_singleton (inner : List Char) :
    tidyParams [String.ofList inner] = innerTexts inner := by
  simp [tidyParams, innerTexts]

@[simp] theorem tidyParams_innerTexts (inner : List Char) :
    tidyParams (innerTexts inner) = innerTexts inner := by
  rw [← tidyParams_singleton, tidyParams_tidyParams]

theorem isDelimiter_of_isWordChar (h : isWordChar c = true) : isDelimiter c = false := by
  simp only [isWordChar, Bool.and_eq_true, Bool.not_eq_true'] at h
  exact h.1.1

/-- A word is read as it is, unless its first character is the caret of a token. -/
theorem reads_word (hs : s.stack = []) (ht : ∀ c ∈ text, isWordChar c = true)
    (hm : s.mode = .body ∨ s.mode = .filterName)
    (hc : s.mode = .body → s.token.isBlank = true → s.token.rooted = false →
      text.head? ≠ some '^') :
    s.Reads text (s.appends text) := by
  induction text generalizing s with
  | nil => exact Reads.refl s
  | cons c rest ih =>
    have hword := ht c (by simp)
    have hstep : s.step c = s.append c := by
      have hcaret : ¬ (c = '^' ∧ s.mode = .body ∧ s.stack.isEmpty = true ∧
          s.token.isBlank = true ∧ (!s.token.rooted) = true) := by
        rintro ⟨rfl, hm, _, hb, hr⟩
        exact hc hm hb (by simpa using hr) rfl
      simp only [isWordChar, isDelimiter, List.contains_eq_mem, List.mem_cons, Bool.and_eq_true,
        Bool.not_eq_true', decide_eq_false_iff_not, not_or, bne_iff_ne, ne_eq] at hword
      obtain ⟨⟨⟨hq, hpo, hpc, hbo, hbc, hco, hcc, _⟩, hblank⟩, hbar⟩ := hword
      rw [step, if_neg (by simp [hs]), if_neg hq, if_neg hcaret]
      simp [hs, depth, hpo, hpc, hbo, hbc, hco, hcc, hblank, hbar]
    have hfirst := reads_plain hstep (isDelimiter_of_isWordChar hword)
    refine hfirst.trans (ih hs (fun d hd => ht d (by simp [hd])) hm ?_)
    intro hm' hb
    have hm'' : s.mode = .body := hm'
    simp [append, push, consume, withToken, hm'', Token.isBlank] at hb

/-- A single opening brace is read together with what it encloses. -/
theorem reads_brace (hs : s.stack.head? ≠ some .quote) (ht : text.head? ≠ some '{')
    (h : s.brace.Reads (text ++ ['}']) s') : s.Reads ('{' :: (text ++ ['}'])) s' := by
  intro rest
  rw [List.cons_append, run_brace hs, h]
  cases text <;> simp_all

namespace Frame

/-- A scanner before the first character of a token. -/
def fresh (f : Frame) (stop : Nat) : Scanner := idle f.input f.done f.start stop

/-- Reading a text gives a token. -/
def Yields (f : Frame) (stop : Nat) (text : List Char) (t : Token) : Prop :=
  ∃ s, (f.fresh stop).Reads text s ∧ f.Holds (f.start + text.length) t s

theorem yields_of_reading {f : Frame}
    (h : (f.fresh stop).Reads text (f.reading place place [] .body u))
    (hp : place = f.start + text.length) (hb : u.isBlank = false) (ht : u.tidy = t) :
    f.Yields stop text t := by
  subst hp
  exact ⟨_, h, .running (Or.inl ⟨rfl, hb⟩) ht⟩

theorem yields_of_after {f : Frame} (h : (f.fresh stop).Reads text (f.after place place t))
    (hp : place = f.start + text.length) (ht : t.tidy = t) : f.Yields stop text t := by
  subst hp
  exact ⟨_, h, .ended ht⟩

variable (f : Frame)

/-- A scanner that may have read the caret of a token. -/
def begun (stop : Nat) (rooted : Bool) : Scanner :=
  if rooted then f.reading (f.start + 1) (f.start + 1) [] .body { Token.empty with rooted := true }
  else f.fresh stop

theorem reads_caret (rooted : Bool) :
    (f.fresh stop).Reads (printCaret rooted) (f.begun stop rooted) := by
  cases rooted with
  | false => exact Reads.refl _
  | true => exact reads_char rfl rfl

/-- The first character gives the token its start. -/
theorem appends_begun (rooted : Bool) (h : text ≠ []) :
    (f.begun stop rooted).appends text =
      f.reading (f.start + (printCaret rooted ++ text).length)
        (f.start + (printCaret rooted ++ text).length) [] .body
        { Token.empty with rooted := rooted, body := String.ofList text } := by
  obtain ⟨c, rest, rfl⟩ := List.exists_cons_of_ne_nil h
  have hfirst : (f.begun stop rooted).append c =
      (f.reading (f.start + (printCaret rooted).length) stop [] .body
        { Token.empty with rooted := rooted }).append c := by
    cases rooted <;> rfl
  rw [appends_cons, hfirst, ← appends_cons, appends_reading h]
  simp [Token.write, Token.empty, Nat.add_assoc]

theorem reads_name (stop : Nat) (rooted : Bool) (name : Name) :
    (f.fresh stop).Reads (printCaret rooted ++ name.chars)
      (f.reading (f.start + (printCaret rooted ++ name.chars).length)
        (f.start + (printCaret rooted ++ name.chars).length) [] .body
        { Token.empty with rooted := rooted, body := String.ofList name.chars }) := by
  rw [← f.appends_begun rooted name.nonempty]
  refine (f.reads_caret rooted).trans (reads_word ?_ name.plain ?_ fun _ _ _ => name.uncareted)
  · cases rooted <;> rfl
  · cases rooted <;> exact Or.inl rfl

/-- A balanced text between delimiters goes to the part of the token that is read. -/
theorem reads_nested (place : Nat) {d : Delimiter} (hd : d ≠ .quote)
    (ht : ¬ TakesParams mode t) (hb : Balanced text) :
    (f.reading place place [d] mode t).Reads text
      (f.reading (place + text.length) (place + text.length) [d] mode (t.write mode text)) := by
  have htakes : (f.reading place place [d] mode t).Takes fun _ => true := by
    refine ⟨by simp [reading], by simpa [reading] using hd, fun hs => ?_⟩
    exact (ht hs.2).elim
  have := reads_balanced hb htakes
  rwa [appends_reading_self] at this

theorem yields_path (rooted : Bool) (name : Name) :
    f.Yields stop (Primary.path rooted name).print (Primary.path rooted name).token := by
  refine yields_of_reading (f.reads_name stop rooted name) rfl ?_ ?_
  · simp [Token.isBlank, name.nonempty]
  · simp [Token.tidy, Primary.token, Token.empty]

theorem yields_literal (ht : '\'' ∉ text) :
    f.Yields stop (Primary.literal text ht).print (Primary.literal text ht).token := by
  let start := f.start + 1
  have hopen : (f.fresh stop).step '\'' = f.reading start start [.quote] .body .empty := rfl
  have hinner : (f.reading start start [.quote] .body .empty).Reads text
      (f.reading (start + text.length) (start + text.length) [.quote] .body
        (Token.empty.write .body text)) := by
    rw [← appends_reading_self]
    exact reads_within_quotes rfl ht
  have hclose : (f.reading (start + text.length) (start + text.length) [.quote] .body
      (Token.empty.write .body text)).step '\'' =
      f.reading (start + text.length + 1) (start + text.length + 1) [] .body
        { Token.empty.write .body text with kind := .literal } := rfl
  refine yields_of_reading
    ((reads_char hopen rfl).trans (hinner.trans (reads_char hclose rfl))) ?_ ?_ ?_
  · simp [start, Primary.print]
    omega
  · simp [Token.isBlank]
  · simp [Token.tidy, Primary.token, Token.empty, Token.write]

/-- A scope switch is ended by its closing bracket. -/
theorem reads_scopeSwitch (stop : Nat) (rooted : Bool) (hb : Balanced text) :
    (f.fresh stop).Reads (Primary.scopeSwitch rooted text hb).print
      (f.after (f.start + (Primary.scopeSwitch rooted text hb).print.length)
        (f.start + (Primary.scopeSwitch rooted text hb).print.length)
        (Primary.scopeSwitch rooted text hb).token) := by
  let start := f.start + (printCaret rooted).length + 1
  let token := { Token.empty with kind := .scopeSwitch, rooted := rooted, inner := [""] }
  have hopen : (f.begun stop rooted).step '[' = f.reading start start [.bracket] .inner token := by
    cases rooted <;> rfl
  have hinner : (f.reading start start [.bracket] .inner token).Reads text
      (f.reading (start + text.length) (start + text.length) [.bracket] .inner
        (token.write .inner text)) :=
    f.reads_nested start (by decide) (by simp [TakesParams, token]) hb
  have hclose : (f.reading (start + text.length) (start + text.length) [.bracket] .inner
      (token.write .inner text)).step ']' =
      f.after (start + text.length + 1) (start + text.length + 1)
        (Primary.scopeSwitch rooted text hb).token := by
    have htidy : (token.write .inner text).tidy = (Primary.scopeSwitch rooted text hb).token := by
      simp [token, Token.write, Token.tidy, Primary.token, modifyLast, tidyParams_singleton,
        Token.empty]
    rw [← htidy]
    rfl
  have hplace : f.start + (Primary.scopeSwitch rooted text hb).print.length =
      start + text.length + 1 := by
    simp [start, Primary.print]
    omega
  rw [hplace]
  exact (f.reads_caret rooted).trans ((reads_char hopen rfl).trans
    (hinner.trans (reads_char hclose rfl)))

theorem yields_scopeSwitch (rooted : Bool) (hb : Balanced text) :
    f.Yields stop (Primary.scopeSwitch rooted text hb).print
      (Primary.scopeSwitch rooted text hb).token :=
  yields_of_after (f.reads_scopeSwitch stop rooted hb) rfl
    (by simp [Token.tidy, Primary.token, Token.empty])

theorem yields_embedded (rooted : Bool) (hb : Balanced text) :
    f.Yields stop (Primary.embedded rooted text hb).print
      (Primary.embedded rooted text hb).token := by
  let start := f.start + (printCaret rooted).length + 2
  let token := { Token.empty with kind := .embedded, rooted := rooted }
  have hopen : (f.begun stop rooted).openBraces =
      f.reading start start [.doubleBrace] .body token := by
    cases rooted <;> rfl
  have hinner : (f.reading start start [.doubleBrace] .body token).Reads text
      (f.reading (start + text.length) (start + text.length) [.doubleBrace] .body
        (token.write .body text)) :=
    f.reads_nested start (by decide) (by simp [TakesParams]) hb
  have hclose : (f.reading (start + text.length) (start + text.length) [.doubleBrace] .body
      (token.write .body text)).closeBraces =
      f.after (start + text.length + 2) (start + text.length + 2)
        (Primary.embedded rooted text hb).token := by
    have htidy : (token.write .body text).tidy = (Primary.embedded rooted text hb).token := by
      simp [token, Token.write, Token.tidy, Primary.token, Token.empty]
    rw [← htidy]
    rfl
  have hfirst : (f.begun stop rooted).Reads ['{', '{']
      (f.reading start start [.doubleBrace] .body token) := by
    rw [← hopen]
    apply reads_openBraces
    cases rooted <;> simp [begun, fresh, idle, reading]
  have hlast := reads_closeBraces (s := f.reading (start + text.length) (start + text.length)
    [.doubleBrace] .body (token.write .body text)) rfl
  rw [hclose] at hlast
  refine yields_of_after ((f.reads_caret rooted).trans (hfirst.trans (hinner.trans hlast))) ?_ ?_
  · simp [start, Primary.print]
    omega
  · simp [Token.tidy, Primary.token, Token.empty]

theorem yields_call (name : Name) (params : Params) :
    f.Yields stop (Primary.call name params).print (Primary.call name params).token := by
  let start := f.start + name.chars.length
  let token := { Token.empty with kind := .call, body := String.ofList name.chars }
  have hname : (f.fresh stop).Reads name.chars (f.reading start start [] .body
      { Token.empty with body := String.ofList name.chars }) := f.reads_name stop false name
  have hopen : (f.reading start start [] .body
      { Token.empty with body := String.ofList name.chars }).step '(' =
      f.listing (start + 1) (start + 1) .inner token [""] := by
    have hne : (String.ofList name.chars).isEmpty = false := by simp [name.nonempty]
    simp [step, reading, paren, depth, opened, hne, beginInner, withToken, within, consume, listing,
      withParams, Token.empty, token]
  have htakes : TakesParams .inner token := Or.inr ⟨rfl, rfl⟩
  obtain ⟨written, hwritten, hparams⟩ := f.reads_params start htakes params
  have hprint : params.print = '(' :: params.print.tail := by cases params <;> rfl
  have hreads : (f.fresh stop).Reads (Primary.call name params).print
      (f.reading (start + params.print.length) (start + params.print.length) [] .body
        (withParams .inner written token)) := by
    have := hname.trans ((reads_char hopen rfl).trans hparams)
    rwa [List.singleton_append, ← hprint] at this
  refine yields_of_reading hreads ?_ ?_ ?_
  · simp [start, Primary.print, Nat.add_assoc]
  · simp [Token.isBlank, withParams, token]
  · simp [Token.tidy, Primary.token, Token.empty, withParams, token, hwritten]

/-- A path that has no suffix yet. -/
def plainPath (rooted : Bool) (name : Name) : Token :=
  { Token.empty with rooted := rooted, body := String.ofList name.chars }

/-- A suffix is read behind a path. -/
theorem reads_suffix (place : Nat) (rooted : Bool) (name : Name) (suffix : Suffix) :
    (f.reading place place [] .body (plainPath rooted name)).Reads suffix.print
      (f.reading (place + suffix.print.length) (place + suffix.print.length) [] .body
        { plainPath rooted name with
          shape := some suffix.shape, inner := [String.ofList suffix.inner] }) := by
  have hne : (String.ofList name.chars).isEmpty = false := by simp [name.nonempty]
  let token : Token := { plainPath rooted name with shape := some suffix.shape, inner := [""] }
  have hinner (d : Delimiter) (hd : d ≠ .quote) (hb : Balanced suffix.inner) :
      (f.reading (place + 1) (place + 1) [d] .inner token).Reads suffix.inner
        (f.reading (place + 1 + suffix.inner.length) (place + 1 + suffix.inner.length) [d] .inner
          (token.write .inner suffix.inner)) :=
    f.reads_nested (place + 1) hd (by simp [TakesParams, token, plainPath, Token.empty]) hb
  have htoken : token.write .inner suffix.inner =
      { plainPath rooted name with
        shape := some suffix.shape, inner := [String.ofList suffix.inner] } := by
    simp [token, Token.write, modifyLast]
  have hlength : place + suffix.print.length = place + 1 + suffix.inner.length + 1 := by
    cases suffix <;> simp [Suffix.print, Suffix.inner] <;> omega
  rw [hlength, ← htoken]
  cases suffix with
  | brackets inner hb =>
    have hopen : (f.reading place place [] .body (plainPath rooted name)).step '[' =
        f.reading (place + 1) (place + 1) [.bracket] .inner token := by
      simp [step, reading, bracket, atSuffix, depth, opened, plainPath, Token.empty, Token.isBlank,
        hne, beginInner, withToken, within, consume, token, Suffix.shape]
    have hclose : (f.reading (place + 1 + inner.length) (place + 1 + inner.length) [.bracket] .inner
        (token.write .inner inner)).step ']' =
        f.reading (place + 1 + inner.length + 1) (place + 1 + inner.length + 1) [] .body
          (token.write .inner inner) := rfl
    exact (reads_char hopen rfl).trans
      ((hinner .bracket (by decide) hb).trans (reads_char hclose rfl))
  | braces inner hb hs =>
    have hopen : (f.reading place place [] .body (plainPath rooted name)).brace =
        f.reading (place + 1) (place + 1) [.brace] .inner token := by
      simp [reading, brace, atSuffix, depth, opened, plainPath, Token.empty,
        hne, beginInner, withToken, within, consume, token, Suffix.shape]
    have hclose : (f.reading (place + 1 + inner.length) (place + 1 + inner.length) [.brace] .inner
        (token.write .inner inner)).Reads ['}']
        (f.reading (place + 1 + inner.length + 1) (place + 1 + inner.length + 1) [] .body
          (token.write .inner inner)) := by
      refine reads_step (fun d => ?_) rfl
      simp [pair?, reading]
    refine reads_brace (by simp [reading]) hs ?_
    rw [hopen]
    exact (hinner .brace (by decide) hb).trans hclose

theorem yields_suffixed (rooted : Bool) (name : Name) (suffix : Suffix) :
    f.Yields stop (Primary.suffixed rooted name suffix).print
      (Primary.suffixed rooted name suffix).token := by
  have hreads := (f.reads_name stop rooted name).trans (f.reads_suffix _ rooted name suffix)
  rw [List.append_assoc] at hreads
  refine yields_of_reading hreads ?_ ?_ ?_
  · simp [Primary.print, Nat.add_assoc]
  · simp [Token.isBlank]
  · simp [Token.tidy, Primary.token, Token.empty, plainPath, tidyParams_singleton]

theorem yields_primary (stop : Nat) (d : Primary) : f.Yields stop d.print d.token := by
  cases d with
  | path rooted name => exact f.yields_path rooted name
  | literal text ht => exact f.yields_literal ht
  | scopeSwitch rooted inner hb => exact f.yields_scopeSwitch rooted hb
  | embedded rooted inner hb => exact f.yields_embedded rooted hb
  | call name params => exact f.yields_call name params
  | suffixed rooted name suffix => exact f.yields_suffixed rooted name suffix

theorem reads_bar_after (place : Nat) :
    (f.after stop place t).Reads ['|'] (f.reading (place + 1) (place + 1) [] .filterName
      ((t.placed f.input f.start stop).addFilter .empty)) :=
  reads_char rfl rfl

/-- A bar takes a token up again that white space or a closing delimiter has ended. -/
theorem Holds.reads_bar {f : Frame} (h : f.Holds stop t s) (blanks : Blanks) :
    ∃ u : Token, u.tidy = t ∧ s.Reads (blanks.chars ++ ['|'])
      (f.reading (stop + blanks.chars.length + 1) (stop + blanks.chars.length + 1) [] .filterName
        (u.addFilter .empty)) := by
  by_cases hb : blanks.chars = []
  · rw [hb]
    cases h with
    | @running mode u hm ht =>
      refine ⟨u, ht, reads_char ?_ rfl⟩
      have hresume : (f.reading stop stop [] mode u).resume = f.reading stop stop [] mode u := by
        have hcond : ¬ (mode = .body ∧ u.isBlank = true ∧ (!u.rooted) = true) := by
          rintro ⟨rfl, hb, _⟩
          rcases hm with ⟨_, hm⟩ | ⟨hm, _⟩
          · simp [hb] at hm
          · simp at hm
        simp only [resume]
        split
        · rfl
        · exact if_neg hcond
      have hstep :
          (f.reading stop stop [] mode u).step '|' = (f.reading stop stop [] mode u).bar := by
        simp [step, reading]
      rw [hstep, bar, hresume]
      rfl
    | ended ht => exact ⟨_, (Token.tidy_placed t _ _ _).trans ht, f.reads_bar_after stop⟩
  · exact ⟨_, (Token.tidy_placed t _ _ _).trans h.tidy,
      (h.reads_blanks hb).trans (f.reads_bar_after _)⟩

/-- White space before the name of a filter is passed over. -/
theorem reads_before_filterName (place stop : Nat) (u : Token) (blanks : Blanks) :
    (f.reading place stop [] .filterName (u.addFilter .empty)).Reads blanks.chars
      (f.reading (place + blanks.chars.length) stop [] .filterName (u.addFilter .empty)) := by
  apply reads_skipped (g := fun n => f.reading n stop [] .filterName (u.addFilter .empty))
  · simp [reading]
  · simp [reading, blank, hasFilterName, Token.addFilter, FilterCall.empty, skip]

theorem reads_filterName (place stop : Nat) (u : Token) (name : Word) :
    (f.reading place stop [] .filterName (u.addFilter .empty)).Reads name.chars
      (f.reading (place + name.chars.length) (place + name.chars.length) [] .filterName
        (u.addFilter ⟨String.ofList name.chars, []⟩)) := by
  have hreads := reads_word (s := f.reading place stop [] .filterName (u.addFilter .empty)) rfl
    name.plain (Or.inr rfl) fun h => nomatch h
  rw [appends_reading name.nonempty] at hreads
  simpa [Token.write, Token.addFilter, FilterCall.empty] using hreads

theorem reads_filterParams (place : Nat) (u : Token) (name : Word) (params : Params) :
    ∃ written, tidyParams written = params.texts ∧
      (f.reading place place [] .filterName (u.addFilter ⟨String.ofList name.chars, []⟩)).Reads
        params.print
        (f.reading (place + params.print.length) (place + params.print.length) [] .filterName
          (u.addFilter ⟨String.ofList name.chars, written⟩)) := by
  let token := u.addFilter ⟨String.ofList name.chars, []⟩
  have hopen : (f.reading place place [] .filterName token).step '(' =
      f.listing (place + 1) (place + 1) .filterParams token [""] := by
    simp [step, reading, paren, depth, opened, hasFilterName, token, Token.addFilter, name.nonempty,
      withToken, within, consume, listing, withParams, FilterCall.openParam]
  obtain ⟨written, hwritten, hparams⟩ :=
    f.reads_params place (t := token) (Or.inl rfl) params
  refine ⟨written, hwritten, ?_⟩
  have hprint : params.print = '(' :: params.print.tail := by cases params <;> rfl
  have hreads := (reads_char hopen rfl).trans hparams
  rw [List.singleton_append, ← hprint] at hreads
  simpa [withParams, token, Token.addFilter, afterParams] using hreads

/-- A filter is read behind whatever a token has been read from. -/
theorem Holds.reads_pipe {f : Frame} (h : f.Holds stop t s) (d : Pipe) :
    ∃ s', s.Reads d.print s' ∧ f.Holds (stop + d.print.length) (t.addFilter d.call) s' := by
  obtain ⟨u, rfl, hbar⟩ := h.reads_bar d.before
  have hblanks := f.reads_before_filterName (stop + d.before.chars.length + 1)
    (stop + d.before.chars.length + 1) u d.after
  have hname := f.reads_filterName (stop + d.before.chars.length + 1 + d.after.chars.length)
    (stop + d.before.chars.length + 1) u d.name
  have hhead := hbar.trans (hblanks.trans hname)
  let place := stop + d.before.chars.length + 1 + d.after.chars.length + d.name.chars.length
  let texts := (d.params.map Params.print).getD []
  obtain ⟨written, hwritten, hparams⟩ :
      ∃ written, tidyParams written = (d.params.map Params.texts).getD [] ∧
        (f.reading place place [] .filterName (u.addFilter ⟨String.ofList d.name.chars, []⟩)).Reads
          texts (f.reading (place + texts.length) (place + texts.length) [] .filterName
            (u.addFilter ⟨String.ofList d.name.chars, written⟩)) := by
    cases hd : d.params with
    | none => exact ⟨[], rfl, by simpa [texts, hd] using Reads.refl _⟩
    | some params => simpa [texts, hd] using f.reads_filterParams place u d.name params
  have hlength : stop + d.print.length = place + texts.length := by
    simp [Pipe.print, place, texts]
    omega
  have hreads := hhead.trans hparams
  rw [hlength]
  refine ⟨_, by simpa [Pipe.print, texts] using hreads, .running (Or.inr ⟨rfl, ?_⟩) ?_⟩
  · simp [Token.addFilter, d.name.nonempty]
  · rw [Token.tidy_addFilter, hwritten]
    rfl

theorem Holds.reads_pipes {f : Frame} (h : f.Holds stop t s) (pipes : List Pipe) :
    ∃ s', s.Reads (printPipes pipes) s' ∧
      f.Holds (stop + (printPipes pipes).length)
        { t with filters := t.filters ++ pipes.map Pipe.call } s' := by
  induction pipes generalizing s t stop with
  | nil => exact ⟨s, Reads.refl s, by simpa [printPipes] using h⟩
  | cons d rest ih =>
    obtain ⟨s₁, hd, hs₁⟩ := h.reads_pipe d
    obtain ⟨s₂, hrest, hs₂⟩ := ih hs₁
    refine ⟨s₂, by simpa [printPipes] using hd.trans hrest, ?_⟩
    simpa [printPipes, Token.addFilter, Nat.add_assoc] using hs₂

theorem filters_token (d : Primary) : d.token.filters = [] := by
  cases d <;> rfl

/-- What a phrase says, apart from its place. -/
theorem yields_phrase (stop : Nat) (d : Phrase) :
    f.Yields stop d.print { d.primary.token with filters := d.pipes.map Pipe.call } := by
  obtain ⟨s₁, hprimary, hs₁⟩ := f.yields_primary stop d.primary
  obtain ⟨s₂, hpipes, hs₂⟩ := hs₁.reads_pipes d.pipes
  refine ⟨s₂, hprimary.trans hpipes, ?_⟩
  simpa [Phrase.print, filters_token, Nat.add_assoc] using hs₂

/-- The text that a token covers is that of its phrase. -/
theorem placed_phrase (d : Phrase) {rest : List Char} (h : f.input.drop f.start = d.print ++ rest) :
    { d.primary.token with filters := d.pipes.map Pipe.call }.placed f.input f.start
      (f.start + d.print.length) = d.token f.start := by
  simp [Token.placed, Phrase.token, h]

/-- After a phrase has been read, the rest of the expression gives the tokens of its phrases. -/
theorem Holds.finish_run {f : Frame} (h : f.Holds stop t s) (trailing : Blanks)
    (phrases : List (Blanks × Phrase)) (hgaps : ∀ d ∈ phrases, d.1.chars ≠ [])
    (hinput : f.input.drop stop = printPhrases trailing phrases) :
    (s.run (printPhrases trailing phrases)).finish.done =
      (phraseTokens stop phrases).reverse ++ t.placed f.input f.start stop :: f.done := by
  induction phrases generalizing f s t stop with
  | nil =>
    rw [printPhrases, phraseTokens]
    by_cases hb : trailing.chars = []
    · rw [hb, run, h.finish]
      rfl
    · have := h.reads_blanks hb []
      rw [List.append_nil] at this
      rw [this]
      rfl
  | cons item rest ih =>
    obtain ⟨gap, d⟩ := item
    have hgap : gap.chars ≠ [] := hgaps (gap, d) (by simp)
    let next : Frame := ⟨f.input, t.placed f.input f.start stop :: f.done, stop + gap.chars.length⟩
    have hreads : s.Reads gap.chars (next.fresh stop) := h.reads_blanks hgap
    have hdrop : next.input.drop next.start = d.print ++ printPhrases trailing rest := by
      rw [← List.drop_drop, hinput]
      simp [printPhrases]
    obtain ⟨s', hphrase, hs'⟩ := next.yields_phrase stop d
    have hrest : next.input.drop (next.start + d.print.length) = printPhrases trailing rest := by
      rw [← List.drop_drop, hdrop]
      simp
    have := ih hs' (fun e he => hgaps e (by simp [he])) hrest
    rw [printPhrases, hreads, hphrase, this, next.placed_phrase d hdrop, phraseTokens]
    simp [next]

end Frame

end Scanner

/-- The first phrase may stand at the very beginning. -/
theorem tokenize_cons (gap : Blanks) (d : Phrase) (trailing : Blanks)
    {rest : List (Blanks × Phrase)} (h : ∀ e ∈ rest, e.1.chars ≠ []) :
    tokenize (String.ofList (printPhrases trailing ((gap, d) :: rest))) =
      phraseTokens 0 ((gap, d) :: rest) := by
  let input := printPhrases trailing ((gap, d) :: rest)
  let f : Scanner.Frame := ⟨input, [], gap.chars.length⟩
  have hgap : (Scanner.init input).Reads gap.chars (f.fresh 0) := by
    have := Scanner.reads_idle input [] 0 0 gap
    rwa [Nat.zero_add] at this
  obtain ⟨s, hphrase, hs⟩ := f.yields_phrase 0 d
  have hdrop : f.input.drop f.start = d.print ++ printPhrases trailing rest := by
    simp [f, input, printPhrases]
  have hrest : f.input.drop (f.start + d.print.length) = printPhrases trailing rest := by
    rw [← List.drop_drop, hdrop]
    simp
  have hfinish := hs.finish_run trailing rest h hrest
  have hrun : (Scanner.init input).run input = s.run (printPhrases trailing rest) := by
    rw [← hphrase, ← hgap]
    rfl
  rw [tokenize, String.toList_ofList, hrun, hfinish, f.placed_phrase d hdrop]
  simp [phraseTokens, f]

/-- A phrase alone is one token. -/
theorem tokenize_print (d : Phrase) : tokenize (String.ofList d.print) = [d.token 0] := by
  have := tokenize_cons ⟨[], by simp⟩ d ⟨[], by simp⟩ (List.forall_mem_nil _)
  simpa [printPhrases, phraseTokens] using this

/-- Cutting written phrases into tokens gives the token of each one, at its place. -/
theorem tokenize_printPhrases (phrases : List (Blanks × Phrase)) (trailing : Blanks)
    (h : Separated phrases) :
    tokenize (String.ofList (printPhrases trailing phrases)) = phraseTokens 0 phrases := by
  cases phrases with
  | nil =>
    have hblanks : (Scanner.init trailing.chars).Reads trailing.chars
        (Scanner.idle trailing.chars [] trailing.chars.length 0) := by
      have := Scanner.reads_idle trailing.chars [] 0 0 trailing
      rwa [Nat.zero_add] at this
    have hrun := hblanks []
    rw [List.append_nil] at hrun
    rw [printPhrases, tokenize, String.toList_ofList, hrun]
    rfl
  | cons item rest => exact tokenize_cons item.1 item.2 trailing h

/-- A rooted path with a suffix and a filter of two parameters, and an embedded expression. -/
def sampleExpression : List (Blanks × Phrase) :=
  let none : Blanks := ⟨[], by simp⟩
  let one : Blanks := ⟨[' '], List.all_eq_true.mp rfl⟩
  let quoted : '\'' ∉ ['c', ',', ' ', 'd'] := by decide
  let listed : Balanced ['e', ',', ' ', 'f'] := balancedBy_of_plain (by simp [isDelimiter])
  let first : Param := ⟨one, _, one, by simp, .quoted quoted .nil⟩
  let second : Param := ⟨none, _, none, by simp [Enclosure.opening], .enclosed .parens listed .nil⟩
  let name : Name := ⟨⟨['i', 't', 'e', 'm', 's'], by simp, List.all_eq_true.mp rfl⟩, by simp⟩
  let path : Primary := .suffixed true name
    (.brackets ['a', 't', '|', 'b'] (balancedBy_of_plain (by simp [isDelimiter])))
  [(none, ⟨path, [⟨one, none, ⟨['k', 'e', 'e', 'p'], by simp, List.all_eq_true.mp rfl⟩,
      some (.listed first [second])⟩]⟩),
    (one, ⟨.embedded false ['g', ',', ' ', 'h'] (balancedBy_of_plain (by simp [isDelimiter])), []⟩)]

theorem tokenize_sampleExpression :
    Separated sampleExpression ∧
      tokenize "^items[at|b] |keep( 'c, d' ,(e, f)) {{g, h}} " =
        [⟨.path, "items", "^items[at|b] |keep( 'c, d' ,(e, f))", 0, 35, true, some .array, ["at|b"],
            [⟨"keep", ["'c, d'", "(e, f)"]⟩]⟩,
          ⟨.embedded, "g, h", "{{g, h}}", 36, 44, false, none, [], []⟩] := by
  have hs : Separated sampleExpression := by
    simp [Separated, sampleExpression]
  exact ⟨hs, tokenize_printPhrases sampleExpression ⟨[' '], List.all_eq_true.mp rfl⟩ hs⟩

end Reshape
