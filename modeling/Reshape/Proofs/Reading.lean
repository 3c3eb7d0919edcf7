import Reshape.Proofs.Phrase

/-! What the scanner holds after each part of a phrase. -/
namespace Reshape

variable {α : Type}

theorem modifyLast_modifyLast (f g : α → α) (items : List α) :
    modifyLast f (modifyLast g items) = modifyLast (f ∘ g) items := by
  rw [modifyLast, modifyLast, List.length_modify, List.modify_modify_eq, modifyLast]

namespace Token

/-- Adds a text to one part of a token. -/
def write (mode : Scanner.Mode) (text : List Char) (t : Token) : Token :=
  match mode with
  | .body => { t with body := t.body ++ String.ofList text }
  | .inner => { t with inner := modifyLast (· ++ String.ofList text) t.inner }
  | .filterName =>
    { t with
      filters := modifyLast (fun f => { f with name := f.name ++ String.ofList text }) t.filters }
  | .filterParams =>
    { t with
      filters := modifyLast
        (fun f => { f with params := modifyLast (· ++ String.ofList text) f.params }) t.filters }

theorem write_write (mode : Scanner.Mode) (first second : List Char) (t : Token) :
    (t.write mode first).write mode second = t.write mode (first ++ second) := by
  cases mode <;>
    simp [write, modifyLast_modifyLast, Function.comp_def, String.ofList_append,
      String.append_assoc]

@[simp] theorem write_nil (mode : Scanner.Mode) (t : Token) : t.write mode [] = t := by
  have hid {β : Type} (items : List β) : modifyLast (fun x => x) items = items := List.modify_id _ _
  cases mode <;> simp [write, hid]

/-- The token without its place, and without parameters that were opened but not written. -/
def tidy (t : Token) : Token :=
  { t with
    source := "", start := 0, stop := 0
    inner := Scanner.tidyParams t.inner
    filters := t.filters.map fun f => { f with params := Scanner.tidyParams f.params } }

/-- The token at a place of an expression. -/
def placed (t : Token) (input : List Char) (start stop : Nat) : Token :=
  { t with
    source := String.ofList ((input.drop start).take (stop - start))
    start := start
    stop := stop }

end Token

@[simp] theorem Scanner.tidyParams_tidyParams (params : List String) :
    tidyParams (tidyParams params) = tidyParams params := by
  by_cases h : params = [""] <;> simp [tidyParams, h]

@[simp] theorem Scanner.tidyParams_nil : tidyParams [] = [] := rfl

namespace Token

@[simp] theorem tidy_tidy (t : Token) : t.tidy.tidy = t.tidy := by
  simp [tidy]

@[simp] theorem tidy_placed (t : Token) (input : List Char) (start stop : Nat) :
    (t.placed input start stop).tidy = t.tidy := rfl

/-- The token with a further filter. -/
def addFilter (call : FilterCall) (t : Token) : Token := { t with filters := t.filters ++ [call] }

theorem tidy_addFilter (call : FilterCall) (t : Token) :
    (t.addFilter call).tidy =
      t.tidy.addFilter { call with params := Scanner.tidyParams call.params } := by
  simp [tidy, addFilter]

end Token

namespace Scanner

variable {input text : List Char} {done : List Token} {place stop : Nat} {stack : List Delimiter}
  {mode : Mode} {t : Token} {s : Scanner} {c : Char}

theorem complete_eq (s : Scanner) :
    s.complete = s.token.tidy.placed s.input (s.start.getD s.stop) s.stop := rfl

/-- A scanner between two tokens. -/
def idle (input : List Char) (done : List Token) (place stop : Nat) : Scanner :=
  ⟨input, place, [], .body, done, .empty, none, stop⟩

/-- What stays the same while a token is read. -/
structure Frame where
  input : List Char
  done : List Token
  start : Nat

namespace Frame

variable {f : Frame}

/-- A scanner that reads a token. -/
def reading (f : Frame) (place stop : Nat) (stack : List Delimiter) (mode : Mode) (t : Token) :
    Scanner :=
  ⟨f.input, place, stack, mode, f.done, t, some f.start, stop⟩

/-- A scanner that has ended a token and passed over what comes after it. -/
def after (f : Frame) (stop place : Nat) (t : Token) : Scanner :=
  idle f.input (t.placed f.input f.start stop :: f.done) place stop

theorem append_reading (c : Char) :
    (f.reading place stop stack mode t).append c =
      f.reading (place + 1) (place + 1) stack mode (t.write mode [c]) := by
  have hpush (a : String) : a ++ String.ofList [c] = a.push c := by simp
  cases mode <;> simp only [Token.write, hpush] <;> rfl

theorem appends_reading_self (text : List Char) :
    (f.reading place place stack mode t).appends text =
      f.reading (place + text.length) (place + text.length) stack mode (t.write mode text) := by
  induction text generalizing place t with
  | nil => simp
  | cons c rest ih =>
    rw [appends_cons, append_reading, ih, Token.write_write, Nat.add_assoc, Nat.add_comm 1]
    rfl

theorem appends_reading (h : text ≠ []) :
    (f.reading place stop stack mode t).appends text =
      f.reading (place + text.length) (place + text.length) stack mode (t.write mode text) := by
  obtain ⟨c, rest, rfl⟩ := List.exists_cons_of_ne_nil h
  rw [appends_cons, append_reading, appends_reading_self, Token.write_write, Nat.add_assoc,
    Nat.add_comm 1]
  rfl

/-- A token is read: the scanner is still on it and would end it at white space, or has ended it
already. -/
inductive Holds (f : Frame) (stop : Nat) (t : Token) : Scanner → Prop
  | running {mode : Mode} {u : Token} :
    (mode = .body ∧ u.isBlank = false ∨
      mode = .filterName ∧ (u.filters.getLast?.any fun f => !f.name.isEmpty) = true) →
    u.tidy = t → Holds f stop t (f.reading stop stop [] mode u)
  | ended : t.tidy = t → Holds f stop t (f.after stop stop t)

theorem Holds.tidy (h : f.Holds stop t s) : t.tidy = t := by
  cases h with
  | running _ ht => rw [← ht, Token.tidy_tidy]
  | ended ht => exact ht

theorem Holds.finish (h : f.Holds stop t s) : s.finish = f.after stop stop t := by
  cases h with
  | @running mode u hm ht =>
    have hb : u.isBlank = false := by
      rcases hm with ⟨_, hb⟩ | ⟨_, hf⟩
      · exact hb
      · have : u.filters ≠ [] := by rintro h; simp [h] at hf
        simp [Token.isBlank, this]
    subst ht
    simp [Scanner.finish, reading, complete_eq, hb, after, idle]
  | ended => rfl

end Frame

/-- White space is no delimiter, and neither caret, bar nor comma. -/
theorem step_of_isBlank (hc : isBlank c = true) (hs : s.stack.head? ≠ some .quote) :
    s.step c = s.blank c := by
  have hne (d : Char) (hd : isBlank d = false) : c ≠ d := by rintro rfl; simp [hd] at hc
  simp [step, hs, hc, hne '\'' (by decide), hne '^' (by decide), hne '(' (by decide),
    hne '[' (by decide), hne '{' (by decide), hne ')' (by decide), hne ']' (by decide),
    hne '}' (by decide), hne '|' (by decide), hne ',' (by decide)]

theorem reads_blank (hc : isBlank c = true) (hs : s.stack.head? ≠ some .quote) :
    s.Reads [c] (s.blank c) := by
  refine reads_char (step_of_isBlank hc hs) ?_
  rw [isBrace, Bool.or_eq_false_iff, beq_eq_false_iff_ne, beq_eq_false_iff_ne]
  constructor <;> rintro rfl <;> revert hc <;> decide

/-- White space that no state takes notice of is passed over. -/
theorem reads_skipped {g : Nat → Scanner}
    (hs : ∀ n, (g n).stack.head? ≠ some .quote)
    (h : ∀ n c, (g n).blank c = g (n + 1)) (place : Nat) (blanks : Blanks) :
    (g place).Reads blanks.chars (g (place + blanks.chars.length)) := by
  obtain ⟨chars, hb⟩ := blanks
  induction chars generalizing place with
  | nil => exact Reads.refl _
  | cons c rest ih =>
    have hfirst := reads_blank (hb c (by simp)) (hs place)
    rw [h] at hfirst
    have := hfirst.trans (ih (place + 1) fun d hd => hb d (by simp [hd]))
    simpa [Nat.add_assoc, Nat.add_comm 1] using this

theorem reads_idle (input : List Char) (done : List Token) (place stop : Nat) (blanks : Blanks) :
    (idle input done place stop).Reads blanks.chars
      (idle input done (place + blanks.chars.length) stop) := by
  apply reads_skipped (g := fun n => idle input done n stop)
  · simp [idle]
  · simp [idle, blank, Token.isBlank, Token.empty, skip]

/-- White space ends the token. -/
theorem Frame.Holds.reads_blanks {f : Frame} (h : f.Holds stop t s) {blanks : Blanks}
    (hb : blanks.chars ≠ []) :
    s.Reads blanks.chars (f.after stop (stop + blanks.chars.length) t) := by
  obtain ⟨chars, hblank⟩ := blanks
  obtain ⟨c, rest, rfl⟩ := List.exists_cons_of_ne_nil hb
  have hc : s.Reads [c] (f.after stop (stop + 1) t) := by
    have hstack : s.stack = [] := by cases h <;> rfl
    have hblanks : s.blank c = s.finish.skip := by
      cases h with
      | running hm _ =>
        rcases hm with ⟨rfl, hb⟩ | ⟨rfl, hf⟩
        · simp [blank, Frame.reading, hb]
        · simp [blank, Frame.reading, hasFilterName, hf]
      | ended => rfl
    have := reads_blank (hblank c (by simp)) (s := s) (by simp [hstack])
    rwa [hblanks, h.finish] at this
  have := hc.trans (reads_idle _ _ _ stop ⟨rest, fun d hd => hblank d (by simp [hd])⟩)
  simpa [Frame.after, Nat.add_assoc, Nat.add_comm 1] using this

/-- The token with the given parameters in the place of those of its call or last filter. -/
def withParams (mode : Mode) (params : List String) (t : Token) : Token :=
  match mode with
  | .filterParams =>
    { t with filters := modifyLast (fun f => { f with params := params }) t.filters }
  | _ => { t with inner := params }

/-- The parameters that are read are those of a call or of a filter. -/
def TakesParams (mode : Mode) (t : Token) : Prop :=
  mode = .filterParams ∨ mode = .inner ∧ t.kind = .call

theorem write_withParams (h : TakesParams mode t) (params : List String) :
    (withParams mode (params ++ [""]) t).write mode text =
      withParams mode (params ++ [String.ofList text]) t := by
  rcases h with rfl | ⟨rfl, _⟩ <;>
    simp [withParams, Token.write, modifyLast_modifyLast, Function.comp_def]

namespace Frame

/-- A scanner that has read parameters up to a place. -/
def listing (f : Frame) (place stop : Nat) (mode : Mode) (t : Token) (params : List String) :
    Scanner :=
  f.reading place stop [.paren] mode (withParams mode params t)

variable (f : Frame) (place stop : Nat) (params : List String)

theorem separates_listing (h : TakesParams mode t) :
    (f.listing place stop mode t params).Separates := by
  rcases h with rfl | ⟨rfl, hk⟩
  · exact ⟨rfl, Or.inl rfl⟩
  · exact ⟨rfl, Or.inr ⟨rfl, hk⟩⟩

theorem listing_blanks (h : TakesParams mode t) (blanks : Blanks) :
    (f.listing place stop mode t params).Reads blanks.chars
      (f.listing (place + blanks.chars.length) stop mode t params) := by
  apply reads_skipped (g := fun n => f.listing n stop mode t params)
  · simp [listing, reading]
  · intro n c
    have hsep := f.separates_listing n stop params h
    have hstack : (f.listing n stop mode t params).stack.isEmpty = false := rfl
    simp only [Separates] at hsep
    simp only [blank, hstack, hsep, Bool.false_eq_true, ↓reduceIte, true_and]
    rfl

theorem listing_text (h : TakesParams mode t) (hne : text ≠ [])
    (hb : BalancedBy isParamChar text) :
    (f.listing place stop mode t (params ++ [""])).Reads text
      (f.listing (place + text.length) (place + text.length) mode t
        (params ++ [String.ofList text])) := by
  have htakes : (f.listing place stop mode t (params ++ [""])).Takes isParamChar := by
    refine ⟨by simp [listing, reading], by simp [listing, reading], fun _ c hc => ?_⟩
    simpa [isParamChar] using hc
  have := reads_balanced hb htakes
  rwa [listing, appends_reading hne, write_withParams h] at this

theorem listing_comma (h : TakesParams mode t) :
    (f.listing place stop mode t params).Reads [',']
      (f.listing (place + 1) (place + 1) mode t (params ++ [""])) := by
  have hstep : (f.listing place stop mode t params).step ',' =
      (f.listing place stop mode t params).comma := by
    simp [step, listing, reading, depth]
  refine reads_char (hstep.trans ?_) rfl
  rcases h with rfl | ⟨rfl, hk⟩
  · simp [comma, listing, reading, withParams, withToken, consume, modifyLast_modifyLast,
      Function.comp_def, FilterCall.openParam]
  · simp [comma, listing, reading, withParams, withToken, consume, hk]

theorem listing_param (h : TakesParams mode t) (p : Param) :
    (f.listing place stop mode t (params ++ [""])).Reads p.print
      (f.listing (place + p.print.length) (place + p.before.chars.length + p.text.length) mode t
        (params ++ [String.ofList p.text])) := by
  have hbefore := f.listing_blanks place stop (params ++ [""]) h p.before
  have htext := f.listing_text (place + p.before.chars.length) stop params h p.nonempty p.balanced
  have := hbefore.trans (htext.trans (f.listing_blanks _ _ _ h p.after))
  simpa only [Param.print, List.length_append, Nat.add_assoc] using this

theorem listing_more (h : TakesParams mode t) (rest : List Param) :
    ∃ stop', (f.listing place stop mode t params).Reads (printMore rest)
      (f.listing (place + (printMore rest).length) stop' mode t
        (params ++ rest.map fun p => String.ofList p.text)) := by
  induction rest generalizing params place stop with
  | nil => exact ⟨stop, by simpa [printMore] using Reads.refl _⟩
  | cons p rest ih =>
    have hp := f.listing_param (place + 1) (place + 1) params h p
    obtain ⟨stop', hrest⟩ := ih (place + 1 + p.print.length)
      (place + 1 + p.before.chars.length + p.text.length) (params ++ [String.ofList p.text])
    refine ⟨stop', ?_⟩
    have := (f.listing_comma place stop params h).trans (hp.trans hrest)
    simpa [printMore, Nat.add_assoc, Nat.add_comm 1] using this

end Frame

/-- The part of a token that is read after its parameters. -/
def afterParams : Mode → Mode
  | .filterParams => .filterName
  | _ => .body

namespace Frame

variable (f : Frame) (place stop : Nat) (params : List String)

theorem listing_close (h : TakesParams mode t) :
    (f.listing place stop mode t params).Reads [')']
      (f.reading (place + 1) (place + 1) [] (afterParams mode) (withParams mode params t)) := by
  have hstep : (f.listing place stop mode t params).step ')' =
      (f.listing place stop mode t params).close ')' := by
    simp [step, listing, reading]
  refine reads_char (hstep.trans ?_) rfl
  rcases h with rfl | ⟨rfl, hk⟩
  · rfl
  · simp [close, listing, reading, Delimiter.closedBy, closed, consume, within, withParams, hk,
      afterParams]

/-- Parameters are read after their opening parenthesis up to the closing one. -/
theorem reads_params (h : TakesParams mode t) (params : Params) :
    ∃ written, tidyParams written = params.texts ∧
      (f.listing (place + 1) (place + 1) mode t [""]).Reads params.print.tail
        (f.reading (place + params.print.length) (place + params.print.length) []
          (afterParams mode) (withParams mode written t)) := by
  cases params with
  | none gap =>
    have := (f.listing_blanks (place + 1) (place + 1) [""] h gap).trans
      (f.listing_close _ _ _ h)
    refine ⟨[""], rfl, ?_⟩
    simpa [Params.print, Nat.add_assoc, Nat.add_comm 1] using this
  | listed first rest =>
    have hfirst := f.listing_param (place + 1) (place + 1) [] h first
    obtain ⟨_, hrest⟩ := f.listing_more (place + 1 + first.print.length)
      (place + 1 + first.before.chars.length + first.text.length) [String.ofList first.text] h rest
    refine ⟨String.ofList first.text :: rest.map fun p => String.ofList p.text, ?_, ?_⟩
    · simp [tidyParams, Params.texts, first.nonempty]
    · have := hfirst.trans (hrest.trans (f.listing_close _ _ _ h))
      simpa [Params.print, Nat.add_assoc, Nat.add_comm 1] using this

end Frame

end Scanner

end Reshape
