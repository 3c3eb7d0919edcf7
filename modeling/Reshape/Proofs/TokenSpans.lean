import Mathlib
import Reshape.Proofs.Phrase

/-! Where the tokens of an expression lie. Whatever the expression is, its tokens stand in order
and apart from each other, and between them there is white space only. -/
namespace Reshape

/-- Something of a token is written beside a caret. -/
def Token.IsWritten (t : Token) : Prop :=
  t.kind ≠ .path ∨ t.body ≠ "" ∨ t.shape ≠ none ∨ t.filters ≠ []

theorem Token.IsWritten.isBlank_eq_false {t : Token} (h : t.IsWritten) : t.isBlank = false := by
  simp only [Token.IsWritten, Token.isBlank] at h ⊢
  rcases h with h | h | h | h <;> simp [h]

@[simp] theorem modifyLast_eq_nil_iff {α : Type} {f : α → α} {items : List α} :
    modifyLast f items = [] ↔ items = [] :=
  List.modify_eq_nil_iff

/-- Finished tokens, last one first, take up a text up to its end, with white space between
them. -/
inductive Filled : List Token → List Char → Prop
  | nil : Filled [] []
  | cons {done : List Token} {text : List Char} {t : Token} (gap : Blanks) :
    Filled done text → t.IsWritten → t.source.toList ≠ [] →
    t.start = (text ++ gap.chars).length → t.stop = t.start + t.source.toList.length →
    Filled (t :: done) (text ++ (gap.chars ++ t.source.toList))

def Blanks.concat (blanks : Blanks) (c : Char) (hc : isBlank c = true) : Blanks :=
  ⟨blanks.chars ++ [c], by
    intro d hd
    rcases List.mem_append.mp hd with hd | hd
    · exact blanks.blank d hd
    · rwa [List.mem_singleton.mp hd]⟩

namespace Scanner

/-- Where a scanner is and what it has finished, apart from the token that it reads. -/
structure Place where
  input : List Char
  position : Nat
  done : List Token
  start : Option Nat
  stop : Nat

def place (s : Scanner) : Place := ⟨s.input, s.position, s.done, s.start, s.stop⟩

/-- The parts of the text that a scanner has passed: what its finished tokens take up, white space,
what belongs to the token that it reads, and white space after that. -/
structure Passed where
  covered : List Char
  gap : Blanks
  own : List Char
  after : Blanks

namespace Passed

def text (p : Passed) : List Char := p.covered ++ (p.gap.chars ++ (p.own ++ p.after.chars))

/-- A text goes to the token, with the white space before it. -/
def taking (p : Passed) (text : List Char) : Passed :=
  { p with own := p.own ++ (p.after.chars ++ text), after := .empty }

/-- White space goes to no token. -/
def skipping (p : Passed) (c : Char) (hc : isBlank c = true) : Passed :=
  if p.own = [] then { p with gap := p.gap.concat c hc }
  else { p with after := p.after.concat c hc }

/-- The token is finished. -/
def finishing (p : Passed) : Passed :=
  ⟨p.covered ++ (p.gap.chars ++ p.own), p.after, [], .empty⟩

end Passed

/-- The parts of a passed text fit the place of a scanner before the rest of its input. -/
structure IsPlaceAfter (l : Place) (p : Passed) (rest : List Char) : Prop where
  input : l.input = p.text ++ rest
  position : l.position = p.text.length
  filled : Filled l.done p.covered
  start : l.start = if p.own = [] then none else some (p.covered ++ p.gap.chars).length
  stop : l.stop = (p.covered ++ if p.own = [] then [] else p.gap.chars ++ p.own).length
  tight : p.own = [] → p.after.chars = []

/-- What belongs to a token of which nothing is written: perhaps a caret, and perhaps an opening
quote behind it. -/
inductive Unwritten (s : Scanner) (p : Passed) : Prop
  | bare : s.token.isBlank = true → s.mode = .body → s.stack = [] →
    p.own = printCaret s.token.rooted → Unwritten s p
  | quoted (blanks : Blanks) : s.token.isBlank = true → s.mode = .body → s.stack = [.quote] →
    p.own = printCaret s.token.rooted ++ (blanks.chars ++ ['\'']) → p.after.chars = [] →
    Unwritten s p

/-- What holds of a scanner over an input when it has passed a part of it. -/
structure HasPassed (s : Scanner) (input : List Char) (p : Passed) (rest : List Char) : Prop where
  input : s.input = input
  after : IsPlaceAfter s.place p rest
  state : (s.token.IsWritten ∧ p.own ≠ []) ∨ s.Unwritten p

/-- The scanner has passed all of its input but the rest. -/
def Sound (s : Scanner) (input rest : List Char) : Prop := ∃ p, s.HasPassed input p rest

variable {s s' : Scanner} {p : Passed} {c d : Char} {input text rest : List Char}

theorem IsPlaceAfter.consume (h : IsPlaceAfter s.place p (text ++ rest)) (hne : text ≠ []) {n : Nat}
    (hn : text.length = n) : IsPlaceAfter (s.consume n).place (p.taking text) rest := by
  have hown : p.own ++ (p.after.chars ++ text) ≠ [] := by simp [hne]
  have hinput : s.input = p.text ++ (text ++ rest) := h.input
  have hposition : s.position = p.text.length := h.position
  have hstart : s.start.getD s.position = (p.covered ++ p.gap.chars).length := by
    have hs : s.start = _ := h.start
    by_cases ho : p.own = []
    · rw [hs, if_pos ho, hposition]
      simp [Passed.text, ho, h.tight ho]
    · rw [hs, if_neg ho]
      rfl
  have htext : (p.taking text).text = p.text ++ text := by
    simp [Passed.text, Passed.taking, Blanks.empty]
  refine ⟨?_, ?_, h.filled, ?_, ?_, fun ho => (hown ho).elim⟩
  · rw [htext, List.append_assoc]
    exact hinput
  · rw [htext, List.length_append, hn, ← hposition]
    rfl
  · exact (congrArg some hstart).trans (if_neg hown).symm
  · show s.position + n = (p.covered ++ if p.own ++ (p.after.chars ++ text) = [] then [] else
      p.gap.chars ++ (p.own ++ (p.after.chars ++ text))).length
    rw [if_neg hown, hposition, ← hn]
    simp [Passed.text, Nat.add_assoc]

theorem Passed.text_skipping (p : Passed) (h : p.own = [] → p.after.chars = [])
    (hc : isBlank c = true) : (p.skipping c hc).text = p.text ++ [c] := by
  by_cases ho : p.own = []
  · simp [Passed.skipping, ho, Passed.text, Blanks.concat, h ho]
  · simp [Passed.skipping, ho, Passed.text, Blanks.concat]

theorem Passed.own_skipping (p : Passed) (hc : isBlank c = true) :
    (p.skipping c hc).own = p.own := by
  by_cases ho : p.own = [] <;> simp [Passed.skipping, ho]

theorem IsPlaceAfter.skip (h : IsPlaceAfter s.place p (c :: rest)) (hc : isBlank c = true) :
    IsPlaceAfter s.skip.place (p.skipping c hc) rest := by
  have hinput : s.input = p.text ++ c :: rest := h.input
  have hposition : s.position = p.text.length := h.position
  have htext := p.text_skipping h.tight hc
  have hcovered : (p.skipping c hc).covered = p.covered := by
    by_cases ho : p.own = [] <;> simp [Passed.skipping, ho]
  refine ⟨?_, ?_, hcovered ▸ h.filled, h.start.trans ?_, h.stop.trans ?_, ?_⟩
  · rw [htext, List.append_assoc]
    exact hinput
  · rw [htext, List.length_append, ← hposition]
    rfl
  · by_cases ho : p.own = [] <;> simp [Passed.skipping, ho]
  · by_cases ho : p.own = [] <;> simp [Passed.skipping, ho]
  · intro ho
    rw [p.own_skipping] at ho
    simpa [Passed.skipping, ho] using h.tight ho

/-- A finished token covers what belongs to it. -/
theorem IsPlaceAfter.finish (h : IsPlaceAfter s.place p rest) (ho : p.own ≠ [])
    (ht : s.token.IsWritten) :
    IsPlaceAfter s.finish.place p.finishing rest := by
  have hinput : s.input = p.text ++ rest := h.input
  have hposition : s.position = p.text.length := h.position
  have hstart : s.start = some (p.covered ++ p.gap.chars).length := h.start.trans (if_neg ho)
  have hstop : s.stop = (p.covered ++ (p.gap.chars ++ p.own)).length := by
    have hs := h.stop
    rwa [if_neg ho] at hs
  have hdrop : s.input.drop (p.covered ++ p.gap.chars).length =
      p.own ++ (p.after.chars ++ rest) := by
    simp [hinput, Passed.text]
  have hlength : s.stop - (p.covered ++ p.gap.chars).length = p.own.length := by
    simp [hstop]
    omega
  have hsource : s.complete.source.toList = p.own := by
    simp only [complete, hstart, Option.getD_some, hdrop, hlength, String.toList_ofList,
      List.take_left]
  have hwritten : s.complete.IsWritten := by simpa [complete, Token.IsWritten] using ht
  have hplace : s.complete.start = (p.covered ++ p.gap.chars).length ∧
      s.complete.stop = s.stop := by
    simp [complete, hstart]
  have hfilled : Filled (s.complete :: s.done) p.finishing.covered := by
    have hfirst := Filled.cons p.gap h.filled hwritten (by rwa [hsource]) hplace.1
      (by rw [hplace.1, hplace.2, hstop, hsource]; simp [Nat.add_assoc])
    rwa [hsource] at hfirst
  have hdone : s.finish.done = s.complete :: s.done := by
    simp [Scanner.finish, ht.isBlank_eq_false]
  have htext : p.finishing.text = p.text := by
    simp [Passed.finishing, Passed.text, Blanks.empty]
  refine ⟨?_, ?_, ?_, rfl, ?_, fun _ => rfl⟩
  · rw [htext]
    exact hinput
  · rw [htext]
    exact hposition
  · show Filled s.finish.done _
    rwa [hdone]
  · show s.stop = _
    simp [hstop, Passed.finishing]

/-- The token that was finished last can be taken up when nothing belongs to another one. -/
theorem IsPlaceAfter.resume {previous : Token} {done : List Token} (h : IsPlaceAfter s.place p rest)
    (ho : p.own = []) (hdone : s.done = previous :: done) :
    ∃ p', IsPlaceAfter ⟨s.input, s.position, done, some previous.start, s.stop⟩ p' rest ∧
      previous.IsWritten ∧ p'.own ≠ [] := by
  have hinput : s.input = p.text ++ rest := h.input
  have hposition : s.position = p.text.length := h.position
  have hstop : s.stop = p.covered.length := by
    have hs := h.stop
    rwa [if_pos ho, List.append_nil] at hs
  have hafter := h.tight ho
  have hfilled : Filled (previous :: done) p.covered := hdone ▸ h.filled
  generalize hcovered : p.covered = covered at hfilled hstop
  cases hfilled with
  | @cons _ text _ gap hfilled hwritten hne hstart _ =>
    have htext : p.text = text ++ (gap.chars ++ (previous.source.toList ++ p.gap.chars)) := by
      simp [Passed.text, ho, hafter, hcovered]
    refine ⟨⟨text, gap, previous.source.toList, p.gap⟩, ⟨?_, ?_, hfilled, ?_, ?_, ?_⟩, hwritten,
      hne⟩
    · exact hinput.trans (congrArg (· ++ rest) htext)
    · exact hposition.trans (congrArg List.length htext)
    · rw [if_neg hne, hstart]
    · rw [if_neg hne]
      exact hstop
    · exact fun he => (hne he).elim

theorem IsPlaceAfter.consume_char (h : IsPlaceAfter s.place p (c :: rest))
    (hplace : s'.place = s.place) :
    IsPlaceAfter (s'.consume 1).place (p.taking [c]) rest := by
  rw [← hplace] at h
  exact IsPlaceAfter.consume (show IsPlaceAfter s'.place p ([c] ++ rest) from h)
    (List.cons_ne_nil c []) rfl

theorem IsPlaceAfter.consume_pair (h : IsPlaceAfter s.place p (c :: d :: rest))
    (hplace : s'.place = s.place) :
    IsPlaceAfter (s'.consume 2).place (p.taking [c, d]) rest := by
  rw [← hplace] at h
  exact IsPlaceAfter.consume (show IsPlaceAfter s'.place p ([c, d] ++ rest) from h)
    (List.cons_ne_nil c [d]) rfl

theorem Passed.own_taking_ne_nil (p : Passed) (c : Char) (text : List Char) :
    (p.taking (c :: text)).own ≠ [] := by
  simp [Passed.taking]

/-- A character that gives a written token belongs to it. -/
theorem Sound.consume_char (h : s.Sound input (c :: rest)) (hplace : s'.place = s.place)
    (ht : s'.token.IsWritten) : (s'.consume 1).Sound input rest := by
  obtain ⟨p, hinput, hafter, -⟩ := h
  exact ⟨p.taking [c], (congrArg Place.input hplace).trans hinput, hafter.consume_char hplace,
    Or.inl ⟨ht, p.own_taking_ne_nil c []⟩⟩

theorem Sound.consume_pair (h : s.Sound input (c :: d :: rest)) (hplace : s'.place = s.place)
    (ht : s'.token.IsWritten) : (s'.consume 2).Sound input rest := by
  obtain ⟨p, hinput, hafter, -⟩ := h
  exact ⟨p.taking [c, d], (congrArg Place.input hplace).trans hinput, hafter.consume_pair hplace,
    Or.inl ⟨ht, p.own_taking_ne_nil c [d]⟩⟩

theorem Unwritten.isBlank (h : s.Unwritten p) : s.token.isBlank = true := by
  cases h <;> assumption

theorem Unwritten.body (h : s.Unwritten p) : s.mode = .body := by
  cases h <;> assumption

theorem Unwritten.own_eq_caret (h : s.Unwritten p) (hs : s.stack = []) :
    p.own = printCaret s.token.rooted := by
  cases h with
  | bare _ _ _ ho => exact ho
  | quoted _ _ _ hq => simp [hs] at hq

theorem Unwritten.own_eq_nil (h : s.Unwritten p) (hs : s.stack = [])
    (hr : s.token.rooted = false) : p.own = [] := by
  rw [h.own_eq_caret hs, hr]
  rfl

theorem Sound.body_or_isWritten (h : s.Sound input rest) :
    s.mode = .body ∨ s.token.IsWritten := by
  obtain ⟨p, -, -, ⟨hw, -⟩ | hu⟩ := h
  · exact Or.inr hw
  · exact Or.inl hu.body

theorem Sound.isWritten_of_mode {mode : Mode} (h : s.Sound input rest) (hm : s.mode = mode)
    (hne : mode ≠ .body) : s.token.IsWritten :=
  h.body_or_isWritten.resolve_left (hm ▸ hne)

theorem Sound.isWritten_of_not_isBlank (h : s.Sound input rest) (hb : s.token.isBlank = false) :
    s.token.IsWritten := by
  obtain ⟨p, -, -, ⟨hw, -⟩ | hu⟩ := h
  · exact hw
  · simp [hu.isBlank] at hb

/-- Whatever part of a token is read, a character pushed to it makes the token a written one. -/
theorem isWritten_push (h : s.mode = .body ∨ s.token.IsWritten) (c : Char) :
    (s.push c).token.IsWritten := by
  simp only [push, withToken]
  cases hm : s.mode <;> simp [Token.IsWritten, hm] at h ⊢ <;> exact h

theorem Sound.append (h : s.Sound input (c :: rest)) (hplace : s'.place = s.place)
    (hmode : s'.mode = s.mode) (htoken : s'.token = s.token) : (s'.append c).Sound input rest := by
  refine h.consume_char hplace (isWritten_push ?_ c)
  rw [hmode, htoken]
  exact h.body_or_isWritten

theorem Sound.skip (h : s.Sound input (c :: rest)) (hc : Reshape.isBlank c = true)
    (hq : s.stack.head? ≠ some .quote) : s.skip.Sound input rest := by
  obtain ⟨p, hinput, hafter, hstate⟩ := h
  refine ⟨p.skipping c hc, hinput, hafter.skip hc, ?_⟩
  rcases hstate with ⟨hw, ho⟩ | hu
  · exact Or.inl ⟨hw, by rwa [p.own_skipping]⟩
  · cases hu with
    | bare hb hm hs ho => exact Or.inr (.bare hb hm hs (by rw [p.own_skipping]; exact ho))
    | quoted _ _ _ hs => simp [hs] at hq

theorem Sound.finish (h : s.Sound input rest) (hs : s.stack = []) (ht : s.token.IsWritten) :
    s.finish.Sound input rest := by
  obtain ⟨p, hinput, hafter, ⟨_, ho⟩ | hu⟩ := h
  · exact ⟨p.finishing, hinput, hafter.finish ho ht, Or.inr (.bare rfl rfl hs rfl)⟩
  · have hb := ht.isBlank_eq_false
    simp [hu.isBlank] at hb

/-- Taking up the token before the white space. -/
theorem Sound.resume (h : s.Sound input rest) (hs : s.stack = []) : s.resume.Sound input rest := by
  rw [Scanner.resume]
  split
  · exact h
  · rename_i previous done hdone
    split
    · rename_i hblank
      obtain ⟨-, hb, hr⟩ := hblank
      obtain ⟨p, hinput, hafter, ⟨hw, -⟩ | hu⟩ := h
      · simp [hw.isBlank_eq_false] at hb
      · have hown := hu.own_eq_nil hs (by simpa using hr)
        obtain ⟨p', hafter', hw, ho⟩ := hafter.resume hown hdone
        exact ⟨p', hinput, hafter', Or.inl ⟨hw, ho⟩⟩
    · exact h

theorem sound_ite {q : Prop} [Decidable q] {first second : Scanner}
    (hfirst : q → first.Sound input rest) (hsecond : ¬ q → second.Sound input rest) :
    (if q then first else second).Sound input rest := by
  by_cases h : q
  · rw [if_pos h]
    exact hfirst h
  · rw [if_neg h]
    exact hsecond h

theorem Sound.quoted (h : s.Sound input (c :: rest)) : (s.quoted c).Sound input rest := by
  simp only [Scanner.quoted]
  refine sound_ite (fun hc => sound_ite (fun _ => ?_) fun _ => ?_) fun _ => h.append rfl rfl rfl
  · by_cases hm : s.mode = .body
    · rw [if_pos (show s.closed.mode = .body from hm)]
      exact h.consume_char rfl (Or.inl (by simp [withToken]))
    · rw [if_neg (show s.closed.mode ≠ .body from hm)]
      exact h.consume_char rfl (h.isWritten_of_mode rfl hm)
  · subst hc
    exact h.append rfl rfl rfl

theorem Sound.quote (h : s.Sound input ('\'' :: rest)) : s.quote.Sound input rest := by
  simp only [Scanner.quote]
  by_cases hd : 1 < (s.opened .quote).depth
  · rw [if_pos hd]
    exact h.consume_char rfl (isWritten_push h.body_or_isWritten '\'')
  · rw [if_neg hd]
    have hstack : s.stack = [] := by simpa [depth, opened] using hd
    obtain ⟨p, hinput, hafter, ⟨hw, -⟩ | hu⟩ := id h
    · exact h.consume_char rfl hw
    · refine ⟨p.taking ['\''], hinput, hafter.consume_char rfl, Or.inr ?_⟩
      refine .quoted p.after hu.isBlank hu.body ?_ ?_ rfl
      · simp [opened, consume, hstack]
      · simp [Passed.taking, hu.own_eq_caret hstack, opened, consume]

theorem Sound.caret (h : s.Sound input ('^' :: rest)) (hs : s.stack = [])
    (hb : s.token.isBlank = true) (hr : s.token.rooted = false) :
    ((s.withToken { s.token with rooted := true }).consume 1).Sound input rest := by
  obtain ⟨p, hinput, hafter, ⟨hw, -⟩ | hu⟩ := h
  · simp [hw.isBlank_eq_false] at hb
  · have hown := hu.own_eq_nil hs hr
    refine ⟨p.taking ['^'], hinput, hafter.consume_char rfl, Or.inr (.bare hb hu.body hs ?_)⟩
    simp [Passed.taking, hown, hafter.tight hown, withToken, consume, printCaret]

theorem Sound.beginInner {t : Token} (h : s.Sound input (c :: rest)) (hplace : s'.place = s.place)
    (ht : t.IsWritten) : (s'.beginInner t).Sound input rest :=
  h.consume_char hplace ht

theorem Sound.paren (h : s.Sound input ('(' :: rest)) : s.paren.Sound input rest := by
  simp only [Scanner.paren]
  refine sound_ite (fun hname => ?_) fun _ => sound_ite (fun _ => ?_) fun _ => h.append rfl rfl rfl
  · refine h.consume_char rfl ?_
    have ht := h.isWritten_of_mode hname.2.1 (by decide)
    simpa [Token.IsWritten, withToken, within, opened] using ht
  · exact h.beginInner rfl (Or.inl (by simp))

theorem Sound.bracket (h : s.Sound input ('[' :: rest)) : s.bracket.Sound input rest := by
  simp only [Scanner.bracket]
  refine sound_ite (fun _ => sound_ite (fun _ => ?_) fun _ => ?_) fun _ => h.append rfl rfl rfl
  · exact h.beginInner rfl (Or.inl (by simp))
  · exact h.beginInner rfl (Or.inr (Or.inr (Or.inl (by simp))))

theorem Sound.brace (h : s.Sound input ('{' :: rest)) : s.brace.Sound input rest := by
  simp only [Scanner.brace]
  refine sound_ite (fun _ => ?_) fun _ => h.append rfl rfl rfl
  exact h.beginInner rfl (Or.inr (Or.inr (Or.inl (by simp))))

theorem finish_of_isBlank (hb : s.token.isBlank = true) :
    s.finish = { s with token := .empty, start := none, mode := .body } := by
  simp [Scanner.finish, hb]

/-- An embedded expression begins a token of its own. The caret of a blank one belongs to it. -/
theorem Sound.openBraces (h : s.Sound input ('{' :: '{' :: rest)) :
    s.openBraces.Sound input rest := by
  simp only [Scanner.openBraces]
  refine sound_ite (fun hopen => ?_) fun _ => ?_
  · have hs : s.stack = [] := by simpa using hopen.1
    have hwritten (t : Token) : ({ t with kind := .embedded } : Token).IsWritten :=
      Or.inl (by simp)
    obtain ⟨p, -, hafter, ⟨hw, -⟩ | hu⟩ := id h
    · simp only [hw.isBlank_eq_false, Bool.false_and, Bool.false_eq_true, if_false]
      exact (h.finish hs hw).consume_pair rfl (hwritten _)
    · have hb := hu.isBlank
      refine h.consume_pair ?_ (hwritten _)
      -- The blank token is dropped, and the place of its caret is kept.
      cases hr : s.token.rooted with
      | false =>
        have hstart : s.start = none := hafter.start.trans (if_pos (hu.own_eq_nil hs hr))
        simp [finish_of_isBlank, hb, place, withToken, opened, hstart]
      | true =>
        have hb' : ({ s.token with rooted := false } : Token).isBlank = true := hb
        simp [finish_of_isBlank, hb, hb', place, withToken, opened]
  · exact h.consume_pair rfl
      (isWritten_push (Or.inr (isWritten_push h.body_or_isWritten '{')) '{')

theorem Sound.closeBraces (h : s.Sound input ('}' :: '}' :: rest)) :
    s.closeBraces.Sound input rest := by
  simp only [Scanner.closeBraces]
  refine sound_ite (fun hclose => ?_) fun _ => ?_
  · have hk : s.token.kind = .embedded := hclose.2
    have ht : s.token.IsWritten := Or.inl (by simp [hk])
    have hclosed : (s.closed.consume 2).Sound input rest := h.consume_pair rfl ht
    have hstack : s.closed.stack = [] := by simpa using hclose.1
    exact hclosed.finish hstack ht
  · exact h.consume_pair rfl
      (isWritten_push (Or.inr (isWritten_push h.body_or_isWritten '}')) '}')

theorem Sound.close (h : s.Sound input (c :: rest)) : (s.close c).Sound input rest := by
  rw [Scanner.close]
  split
  · exact h.append rfl rfl rfl
  · refine sound_ite (fun _ => ?_) fun _ => h.append rfl rfl rfl
    refine sound_ite (fun hinner => ?_) fun _ => sound_ite (fun hparams => ?_) fun _ =>
      h.append rfl rfl rfl
    · have ht := h.isWritten_of_mode hinner.2 (by decide)
      have hclosed : ((s.closed.within .body).consume 1).Sound input rest := h.consume_char rfl ht
      have hstack : s.closed.stack = [] := by simpa using hinner.1
      exact sound_ite (fun _ => hclosed.finish hstack ht) fun _ => hclosed
    · exact show ((s.closed.within .filterName).consume 1).Sound input rest from
        h.consume_char rfl (h.isWritten_of_mode hparams.2 (by decide))

theorem Sound.bar (h : s.Sound input ('|' :: rest)) (hs : s.stack = []) :
    s.bar.Sound input rest := by
  rw [Scanner.bar]
  exact (h.resume hs).consume_char rfl (by simp [Token.IsWritten, withToken, within])

theorem Sound.comma (h : s.Sound input (',' :: rest)) : s.comma.Sound input rest := by
  rw [Scanner.comma]
  refine sound_ite (fun hm => ?_) fun _ => sound_ite (fun hcall => ?_) fun _ =>
    h.append rfl rfl rfl
  · refine h.consume_char rfl ?_
    simpa [Token.IsWritten, withToken] using h.isWritten_of_mode hm (by decide)
  · exact h.consume_char rfl (Or.inl (by simp [withToken, hcall.2]))

theorem Sound.blank (h : s.Sound input (c :: rest)) (hc : Reshape.isBlank c = true)
    (hq : s.stack.head? ≠ some .quote) : (s.blank c).Sound input rest := by
  simp only [Scanner.blank]
  refine sound_ite (fun hs => ?_) fun _ => sound_ite (fun _ => h.skip hc hq) fun _ =>
    h.append rfl rfl rfl
  have hstack : s.stack = [] := by simpa using hs
  by_cases hends : (s.mode = .filterName ∧ s.hasFilterName = true) ∨
      (s.mode = .body ∧ (!s.token.isBlank) = true)
  · rw [if_pos hends]
    have ht : s.token.IsWritten := by
      rcases hends with ⟨hm, _⟩ | ⟨_, hb⟩
      · exact h.isWritten_of_mode hm (by decide)
      · exact h.isWritten_of_not_isBlank (by simpa using hb)
    exact (h.finish hstack ht).skip hc hq
  · rw [if_neg hends]
    exact h.skip hc hq

theorem Sound.step (h : s.Sound input (c :: rest)) : (s.step c).Sound input rest := by
  rw [Scanner.step]
  -- The branches of the step in their order.
  refine sound_ite (fun _ => h.quoted) fun hq => ?_
  refine sound_ite (fun hc => ?_) fun _ => ?_
  · subst hc
    exact h.quote
  refine sound_ite (fun hc => ?_) fun _ => ?_
  · obtain ⟨rfl, _, hs, hb, hr⟩ := hc
    exact h.caret (by simpa using hs) hb (by simpa using hr)
  refine sound_ite (fun hc => ?_) fun _ => ?_
  · subst hc
    exact h.paren
  refine sound_ite (fun hc => ?_) fun _ => ?_
  · subst hc
    exact h.bracket
  refine sound_ite (fun hc => ?_) fun _ => ?_
  · subst hc
    exact h.brace
  refine sound_ite (fun _ => h.close) fun _ => ?_
  refine sound_ite (fun hc => ?_) fun _ => ?_
  · obtain ⟨rfl, hs⟩ := hc
    exact h.bar (by simpa using hs)
  refine sound_ite (fun hc => ?_) fun _ => ?_
  · obtain ⟨rfl, _⟩ := hc
    exact h.comma
  exact sound_ite (fun hc => h.blank hc hq) fun _ => h.append rfl rfl rfl

theorem Sound.pair (h : s.Sound input (c :: d :: rest)) (hpair : s.pair? c d = some s') :
    s'.Sound input rest := by
  rw [pair?] at hpair
  split_ifs at hpair with _ hopen hclose
  · obtain ⟨rfl, rfl⟩ := hopen
    exact Option.some.inj hpair ▸ h.openBraces
  · obtain ⟨rfl, rfl, _⟩ := hclose
    exact Option.some.inj hpair ▸ h.closeBraces

theorem Sound.run (h : s.Sound input (text ++ rest)) : (s.run text).Sound input rest := by
  fun_induction Scanner.run s text with
  | case1 s => exact h
  | case2 s c => exact h.step
  | case3 s c d more s' hpair ih => exact ih (h.pair hpair)
  | case4 s c d more hpair ih => exact ih h.step

theorem sound_init (input : List Char) : (init input).Sound input input := by
  refine ⟨⟨[], .empty, [], .empty⟩, rfl, ⟨rfl, rfl, .nil, rfl, rfl, fun _ => rfl⟩, Or.inr ?_⟩
  exact .bare rfl rfl rfl rfl

/-- A text that gives no token: white space with perhaps a caret in it and a quote at the end. -/
def IsRemainder (text : List Char) : Prop :=
  ∃ before after : Blanks, ∃ rooted quoted : Bool,
    text = before.chars ++ (printCaret rooted ++ (after.chars ++ if quoted then ['\''] else []))

/-- What is read so far is taken up by the finished tokens, all but a remainder. -/
theorem Sound.filled (h : s.Sound input rest) :
    ∃ covered remainder, input = covered ++ (remainder ++ rest) ∧ Filled s.finish.done covered ∧
      IsRemainder remainder := by
  obtain ⟨p, hinput, hafter, ⟨hw, ho⟩ | hu⟩ := h
  · have hfinish := hafter.finish ho hw
    refine ⟨_, p.after.chars, ?_, hfinish.filled, p.after, .empty, false, false, ?_⟩
    · have htext : s.input = p.finishing.text ++ rest := hfinish.input
      simpa [Passed.text, Passed.finishing, Blanks.empty] using hinput.symm.trans htext
    · simp [printCaret, Blanks.empty]
  · have htext : s.input = p.text ++ rest := hafter.input
    have hdone : s.finish.done = s.done := by rw [finish_of_isBlank hu.isBlank]
    refine ⟨p.covered, p.gap.chars ++ (p.own ++ p.after.chars), ?_, hdone ▸ hafter.filled, ?_⟩
    · simpa [Passed.text] using hinput.symm.trans htext
    · cases hu with
      | bare _ _ _ ho =>
        exact ⟨p.gap, p.after, s.token.rooted, false, by simp [ho]⟩
      | quoted blanks _ _ _ ho hafter =>
        exact ⟨p.gap, blanks, s.token.rooted, true, by simp [ho, hafter]⟩

end Scanner

namespace Filled

variable {done : List Token} {text : List Char} {t : Token}

theorem length_eq (h : Filled done text) :
    text.length = (done.head?.map Token.stop).getD 0 := by
  cases h with
  | nil => rfl
  | cons gap _ _ _ hstart hstop =>
    simp [hstart, hstop, Nat.add_assoc]

theorem span_of_mem (h : Filled done text) (ht : t ∈ done) :
    t.start < t.stop ∧ t.stop ≤ text.length := by
  induction h with
  | nil => simp at ht
  | @cons done text u gap _ _ hne hstart hstop ih =>
    rcases List.mem_cons.mp ht with rfl | ht
    · have hpos := List.length_pos_iff.mpr hne
      simp only [List.length_append] at hstart ⊢
      omega
    · have := ih ht
      simp only [List.length_append]
      omega

theorem isWritten_of_mem (h : Filled done text) (ht : t ∈ done) : t.IsWritten := by
  induction h with
  | nil => simp at ht
  | cons _ _ hw _ _ _ ih =>
    rcases List.mem_cons.mp ht with rfl | ht
    · exact hw
    · exact ih ht

theorem source_of_mem (h : Filled done text) (ht : t ∈ done) (rest : List Char) :
    t.source = String.ofList (((text ++ rest).drop t.start).take (t.stop - t.start)) := by
  induction h generalizing rest with
  | nil => simp at ht
  | @cons done text u gap _ _ hne hstart hstop ih =>
    rcases List.mem_cons.mp ht with rfl | ht
    · have hdrop : ((text ++ (gap.chars ++ t.source.toList)) ++ rest).drop t.start =
          t.source.toList ++ rest := by
        rw [hstart]
        simp
      rw [hdrop, hstop, Nat.add_sub_cancel_left, List.take_left, String.ofList_toList]
    · rw [List.append_assoc]
      exact ih ht _

theorem pairwise (h : Filled done text) : done.Pairwise fun t u => u.stop ≤ t.start := by
  induction h with
  | nil => exact List.Pairwise.nil
  | @cons done text u gap hdone _ _ hstart _ ih =>
    refine List.Pairwise.cons (fun t ht => ?_) ih
    have := (hdone.span_of_mem ht).2
    simp only [List.length_append] at hstart
    omega

/-- What lies in no span is white space. -/
theorem isBlank_of_outside (h : Filled done text) {i : Nat} {c : Char} (hc : text[i]? = some c)
    (hout : ∀ t ∈ done, ¬ (t.start ≤ i ∧ i < t.stop)) : isBlank c = true := by
  induction h with
  | nil => simp at hc
  | @cons done text u gap _ _ _ hstart hstop ih =>
    have hu := hout u List.mem_cons_self
    have hlength := (List.getElem?_eq_some_iff.mp hc).1
    simp only [List.length_append] at hstart hlength
    rcases Nat.lt_or_ge i text.length with hi | hi
    · rw [List.getElem?_append_left hi] at hc
      exact ih hc fun t ht => hout t (List.mem_cons_of_mem _ ht)
    · rw [List.getElem?_append_right hi, List.getElem?_append_left (by omega)] at hc
      exact gap.blank c (List.mem_of_getElem? hc)

end Filled

/-- Where the last token ends, or the beginning when there is none. -/
def lastStop (tokens : List Token) : Nat := (tokens.getLast?.map Token.stop).getD 0

theorem filled_run {input read : List Char} (h : read <+: input) :
    ∃ covered remainder, read = covered ++ remainder ∧
      Filled ((Scanner.init input).run read).finish.done covered ∧
      Scanner.IsRemainder remainder := by
  obtain ⟨rest, rfl⟩ := h
  obtain ⟨covered, remainder, hread, hfilled, hremainder⟩ :=
    (Scanner.sound_init (read ++ rest)).run.filled
  rw [← List.append_assoc] at hread
  exact ⟨covered, remainder, List.append_cancel_right hread, hfilled, hremainder⟩

/-- Whatever an expression is, its tokens are parts of it in order and apart from each other, and
none is blank. All else is white space, but for a caret and a quote that may stand behind the last
token. What the scanner has cut out at any place lies in what it has read. -/
theorem tokenize_spans (expr : String) :
    (∀ t ∈ tokenize expr, t.start < t.stop ∧ t.stop ≤ expr.length ∧
      t.source = String.ofList ((expr.toList.drop t.start).take (t.stop - t.start)) ∧
      t.isBlank = false) ∧
    (tokenize expr).Pairwise (fun t u => t.stop ≤ u.start) ∧
    (∀ i c, expr.toList[i]? = some c → i < lastStop (tokenize expr) →
      (∀ t ∈ tokenize expr, ¬ (t.start ≤ i ∧ i < t.stop)) → isBlank c = true) ∧
    Scanner.IsRemainder (expr.toList.drop (lastStop (tokenize expr))) ∧
    ∀ read, read <+: expr.toList → ∀ t ∈ ((Scanner.init expr.toList).run read).finish.done,
      t.start < t.stop ∧ t.stop ≤ read.length := by
  obtain ⟨covered, remainder, hexpr, hdone, hremainder⟩ := filled_run expr.toList.prefix_rfl
  have htokens : ((Scanner.init expr.toList).run expr.toList).finish.done =
      (tokenize expr).reverse := by
    rw [tokenize, List.reverse_reverse]
  rw [htokens] at hdone
  have hlast : lastStop (tokenize expr) = covered.length := by
    rw [hdone.length_eq, lastStop, List.head?_reverse]
  refine ⟨fun t ht => ?_, ?_, fun i c hc hi hout => ?_, ?_, fun read hread t ht => ?_⟩
  · have hmem := List.mem_reverse.mpr ht
    obtain ⟨hlt, hle⟩ := hdone.span_of_mem hmem
    have hlength : covered.length ≤ expr.length := by
      rw [← String.length_toList, hexpr, List.length_append]
      omega
    refine ⟨hlt, hle.trans hlength, ?_, (hdone.isWritten_of_mem hmem).isBlank_eq_false⟩
    rw [hexpr]
    exact hdone.source_of_mem hmem remainder
  · exact List.pairwise_reverse.mp hdone.pairwise
  · rw [hlast] at hi
    rw [hexpr, List.getElem?_append_left hi] at hc
    exact hdone.isBlank_of_outside hc fun t ht => hout t (List.mem_reverse.mp ht)
  · rwa [hlast, hexpr, List.drop_left]
  · obtain ⟨covered, remainder, rfl, hfilled, -⟩ := filled_run hread
    obtain ⟨hlt, hle⟩ := hfilled.span_of_mem ht
    rw [List.length_append]
    exact ⟨hlt, by omega⟩

example : (tokenize "a, \x7b\x7bb\x7d\x7d ^ '").map (fun t => (t.start, t.stop)) =
    [(0, 2), (3, 8)] := by cbv

end Reshape
