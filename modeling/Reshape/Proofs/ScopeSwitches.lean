import Reshape.Proofs.Selecting
import Reshape.Proofs.WritingPaths

/-! Scope switches as composition of paths. Each switch starts again from the scope of the whole
expression, so that of several in a row only the last one counts. -/
namespace Reshape

variable {env : Environment} {scope root : Value}

/-- One path behind another one. -/
def dotted (p q : String) : String := p ++ "." ++ q

theorem pathSegments_dotted (p q : String) :
    pathSegments (dotted p q) = pathSegments p ++ pathSegments q := by
  have htext : (dotted p q).toList = p.toList ++ '.' :: q.toList := by simp [dotted]
  rw [pathSegments, htext, List.splitOn_append_cons_self, List.map_append]
  rfl

/-- The second part is looked up in what the first one leads to. -/
theorem Value.atPath_dotted {p q : String} (hp : p ≠ "") (hq : q ≠ "") (v : Value) :
    v.atPath (dotted p q) = (v.atPath p).bind (atPath q) := by
  have hne : dotted p q ≠ "" := by simp [dotted]
  rw [atPath_eq_descend hne, atPath_eq_descend hp, pathSegments_dotted, descend_append]
  congr
  funext w
  exact (atPath_eq_descend hq w).symm

/-- In null stands nothing, like where there is no value. -/
theorem Value.atPath_getD_null {path : String} (h : path ≠ "") (v : Option Value) :
    (v.getD .null).atPath path = v.bind (atPath path) := by
  cases v with
  | none =>
    obtain ⟨segment, rest, hsegments⟩ := List.exists_cons_of_ne_nil (pathSegments_ne_nil path)
    rw [Option.getD_none, atPath_eq_descend h, hsegments]
    rfl
  | some v => rfl

theorem IsPath.dotted {p q : String} (hp : IsPath p) (hq : IsPath q) : IsPath (dotted p q) where
  nonempty := by simp [Reshape.dotted]
  plain := by
    intro c hc
    simp only [Reshape.dotted, String.toList_append, List.mem_append] at hc
    rcases hc with (hc | hc) | hc
    · exact hp.plain c hc
    · obtain rfl : c = '.' := by simpa using hc
      rfl
    · exact hq.plain c hc
  uncareted := by
    have hne : p.toList ≠ [] := by simpa using hp.nonempty
    obtain ⟨c, rest, hchars⟩ := List.exists_cons_of_ne_nil hne
    have hc := hp.uncareted
    simpa [Reshape.dotted, hchars] using hc

theorem IsPath.balanced {path : String} (h : IsPath path) : Balanced path.toList :=
  balancedBy_of_plain fun c hc => ⟨rfl, Scanner.isDelimiter_of_isWordChar (h.plain c hc)⟩

/-- A scope switch without filters. -/
structure Switch where
  rooted : Bool
  inner : List Char
  balanced : Balanced inner

/-- The switch as a phrase. -/
def Switch.phrase (s : Switch) : Phrase := ⟨.scopeSwitch s.rooted s.inner s.balanced, []⟩

/-- Switches right behind each other. -/
def printSwitches (switches : List Switch) : List Char :=
  switches.flatMap fun s => s.phrase.print

/-- The tokens of switches that are written from a place on. -/
def switchTokens (place : Nat) : List Switch → List Token
  | [] => []
  | s :: rest => s.phrase.token place :: switchTokens (place + s.phrase.print.length) rest

namespace Scanner

/-- Between two tokens, switches are read one by one. -/
theorem reads_switches (input : List Char) (done : List Token) (place stop : Nat)
    (switches : List Switch) {rest : List Char}
    (h : input.drop place = printSwitches switches ++ rest) :
    ∃ stop', (idle input done place stop).Reads (printSwitches switches)
      (idle input ((switchTokens place switches).reverse ++ done)
        (place + (printSwitches switches).length) stop') := by
  induction switches generalizing done place stop with
  | nil => exact ⟨stop, Reads.refl _⟩
  | cons s more ih =>
    let f : Frame := ⟨input, done, place⟩
    rw [printSwitches, List.flatMap_cons, List.append_assoc] at h
    have hfirst : (f.fresh stop).Reads s.phrase.print
        (idle input (s.phrase.token place :: done) (place + s.phrase.print.length)
          (place + s.phrase.print.length)) := by
      have hreads := f.reads_scopeSwitch stop s.rooted s.balanced
      have hprint : (Primary.scopeSwitch s.rooted s.inner s.balanced).print = s.phrase.print := by
        simp [Switch.phrase, Phrase.print, printPipes]
      have htoken := f.placed_phrase s.phrase h
      rw [hprint] at hreads
      rw [← htoken]
      exact hreads
    have hdrop : input.drop (place + s.phrase.print.length) = printSwitches more ++ rest := by
      rw [← List.drop_drop, h, List.drop_left]
      rfl
    obtain ⟨stop', hmore⟩ := ih (s.phrase.token place :: done) (place + s.phrase.print.length)
      (place + s.phrase.print.length) hdrop
    refine ⟨stop', ?_⟩
    have hlength : place + (printSwitches (s :: more)).length =
        place + s.phrase.print.length + (printSwitches more).length := by
      simp [printSwitches, Nat.add_assoc]
    have htokens : (switchTokens place (s :: more)).reverse ++ done =
        (switchTokens (place + s.phrase.print.length) more).reverse ++
          s.phrase.token place :: done := by
      simp [switchTokens]
    rw [hlength, htokens]
    exact hfirst.trans hmore

end Scanner

/-- A phrase may follow switches without white space. -/
theorem tokenize_switches (switches : List Switch) (d : Phrase) :
    tokenize (String.ofList (printSwitches switches ++ d.print)) =
      switchTokens 0 switches ++ [d.token (printSwitches switches).length] := by
  let input := printSwitches switches ++ d.print
  have hinput : input.drop 0 = printSwitches switches ++ d.print := rfl
  obtain ⟨stop, hswitches⟩ := Scanner.reads_switches input [] 0 0 switches hinput
  let f : Scanner.Frame :=
    ⟨input, (switchTokens 0 switches).reverse, (printSwitches switches).length⟩
  have hfresh : f.fresh stop =
      Scanner.idle input ((switchTokens 0 switches).reverse ++ [])
        (0 + (printSwitches switches).length) stop := by
    simp [Scanner.Frame.fresh, f]
  obtain ⟨s, hphrase, hs⟩ := f.yields_phrase stop d
  have hdrop : f.input.drop f.start = d.print ++ [] := by simp [f, input]
  have hrun : (Scanner.init input).run input = s := by
    have hread := (hfresh ▸ hswitches).trans hphrase
    have hend := hread []
    rw [List.append_nil] at hend
    exact hend
  rw [tokenize, String.toList_ofList, hrun, hs.finish]
  simp [Scanner.Frame.after, Scanner.idle, f.placed_phrase d hdrop, f]

/-- The scope that a switch asks for, evaluated in the scope of the whole expression or, behind a
caret, in the root. -/
def Switch.target (env : Environment) (scope root : Value) (s : Switch) :
    Except ResolveError (Option Value) :=
  evaluateIn env (String.ofList s.inner) (if s.rooted then root else scope) root

theorem Switch.innerExpression_token (s : Switch) (place : Nat) :
    (s.phrase.token place).innerExpression = String.ofList s.inner := by
  by_cases h : s.inner = [] <;>
    simp [Switch.phrase, Phrase.token, Primary.token, Token.innerExpression, innerTexts, h]

namespace Resolution

/-- A switch moves to its scope, or to null where that is absent, whatever the scope was. -/
theorem resolveToken_switch {s : Switch} {target : Option Value}
    (h : s.target env scope root = .ok target) (place : Nat) (context : Context) (p : Progress) :
    resolveToken env (evaluateIn env) scope root context (s.phrase.token place) p =
      .ok (none, ⟨target.getD .null, p.shape, some (target.getD .null)⟩) := by
  have hkind : (s.phrase.token place).kind = .scopeSwitch := rfl
  have hrooted : (s.phrase.token place).rooted = s.rooted := rfl
  have hfilters : (s.phrase.token place).filters = [] := rfl
  rw [Switch.target] at h
  rw [resolveToken, if_pos hkind, resolveSwitch, s.innerExpression_token, hrooted, hfilters, h]
  rfl

/-- The scope behind switches is that of the last one. -/
def switchedScope (target : Switch → Option Value) (scope : Value) (switches : List Switch) :
    Value :=
  switches.foldl (fun _ s => (target s).getD .null) scope

/-- Behind switches a path is looked up in the scope of the last one, and is the only token with a
value. -/
theorem resolveTokens_switches {switches : List Switch} {target : Switch → Option Value}
    (h : ∀ s ∈ switches, s.target env scope root = .ok (target s)) {t : Token}
    (hk : t.kind = .path) (hr : t.rooted = false) (hs : t.shape = none) (hf : t.filters = [])
    (place : Nat) (p : Progress) :
    ∃ results p', resolveTokens env (evaluateIn env) scope root .value
        (switchTokens place switches ++ [t]) p = .ok (results, p') ∧
      (results.filter fun result => result.1.yieldsValue) =
        [(t, lookup (switchedScope target p.scope switches) .value t.body)] := by
  induction switches generalizing place p with
  | nil =>
    refine ⟨[(t, lookup p.scope .value t.body)], p, ?_, ?_⟩
    · rw [switchTokens, List.nil_append, resolveTokens, resolveToken_path hk hr hs hf]
      rfl
    · simp [Token.yieldsValue_of_path hk, switchedScope]
  | cons s more ih =>
    obtain ⟨hfirst, hmore⟩ := List.forall_mem_cons.mp h
    let next : Progress := ⟨(target s).getD .null, p.shape, some ((target s).getD .null)⟩
    obtain ⟨results, p', hresults, hyields⟩ := ih hmore (place + s.phrase.print.length) next
    refine ⟨(s.phrase.token place, none) :: results, p', ?_, ?_⟩
    · rw [switchTokens, List.cons_append, resolveTokens, resolveToken_switch hfirst]
      show (resolveTokens env (evaluateIn env) scope root .value
        (switchTokens (place + s.phrase.print.length) more ++ [t]) next >>= _) = _
      rw [hresults]
      rfl
    · have hswitch : (s.phrase.token place).yieldsValue = false := rfl
      rw [List.filter_cons_of_neg (by simp [hswitch]), hyields]
      rfl

end Resolution

theorem lookup_value (base : Value) (path : String) :
    Resolution.lookup base .value path = base.atPath path := by
  unfold Resolution.lookup
  cases base.atPath path <;> rfl

/-- A path behind switches leads from the scope of the last one. -/
theorem evaluateIn_switches {switches : List Switch} {target : Switch → Option Value}
    (h : ∀ s ∈ switches, s.target env scope root = .ok (target s)) {path : String}
    (hpath : IsPath path) :
    evaluateIn env (String.ofList (printSwitches switches ++ path.toList)) scope root =
      .ok ((Resolution.switchedScope target scope switches).atPath path) := by
  obtain ⟨n, hn⟩ := hpath.exists_name
  let d : Phrase := ⟨.path false n, []⟩
  have hprint : path.toList = d.print := by
    simp [d, Phrase.print, Primary.print, printPipes, printCaret, hn]
  have hbody (place : Nat) : (d.token place).body = path := by
    simp [d, Phrase.token, Primary.token, hn]
  rw [hprint, evaluateIn, resolve_eq_step, Resolution.step, tokenize_switches]
  obtain ⟨results, p, hresults, hyields⟩ := Resolution.resolveTokens_switches h
    (t := d.token (printSwitches switches).length) rfl rfl rfl rfl 0 ⟨scope, .object, none⟩
  rw [hresults]
  show Except.ok (combine _ p.childScope results) = _
  rw [combine, hyields, hbody, lookup_value]

/-- A path behind a caret leads from the root. -/
theorem evaluateIn_rooted {path : String} (h : IsPath path) (scope root : Value) :
    evaluateIn env ("^" ++ path) scope root = .ok (root.atPath path) := by
  obtain ⟨n, hn⟩ := h.exists_name
  let d : Phrase := ⟨.path true n, []⟩
  have hprint : "^" ++ path = String.ofList d.print := by
    simp [d, Phrase.print, Primary.print, printPipes, printCaret, hn]
  have ht : tokenize ("^" ++ path) = [d.token 0] := hprint ▸ tokenize_print d
  have hbody : (d.token 0).body = path := by
    simp [d, Phrase.token, Primary.token, hn]
  have htoken : Resolution.resolveToken env (evaluateIn env) scope root .value (d.token 0)
      ⟨scope, .object, none⟩ =
      .ok (Resolution.lookup root .value (d.token 0).body, ⟨scope, .object, none⟩) := rfl
  rw [evaluateIn, resolve_of_tokenize ht rfl htoken, hbody, lookup_value]
  rfl

/-- A path behind a switch to another expression. -/
def switched (inner path : String) : String := "[" ++ inner ++ "]" ++ path

theorem balanced_switched {inner path : String} (hinner : Balanced inner.toList)
    (hpath : IsPath path) : Balanced (switched inner path).toList := by
  have henclosed : Balanced _ := .enclosed .brackets hinner hpath.balanced
  simpa [switched, Enclosure.opening, Enclosure.closing] using henclosed

/-- A path behind one switch leads from what the switch gives. -/
theorem evaluateIn_switched {inner path : String} (rooted : Bool) (hinner : Balanced inner.toList)
    (hpath : IsPath path) {target : Option Value}
    (h : evaluateIn env inner (if rooted then root else scope) root = .ok target) :
    evaluateIn env (String.ofList (printCaret rooted) ++ switched inner path) scope root =
      .ok (target.bind (Value.atPath path)) := by
  let s : Switch := ⟨rooted, inner.toList, hinner⟩
  have htarget : ∀ s' ∈ [s], s'.target env scope root = .ok target := by
    simpa [Switch.target, s] using h
  have hprint : String.ofList (printCaret rooted) ++ switched inner path =
      String.ofList (printSwitches [s] ++ path.toList) := by
    simp [← String.toList_inj, switched, printSwitches, Switch.phrase, s, Phrase.print,
      Primary.print, printPipes]
  have hvalue := evaluateIn_switches htarget hpath
  rw [hprint, hvalue, ← Value.atPath_getD_null hpath.nonempty]
  rfl

/-- Two expressions that resolve, and to the same optional value. -/
def SameValue (env : Environment) (scope root : Value) (first second : String) : Prop :=
  ∃ v, evaluateIn env first scope root = .ok v ∧ evaluateIn env second scope root = .ok v

theorem SameValue.evaluateIn_eq {first second : String} {v : Option Value}
    (h : SameValue env scope root first second) (hv : evaluateIn env second scope root = .ok v) :
    evaluateIn env first scope root = .ok v := by
  obtain ⟨w, hfirst, hsecond⟩ := h
  rw [hfirst, ← hsecond, hv]

theorem sameValue_of_atPath {first path : String} (hpath : IsPath path)
    (h : evaluateIn env first scope root = .ok (scope.atPath path)) :
    SameValue env scope root first path :=
  ⟨scope.atPath path, h, evaluateIn_path hpath scope root⟩

/-- Switches within each other lead down one path. -/
theorem evaluateIn_foldl_switched {paths : List String} {first : String} (hfirst : IsPath first)
    (h : ∀ path ∈ paths, IsPath path) (scope root : Value) :
    IsPath (paths.foldl dotted first) ∧ Balanced (paths.foldl switched first).toList ∧
      evaluateIn env (paths.foldl switched first) scope root =
        .ok (scope.atPath (paths.foldl dotted first)) := by
  induction paths using List.reverseRecOn with
  | nil => exact ⟨hfirst, hfirst.balanced, evaluateIn_path hfirst scope root⟩
  | append_singleton paths last ih =>
    obtain ⟨hpath, hbalanced, hvalue⟩ := ih fun path hp => h path (List.mem_append_left _ hp)
    have hlast : IsPath last := h last (by simp)
    rw [List.foldl_concat, List.foldl_concat]
    refine ⟨hpath.dotted hlast, balanced_switched hbalanced hlast, ?_⟩
    have hswitched := evaluateIn_switched false hbalanced hlast hvalue
    rw [Value.atPath_dotted hpath.nonempty hlast.nonempty]
    simpa [printCaret] using hswitched

theorem sameValue_foldl_switched {paths : List String} {first : String} (hfirst : IsPath first)
    (h : ∀ path ∈ paths, IsPath path) (scope root : Value) :
    SameValue env scope root (paths.foldl switched first) (paths.foldl dotted first) :=
  have hall := evaluateIn_foldl_switched hfirst h scope root
  sameValue_of_atPath hall.1 hall.2.2

theorem evaluateIn_rooted_dotted {p q : String} (hp : IsPath p) (hq : IsPath q)
    (scope root : Value) :
    evaluateIn env ("^" ++ dotted p q) scope root =
      .ok ((root.atPath p).bind (Value.atPath q)) := by
  rw [evaluateIn_rooted (hp.dotted hq), Value.atPath_dotted hp.nonempty hq.nonempty]

/-- A caret sends a switch to the root, before its bracket or behind it. -/
theorem sameValue_rooted {p q : String} (hp : IsPath p) (hq : IsPath q) (scope root : Value) :
    SameValue env scope root ("^" ++ switched p q) ("^" ++ dotted p q) ∧
      SameValue env scope root (switched ("^" ++ p) q) ("^" ++ dotted p q) := by
  have hdotted := @evaluateIn_rooted_dotted env _ _ hp hq scope root
  have hbalanced : Balanced ("^" ++ p).toList := by
    have hcaret : Balanced ('^' :: p.toList) := .plain rfl rfl hp.balanced
    simpa using hcaret
  have hbefore := @evaluateIn_switched env scope root _ _ true hp.balanced hq _
    (evaluateIn_path hp root root)
  have hbehind := @evaluateIn_switched env scope root _ _ false hbalanced hq _
    (evaluateIn_rooted hp scope root)
  refine ⟨⟨_, ?_, hdotted⟩, ⟨_, ?_, hdotted⟩⟩
  · simpa [printCaret] using hbefore
  · simpa [printCaret] using hbehind

/-- A switch right behind another one does not see it. -/
theorem sameValue_switched_again {p q r : String} (hp : IsPath p) (hq : IsPath q) (hr : IsPath r)
    (scope root : Value) :
    SameValue env scope root ("[" ++ p ++ "]" ++ switched q r) (dotted q r) := by
  let first : Switch := ⟨false, p.toList, hp.balanced⟩
  let second : Switch := ⟨false, q.toList, hq.balanced⟩
  let target (s : Switch) : Option Value := scope.atPath (String.ofList s.inner)
  have htarget : ∀ s ∈ [first, second], s.target env scope root = .ok (target s) := by
    intro s hs
    rcases List.mem_pair.mp hs with rfl | rfl
    · simpa [Switch.target, first, target] using evaluateIn_path hp scope root
    · simpa [Switch.target, second, target] using evaluateIn_path hq scope root
  have hprint : "[" ++ p ++ "]" ++ switched q r =
      String.ofList (printSwitches [first, second] ++ r.toList) := by
    simp [← String.toList_inj, switched, printSwitches, Switch.phrase, first, second, Phrase.print,
      Primary.print, printPipes, printCaret]
  have hscope : Resolution.switchedScope target scope [first, second] =
      (scope.atPath q).getD .null := by
    simp [Resolution.switchedScope, target, second]
  apply sameValue_of_atPath (hq.dotted hr)
  rw [hprint, evaluateIn_switches htarget hr, hscope, Value.atPath_getD_null hr.nonempty,
    Value.atPath_dotted hq.nonempty hr.nonempty]

/-- A switch to a path is the way to what stands below it: on its own, in the root, and within
another switch. Of two switches in a row the second one starts again from the scope of the whole
expression. -/
theorem evaluateIn_switched_eq_dotted {p q r : String} (hp : IsPath p) (hq : IsPath q)
    (hr : IsPath r) (scope root : Value) :
    SameValue env scope root (switched p q) (dotted p q) ∧
      SameValue env scope root ("^" ++ switched p q) ("^" ++ dotted p q) ∧
      SameValue env scope root (switched ("^" ++ p) q) ("^" ++ dotted p q) ∧
      SameValue env scope root (switched (switched p q) r) (dotted (dotted p q) r) ∧
      SameValue env scope root ("[" ++ p ++ "]" ++ switched q r) (dotted q r) := by
  have honce := @sameValue_foldl_switched env [q] p hp (by simpa using hq) scope root
  have htwice := @sameValue_foldl_switched env [q, r] p hp (by simp [hq, hr]) scope root
  obtain ⟨hbefore, hbehind⟩ := @sameValue_rooted env p q hp hq scope root
  exact ⟨honce, hbefore, hbehind, htwice, sameValue_switched_again hp hq hr scope root⟩

/-- Different values below the element of a list and at the top, under keys without a character. -/
def sampleShelves : Value :=
  .object [("a", .array [.object [("b", .object [("", .object [("", .int 3)])])]]),
    ("b", .object [("", .object [("", .int 4)])])]

/-- In the root the list holds a null. -/
theorem evaluateIn_switched_sampleShelves :
    IsPath "a.0" ∧ IsPath "b" ∧ IsPath "." ∧
      evaluateIn ⟨⟨0, 0⟩, id⟩ "[[a.0]b]." sampleShelves (.object [("a", .array [.null])]) =
        .ok (some (.int 3)) ∧
      evaluateIn ⟨⟨0, 0⟩, id⟩ "[a.0][b]." sampleShelves (.object [("a", .array [.null])]) =
        .ok (some (.int 4)) ∧
      evaluateIn ⟨⟨0, 0⟩, id⟩ "[^a.0]b" sampleShelves (.object [("a", .array [.null])]) =
        .ok none := by
  have hp : IsPath "a.0" := ⟨by simp, List.all_eq_true.mp rfl, by simp⟩
  have hq : IsPath "b" := ⟨by simp, List.all_eq_true.mp rfl, by simp⟩
  have hr : IsPath "." := ⟨by simp, List.all_eq_true.mp rfl, by simp⟩
  obtain ⟨-, -, hbehind, hnested, hagain⟩ := @evaluateIn_switched_eq_dotted ⟨⟨0, 0⟩, id⟩ _ _ _ hp hq
    hr sampleShelves (.object [("a", .array [.null])])
  exact ⟨hp, hq, hr, hnested.evaluateIn_eq (by cbv), hagain.evaluateIn_eq (by cbv),
    hbehind.evaluateIn_eq (by cbv)⟩

end Reshape
