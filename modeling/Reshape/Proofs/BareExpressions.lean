import Reshape.Command.Apply
import Reshape.Proofs.JsonRoundTrip

/-! A template that is a single expression, given as it is or as a JSON string. -/
namespace Reshape

/-- The JSON text of a string is read as the string. -/
theorem Json.parse?_toJson_string (s : String) :
    parse? (Value.string s).toJson.toList = some (.string s) := by
  have hu : (Value.string s).HasUniqueKeys := by simp [Value.HasUniqueKeys]
  have hf : (Value.string s).FloatFree := by simp [Value.FloatFree]
  have hn : (Value.string s).nesting ≤ maxDepth := Nat.zero_le _
  have hprint := parse?_print Layout.isBlank_compact hu hf hn
  rwa [Value.toJson, String.toList_ofList]

namespace Command

variable {files : Files} {e : String}

theorem loadSource_of_head (files : Files) (h : e.toList.head? ≠ some '@') :
    loadSource files e = .ok e := by
  unfold loadSource
  split
  · rename_i path hpath
    exact (h (by simp [hpath])).elim
  · rfl

/-- What begins with no at sign is the template itself. -/
theorem readTemplate_of_head (files : Files) (h : e.toList.head? ≠ some '@') :
    (loadSource files e >>= parseTemplate) = parseTemplate e := by
  rw [loadSource_of_head files h]
  rfl

theorem head_toJson_string (s : String) : (Value.string s).toJson.toList.head? = some '"' := by
  rw [Value.toJson, String.toList_ofList]
  rfl

theorem parseTemplate_toJson_string (s : String) :
    parseTemplate (Value.string s).toJson = .ok (.string s) := by
  simp only [parseTemplate, Json.parse?_toJson_string]

/-- What is no JSON and does not begin like it is an expression, less the white space around it. -/
theorem parseTemplate_of_bare (hjson : Json.parse? e.toList = none)
    (hhead : ∀ c ∈ (trimStart e.toList).head?, c ∉ ['{', '[', '"']) :
    parseTemplate e = .ok (.ofText (trim e.toList)) := by
  have hplain : looksLikeJson e.toList = false := by
    unfold looksLikeJson
    split
    · rename_i c rest htext
      have hc : c ∉ ['{', '[', '"'] := hhead c (by simp [htext])
      simpa [and_assoc] using hc
    · rfl
  simp [parseTemplate, hjson, hplain]

/-- What a command does with the template that it has read. -/
def applyTemplate (files : Files) (current : Instant) (input : Option String) (pretty : Bool)
    (now : Option String) (template : Value) : Except CommandError String := do
  let input ← match input with
    | some input => .ok input
    | none => .error .noInput
  let scope ← parseInput (← loadSource files input)
  let now ← parseNow current now
  let output ← (transform (.at now) scope template).mapError .transform
  .ok (if pretty then output.toPrettyJson else output.toJson)

theorem apply_eq_applyTemplate (files : Files) (current : Instant) (template : String)
    (input : Option String) (pretty : Bool) (now : Option String) :
    apply files current ⟨template, input, pretty, now⟩ =
      (loadSource files template >>= parseTemplate) >>=
        applyTemplate files current input pretty now := by
  rw [bind_assoc]
  rfl

/-- A text that names no file, is no JSON and does not begin like it does as a template what the
JSON string of the text without the white space around it does, be it an output or an error. -/
theorem apply_bareExpression (files : Files) (current : Instant)
    (hfile : e.toList.head? ≠ some '@') (hjson : Json.parse? e.toList = none)
    (hhead : ∀ c ∈ (trimStart e.toList).head?, c ∉ ['{', '[', '"'])
    (input : Option String) (pretty : Bool) (now : Option String) :
    apply files current ⟨e, input, pretty, now⟩ =
      apply files current ⟨(Value.ofText (trim e.toList)).toJson, input, pretty, now⟩ := by
  have hquoted : (Value.ofText (trim e.toList)).toJson.toList.head? ≠ some '@' := by
    rw [Value.ofText, head_toJson_string]
    decide
  have hbare : (loadSource files e >>= parseTemplate) = .ok (.ofText (trim e.toList)) := by
    rw [readTemplate_of_head files hfile, parseTemplate_of_bare hjson hhead]
  have hstring : (loadSource files (Value.ofText (trim e.toList)).toJson >>= parseTemplate) =
      .ok (.ofText (trim e.toList)) := by
    rw [readTemplate_of_head files hquoted, Value.ofText, parseTemplate_toJson_string]
  rw [apply_eq_applyTemplate, apply_eq_applyTemplate, hbare, hstring]

/-- White space of both kinds around an expression with characters that are escaped in JSON. -/
def sampleBare : String := "\u00a0'\"\\\n' | count "

theorem apply_bareExpression_sampleBare :
    sampleBare.toList.head? ≠ some '@' ∧ Json.parse? sampleBare.toList = none ∧
      (∀ c ∈ (trimStart sampleBare.toList).head?, c ∉ ['{', '[', '"']) ∧
      apply (fun _ => none) ⟨0, 0⟩ ⟨sampleBare, some "[]", true, none⟩ =
        apply (fun _ => none) ⟨0, 0⟩ ⟨"\"'\\\"\\\\\\n' | count\"", some "[]", true, none⟩ := by
  have hfile : sampleBare.toList.head? ≠ some '@' := by decide
  have hjson : Json.parse? sampleBare.toList = none := by cbv
  have hstart : (trimStart sampleBare.toList).head? = some '\'' := by cbv
  have hhead : ∀ c ∈ (trimStart sampleBare.toList).head?, c ∉ ['{', '[', '"'] := by
    rw [hstart]
    rintro c ⟨⟩
    decide
  have htext : (Value.ofText (trim sampleBare.toList)).toJson = "\"'\\\"\\\\\\n' | count\"" := by
    cbv
  have happly :=
    apply_bareExpression (fun _ => none) ⟨0, 0⟩ hfile hjson hhead (some "[]") true none
  rw [htext] at happly
  exact ⟨hfile, hjson, hhead, happly⟩

end Command

end Reshape
