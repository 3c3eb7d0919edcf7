import Reshape.Proofs.KeySuffix
import Reshape.Proofs.LiteralDocument
import Reshape.Proofs.Outcome
import Reshape.Proofs.Reordering

/-! Quoted keys of which none leads through the place of another may stand in any order: the output
is the same but for the order of its own keys. -/
namespace Reshape

/-- Entries under quoted keys. -/
def quotedKeys (entries : Fields) : Fields := entries.map fun entry => (quote entry.1, entry.2)

namespace Template

open Value

variable {env : Environment} {scope root target target' result : Value} {entries entries' : Fields}
  {elements : List Value}

theorem unreserved_quotedKeys (entries : Fields) : Unreserved (quotedKeys entries) := by
  intro entry hentry
  obtain ⟨named, -, rfl⟩ := List.mem_map.mp hentry
  exact ⟨(classify_quote named.1).1, (classify_quote named.1).2.1⟩

/-- What an entry under a quoted key writes, and where. An entry that fails writes nothing. -/
def writeOf (env : Environment) (scope root : Value) (entry : String × Value) :
    String × Option Value :=
  (entry.1, (build env entry.2 scope root .object).toOption.join)

/-- Every template below the keys gives a result, present or absent. -/
def Builds (env : Environment) (scope root : Value) (entries : Fields) : Prop :=
  ∀ entry ∈ entries, ∃ value, build env entry.2 scope root .object = .ok value

theorem fillEntries_quotedKeys_cons {key : String} (hkey : '\'' ∉ key.toList) (template : Value)
    (rest : Fields) (target : Value) :
    fillEntries env (quotedKeys ((key, template) :: rest)) scope root target =
      build env template scope root .object >>= fun value =>
        fillEntries env (quotedKeys rest) scope root (target.assign value key) := by
  rw [quotedKeys, List.map_cons, fillEntries]
  simp only [(classify_quote key).2.2, TemplateKey.expression?, resolve_quote hkey]
  rfl

/-- What is built for an entry does not depend on the entries before it, so that a filling is a run
of writes. -/
theorem fillEntries_quotedKeys (hquote : ∀ entry ∈ entries, '\'' ∉ entry.1.toList)
    (target : Value) :
    fillEntries env (quotedKeys entries) scope root target = .ok result ↔
      Builds env scope root entries ∧
        assignAll (entries.map (writeOf env scope root)) target = result := by
  induction entries generalizing target with
  | nil => simp [quotedKeys, fillEntries, Builds, assignAll]
  | cons entry rest ih =>
    obtain ⟨key, template⟩ := entry
    have hrest := ih fun entry he => hquote entry (List.mem_cons_of_mem _ he)
    rw [fillEntries_quotedKeys_cons (hquote _ List.mem_cons_self), Builds, List.forall_mem_cons,
      List.map_cons, bind_eq_ok]
    constructor
    · rintro ⟨value, hvalue, hfill⟩
      obtain ⟨hbuilds, hresult⟩ := (hrest _).mp hfill
      refine ⟨⟨⟨value, hvalue⟩, hbuilds⟩, ?_⟩
      rw [writeOf, hvalue]
      exact hresult
    · rintro ⟨⟨⟨value, hvalue⟩, hbuilds⟩, hresult⟩
      refine ⟨value, hvalue, (hrest _).mpr ⟨hbuilds, ?_⟩⟩
      rw [writeOf, hvalue] at hresult
      exact hresult

section

variable (hquote : ∀ entry ∈ entries, '\'' ∉ entry.1.toList)
  (hpaths : entries.Pairwise fun a b => IndependentPaths a.1 b.1) (hperm : entries.Perm entries')

include hquote hpaths hperm

theorem fillEntries_perm (h : Reordered target target')
    (hfill : fillEntries env (quotedKeys entries) scope root target = .ok result) :
    ∃ result', fillEntries env (quotedKeys entries') scope root target' = .ok result' ∧
      Reordered result result' := by
  have hquote' : ∀ entry ∈ entries', '\'' ∉ entry.1.toList :=
    fun entry he => hquote entry (hperm.mem_iff.mpr he)
  obtain ⟨hbuilds, rfl⟩ := (fillEntries_quotedKeys hquote target).mp hfill
  have hbuilds' : Builds env scope root entries' :=
    fun entry he => hbuilds entry (hperm.mem_iff.mpr he)
  have hwrites : (entries.map (writeOf env scope root)).Pairwise
      fun a b => IndependentPaths a.1 b.1 := List.pairwise_map.mpr hpaths
  exact ⟨_, (fillEntries_quotedKeys hquote' target').mpr ⟨hbuilds', rfl⟩,
    (assignAll_reordered _ h).trans (assignAll_perm (hperm.map _) hwrites target')⟩

/-- The elements of the scope are taken in one order, and each is filled in for all keys. -/
theorem fillEach_perm (harray : target.isArray = false) (h : Reordered target target')
    (hfill : fillEach (fillEntries env (quotedKeys entries)) root elements target = .ok result) :
    ∃ result', fillEach (fillEntries env (quotedKeys entries')) root elements target' =
        .ok result' ∧ Reordered result result' := by
  induction elements generalizing target target' with
  | nil =>
    cases hfill
    exact ⟨target', rfl, h⟩
  | cons element rest ih =>
    have harray' : target'.isArray = false := h.isArray_eq ▸ harray
    rw [fillEach, fillInto_of_not_isArray harray] at hfill
    obtain ⟨next, hnext, hrest⟩ := bind_eq_ok.mp hfill
    obtain ⟨next', hnext', hreordered⟩ := fillEntries_perm hquote hpaths hperm h hnext
    have hnextArray : next.isArray = false := by
      obtain ⟨-, rfl⟩ := (fillEntries_quotedKeys hquote target).mp hnext
      rw [isArray_assignAll, harray]
    obtain ⟨result', hresult', hend⟩ := ih hnextArray hreordered hrest
    refine ⟨result', ?_, hend⟩
    rw [fillEach, fillInto_of_not_isArray harray', hnext']
    exact hresult'

end

theorem transform_quotedKeys (scope : Value) (entries : Fields) :
    transform env scope (.object (quotedKeys entries)) =
      fillEach (fillEntries env (quotedKeys entries)) scope (elementsOf scope) (.object []) := by
  rw [transform, build_of_unreserved (unreserved_quotedKeys entries)]
  show Except.map _ (Except.map some (fillEach (fillEntries env (quotedKeys entries)) scope
    (elementsOf scope) (.object []))) = _
  cases fillEach (fillEntries env (quotedKeys entries)) scope (elementsOf scope) (.object [])
  · rfl
  · rfl

end Template

variable {env : Environment} {scope output : Value} {entries entries' : Fields}

/-- The order of quoted keys whose paths are independent decides about nothing but the order of keys
in the output. This holds for a single value and for the elements of an array, which write to the
same places one after the other. -/
theorem transform_quotedKeys_perm (hquote : ∀ entry ∈ entries, '\'' ∉ entry.1.toList)
    (hpaths : entries.Pairwise fun a b => IndependentPaths a.1 b.1) (hperm : entries.Perm entries')
    (h : transform env scope (.object (quotedKeys entries)) = .ok output) :
    ∃ output', transform env scope (.object (quotedKeys entries')) = .ok output' ∧
      Reordered output output' := by
  rw [Template.transform_quotedKeys] at h ⊢
  exact Template.fillEach_perm hquote hpaths hperm rfl (.refl _) h

/-- Three keys, two of them below one level, for the elements of an array. -/
def sampleKeys : Fields :=
  [("a.b", .array [.string "id"]), ("c", .string "id"), ("a.d", .object [("'e'", .string "id")])]

theorem transform_quotedKeys_reverse :
    ∃ output', transform ⟨⟨0, 0⟩, id⟩ (.array [.object [("id", .int 1)], .object [("id", .int 2)]])
        (.object (quotedKeys sampleKeys.reverse)) = .ok output' ∧
      Reordered (.object [("a", .object [("b", .array [.int 1, .int 2]),
        ("d", .object [("e", .int 2)])]), ("c", .int 2)]) output' := by
  have hpaths : sampleKeys.Pairwise fun a b => IndependentPaths a.1 b.1 := by
    have hsegments : pathSegments "a.b" = ["a", "b"] ∧ pathSegments "c" = ["c"] ∧
        pathSegments "a.d" = ["a", "d"] := by decide
    simp [sampleKeys, IndependentPaths, hsegments]
  exact transform_quotedKeys_perm (by decide) hpaths (List.reverse_perm _).symm (by cbv)

end Reshape
