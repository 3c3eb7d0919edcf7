import Reshape.Proofs.Comparing
import Reshape.Proofs.Selecting

/-! Reducing an array to one of its elements. The one that is chosen has the largest or the smallest
measure, and of several such elements it is the first. -/
namespace Reshape

open Value

namespace Value

variable {a b c : Value} {values part : List Value}

/-- All of the values count as numbers, or none does. -/
def Comparable (values : List Value) : Prop :=
  (∀ v ∈ values, v.isNumeric = true) ∨ ∀ v ∈ values, v.isNumeric = false

theorem Comparable.subset (h : Comparable values) (hs : ∀ v ∈ part, v ∈ values) :
    Comparable part :=
  h.imp (fun h v hv => h v (hs v hv)) fun h v hv => h v (hs v hv)

theorem Comparable.lt_or_lt (h : Comparable values) (ha : a ∈ values) (hb : b ∈ values)
    (hc : c ∈ values) (hab : comparePresent a b = .lt) :
    comparePresent a c = .lt ∨ comparePresent c b = .lt := by
  rcases h with hnumbers | htexts
  · exact comparePresent_lt_or_lt_of_numeric (hnumbers a ha) (hnumbers b hb) (hnumbers c hc) hab
  · exact comparePresent_lt_or_lt_of_text (htexts a ha) (htexts c hc) hab

end Value

/-- How a measure compares to one that the mode prefers to it. -/
inductive Extreme.IsWorseOutcome : Extreme → Ordering → Prop
  | largest : IsWorseOutcome .largest .lt
  | smallest : IsWorseOutcome .smallest .gt

namespace Extreme.IsWorseOutcome

variable {mode : Extreme} {worse : Ordering} {a b c : Value} {values : List Value}

/-- A third measure is better than the worse one of two, or worse than the better one. -/
theorem between (h : mode.IsWorseOutcome worse) (hvalues : Comparable values) (ha : a ∈ values)
    (hb : b ∈ values) (hc : c ∈ values) (hab : comparePresent a b = worse) :
    comparePresent a c = worse ∨ comparePresent c b = worse := by
  cases h with
  | largest => exact hvalues.lt_or_lt ha hb hc hab
  | smallest =>
    have hlt (x y : Value) : comparePresent x y = .gt ↔ comparePresent y x = .lt := by
      rw [comparePresent_swap y x]
      cases comparePresent y x <;> simp
    rw [hlt] at hab
    rw [hlt, hlt]
    exact (hvalues.lt_or_lt hb ha hc hab).symm

end Extreme.IsWorseOutcome

section

variable {mode : Extreme} {worse : Ordering} {measure : Value → Option Value}
  {seen items : List Value} {item : Value} {best : Option (Value × Value)}

end

/-- What a reduction is asked for: the path to the measure of an element, none when an element is
its own measure, and which measure is wanted. -/
structure Reduction where
  path : Option String
  extreme : Extreme

namespace Reduction

def measure (r : Reduction) : Value → Option Value :=
  match r.path with
  | some path => atPath path
  | none => some

end Reduction

variable {env : Environment} {scope root : Value} {params : List String}
  {args : List (Option Value)} {worse : Ordering} {items : List Value} {r : Reduction}

end Reshape
