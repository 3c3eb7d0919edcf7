/-! Results that may be an error: when a sequence of them succeeds, with what, and how it fails. -/
namespace Reshape

variable {ε α β : Type} {x y : Except ε α} {f g : α → Except ε β}

theorem bind_eq_ok {b : β} : x >>= f = .ok b ↔ ∃ a, x = .ok a ∧ f a = .ok b := by
  cases x <;> simp [bind, Except.bind]

/-- A relation between results that sees how they fail and not which values they have. -/
structure FailureRelation (ε : Type) where
  Holds : {α : Type} → Except ε α → Except ε α → Prop
  ok : {α : Type} → (a b : α) → Holds (.ok a) (.ok b)
  bind : {α β : Type} → {x y : Except ε α} → {f g : α → Except ε β} →
    Holds x y → (∀ a b, Holds (f a) (g b)) → Holds (x >>= f) (y >>= g)

theorem FailureRelation.map (R : FailureRelation ε) (h : R.Holds x y) (f : α → β) :
    R.Holds (x.map f) (y.map f) :=
  R.bind h fun a b => R.ok (f a) (f b)

/-- Two results are both there, or both are the same error. -/
inductive FailAlike : Except ε α → Except ε α → Prop
  | ok (a b : α) : FailAlike (.ok a) (.ok b)
  | error (e : ε) : FailAlike (.error e) (.error e)

namespace FailAlike

theorem bind (h : FailAlike x y) (hf : ∀ a b, FailAlike (f a) (g b)) :
    FailAlike (x >>= f) (y >>= g) := by
  cases h with
  | ok a b => exact hf a b
  | error e => exact .error e

theorem exists_ok_iff (h : FailAlike x y) : (∃ a, x = .ok a) ↔ ∃ b, y = .ok b := by
  cases h <;> simp

theorem eq_error_iff (h : FailAlike x y) (e : ε) : x = .error e ↔ y = .error e := by
  cases h <;> simp

end FailAlike

def FailureRelation.alike (ε : Type) : FailureRelation ε := ⟨FailAlike, .ok, .bind⟩

/-- Only errors of some kind come out. -/
def FailsOnlyWith (P : ε → Prop) (x : Except ε α) : Prop := ∀ e, x = .error e → P e

namespace FailsOnlyWith

variable {P : ε → Prop}

theorem ok (a : α) : FailsOnlyWith P (.ok a) := by
  intro e he
  cases he

theorem error {e : ε} (h : P e) : FailsOnlyWith P (.error e : Except ε α) := by
  intro e' he
  cases he
  exact h

theorem bind (h : FailsOnlyWith P x) (hf : ∀ a, FailsOnlyWith P (f a)) :
    FailsOnlyWith P (x >>= f) := by
  cases x with
  | error e => exact error (h e rfl)
  | ok a => exact hf a

theorem map (h : FailsOnlyWith P x) (f : α → β) : FailsOnlyWith P (x.map f) :=
  h.bind fun a => ok (f a)

end FailsOnlyWith

/-- Only values with some property come out. -/
def GivesOnly (Q : α → Prop) (x : Except ε α) : Prop := ∀ a, x = .ok a → Q a

namespace GivesOnly

variable {Q : α → Prop} {T : β → Prop}

theorem ok {a : α} (h : Q a) : GivesOnly Q (.ok a : Except ε α) := by
  intro a' ha
  cases ha
  exact h

theorem bind (h : GivesOnly Q x) (hf : ∀ a, Q a → GivesOnly T (f a)) : GivesOnly T (x >>= f) := by
  intro b hb
  obtain ⟨a, ha, hfa⟩ := bind_eq_ok.mp hb
  exact hf a (h a ha) b hfa

/-- Whatever the value is that goes on. -/
theorem bind_any (hf : ∀ a, GivesOnly T (f a)) : GivesOnly T (x >>= f) := by
  intro b hb
  obtain ⟨a, -, hfa⟩ := bind_eq_ok.mp hb
  exact hf a b hfa

end GivesOnly

/-- Both results have errors of some kind only. -/
def FailureRelation.onlyWith (P : ε → Prop) : FailureRelation ε where
  Holds x y := FailsOnlyWith P x ∧ FailsOnlyWith P y
  ok a b := ⟨.ok a, .ok b⟩
  bind h hf := ⟨h.1.bind fun a => (hf a a).1, h.2.bind fun b => (hf b b).2⟩

end Reshape
