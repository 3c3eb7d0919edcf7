import Reshape.Proofs.Selecting
import Reshape.Proofs.WholeNumbers

/-! Filters that take any number of parameters. Each of them works through its parameters from left
to right, so that a call with several of them is a chain of calls with one. -/
namespace Reshape

open Value

variable {env : Environment} {scope root : Value}

namespace Binary64

/-- The same number, but for the sign of zero. -/
inductive Alike : Binary64 → Binary64 → Prop
  | same (x : Binary64) : Alike x x
  | zeros (negative negative' : Bool) :
      Alike (.finite negative .zero) (.finite negative' .zero)

theorem alike_withoutZeroSign (x : Binary64) : Alike x x.withoutZeroSign := by
  cases x with
  | nan => exact .same _
  | infinite negative => exact .same _
  | finite negative m =>
    by_cases h : m.mantissa = 0
    · obtain rfl := Magnitude.eq_zero_of_mantissa h
      exact .zeros negative false
    · rw [withoutZeroSign_of_ne h]
      exact .same _

/-- As a value, zero has no sign. -/
theorem Alike.ofNumber_eq {x y : Binary64} (h : Alike x y) : ofNumber x = ofNumber y := by
  cases h with
  | same => rfl
  | zeros negative negative' => rw [ofNumber_zero, ofNumber_zero]

variable (negative negative' : Bool) (x : Binary64)

theorem signedSteps_zero : signedSteps negative .zero = 0 := by
  simp [signedSteps, Magnitude.steps_zero]

theorem alike_add_zeros :
    Alike ((finite negative .zero).add x) ((finite negative' .zero).add x) := by
  cases x with
  | nan => exact .same _
  | infinite sign => exact .same _
  | finite sign m =>
    simp only [add, signedSteps_zero, Int.zero_add]
    split
    · exact .zeros _ _
    · exact .same _

theorem alike_mul_zeros :
    Alike ((finite negative .zero).mul x) ((finite negative' .zero).mul x) := by
  cases x with
  | nan => exact .same _
  | infinite sign => exact .same _
  | finite sign m =>
    simp only [mul, Magnitude.steps_zero, Nat.zero_mul, ofRatio_zero]
    exact .zeros _ _

theorem alike_div_zeros :
    Alike ((finite negative .zero).div x) ((finite negative' .zero).div x) := by
  cases x with
  | nan => exact .same _
  | infinite sign => exact .zeros _ _
  | finite sign m =>
    simp only [div, Magnitude.steps_zero, Nat.zero_mul, ofRatio_zero]
    split
    · exact .same _
    · exact .zeros _ _

end Binary64

namespace Operation

open Binary64

variable (op : Operation)

theorem alike_binary_zeros (negative negative' : Bool) (x : Binary64) :
    Alike (op.binary (.finite negative .zero) x) (op.binary (.finite negative' .zero) x) := by
  cases op with
  | add => exact alike_add_zeros negative negative' x
  | subtract => exact alike_add_zeros negative negative' x.neg
  | multiply => exact alike_mul_zeros negative negative' x
  | divide => exact alike_div_zeros negative negative' x

/-- In decimals the sign of a zero on the left never shows. -/
theorem viaDecimal?_zeros (negative negative' : Bool) (x : Binary64) :
    op.viaDecimal? (.finite negative .zero) x = op.viaDecimal? (.finite negative' .zero) x := by
  have hzero (sign : Bool) : (finite sign .zero).toDecimal? =
      some { Decimal.zero with negative := sign } := rfl
  rw [viaDecimal?, viaDecimal?, hzero, hzero]
  cases x.toDecimal? with
  | none => rfl
  | some d =>
    cases op with
    | add => rfl
    | subtract => rfl
    | multiply => rfl
    | divide => simp [decimal?, Decimal.div?, Decimal.zero]

theorem alike_combine {x y : Binary64} (h : Alike x y) (b : Binary64) :
    Alike (op.combine x b) (op.combine y b) := by
  cases h with
  | same => exact .same _
  | zeros negative negative' =>
    rw [combine, combine, viaDecimal?_zeros op negative negative' b]
    split
    · exact .same _
    · exact alike_binary_zeros op negative negative' b

theorem alike_foldl {x y : Binary64} (h : Alike x y) (args : List (Option Value)) :
    Alike (args.foldl (fun acc arg => op.combine acc (operand arg)) x)
      (args.foldl (fun acc arg => op.combine acc (operand arg)) y) := by
  induction args generalizing x y with
  | nil => exact h
  | cons arg rest ih => exact ih (alike_combine op h (operand arg))

/-- An intermediate result may become a value on the way: it loses the sign of zero, and that is
lost in the end anyway. -/
theorem fold_cons (piped arg : Option Value) (args : List (Option Value)) :
    op.fold piped (arg :: args) = op.fold (some (op.fold piped [arg])) args := by
  rw [fold, fold, fold, List.foldl_cons, List.foldl_cons, List.foldl_nil]
  have hoperand (x : Binary64) : Alike x (operand (some (ofNumber x))) := by
    rw [operand, number_ofNumber]
    exact alike_withoutZeroSign x
  exact (alike_foldl op (hoperand _) args).ofNumber_eq

end Operation

/-- What a value adds to a text: nothing when it is absent or null. -/
def shownText (v : Option Value) : String :=
  match v with
  | none => ""
  | some v => if v.isNull then "" else v.text

theorem join_texts_present (values : List (Option Value)) :
    String.join (texts ((values.filterMap id).filter fun v => !v.isNull)) =
      String.join (values.map shownText) := by
  induction values with
  | nil => rfl
  | cons v rest ih =>
    rw [List.map_cons, String.join_cons, ← ih]
    cases v with
    | none => simp [shownText]
    | some v => cases hnull : v.isNull <;> simp [shownText, hnull, texts]

theorem concatTexts_eq_join (piped : Option Value) (args : List (Option Value)) :
    concatTexts piped args = .string (String.join ((piped :: args).map shownText)) :=
  congrArg Value.string (join_texts_present (piped :: args))

theorem concatTexts_cons (piped arg : Option Value) (args : List (Option Value)) :
    concatTexts piped (arg :: args) = concatTexts (some (concatTexts piped [arg])) args := by
  simp [concatTexts_eq_join, shownText, isNull, text, String.append_assoc]

theorem pushItems_cons (piped arg : Option Value) (args : List (Option Value)) :
    pushItems piped (arg :: args) = pushItems (some (pushItems piped [arg])) args := by
  cases arg <;> simp [pushItems, asItems]

namespace Filter

/-- The filters that work through their parameters. -/
def variadic : List Filter :=
  [.add, .subtract, .multiply, .divide, .and, .or, .concat, .toArray, .push]

theorem run_cons {f : Filter} (h : f ∈ variadic) (env : Environment) (scope : Value)
    (piped arg : Option Value) (args : List (Option Value)) :
    f.run env scope (arg :: args) piped = f.run env scope args (f.run env scope [arg] piped) := by
  simp only [variadic, List.mem_cons, List.not_mem_nil, or_false] at h
  rcases h with rfl | rfl | rfl | rfl | rfl | rfl | rfl | rfl | rfl
  · exact congrArg some (Operation.fold_cons .add piped arg args)
  · exact congrArg some (Operation.fold_cons .subtract piped arg args)
  · exact congrArg some (Operation.fold_cons .multiply piped arg args)
  · exact congrArg some (Operation.fold_cons .divide piped arg args)
  · simp [run, isTruthy, Bool.and_assoc]
  · simp [run, truthy, isTruthy, Bool.or_assoc]
  · exact congrArg some (concatTexts_cons piped arg args)
  · exact congrArg some (pushItems_cons piped arg args)
  · exact congrArg some (pushItems_cons piped arg args)

theorem resolveParams_cons (resolver : ParamResolver) (scope root : Value) (param : String)
    (rest : List String) :
    resolveParams resolver scope root (param :: rest) =
      resolver param scope root >>= fun arg =>
        resolveParams resolver scope root rest >>= fun args => .ok (arg :: args) := by
  simp only [resolveParams, List.mapM_cons]
  rfl

end Filter

theorem applyFilter_cons {f : Filter} (h : f ∈ Filter.variadic) (param : String)
    (rest : List String) (piped : Option Value) :
    applyFilter env f.name (param :: rest) scope root piped =
      applyFilter env f.name [param] scope root piped >>=
        applyFilter env f.name rest scope root := by
  have hf : f ≠ .select := by
    rintro rfl
    exact absurd h (by decide)
  rw [applyFilter_eq_run hf, applyFilter_eq_run hf, Filter.resolveParams_cons,
    Filter.resolveParams_cons]
  cases evaluateIn env param scope root with
  | error e => rfl
  | ok arg =>
    show _ = applyFilter env f.name rest scope root (f.run env scope [arg] piped)
    rw [applyFilter_eq_run hf]
    cases Filter.resolveParams (evaluateIn env) scope root rest with
    | error e => rfl
    | ok args => exact congrArg Except.ok (Filter.run_cons h env scope piped arg args)

/-- Applying one of these filters to several parameters is applying it to each of them in turn,
each time to what came out before. The first parameter that cannot be resolved makes both fail in
the same way. -/
theorem applyFilter_eq_chain {f : Filter} (h : f ∈ Filter.variadic) {params : List String}
    (hne : params ≠ []) (scope root : Value) (piped : Option Value) :
    applyFilter env f.name params scope root piped =
      params.foldlM (fun piped param => applyFilter env f.name [param] scope root piped) piped := by
  induction params generalizing piped with
  | nil => exact absurd rfl hne
  | cons param rest ih =>
    rw [List.foldlM_cons]
    cases rest with
    | nil => exact (bind_pure _).symm
    | cons next more =>
      rw [applyFilter_cons h]
      congr 1
      funext value
      exact ih (List.cons_ne_nil next more) value

/-- A quotient that vanishes below zero, and one more division. In the chain the zero has lost its
sign before that. -/
theorem applyFilter_eq_chain_vanishing :
    Filter.divide ∈ Filter.variadic ∧ ["1e200", "1e200", "-5"].map quote ≠ [] ∧
      (["1e200", "1e200", "-5"].map quote).foldlM
          (fun piped param => applyFilter ⟨⟨0, 0⟩, id⟩ "divide" [param] .null .null piped)
          (some (.int (-1))) = .ok (some (.int 0)) := by
  have hmem : Filter.divide ∈ Filter.variadic := by decide
  have hne : ["1e200", "1e200", "-5"].map quote ≠ [] := List.cons_ne_nil _ _
  have hparams := @resolveParams_quote ⟨⟨0, 0⟩, id⟩ ["1e200", "1e200", "-5"] (by decide) .null .null
  have hzero : [some (.string "1e200"), some (.string "1e200"), some (.string "-5")].foldl
      (fun acc arg => Operation.divide.combine acc (Operation.operand arg))
      (Operation.operand (some (.int (-1)))) = .finite false .zero := by decide +kernel
  have hrun : Filter.divide.run ⟨⟨0, 0⟩, id⟩ .null
      [some (.string "1e200"), some (.string "1e200"), some (.string "-5")] (some (.int (-1))) =
      some (.int 0) := by
    rw [Filter.run, Operation.fold, hzero, ofNumber_zero]
  have hcall := applyFilter_of_resolved (f := .divide) (by decide) hparams (some (.int (-1)))
  refine ⟨hmem, hne, ?_⟩
  exact (applyFilter_eq_chain hmem hne .null .null _).symm.trans (hcall.trans (congrArg _ hrun))

end Reshape
