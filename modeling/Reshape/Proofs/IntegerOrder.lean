import Reshape.Proofs.RoundingOrder
import Reshape.Proofs.Selecting

/-! Comparing integers. They are compared as binary numbers. These stand in the order of the
integers, but two neighbours of more than 53 bits may be the same number. -/
namespace Reshape

open Value

variable {env : Environment} {scope root : Value} {a b : Int64}

/-- As numbers, two integers are equal only if they are the same one. -/
def KeptApart (a b : Int64) : Prop :=
  (Value.int a).number.numEq (Value.int b).number = true → a = b

theorem Binary64.key?_number_int (a : Int64) :
    (Value.int a).number.key? = some (0, nearestSteps a.toInt) := by
  have hlow := a.le_toInt
  have hhigh := a.toInt_lt
  exact key?_ofInt (by omega)

theorem Binary64.compare?_number_int (a b : Int64) :
    (Value.int a).number.compare? (Value.int b).number =
      some (compare (nearestSteps a.toInt) (nearestSteps b.toInt)) := by
  rw [compare?, key?_number_int, key?_number_int]
  rfl

theorem Binary64.numEq_number_int_iff (a b : Int64) :
    (Value.int a).number.numEq (Value.int b).number = true ↔
      nearestSteps a.toInt = nearestSteps b.toInt := by
  rw [numEq, compare?_number_int]
  simp

/-- Numbers that are kept apart stand like their integers. -/
theorem KeptApart.compare?_eq (h : KeptApart a b) :
    (Value.int a).number.compare? (Value.int b).number = some (compare a.toInt b.toInt) := by
  have hne (hne : a.toInt ≠ b.toInt) :
      Binary64.nearestSteps a.toInt ≠ Binary64.nearestSteps b.toInt := by
    intro heq
    exact hne (congrArg Int64.toInt (h ((Binary64.numEq_number_int_iff a b).mpr heq)))
  rw [Binary64.compare?_number_int]
  congr 1
  rcases Int.lt_trichotomy a.toInt b.toInt with hlt | heq | hgt
  · have hle := Binary64.nearestSteps_mono (Int.le_of_lt hlt)
    have hdistinct := hne (by omega)
    rw [Int.compare_eq_lt.mpr hlt, Int.compare_eq_lt.mpr (by omega)]
  · rw [heq]
    simp
  · have hle := Binary64.nearestSteps_mono (Int.le_of_lt hgt)
    have hdistinct := hne (by omega)
    rw [Int.compare_eq_gt.mpr hgt, Int.compare_eq_gt.mpr (by omega)]

/-- The relation between integers that an operator asks for. -/
def relates (operator : String) (a b : Int) : Bool :=
  match operator with
  | "!=" => a ≠ b
  | ">" => b < a
  | ">=" => b ≤ a
  | "<" => a < b
  | "<=" => a ≤ b
  | _ => a = b

/-- The operators of a selection by a key. -/
def operators : List String := "!=" :: comparisons.map Prod.fst

theorem KeptApart.compareBy_eq (h : KeptApart a b) (operator : String) :
    Filter.compareBy operator (.int a) (some (.int b)) = relates operator a.toInt b.toInt := by
  have horder : compare? (some (.int a)) (some (.int b)) = some (compare a.toInt b.toInt) := by
    rw [compare?, comparePresent, h.compare?_eq]
  have hequal : looseEq (some (.int a)) (some (.int b)) = decide (a.toInt = b.toInt) := by
    show (Value.int a).number.numEq (Value.int b).number = _
    rw [Binary64.numEq, h.compare?_eq, Bool.eq_iff_iff]
    simp
  unfold Filter.compareBy relates
  simp only [horder, hequal]
  split <;> rw [Bool.eq_iff_iff] <;>
    simp [Int.isGE_compare, Int.isLE_compare, Int.compare_eq_gt, Int.compare_eq_lt]

theorem run_comparison {operator : String} {f : Filter} (h : (operator, f) ∈ comparisons)
    (scope actual expected : Value) :
    f.run env scope [some expected] (some actual) =
      some (.bool (Filter.compareBy operator actual (some expected))) := by
  simp only [comparisons, List.mem_cons, Prod.mk.injEq, List.not_mem_nil, or_false] at h
  rcases h with ⟨rfl, rfl⟩ | ⟨rfl, rfl⟩ | ⟨rfl, rfl⟩ | ⟨rfl, rfl⟩ | ⟨rfl, rfl⟩ <;> rfl

theorem applyFilter_comparison {operator : String} {f : Filter} (h : (operator, f) ∈ comparisons)
    {param : String} {expected : Value}
    (hparam : evaluateIn env param scope root = .ok (some expected)) (actual : Value) :
    applyFilter env f.name [param] scope root (some actual) =
      .ok (some (.bool (Filter.compareBy operator actual (some expected)))) := by
  rw [applyFilter_of_evaluateIn (plain_of_mem_comparisons h).2 hparam, run_comparison h]

/-- A quoted key, an operator and a value select by what stands at the key. -/
theorem applyFilter_select_byValue {key operator opParam param : String} {expected : Value}
    (hkey : '\'' ∉ key.toList)
    (hoperator : evaluateIn env opParam scope root = .ok (some (.string operator)))
    (hparam : evaluateIn env param scope root = .ok (some expected)) (items : List Value) :
    applyFilter env "filter" [quote key, opParam, param] scope root (some (.array items)) =
      .ok (some (.array (items.filter fun item =>
        (item.atPath key).any fun v => Filter.compareBy operator v (some expected)))) := by
  have hquoted : evaluateIn env (quote key) scope root = .ok (some (.string key)) := by
    rw [evaluateIn, resolve_quote hkey]
    rfl
  have hparams : Filter.resolveParams (evaluateIn env) scope root [quote key, opParam, param] =
      .ok [some (.string key), some (.string operator), some expected] :=
    Filter.resolveParams_of_forall₂ (.cons hquoted (.cons hoperator (.cons hparam .nil)))
  have hnames : Filter.namesKey [quote key, opParam, param] = true := by
    simp [Filter.namesKey, quote]
  rw [applyFilter_select, Filter.keepItems, if_pos hnames, hparams]
  rfl

/-- Whatever compares the two integers gives what holds between them: the filters for comparison,
and the selection of an element by the integer that it has at a key. -/
structure FollowsIntegers (env : Environment) (a b : Int64) : Prop where
  filters : ∀ (operator : String) (f : Filter), (operator, f) ∈ comparisons →
    ∀ (param : String) (scope root : Value),
      evaluateIn env param scope root = .ok (some (.int b)) →
      applyFilter env f.name [param] scope root (some (.int a)) =
        .ok (some (.bool (relates operator a.toInt b.toInt)))
  selection : ∀ operator ∈ operators, ∀ (key opParam param : String) (scope root : Value),
    '\'' ∉ key.toList → evaluateIn env opParam scope root = .ok (some (.string operator)) →
    evaluateIn env param scope root = .ok (some (.int b)) →
    ∀ (items : List Value), ∀ item ∈ items, item.atPath key = some (.int a) →
      ∃ kept, applyFilter env "filter" [quote key, opParam, param] scope root
          (some (.array items)) = .ok (some (.array kept)) ∧
        (item ∈ kept ↔ relates operator a.toInt b.toInt = true)

/-- A comparison by equality tells whether the numbers are equal. -/
theorem FollowsIntegers.keptApart (h : FollowsIntegers env a b) : KeptApart a b := by
  intro hequal
  have hmem : ("=", Filter.equal) ∈ comparisons := by decide
  have hparam := @evaluateIn_singleKey env .null (.int b)
  have hfollows := h.filters "=" .equal hmem "n" _ .null hparam
  have hcompared := applyFilter_comparison hmem hparam (.int a)
  have htrue : Filter.compareBy "=" (.int a) (some (.int b)) = true := hequal
  rw [hcompared, htrue] at hfollows
  have hrelated : true = relates "=" a.toInt b.toInt := by simpa using hfollows
  have hsame : a.toInt = b.toInt := by simpa [relates] using hrelated
  exact Int64.toInt_inj.mp hsame

theorem KeptApart.followsIntegers (h : KeptApart a b) : FollowsIntegers env a b where
  filters := by
    intro operator f hmem param scope root hparam
    rw [applyFilter_comparison hmem hparam, h.compareBy_eq]
  selection := by
    intro operator _ key opParam param scope root hkey hoperator hparam items item hitem hplace
    refine ⟨_, applyFilter_select_byValue hkey hoperator hparam items, ?_⟩
    rw [List.mem_filter, hplace, Option.any_some, h.compareBy_eq]
    exact and_iff_right hitem

/-- Comparing two integers follows the integers exactly when they are not different integers that
are the same number. -/
theorem followsIntegers_iff_keptApart : FollowsIntegers env a b ↔ KeptApart a b :=
  ⟨FollowsIntegers.keptApart, KeptApart.followsIntegers⟩

/-- Neighbours of 54 bits. The odd one lies halfway between two numbers. -/
theorem not_followsIntegers_neighbours :
    ¬ FollowsIntegers ⟨⟨0, 0⟩, id⟩ 9007199254740993 9007199254740992 := by
  intro h
  have hsame := h.keptApart (by decide +kernel)
  exact absurd hsame (by decide)

end Reshape
