import Reshape.Proofs.Outcome
import Reshape.Proofs.Selecting

/-! Selecting by several predicates. Selecting by all of them at once is selecting by one after the
other, the parts of an array are selected on their own, and what is selected stays selected. -/
namespace Reshape

open Value

variable {env : Environment} {scope root : Value}

namespace Filter

variable {resolver : ParamResolver} {param : String} {params rest : List String} {item : Value}
  {items kept xs ys : List Value}

/-- The predicates come to a verdict on an element. -/
def Decides (resolver : ParamResolver) (root : Value) (params : List String) (item : Value) :
    Prop :=
  ∃ verdict, passes resolver root params item = .ok verdict

/-- The predicates come to the verdict that an element passes. -/
def accepts (resolver : ParamResolver) (root : Value) (params : List String) (item : Value) :
    Bool :=
  match passes resolver root params item with
  | .ok verdict => verdict
  | .error _ => false

theorem passes_eq_accepts (h : Decides resolver root params item) :
    passes resolver root params item = .ok (accepts resolver root params item) := by
  obtain ⟨verdict, hverdict⟩ := h
  rw [accepts, hverdict]

theorem passes_cons (resolver : ParamResolver) (root : Value) (param : String) (rest : List String)
    (item : Value) :
    passes resolver root (param :: rest) item =
      passes resolver root [param] item >>= fun verdict =>
        if verdict then passes resolver root rest item else .ok false := by
  rw [passes, passes]
  cases resolver param item root with
  | error e => rfl
  | ok value =>
    show (if truthy value = true then _ else _) =
      (if truthy value = true then passes resolver root [] item else .ok false) >>= _
    cases truthy value <;> rfl

/-- The predicates behind the first one are asked about the elements that pass it, and about no
others. -/
theorem decides_cons_iff : Decides resolver root (param :: rest) item ↔
    Decides resolver root [param] item ∧
      (accepts resolver root [param] item = true → Decides resolver root rest item) := by
  unfold Decides accepts
  rw [passes_cons]
  cases hfirst : passes resolver root [param] item with
  | error e => simp [bind, Except.bind]
  | ok verdict => cases verdict <;> simp [bind, Except.bind]

theorem accepts_cons (resolver : ParamResolver) (root : Value) (param : String)
    (rest : List String) (item : Value) :
    accepts resolver root (param :: rest) item =
      (accepts resolver root rest item && accepts resolver root [param] item) := by
  unfold accepts
  rw [passes_cons]
  cases passes resolver root [param] item with
  | error e => simp [bind, Except.bind]
  | ok verdict => cases verdict <;> simp [bind, Except.bind]

/-- Selecting gives a result when there is a verdict on each element, and then the elements that
pass. -/
theorem selectItems_eq_ok_iff : selectItems resolver root params items = .ok kept ↔
    (∀ item ∈ items, Decides resolver root params item) ∧
      items.filter (accepts resolver root params) = kept := by
  constructor
  · intro h
    have hall : ∀ item ∈ items, Decides resolver root params item := by
      induction items generalizing kept with
      | nil => simp
      | cons item rest ih =>
        rw [selectItems] at h
        obtain ⟨verdict, hverdict, h⟩ := bind_eq_ok.mp h
        obtain ⟨others, hothers, -⟩ := bind_eq_ok.mp h
        exact List.forall_mem_cons.mpr ⟨⟨verdict, hverdict⟩, ih hothers⟩
    have hselect := selectItems_of_passes fun item hitem => passes_eq_accepts (hall item hitem)
    exact ⟨hall, Except.ok.inj (hselect.symm.trans h)⟩
  · rintro ⟨hall, rfl⟩
    exact selectItems_of_passes fun item hitem => passes_eq_accepts (hall item hitem)

theorem selectItems_nil (resolver : ParamResolver) (root : Value) (items : List Value) :
    selectItems resolver root [] items = .ok items :=
  selectItems_eq_ok_iff.mpr ⟨fun _ _ => ⟨true, rfl⟩, List.filter_true items⟩

theorem selectItems_cons_iff : selectItems resolver root (param :: rest) items = .ok kept ↔
    ∃ first, selectItems resolver root [param] items = .ok first ∧
      selectItems resolver root rest first = .ok kept := by
  have hfilter : items.filter (accepts resolver root (param :: rest)) =
      (items.filter (accepts resolver root [param])).filter (accepts resolver root rest) := by
    rw [List.filter_filter]
    exact List.filter_congr fun item _ => accepts_cons resolver root param rest item
  simp only [selectItems_eq_ok_iff]
  constructor
  · rintro ⟨hall, hkept⟩
    refine ⟨_, ⟨fun item hitem => (decides_cons_iff.mp (hall item hitem)).1, rfl⟩, ?_, ?_⟩
    · intro item hitem
      obtain ⟨hitem, haccepted⟩ := List.mem_filter.mp hitem
      exact (decides_cons_iff.mp (hall item hitem)).2 haccepted
    · rw [← hfilter, hkept]
  · rintro ⟨first, ⟨hfirst, rfl⟩, hrest, hkept⟩
    refine ⟨fun item hitem => decides_cons_iff.mpr ⟨hfirst item hitem, fun haccepted => ?_⟩, ?_⟩
    · exact hrest item (List.mem_filter.mpr ⟨hitem, haccepted⟩)
    · rw [hfilter, hkept]

theorem selectItems_append_iff : selectItems resolver root params (xs ++ ys) = .ok kept ↔
    ∃ first second, selectItems resolver root params xs = .ok first ∧
      selectItems resolver root params ys = .ok second ∧ kept = first ++ second := by
  simp only [selectItems_eq_ok_iff, List.forall_mem_append, List.filter_append]
  constructor
  · rintro ⟨⟨hxs, hys⟩, hkept⟩
    exact ⟨_, _, ⟨hxs, rfl⟩, ⟨hys, rfl⟩, hkept.symm⟩
  · rintro ⟨_, _, ⟨hxs, rfl⟩, ⟨hys, rfl⟩, rfl⟩
    exact ⟨⟨hxs, hys⟩, rfl⟩

theorem selectItems_again (h : selectItems resolver root params items = .ok kept) :
    selectItems resolver root params kept = .ok kept := by
  obtain ⟨hall, rfl⟩ := selectItems_eq_ok_iff.mp h
  refine selectItems_eq_ok_iff.mpr ⟨fun item hitem => hall item (List.mem_filter.mp hitem).1, ?_⟩
  simp only [List.filter_filter, Bool.and_self]

end Filter

variable {params : List String} {items xs ys : List Value} {result : Option Value}

/-- None of the parameters is a quoted text, so that all of them are predicates. -/
def ArePredicates (params : List String) : Prop := ∀ p ∈ params, p.toList.head? ≠ some '\''

theorem ArePredicates.namesKey_eq_false (h : ArePredicates params) :
    Filter.namesKey params = false := by
  cases params with
  | nil => rfl
  | cons param rest => simpa [Filter.namesKey] using h param List.mem_cons_self

theorem applyFilter_select_eq_ok_iff (h : ArePredicates params) :
    applyFilter env "filter" params scope root (some (.array items)) = .ok result ↔
      ∃ kept, Filter.selectItems (evaluateIn env) root params items = .ok kept ∧
        result = some (.array kept) := by
  rw [applyFilter_select, Filter.keepItems, h.namesKey_eq_false]
  rw [if_neg Bool.false_ne_true, bind_eq_ok]
  simp only [Except.ok.injEq, eq_comm]

/-- Predicates one after the other, each of them on what the one before it has left. -/
theorem applyFilter_select_each_iff (h : ArePredicates params) :
    params.foldlM (fun piped p => applyFilter env "filter" [p] scope root piped)
        (some (.array items)) = .ok result ↔
      ∃ kept, Filter.selectItems (evaluateIn env) root params items = .ok kept ∧
        result = some (.array kept) := by
  induction params generalizing items with
  | nil =>
    rw [Filter.selectItems_nil]
    simp [pure, Except.pure, eq_comm]
  | cons param rest ih =>
    have hfirst : ArePredicates [param] :=
      List.forall_mem_singleton.mpr (h param List.mem_cons_self)
    have hrest : ArePredicates rest := fun p hp => h p (List.mem_cons_of_mem _ hp)
    rw [List.foldlM_cons, bind_eq_ok]
    simp only [applyFilter_select_eq_ok_iff hfirst]
    constructor
    · rintro ⟨_, ⟨first, hselect, rfl⟩, hmore⟩
      obtain ⟨kept, hkept, rfl⟩ := (ih hrest).mp hmore
      exact ⟨kept, Filter.selectItems_cons_iff.mpr ⟨first, hselect, hkept⟩, rfl⟩
    · rintro ⟨kept, hselect, rfl⟩
      obtain ⟨first, hfirst, hkept⟩ := Filter.selectItems_cons_iff.mp hselect
      exact ⟨_, ⟨first, hfirst, rfl⟩, (ih hrest).mpr ⟨kept, hkept, rfl⟩⟩

/-- Selecting by several predicates gives a result when selecting by each of them in turn gives one,
and the same. The result on an array is that on its front followed by that on its back, and
selecting once more changes nothing. -/
theorem applyFilter_select_fused (h : ArePredicates params) (scope root : Value)
    (xs ys : List Value) :
    (∀ result, applyFilter env "filter" params scope root (some (.array xs)) = .ok result ↔
      params.foldlM (fun piped p => applyFilter env "filter" [p] scope root piped)
        (some (.array xs)) = .ok result) ∧
    (∀ result, applyFilter env "filter" params scope root (some (.array (xs ++ ys))) = .ok result ↔
      ∃ first second,
        applyFilter env "filter" params scope root (some (.array xs)) = .ok (some (.array first)) ∧
        applyFilter env "filter" params scope root (some (.array ys)) =
          .ok (some (.array second)) ∧ result = some (.array (first ++ second))) ∧
    ∀ result, applyFilter env "filter" params scope root (some (.array xs)) = .ok result →
      applyFilter env "filter" params scope root result = .ok result := by
  refine ⟨fun result => ?_, fun result => ?_, fun result hresult => ?_⟩
  · rw [applyFilter_select_eq_ok_iff h, applyFilter_select_each_iff h]
  · simp only [applyFilter_select_eq_ok_iff h, Filter.selectItems_append_iff, Option.some.injEq,
      Value.array.injEq, exists_eq_right']
    constructor
    · rintro ⟨_, ⟨first, second, hfirst, hsecond, rfl⟩, rfl⟩
      exact ⟨first, second, hfirst, hsecond, rfl⟩
    · rintro ⟨first, second, hfirst, hsecond, rfl⟩
      exact ⟨_, ⟨first, second, hfirst, hsecond, rfl⟩, rfl⟩
  · obtain ⟨kept, hkept, rfl⟩ := (applyFilter_select_eq_ok_iff h).mp hresult
    exact (applyFilter_select_eq_ok_iff h).mpr ⟨kept, Filter.selectItems_again hkept, rfl⟩

/-- Two elements that are due, one of them without a name, and two that are not. -/
def sampleOrders : List Value :=
  [.object [("due", .bool true), ("by", .string "b")], .object [("due", .bool true)],
    .object [("by", .string "b")], .string "b"]

theorem applyFilter_select_fused_sampleOrders :
    ArePredicates ["due", "by|eq('b')"] ∧
      ["due", "by|eq('b')"].foldlM
          (fun piped p => applyFilter ⟨⟨0, 0⟩, id⟩ "filter" [p] .null .null piped)
          (some (.array sampleOrders)) = .ok (some (.array (sampleOrders.take 1))) ∧
      applyFilter ⟨⟨0, 0⟩, id⟩ "filter" ["due", "by|eq('b')"] .null .null
          (some (.array (sampleOrders ++ sampleOrders))) =
        .ok (some (.array (sampleOrders.take 1 ++ sampleOrders.take 1))) ∧
      applyFilter ⟨⟨0, 0⟩, id⟩ "filter" ["due", "by|eq('b')"] .null .null
          (some (.array (sampleOrders.take 1))) = .ok (some (.array (sampleOrders.take 1))) := by
  have hpredicates : ArePredicates ["due", "by|eq('b')"] := by
    intro p hp
    fin_cases hp <;> decide
  have hselected : applyFilter ⟨⟨0, 0⟩, id⟩ "filter" ["due", "by|eq('b')"] .null .null
      (some (.array sampleOrders)) = .ok (some (.array (sampleOrders.take 1))) := by cbv
  obtain ⟨hfused, hparts, hagain⟩ :=
    @applyFilter_select_fused ⟨⟨0, 0⟩, id⟩ _ hpredicates .null .null sampleOrders sampleOrders
  exact ⟨hpredicates, (hfused _).mp hselected,
    (hparts _).mpr ⟨_, _, hselected, hselected, rfl⟩, hagain _ hselected⟩

end Reshape
