import Reshape.Proofs.Selecting

/-! Parts of arrays and texts. A part runs from one place to another, and a part up to a place and
the part from there on are the whole. -/
namespace Reshape

open Value

variable {env : Environment} {scope root : Value} {length default place : Nat}
  {index start stop : Option Value}

/-- The place in a sequence that an index stands for. A number counts by its integer part: from the
start, where it stops at the end of the sequence, or from the end if it is below zero, where it
stops at the start. -/
inductive PointsTo (length default : Nat) : Option Value → Nat → Prop
  | absent : PointsTo length default none default
  | nan {v : Value} (h : v.number = .nan) : PointsTo length default (some v) default
  | beforeAll {v : Value} (h : v.number = .infinite true) : PointsTo length default (some v) 0
  | afterAll {v : Value} (h : v.number = .infinite false) : PointsTo length default (some v) length
  | fromStart {v : Value} {n : Nat} (h : v.number.toInt? = some (n : Int)) :
    PointsTo length default (some v) (min n length)
  | fromEnd {v : Value} {n : Nat} (hpos : 0 < n) (h : v.number.toInt? = some (-(n : Int))) :
    PointsTo length default (some v) (length - n)

/-- A number with an integer part is finite. -/
theorem exists_finite_of_toInt? {x : Binary64} {n : Int} (h : x.toInt? = some n) :
    ∃ negative m, x = .finite negative m ∧ n = if negative then -(m.floor : Int) else m.floor := by
  cases x with
  | nan => cases h
  | infinite negative => cases h
  | finite negative m => cases negative <;> cases h <;> exact ⟨_, m, rfl, rfl⟩

theorem pointsTo_slicePlace (index : Option Value) (length default : Nat) :
    PointsTo length default index (slicePlace index length default) := by
  cases index with
  | none => exact .absent
  | some v =>
    rw [slicePlace, Option.map_some]
    cases hnumber : v.number with
    | nan => exact .nan hnumber
    | infinite negative =>
      cases negative with
      | true => exact .beforeAll hnumber
      | false => exact .afterAll hnumber
    | finite negative m =>
      cases negative with
      | false => exact .fromStart (by rw [hnumber]; rfl)
      | true =>
        by_cases hzero : m.floor = 0
        · have hint : v.number.toInt? = some ((0 : Nat) : Int) := by
            simp [hnumber, Binary64.toInt?, hzero]
          have hplace : PointsTo length default (some v) (min 0 length) := .fromStart hint
          simpa [hzero] using hplace
        · have hint : v.number.toInt? = some (-(m.floor : Int)) := by
            rw [hnumber]
            rfl
          have hplace : PointsTo length default (some v) (length - m.floor) :=
            .fromEnd (Nat.pos_of_ne_zero hzero) hint
          simpa [hzero] using hplace

/-- An index stands for one place only. -/
theorem PointsTo.eq_slicePlace (h : PointsTo length default index place) :
    place = slicePlace index length default := by
  cases h with
  | absent => rfl
  | nan h => simp [slicePlace, h]
  | beforeAll h => simp [slicePlace, h]
  | afterAll h => simp [slicePlace, h]
  | @fromStart v n h =>
    obtain ⟨negative, m, hnumber, hfloor⟩ := exists_finite_of_toInt? h
    cases negative with
    | false =>
      obtain rfl : n = m.floor := Int.ofNat_inj.mp hfloor
      simp [slicePlace, hnumber]
    | true =>
      -- Only a fraction below zero has an integer part that is not.
      have hparts : (n : Int) = -(m.floor : Int) := hfloor
      have hzero : m.floor = 0 := by omega
      obtain rfl : n = 0 := by omega
      simp [slicePlace, hnumber, hzero]
  | @fromEnd v n hpos h =>
    obtain ⟨negative, m, hnumber, hfloor⟩ := exists_finite_of_toInt? h
    cases negative with
    | false =>
      have hparts : -(n : Int) = (m.floor : Int) := hfloor
      omega
    | true =>
      have hparts : -(n : Int) = -(m.floor : Int) := hfloor
      obtain rfl : n = m.floor := by omega
      have hne : m.floor ≠ 0 := by omega
      simp [slicePlace, hnumber, hne]

theorem PointsTo.le (h : PointsTo length default index place) (hdefault : default ≤ length) :
    place ≤ length := by
  cases h <;> omega

/-- A number does not stand for the default. -/
theorem slicePlace_of_number {v : Value} (h : v.number.isNaN = false) (length first last : Nat) :
    slicePlace (some v) length first = slicePlace (some v) length last := by
  rw [slicePlace, slicePlace, Option.map_some]
  cases hnumber : v.number with
  | nan => simp [hnumber, Binary64.isNaN] at h
  | infinite negative => cases negative <;> rfl
  | finite negative m => cases negative <;> rfl

/-- What holds a list in order: an array its elements, and a text its characters. -/
inductive IsSequence : {α : Type} → (List α → Value) → Prop
  | array : IsSequence Value.array
  | text : IsSequence Value.ofText

variable {α : Type} {wrap : List α → Value}

theorem IsSequence.slice (h : IsSequence wrap) (items : List α) (start stop : Option Value) :
    slice start stop (wrap items) = wrap (sliceList items start stop) := by
  cases h with
  | array => rfl
  | text => simp [Reshape.slice, ofText]

theorem sliceList_eq (items : List α) (start stop : Option Value) :
    sliceList items start stop =
      (items.take (max (slicePlace start items.length 0)
        (slicePlace stop items.length items.length))).drop (slicePlace start items.length 0) := by
  have hspan (first last : Nat) : max first last - first = last - first := by omega
  rw [sliceList, List.drop_take, hspan]

theorem sliceList_append {zero k : Value} (items : List α) (hzero : zero.number.toInt? = some 0)
    (hk : k.number.isNaN = false) :
    sliceList items (some zero) (some k) ++ sliceList items (some k) none = items := by
  have hstart : slicePlace (some zero) items.length 0 = 0 := by
    have hplace : PointsTo items.length 0 (some zero) (min 0 items.length) := .fromStart hzero
    simpa using hplace.eq_slicePlace.symm
  have hplace := slicePlace_of_number hk items.length 0 items.length
  have hend : slicePlace none items.length items.length = items.length := rfl
  simp only [sliceList, hstart, hplace, hend, List.drop_zero, Nat.sub_zero]
  rw [← List.length_drop, List.take_length, List.take_append_drop]

theorem IsSequence.applyFilter_slice (h : IsSequence wrap) (items : List α) {params : List String}
    {args : List (Option Value)}
    (hargs : Filter.resolveParams (evaluateIn env) scope root params = .ok args) :
    applyFilter env "slice" params scope root (some (wrap items)) =
      .ok (some (wrap (sliceList items (Filter.arg args 0) (Filter.arg args 1)))) := by
  rw [← h.slice]
  exact applyFilter_of_resolved (f := .slice) (by decide) hargs (some (wrap items))

/-- Of an array or a text the filter gives the part from the place of its first index up to that of
its second one, neither of which is outside. Up to a number and from it on are two parts that make
the whole. -/
theorem applyFilter_slice_parts (h : IsSequence wrap) (items : List α) :
    (∀ params args, Filter.resolveParams (evaluateIn env) scope root params = .ok args →
      ∃ first last, PointsTo items.length 0 (Filter.arg args 0) first ∧
        PointsTo items.length items.length (Filter.arg args 1) last ∧
        first ≤ items.length ∧ max first last ≤ items.length ∧
        applyFilter env "slice" params scope root (some (wrap items)) =
          .ok (some (wrap ((items.take (max first last)).drop first)))) ∧
      ∀ (zeroParam param : String) (zero k : Value),
        evaluateIn env zeroParam scope root = .ok (some zero) → zero.number.toInt? = some 0 →
        evaluateIn env param scope root = .ok (some k) → k.number.isNaN = false →
        ∃ front back, applyFilter env "slice" [zeroParam, param] scope root (some (wrap items)) =
            .ok (some (wrap front)) ∧
          applyFilter env "slice" [param] scope root (some (wrap items)) = .ok (some (wrap back)) ∧
          front ++ back = items := by
  constructor
  · intro params args hargs
    have hfirst := pointsTo_slicePlace (Filter.arg args 0) items.length 0
    have hlast := pointsTo_slicePlace (Filter.arg args 1) items.length items.length
    have hle := hfirst.le (Nat.zero_le _)
    refine ⟨_, _, hfirst, hlast, hle, Nat.max_le.mpr ⟨hle, hlast.le (Nat.le_refl _)⟩, ?_⟩
    rw [h.applyFilter_slice items hargs, sliceList_eq]
  · intro zeroParam param zero k hzeroParam hzero hparam hk
    have hboth : Filter.resolveParams (evaluateIn env) scope root [zeroParam, param] =
        .ok [some zero, some k] :=
      Filter.resolveParams_of_forall₂ (.cons hzeroParam (.cons hparam .nil))
    have hone : Filter.resolveParams (evaluateIn env) scope root [param] = .ok [some k] :=
      Filter.resolveParams_of_forall₂ (.cons hparam .nil)
    exact ⟨_, _, h.applyFilter_slice items hboth, h.applyFilter_slice items hone,
      sliceList_append items hzero hk⟩

/-- One and a half characters from the end is one. -/
theorem applyFilter_slice_parts_fraction :
    applyFilter ⟨⟨0, 0⟩, id⟩ "slice" ["'-1.5'"] .null .null (some (.string "añ😀")) =
        .ok (some (.string "😀")) ∧
      applyFilter ⟨⟨0, 0⟩, id⟩ "slice" ["'0'", "'-1.5'"] .null .null (some (.string "añ😀")) =
        .ok (some (.string "añ")) := by
  have hzero : evaluateIn ⟨⟨0, 0⟩, id⟩ "'0'" .null .null = .ok (some (.string "0")) := by cbv
  have hk : evaluateIn ⟨⟨0, 0⟩, id⟩ "'-1.5'" .null .null = .ok (some (.string "-1.5")) := by cbv
  have hargs : Filter.resolveParams (evaluateIn ⟨⟨0, 0⟩, id⟩) .null .null ["'-1.5'"] =
      .ok [some (.string "-1.5")] := by cbv
  have hparts := @applyFilter_slice_parts ⟨⟨0, 0⟩, id⟩ .null .null _ _ .text ['a', 'ñ', '😀']
  obtain ⟨first, last, hfirst, hlast, _, _, hslice⟩ := hparts.1 _ _ hargs
  obtain rfl : first = 2 := hfirst.eq_slicePlace.trans (by decide +kernel)
  obtain rfl : last = 3 := hlast.eq_slicePlace
  obtain ⟨front, back, hfront, hback, happend⟩ :=
    hparts.2 _ _ _ _ hzero (by decide +kernel) hk (by decide +kernel)
  have hend : String.ofList back = "😀" := by simpa [ofText] using hback.symm.trans hslice
  obtain rfl : back = ['😀'] := by simpa using congrArg String.toList hend
  obtain rfl : front = ['a', 'ñ'] :=
    List.append_cancel_right (happend.trans (rfl : _ = ['a', 'ñ'] ++ ['😀']))
  exact ⟨hback, hfront⟩

end Reshape
