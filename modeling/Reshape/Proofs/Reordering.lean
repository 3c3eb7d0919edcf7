import Reshape.Proofs.EntryUpdate

/-! Values that differ in the order of their keys, and writes that may change places. Writes at
paths of which none leads through the other come out the same but for the order of keys. -/
namespace Reshape

namespace Fields

variable {key k₁ k₂ : String} {v w : Value} {front back fields : Fields}

theorem insert_append_of_mem (h : key ∈ front.map Prod.fst) (v : Value) (back : Fields) :
    Fields.insert key v (front ++ back) = Fields.insert key v front ++ back := by
  induction front with
  | nil => simp at h
  | cons field rest ih =>
    obtain ⟨k, x⟩ := field
    rw [List.cons_append, Fields.insert, Fields.insert]
    split
    · rfl
    · rename_i hk
      rw [List.cons_append, ih (by simpa [Ne.symm hk] using h)]

theorem insert_append_of_not_mem (h : key ∉ front.map Prod.fst) (v : Value) (back : Fields) :
    Fields.insert key v (front ++ back) = front ++ Fields.insert key v back := by
  induction front with
  | nil => rfl
  | cons field rest ih =>
    simp only [List.map_cons, List.mem_cons, not_or] at h
    rw [List.cons_append, Fields.insert, if_neg (Ne.symm h.1), ih h.2, List.cons_append]

/-- The place of a value does not depend on the value. -/
theorem insert_eq_append (key : String) (fields : Fields) :
    ∃ front back, ∀ v, Fields.insert key v fields = front ++ (key, v) :: back := by
  induction fields with
  | nil => exact ⟨[], [], fun v => rfl⟩
  | cons field rest ih =>
    obtain ⟨k, x⟩ := field
    by_cases hk : k = key
    · exact ⟨[], rest, fun v => by rw [Fields.insert, if_pos hk, hk, List.nil_append]⟩
    · obtain ⟨front, back, hplace⟩ := ih
      refine ⟨(k, x) :: front, back, fun v => ?_⟩
      rw [Fields.insert, if_neg hk, hplace v, List.cons_append]

theorem insert_insert_self (key : String) (v w : Value) (fields : Fields) :
    Fields.insert key v (Fields.insert key w fields) = Fields.insert key v fields := by
  induction fields with
  | nil => simp [Fields.insert]
  | cons field rest ih =>
    obtain ⟨k, x⟩ := field
    by_cases hk : k = key
    · simp [Fields.insert, hk]
    · simp [Fields.insert, hk, ih]

/-- A key that is there keeps its place, whatever else is put in. -/
theorem insert_comm (hne : k₁ ≠ k₂) (h : k₁ ∈ fields.map Prod.fst ∨ k₂ ∈ fields.map Prod.fst)
    (v w : Value) :
    Fields.insert k₁ v (Fields.insert k₂ w fields) =
      Fields.insert k₂ w (Fields.insert k₁ v fields) := by
  induction fields with
  | nil => simp at h
  | cons field rest ih =>
    obtain ⟨k, x⟩ := field
    by_cases h₁ : k = k₁
    · subst h₁
      simp [Fields.insert, hne]
    · by_cases h₂ : k = k₂
      · subst h₂
        simp [Fields.insert, h₁]
      · have hrest : k₁ ∈ rest.map Prod.fst ∨ k₂ ∈ rest.map Prod.fst := by
          simpa [Ne.symm h₁, Ne.symm h₂] using h
        simp [Fields.insert, h₁, h₂, ih hrest]

end Fields

/-- Equal but for the order of keys: neighbours with different keys change places, in any object
inside and any number of times. -/
inductive Reordered : Value → Value → Prop
  | refl (v : Value) : Reordered v v
  | trans {u v w : Value} : Reordered u v → Reordered v w → Reordered u w
  | swap {k₁ k₂ : String} (hne : k₁ ≠ k₂) (v₁ v₂ : Value) (front back : Fields) :
      Reordered (.object (front ++ (k₁, v₁) :: (k₂, v₂) :: back))
        (.object (front ++ (k₂, v₂) :: (k₁, v₁) :: back))
  | entry {v w : Value} (key : String) (front back : Fields) :
      Reordered v w →
      Reordered (.object (front ++ (key, v) :: back)) (.object (front ++ (key, w) :: back))
  | item {v w : Value} (front back : List Value) :
      Reordered v w → Reordered (.array (front ++ v :: back)) (.array (front ++ w :: back))

namespace Reordered

open Value

variable {t t' v w : Value} {key k₁ k₂ : String} {front back : Fields}

theorem isArray_eq (h : Reordered t t') : t.isArray = t'.isArray := by
  induction h with
  | trans _ _ ih₁ ih₂ => exact ih₁.trans ih₂
  | _ => rfl

theorem lookup_swap (hne : k₁ ≠ k₂) (v₁ v₂ : Value) (front back : Fields) (key : String) :
    (front ++ (k₁, v₁) :: (k₂, v₂) :: back).lookup key =
      (front ++ (k₂, v₂) :: (k₁, v₁) :: back).lookup key := by
  rw [List.lookup_append, List.lookup_append]
  congr 1
  by_cases h₁ : key = k₁
  · subst h₁
    have h₂ : (key == k₂) = false := by simpa using hne
    simp [List.lookup_cons, h₂]
  · have h₁' : (key == k₁) = false := by simpa using h₁
    simp [List.lookup_cons, h₁']

theorem lookup_entry (h : Reordered v w) (front back : Fields) (k key : String) :
    Option.Rel Reordered ((front ++ (k, v) :: back).lookup key)
      ((front ++ (k, w) :: back).lookup key) := by
  have hrefl : ∀ o : Option Value, Option.Rel Reordered o o := by
    intro o
    cases o with
    | none => exact .none
    | some x => exact .some (.refl x)
  rw [List.lookup_append, List.lookup_append]
  cases front.lookup key with
  | some x => exact .some (.refl x)
  | none =>
    rw [Option.none_or, Option.none_or, List.lookup_cons, List.lookup_cons]
    cases key == k with
    | true => exact .some h
    | false => exact hrefl _

theorem insert_swap (hne : k₁ ≠ k₂) (v₁ v₂ : Value) (front back : Fields) (key : String)
    (v : Value) :
    Reordered (.object (Fields.insert key v (front ++ (k₁, v₁) :: (k₂, v₂) :: back)))
      (.object (Fields.insert key v (front ++ (k₂, v₂) :: (k₁, v₁) :: back))) := by
  by_cases hfront : key ∈ front.map Prod.fst
  · rw [Fields.insert_append_of_mem hfront, Fields.insert_append_of_mem hfront]
    exact swap hne v₁ v₂ _ back
  · rw [Fields.insert_append_of_not_mem hfront, Fields.insert_append_of_not_mem hfront]
    simp only [Fields.insert]
    by_cases h₁ : k₁ = key
    · rw [if_pos h₁, if_neg (h₁ ▸ hne.symm), if_pos h₁]
      exact swap hne v v₂ front back
    · rw [if_neg h₁, if_neg h₁]
      split
      · exact swap hne v₁ v front back
      · exact swap hne v₁ v₂ front _

theorem insert_entry (h : Reordered v w) (front back : Fields) (k key : String) (x : Value) :
    Reordered (.object (Fields.insert key x (front ++ (k, v) :: back)))
      (.object (Fields.insert key x (front ++ (k, w) :: back))) := by
  by_cases hfront : key ∈ front.map Prod.fst
  · rw [Fields.insert_append_of_mem hfront, Fields.insert_append_of_mem hfront]
    exact entry k _ back h
  · rw [Fields.insert_append_of_not_mem hfront, Fields.insert_append_of_not_mem hfront]
    simp only [Fields.insert]
    split
    · exact refl _
    · exact entry k front _ h

theorem insert_value (h : Reordered v w) (key : String) (fields : Fields) :
    Reordered (.object (Fields.insert key v fields)) (.object (Fields.insert key w fields)) := by
  obtain ⟨front, back, hplace⟩ := Fields.insert_eq_append key fields
  rw [hplace, hplace]
  exact entry key front back h

theorem insert_insert (hne : k₁ ≠ k₂) (v w : Value) (fields : Fields) :
    Reordered (.object (Fields.insert k₁ v (Fields.insert k₂ w fields)))
      (.object (Fields.insert k₂ w (Fields.insert k₁ v fields))) := by
  by_cases hold : k₁ ∈ fields.map Prod.fst ∨ k₂ ∈ fields.map Prod.fst
  · rw [Fields.insert_comm hne hold]
    exact refl _
  · obtain ⟨h₁, h₂⟩ := not_or.mp hold
    rw [Fields.insert_of_not_mem w h₂, Fields.insert_of_not_mem v h₁,
      Fields.insert_append_of_not_mem h₁, Fields.insert_append_of_not_mem h₂]
    simp only [Fields.insert, if_neg hne.symm, if_neg hne]
    exact swap hne.symm w v fields []

section

variable {change change' : Option Value → Value}

/-- A change that sees no order of keys sees none in the object around either. -/
theorem updateEntry (hchange : ∀ {old old'}, Option.Rel Reordered old old' →
      Reordered (change old) (change old')) (h : Reordered t t') (key : String) :
    Reordered (t.updateEntry key change) (t'.updateEntry key change) := by
  induction h with
  | refl v => exact refl _
  | trans _ _ ih₁ ih₂ => exact ih₁.trans ih₂
  | swap hne v₁ v₂ front back =>
    simp only [Value.updateEntry, lookup_swap hne v₁ v₂ front back key]
    exact insert_swap hne v₁ v₂ front back key _
  | entry k front back h _ =>
    exact (insert_entry h front back k key _).trans
      (insert_value (hchange (lookup_entry h front back k key)) key _)
  | item front back h _ => exact item front back h

theorem updateEntry_congr (h : ∀ old, Reordered (change old) (change' old)) (key : String)
    (t : Value) : Reordered (t.updateEntry key change) (t.updateEntry key change') := by
  cases t with
  | object fields => exact insert_value (h _) key fields
  | _ => exact refl _

theorem updateEntry_self (key : String) (change change' : Option Value → Value) (t : Value) :
    (t.updateEntry key change').updateEntry key change =
      t.updateEntry key fun old => change (some (change' old)) := by
  cases t with
  | object fields =>
    simp only [Value.updateEntry, Fields.lookup_insert_self, Fields.insert_insert_self]
  | _ => rfl

theorem updateEntry_comm (hne : k₁ ≠ k₂) (change change' : Option Value → Value) (t : Value) :
    Reordered ((t.updateEntry k₂ change').updateEntry k₁ change)
      ((t.updateEntry k₁ change).updateEntry k₂ change') := by
  cases t with
  | object fields =>
    simp only [Value.updateEntry, Fields.lookup_insert_of_ne _ fields hne,
      Fields.lookup_insert_of_ne _ fields hne.symm]
    exact insert_insert hne _ _ fields
  | _ => exact refl _

end

variable {last last₁ last₂ : String} {levels levels₁ levels₂ : List String}

theorem append_items (h : Reordered t t') (news : List Value) :
    Reordered (merged (some t) (.array news)) (merged (some t') (.array news)) := by
  induction h with
  | trans _ _ ih₁ ih₂ => exact ih₁.trans ih₂
  | item front back h _ =>
    simp only [merged, List.append_assoc, List.cons_append]
    exact item front _ h
  | _ => exact refl _

theorem merged_right {old old' : Option Value} (h : Option.Rel Reordered old old') (v : Value) :
    Reordered (merged old v) (merged old' v) := by
  cases h with
  | none => exact refl _
  | some h =>
    cases v with
    | array news => exact append_items h news
    | _ =>
      simp only [merged]
      exact refl _

theorem writeAt (h : Reordered t t') (v : Value) (last : String) (levels : List String) :
    Reordered (Value.writeAt v last levels t) (Value.writeAt v last levels t') := by
  induction levels generalizing t t' with
  | nil =>
    rw [writeAt_nil_eq_updateEntry, writeAt_nil_eq_updateEntry]
    exact updateEntry (fun hold => merged_right hold v) h last
  | cons segment rest ih =>
    rw [writeAt_cons_eq_updateEntry, writeAt_cons_eq_updateEntry]
    refine updateEntry (fun hold => ih ?_) h segment
    cases hold with
    | none => exact refl _
    | some h => exact h

/-- A write changes the entry that its path begins with. -/
theorem exists_updateEntry (v : Value) (last : String) (levels : List String) :
    ∃ change, ∀ t, Value.writeAt v last levels t = t.updateEntry (levels.headD last) change := by
  cases levels with
  | nil => exact ⟨_, writeAt_nil_eq_updateEntry v last⟩
  | cons segment rest => exact ⟨_, writeAt_cons_eq_updateEntry v last segment rest⟩

/-- Two writes of which none leads through the place of the other may change places. -/
theorem writeAt_comm (h₁ : ¬ levels₁ ++ [last₁] <+: levels₂ ++ [last₂])
    (h₂ : ¬ levels₂ ++ [last₂] <+: levels₁ ++ [last₁]) (v w t : Value) :
    Reordered (Value.writeAt v last₁ levels₁ (Value.writeAt w last₂ levels₂ t))
      (Value.writeAt w last₂ levels₂ (Value.writeAt v last₁ levels₁ t)) := by
  induction levels₁ generalizing levels₂ t with
  | nil =>
    have hne : last₁ ≠ levels₂.headD last₂ := by
      rintro rfl
      apply h₁
      cases levels₂ <;> simp
    obtain ⟨change, hchange⟩ := exists_updateEntry v last₁ []
    obtain ⟨change', hchange'⟩ := exists_updateEntry w last₂ levels₂
    simp only [hchange, hchange']
    exact updateEntry_comm hne change change' t
  | cons segment rest ih =>
    by_cases hhead : segment = levels₂.headD last₂
    · -- Both writes go on below the same entry, where the paths part.
      cases levels₂ with
      | nil =>
        exact (h₂ (by simp_all)).elim
      | cons segment' rest' =>
        obtain rfl : segment = segment' := hhead
        simp only [writeAt_cons_eq_updateEntry, updateEntry_self]
        refine updateEntry_congr (fun old => ih ?_ ?_ _) segment t
        · simpa using h₁
        · simpa using h₂
    · obtain ⟨change, hchange⟩ := exists_updateEntry v last₁ (segment :: rest)
      obtain ⟨change', hchange'⟩ := exists_updateEntry w last₂ levels₂
      simp only [hchange, hchange']
      exact updateEntry_comm hhead change change' t

theorem assign (h : Reordered t t') (value : Option Value) (path : String) :
    Reordered (t.assign value path) (t'.assign value path) := by
  cases hv : written? value with
  | none => rwa [assign_of_written_none hv, assign_of_written_none hv]
  | some v =>
    rw [assign_of_written_some hv, assign_of_written_some hv]
    exact writeAt h v _ _

end Reordered

/-- None of two paths leads through the place of the other. -/
def IndependentPaths (p q : String) : Prop :=
  ¬ pathSegments p <+: pathSegments q ∧ ¬ pathSegments q <+: pathSegments p

theorem IndependentPaths.symm {p q : String} (h : IndependentPaths p q) : IndependentPaths q p :=
  ⟨h.2, h.1⟩

namespace Value

variable {p q : String} {t t' : Value} {writes writes' : List (String × Option Value)}

theorem assign_comm (h : IndependentPaths p q) (value value' : Option Value) (t : Value) :
    Reordered ((t.assign value' q).assign value p) ((t.assign value p).assign value' q) := by
  cases hv : written? value with
  | none =>
    rw [assign_of_written_none hv, assign_of_written_none hv]
    exact .refl _
  | some v =>
    cases hv' : written? value' with
    | none =>
      rw [assign_of_written_none hv', assign_of_written_none hv']
      exact .refl _
    | some v' =>
      simp only [assign_of_written_some hv, assign_of_written_some hv']
      refine .writeAt_comm ?_ ?_ v v' t
      · simpa only [levelsOf_concat] using h.1
      · simpa only [levelsOf_concat] using h.2

/-- Writes values at paths, one after the other. -/
def assignAll (writes : List (String × Option Value)) (t : Value) : Value :=
  writes.foldl (fun t write => t.assign write.2 write.1) t

theorem assignAll_reordered (writes : List (String × Option Value)) (h : Reordered t t') :
    Reordered (assignAll writes t) (assignAll writes t') := by
  induction writes generalizing t t' with
  | nil => exact h
  | cons write rest ih => exact ih (h.assign write.2 write.1)

/-- Writes at independent paths may be made in any order. -/
theorem assignAll_perm (hperm : writes.Perm writes')
    (hpaths : writes.Pairwise fun a b => IndependentPaths a.1 b.1) (t : Value) :
    Reordered (assignAll writes t) (assignAll writes' t) := by
  induction hperm generalizing t with
  | nil => exact .refl t
  | cons write _ ih => exact ih hpaths.tail _
  | swap a b rest =>
    have hab : IndependentPaths a.1 b.1 :=
      ((List.pairwise_cons.mp hpaths).1 a List.mem_cons_self).symm
    exact assignAll_reordered rest (assign_comm hab a.2 b.2 t)
  | trans hfirst _ ih₁ ih₂ => exact (ih₁ hpaths t).trans (ih₂ (hfirst.pairwise hpaths .symm) t)

theorem isArray_assign (t : Value) (value : Option Value) (path : String) :
    (t.assign value path).isArray = t.isArray := by
  cases hv : written? value with
  | none => rw [assign_of_written_none hv]
  | some v =>
    obtain ⟨change, hchange⟩ :=
      Reordered.exists_updateEntry v ((pathSegments path).getLast?.getD "") (levelsOf path)
    rw [assign_of_written_some hv, hchange]
    cases t <;> rfl

theorem isArray_assignAll (writes : List (String × Option Value)) (t : Value) :
    (assignAll writes t).isArray = t.isArray := by
  induction writes generalizing t with
  | nil => rfl
  | cons write rest ih => exact (ih _).trans (isArray_assign t write.2 write.1)

end Value

end Reshape
