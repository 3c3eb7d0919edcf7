import Reshape.Proofs.JsonRoundTrip
import Reshape.Proofs.NeutralOperands

/-! JSON texts and fingerprints of equal values whose objects list their keys in the same order.
They are the same except where a zero has the place of the zero with the other sign. -/
namespace Reshape

namespace Binary64

/-- Whether the number is the zero with a minus. -/
def isNegativeZero : Binary64 → Bool
  | .finite true m => m.mantissa == 0
  | _ => false

theorem alike_of_numEq {x y : Binary64} (h : x.numEq y = true) : Alike x y := by
  cases x with
  | nan => cases h
  | infinite negative =>
    cases y with
    | nan => cases negative <;> cases h
    | infinite negative' =>
      have hsign : negative = negative' := by
        cases negative <;> cases negative' <;> first | rfl | cases h
      exact hsign ▸ .same _
    | finite negative' m => cases negative <;> cases negative' <;> cases h
  | finite negative m =>
    cases y with
    | nan => cases negative <;> cases h
    | infinite negative' => cases negative <;> cases negative' <;> cases h
    | finite negative' m' =>
      have hsteps := (numEq_finite_iff negative negative' m m').mp h
      by_cases hsign : negative = negative'
      · obtain rfl := hsign
        have hm : m.steps = m'.steps := by
          cases negative <;> simpa [signedSteps] using hsteps
        exact Magnitude.eq_of_steps hm ▸ .same _
      · have hzero : m.steps = 0 ∧ m'.steps = 0 := by
          cases negative <;> cases negative' <;> simp [signedSteps] at hsteps hsign <;> omega
        obtain rfl := Magnitude.eq_zero_of_mantissa (Magnitude.steps_eq_zero_iff.mp hzero.1)
        obtain rfl := Magnitude.eq_zero_of_mantissa (Magnitude.steps_eq_zero_iff.mp hzero.2)
        exact .zeros _ _

end Binary64

namespace Value

mutual

/-- The objects at the same places of two values list their keys in the same order. -/
def KeysInOrder : Value → Value → Prop
  | .array xs, .array ys => itemsKeysInOrder xs ys
  | .object fs, .object gs => fs.map Prod.fst = gs.map Prod.fst ∧ fieldsKeysInOrder fs gs
  | _, _ => True

def itemsKeysInOrder : List Value → List Value → Prop
  | x :: xs, y :: ys => x.KeysInOrder y ∧ itemsKeysInOrder xs ys
  | _, _ => True

def fieldsKeysInOrder : List (String × Value) → List (String × Value) → Prop
  | (_, v) :: fs, (_, w) :: gs => v.KeysInOrder w ∧ fieldsKeysInOrder fs gs
  | _, _ => True

end

mutual

/-- For every float inside, in order, whether it is the zero with a minus. -/
def negativeZeros : Value → List Bool
  | .float x => [x.isNegativeZero]
  | .array items => negativeZerosOfItems items
  | .object fields => negativeZerosOfFields fields
  | _ => []

def negativeZerosOfItems : List Value → List Bool
  | [] => []
  | v :: rest => v.negativeZeros ++ negativeZerosOfItems rest

def negativeZerosOfFields : List (String × Value) → List Bool
  | [] => []
  | (_, v) :: rest => v.negativeZeros ++ negativeZerosOfFields rest

end

/-- Entries with the same keys in the same order are equal one by one. The entries in front are the
ones that were compared before. -/
theorem forall₂_of_sameFields (front : Fields) {fs gs : Fields}
    (h : sameFields fs (front ++ gs) = true) (hkeys : fs.map Prod.fst = gs.map Prod.fst)
    (hnodup : ((front ++ gs).map Prod.fst).Nodup) :
    List.Forall₂ (fun f g => f.1 = g.1 ∧ f.2.same g.2 = true) fs gs := by
  induction fs generalizing front gs with
  | nil =>
    obtain rfl : gs = [] := by simpa using hkeys.symm
    exact .nil
  | cons f fs ih =>
    obtain ⟨key, v⟩ := f
    cases gs with
    | nil => cases hkeys
    | cons g gs =>
      obtain ⟨key', w⟩ := g
      obtain ⟨rfl, hrest⟩ : key = key' ∧ fs.map Prod.fst = gs.map Prod.fst := List.cons.inj hkeys
      -- The keys are unique, so that the lookup passes over the front to the entry itself.
      have hlookup : (front ++ (key, w) :: gs).lookup key = some w := by
        rw [List.lookup_append, Fields.lookup_eq_none (Fields.key_not_mem_front hnodup)]
        simp
      rw [sameFields, hlookup, Bool.and_eq_true] at h
      have hmore : sameFields fs (front ++ [(key, w)] ++ gs) = true := by simpa using h.2
      have hnodup' : ((front ++ [(key, w)] ++ gs).map Prod.fst).Nodup := by simpa using hnodup
      exact .cons ⟨rfl, h.1⟩ (ih (front ++ [(key, w)]) hmore hrest hnodup')

/-- The relation holds between every value and itself, between floats that are equal numbers, and
between arrays and objects when it holds between their entries. -/
structure IsCongruence (R : Value → Value → Prop) : Prop where
  refl : ∀ v, R v v
  float : ∀ x y, Binary64.numEq x y = true → R (.float x) (.float y)
  array : ∀ xs ys, List.Forall₂ R xs ys → R (.array xs) (.array ys)
  object : ∀ fs gs, List.Forall₂ (fun f g => f.1 = g.1 ∧ R f.2 g.2) fs gs →
    R (.object fs) (.object gs)

section Congruence

variable {R : Value → Value → Prop}

mutual

/-- Equal values with their keys in the same order differ in their floats at most. -/
theorem IsCongruence.of_same (h : IsCongruence R) : (a b : Value) → a.same b = true →
    a.KeysInOrder b → a.HasUniqueKeys → R a b
  | .null, b, hsame, _, _ => by
    cases b <;> simp [same] at hsame
    exact h.refl .null
  | .bool _, b, hsame, _, _ => by
    cases b <;> simp [same] at hsame
    exact hsame ▸ h.refl _
  | .int _, b, hsame, _, _ => by
    cases b <;> simp [same] at hsame
    exact hsame ▸ h.refl _
  | .string _, b, hsame, _, _ => by
    cases b <;> simp [same] at hsame
    exact hsame ▸ h.refl _
  | .float x, b, hsame, _, _ => by
    cases b <;> simp [same] at hsame
    exact h.float x _ hsame
  | .array xs, b, hsame, horder, hu => by
    cases b <;> simp only [same, Bool.false_eq_true] at hsame
    exact h.array xs _ (h.of_sameItems xs _ hsame horder hu)
  | .object fs, b, hsame, horder, hu => by
    cases b <;> simp only [same, Bool.and_eq_true, Bool.false_eq_true] at hsame
    rename_i gs
    have hnodup : (gs.map Prod.fst).Nodup := horder.1 ▸ hu.1
    have hfields := forall₂_of_sameFields [] hsame.2 horder.1 hnodup
    exact h.object fs gs (h.of_sameFields fs gs hfields horder.2 hu.2)

theorem IsCongruence.of_sameItems (h : IsCongruence R) : (xs ys : List Value) →
    sameItems xs ys = true → itemsKeysInOrder xs ys → itemsHaveUniqueKeys xs → List.Forall₂ R xs ys
  | [], [], _, _, _ => .nil
  | [], _ :: _, hsame, _, _ => by simp [sameItems] at hsame
  | _ :: _, [], hsame, _, _ => by simp [sameItems] at hsame
  | x :: xs, y :: ys, hsame, horder, hu => by
    rw [sameItems, Bool.and_eq_true] at hsame
    exact .cons (h.of_same x y hsame.1 horder.1 hu.1)
      (h.of_sameItems xs ys hsame.2 horder.2 hu.2)

theorem IsCongruence.of_sameFields (h : IsCongruence R) : (fs gs : Fields) →
    List.Forall₂ (fun f g => f.1 = g.1 ∧ f.2.same g.2 = true) fs gs → fieldsKeysInOrder fs gs →
    fieldsHaveUniqueKeys fs → List.Forall₂ (fun f g => f.1 = g.1 ∧ R f.2 g.2) fs gs
  | [], [], _, _, _ => .nil
  | [], _ :: _, hsame, _, _ => nomatch hsame
  | _ :: _, [], hsame, _, _ => nomatch hsame
  | (_, v) :: fs, (_, w) :: gs, .cons hfield hrest, horder, hu =>
    .cons ⟨hfield.1, h.of_same v w hfield.2 horder.1 hu.1⟩
      (h.of_sameFields fs gs hrest horder.2 hu.2)

end

end Congruence

theorem negativeZerosOfItems_eq (items : List Value) :
    negativeZerosOfItems items = items.flatMap negativeZeros := by
  induction items with
  | nil => rfl
  | cons v rest ih => rw [negativeZerosOfItems, ih, List.flatMap_cons]

theorem negativeZerosOfFields_eq (fields : Fields) :
    negativeZerosOfFields fields = fields.flatMap fun field => field.2.negativeZeros := by
  induction fields with
  | nil => rfl
  | cons field rest ih => rw [negativeZerosOfFields, ih, List.flatMap_cons]

/-- Lists that go with two values are equally long, and equal only if the values are. -/
def Determines {α β : Type} (f : α → List β) (x y : α) : Prop :=
  (f x).length = (f y).length ∧ (f x = f y → x = y)

theorem determines_flatMap {α β : Type} {f : α → List β} {xs ys : List α}
    (h : List.Forall₂ (Determines f) xs ys) : Determines (List.flatMap f) xs ys := by
  induction h with
  | nil => exact ⟨rfl, fun _ => rfl⟩
  | cons hfirst _ ih =>
    refine ⟨by simp only [List.flatMap_cons, List.length_append, hfirst.1, ih.1], fun heq => ?_⟩
    obtain ⟨hx, hxs⟩ := List.append_inj heq hfirst.1
    rw [hfirst.2 hx, ih.2 hxs]

theorem isCongruence_negativeZeros : IsCongruence (Determines negativeZeros) where
  refl v := ⟨rfl, fun _ => rfl⟩
  float x y h := by
    refine ⟨rfl, fun heq => ?_⟩
    cases Binary64.alike_of_numEq h with
    | same => rfl
    | zeros negative negative' => cases negative <;> cases negative' <;> first | rfl | cases heq
  array xs ys h := by
    have hitems := determines_flatMap h
    rw [Determines, ← negativeZerosOfItems_eq, ← negativeZerosOfItems_eq] at hitems
    exact ⟨hitems.1, fun heq => congrArg Value.array (hitems.2 heq)⟩
  object fs gs h := by
    have hpairs : List.Forall₂ (Determines fun field : String × Value => field.2.negativeZeros)
        fs gs := by
      refine h.imp fun f g hfield => ⟨hfield.2.1, fun heq => ?_⟩
      exact Prod.ext hfield.1 (hfield.2.2 heq)
    have hfields := determines_flatMap hpairs
    rw [Determines, ← negativeZerosOfFields_eq, ← negativeZerosOfFields_eq] at hfields
    exact ⟨hfields.1, fun heq => congrArg Value.object (hfields.2 heq)⟩

end Value

namespace Json

open Value

/-- The texts of two entries cannot begin one text unless the entries are the same. -/
def PrintsApart {α : Type} (f : α → List Char) (x y : α) : Prop :=
  ∀ rest rest', f x ++ rest = f y ++ rest' → x = y ∧ rest = rest'

theorem printsApart_joined {α : Type} {f : α → List Char} {xs ys : List α} (layout : Layout)
    (level : Nat) (h : List.Forall₂ (PrintsApart f) xs ys) :
    PrintsApart (fun items => joined layout level (items.map f)) xs ys := by
  induction h with
  | nil => exact fun rest rest' heq => ⟨rfl, heq⟩
  | @cons x y xs ys hfirst hmore ih =>
    intro rest rest' heq
    cases hmore with
    | nil =>
      simp only [List.map_cons, List.map_nil, joined_singleton] at heq
      obtain ⟨rfl, hrest⟩ := hfirst _ _ heq
      exact ⟨rfl, hrest⟩
    | cons =>
      simp only [List.map_cons, joined_cons_cons, List.append_assoc, List.cons_append] at heq ih
      obtain ⟨rfl, hmore⟩ := hfirst _ _ heq
      obtain ⟨hitems, hrest⟩ := ih _ _ (List.append_cancel_left (List.cons.inj hmore).2)
      exact ⟨congrArg _ hitems, hrest⟩

theorem printItems_eq_map (layout : Layout) (level : Nat) (items : List Value) :
    printItems layout level items = items.map (print layout level) := by
  induction items with
  | nil => rfl
  | cons v rest ih => rw [printItems, ih, List.map_cons]

theorem printFields_eq_map (layout : Layout) (level : Nat) (fields : Fields) :
    printFields layout level fields = fields.map fun field =>
      quote field.1.toList ++ layout.colon ++ print layout level field.2 := by
  induction fields with
  | nil => rfl
  | cons field rest ih => rw [printFields, ih, List.map_cons]

theorem printsApart_enclosed {α : Type} {f : α → List Char} {xs ys : List α} (layout : Layout)
    (level : Nat) (opening closing : Char) (h : List.Forall₂ (PrintsApart f) xs ys) :
    PrintsApart (fun items => enclose layout level opening closing (items.map f)) xs ys := by
  intro rest rest' heq
  cases h with
  | nil => exact ⟨rfl, List.append_cancel_left heq⟩
  | cons hfirst hmore =>
    simp only [enclose_of_ne_nil (List.cons_ne_nil _ _), List.map_cons, List.cons_append,
      List.append_assoc] at heq
    have hjoined := List.append_cancel_left (List.cons.inj heq).2
    obtain ⟨hitems, hrest⟩ :=
      printsApart_joined layout (level + 1) (.cons hfirst hmore) _ _ hjoined
    exact ⟨hitems, (List.cons.inj (List.append_cancel_left hrest)).2⟩

/-- Equal values with their keys in the same order have the same text only if they are the same. -/
theorem isCongruence_printsApart (layout : Layout) :
    IsCongruence fun a b => ∀ level, PrintsApart (print layout level) a b where
  refl v level rest rest' heq := ⟨rfl, List.append_cancel_left heq⟩
  float x y h level rest rest' heq := by
    cases Binary64.alike_of_numEq h with
    | same => exact ⟨rfl, List.append_cancel_left heq⟩
    | zeros negative negative' =>
      by_cases hsign : negative = negative'
      · obtain rfl := hsign
        exact ⟨rfl, List.append_cancel_left heq⟩
      · cases negative <;> cases negative' <;> first | exact absurd rfl hsign | cases heq
  array xs ys h level rest rest' heq := by
    have hitems := printsApart_enclosed layout level '[' ']' (h.imp fun _ _ hv => hv (level + 1))
    simp only [print, printItems_eq_map] at heq
    obtain ⟨rfl, hrest⟩ := hitems _ _ heq
    exact ⟨rfl, hrest⟩
  object fs gs h level rest rest' heq := by
    have hentry : List.Forall₂ (PrintsApart fun field : String × Value =>
        quote field.1.toList ++ layout.colon ++ print layout (level + 1) field.2) fs gs := by
      refine h.imp fun f g hfield rest rest' heq => ?_
      simp only [hfield.1, List.append_assoc] at heq
      -- The keys are the same, so that the texts of the values begin at the same place.
      obtain ⟨hv, hrest⟩ :=
        hfield.2 (level + 1) _ _ (List.append_cancel_left (List.append_cancel_left heq))
      exact ⟨Prod.ext hfield.1 hv, hrest⟩
    simp only [print, printFields_eq_map] at heq
    obtain ⟨rfl, hrest⟩ := printsApart_enclosed layout level '{' '}' hentry _ _ heq
    exact ⟨rfl, hrest⟩

end Json

open Value

variable {a b : Value}

theorem toJson_inj_of_same (hsame : a.same b = true) (horder : a.KeysInOrder b)
    (hkeys : a.HasUniqueKeys) (h : a.toJson = b.toJson) : a = b := by
  have hprint : Json.print .compact 0 a ++ [] = Json.print .compact 0 b ++ [] :=
    congrArg (· ++ []) (String.ofList_injective h)
  exact ((Json.isCongruence_printsApart .compact).of_same a b hsame horder hkeys 0 _ _ hprint).1

theorem applyFilter_hash (env : Environment) (scope root v : Value) :
    applyFilter env "hash" [] scope root (some v) =
      .ok (some (.string (env.fingerprint v.toJson))) :=
  applyFilter_of_resolved (f := .hash) (by decide) rfl (some v)

/-- Whatever makes the fingerprint of a text, it makes the same one for both values. -/
def SameFingerprint (a b : Value) : Prop :=
  ∀ (env : Environment) (params : List String) (scope root : Value),
    applyFilter env "hash" params scope root (some a) =
      applyFilter env "hash" params scope root (some b)

/-- The text itself can be the fingerprint. -/
theorem SameFingerprint.toJson_eq (h : SameFingerprint a b) : a.toJson = b.toJson := by
  have hhash := h ⟨⟨0, 0⟩, id⟩ [] .null .null
  rw [applyFilter_hash, applyFilter_hash] at hhash
  exact Value.string.inj (Option.some.inj (Except.ok.inj hhash))

/-- Equal values with their keys in the same order have the same text, and the same fingerprint,
exactly when they have zeros with a minus at the same places. -/
theorem sameFingerprint_iff_negativeZeros (hsame : a.same b = true) (horder : a.KeysInOrder b)
    (hkeys : a.HasUniqueKeys) :
    (a.toJson = b.toJson ↔ a.negativeZeros = b.negativeZeros) ∧
      (SameFingerprint a b ↔ a.negativeZeros = b.negativeZeros) := by
  have htext (h : a.toJson = b.toJson) : a.negativeZeros = b.negativeZeros := by
    rw [toJson_inj_of_same hsame horder hkeys h]
  have heq (h : a.negativeZeros = b.negativeZeros) : a = b :=
    (isCongruence_negativeZeros.of_same a b hsame horder hkeys).2 h
  refine ⟨⟨htext, fun h => ?_⟩, ⟨fun h => htext h.toJson_eq, fun h => ?_⟩⟩
  · rw [heq h]
  · rw [heq h]
    exact fun _ _ _ _ => rfl

/-- Two objects that differ in which of their zeros has the minus; their texts are equally long. -/
theorem sameFingerprint_iff_swappedZeros :
    let zeros (negative : Bool) : Value :=
      .object [("k", .array [.float (.finite negative .zero), .float (.finite (!negative) .zero)])]
    (zeros false).same (zeros true) = true ∧ (zeros false).KeysInOrder (zeros true) ∧
      (zeros false).HasUniqueKeys ∧ (zeros false).toJson ≠ (zeros true).toJson ∧
      ¬ SameFingerprint (zeros false) (zeros true) := by
  intro zeros
  have hsame : (zeros false).same (zeros true) = true := by decide
  have horder : (zeros false).KeysInOrder (zeros true) := by
    simp [zeros, KeysInOrder, itemsKeysInOrder, fieldsKeysInOrder]
  have hkeys : (zeros false).HasUniqueKeys := by
    simp [zeros, HasUniqueKeys, itemsHaveUniqueKeys, fieldsHaveUniqueKeys]
  have hzeros : (zeros false).negativeZeros ≠ (zeros true).negativeZeros := by decide
  have hiff := sameFingerprint_iff_negativeZeros hsame horder hkeys
  exact ⟨hsame, horder, hkeys, mt hiff.1.mp hzeros, mt hiff.2.mp hzeros⟩

/-- The two zeros are equal, and their texts and fingerprints differ. -/
theorem not_sameFingerprint_zeros :
    let zero (negative : Bool) : Value := .float (.finite negative .zero)
    (zero false).same (zero true) = true ∧ (zero false).KeysInOrder (zero true) ∧
      (zero false).HasUniqueKeys ∧ (zero false).toJson = "0.0" ∧ (zero true).toJson = "-0.0" ∧
      ¬ SameFingerprint (zero false) (zero true) := by
  intro zero
  have hpositive : (zero false).toJson = "0.0" := by decide
  have hnegative : (zero true).toJson = "-0.0" := by decide
  refine ⟨by decide, trivial, trivial, hpositive, hnegative, fun h => ?_⟩
  have htext := h.toJson_eq
  rw [hpositive, hnegative] at htext
  exact absurd htext (by decide)

end Reshape
