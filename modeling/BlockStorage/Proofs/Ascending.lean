import BlockStorage.Machine
import Mathlib.Algebra.Order.Ring.Rat

/-!
Ids in ascending order.

Two values that can be in a set can be compared if both are texts, both are bytes, both are spans or
both are numbers (`Comparable`). Among values that can all be compared, and of which none is unequal
to itself, the order is transitive and any two are in order one way or the other. So sorting the
members of a set puts them in ascending order, and none is lost or shown twice.

Statement: `sortedIds_of_ordered`; ids that cannot all be compared are not sorted
(`sortedIds_of_unordered`), and texts always can (`ordered_texts`).
-/
namespace BlockStorage

/-! ### Numbers -/

namespace Number

variable {a b c : Number}

theorem atMost_exact (p q : Rat) : (exact p).atMost (exact q) = decide (p ≤ q) := by
  rw [Bool.eq_iff_iff]
  simp [atMost, less, equal, le_iff_lt_or_eq]

theorem atMost_trans (hab : a.atMost b = true) (hbc : b.atMost c = true) : a.atMost c = true := by
  -- Only the case of three exact numbers is not settled by evaluation.
  rcases a with p | (_ | _) | _ <;> rcases b with q | (_ | _) | _ <;>
    rcases c with r | (_ | _) | _ <;>
      first
        | rfl
        | exact absurd hab Bool.false_ne_true
        | exact absurd hbc Bool.false_ne_true
        | skip
  rw [atMost_exact, decide_eq_true_iff] at hab hbc ⊢
  exact le_trans hab hbc

theorem atMost_total (ha : a.equal a = true) (hb : b.equal b = true) :
    a.atMost b = true ∨ b.atMost a = true := by
  rcases a with p | (_ | _) | _ <;> rcases b with q | (_ | _) | _ <;>
    first
      | exact .inl rfl
      | exact .inr rfl
      | exact absurd ha Bool.false_ne_true
      | exact absurd hb Bool.false_ne_true
      | skip
  simp only [atMost_exact, decide_eq_true_iff]
  exact le_total p q

theorem less_of_atMost (h : a.atMost b = true) (hdiffer : a.equal b = false) :
    a.less b = true := by
  rwa [atMost, hdiffer, Bool.or_false] at h

theorem equal_comm (a b : Number) : a.equal b = b.equal a := by
  cases a <;> cases b <;> simp [equal, Bool.beq_comm]

end Number

/-! ### Values that can be compared -/

namespace Value

/-- What can be in a set and can be compared. -/
inductive Comparable : Value → Value → Prop
  | texts (s t : String) : Comparable (.text s) (.text t)
  | bytes (s t : List UInt8) : Comparable (.bytes s) (.bytes t)
  | spans (d e : Duration) : Comparable (.span d) (.span e)
  | numbers {v w : Value} {a b : Number} (hv : v.number? = some a) (hw : w.number? = some b) :
      Comparable v w

variable {u v w : Value} {a b : Number}

theorem atMost?_numbers (hv : v.number? = some a) (hw : w.number? = some b) :
    v.atMost? w = some (a.atMost b) := by
  cases v <;> cases w <;> simp_all [number?, atMost?]

theorem less?_numbers (hv : v.number? = some a) (hw : w.number? = some b) :
    v.less? w = some (a.less b) := by
  cases v <;> cases w <;> simp_all [number?, less?]

theorem comparable_of_isSome (hv : v.hashable = true) (h : (v.atMost? w).isSome = true) :
    Comparable v w := by
  cases v <;> cases w <;>
    first
      | exact .texts _ _
      | exact .bytes _ _
      | exact .spans _ _
      | exact .numbers rfl rfl
      | exact absurd hv Bool.false_ne_true
      | simp [atMost?, number?] at h

theorem atMost?_trans (hu : u.hashable = true) (hv : v.hashable = true)
    (huv : u.atMost? v = some true) (hvw : v.atMost? w = some true) : u.atMost? w = some true := by
  have hcompare := comparable_of_isSome hv (Option.isSome_of_mem hvw)
  cases comparable_of_isSome hu (Option.isSome_of_mem huv) with
  | texts s t =>
    cases hcompare with
    | texts _ r =>
      simp only [atMost?, Option.some.injEq, decide_eq_true_iff] at huv hvw ⊢
      exact String.le_trans huv hvw
    | numbers hv hw => cases hv
  | bytes s t =>
    cases hcompare with
    | bytes _ r =>
      simp only [atMost?, Option.some.injEq, decide_eq_true_iff] at huv hvw ⊢
      exact List.le_trans huv hvw
    | numbers hv hw => cases hv
  | spans d e =>
    cases hcompare with
    | spans _ r =>
      simp only [atMost?, Option.some.injEq, decide_eq_true_iff] at huv hvw ⊢
      exact le_trans huv hvw
    | numbers hv hw => cases hv
  | numbers hu hv =>
    cases hcompare with
    | numbers hv' hw =>
      cases hv.symm.trans hv'
      rw [atMost?_numbers hu hv, Option.some.injEq] at huv
      rw [atMost?_numbers hv hw, Option.some.injEq] at hvw
      rw [atMost?_numbers hu hw, Number.atMost_trans huv hvw]
    | _ => cases hv

theorem Comparable.atMost?_total (h : Comparable v w) (hv : v.equal v = true)
    (hw : w.equal w = true) : v.atMost? w = some true ∨ w.atMost? v = some true := by
  cases h with
  | texts s t =>
    simp only [atMost?, Option.some.injEq, decide_eq_true_iff]
    exact String.le_total s t
  | bytes s t =>
    simp only [atMost?, Option.some.injEq, decide_eq_true_iff]
    exact List.le_total s t
  | spans d e =>
    simp only [atMost?, Option.some.injEq, decide_eq_true_iff]
    exact le_total _ _
  | numbers ha hb =>
    rw [equal_of_number ha ha] at hv
    rw [equal_of_number hb hb] at hw
    simp only [atMost?_numbers ha hb, atMost?_numbers hb ha, Option.some.injEq]
    exact Number.atMost_total hv hw

/-- Of two different values that are in order the first is less. -/
theorem Comparable.less?_of_atMost? (h : Comparable v w) (horder : v.atMost? w = some true)
    (hdiffer : v.equal w = false) : v.less? w = some true := by
  cases h with
  | texts s t =>
    simp only [atMost?, less?, equal, Option.some.injEq, decide_eq_true_iff, beq_eq_false_iff_ne]
      at horder hdiffer ⊢
    exact Std.lt_of_le_of_ne horder hdiffer
  | bytes s t =>
    simp only [atMost?, less?, equal, Option.some.injEq, decide_eq_true_iff, beq_eq_false_iff_ne]
      at horder hdiffer ⊢
    exact Std.lt_of_le_of_ne horder hdiffer
  | spans d e =>
    simp only [atMost?, less?, equal, Option.some.injEq, decide_eq_true_iff, beq_eq_false_iff_ne]
      at horder hdiffer ⊢
    exact lt_of_le_of_ne horder hdiffer
  | numbers ha hb =>
    rw [atMost?_numbers ha hb, Option.some.injEq] at horder
    rw [equal_of_number ha hb] at hdiffer
    rw [less?_numbers ha hb, Number.less_of_atMost horder hdiffer]

theorem Comparable.isSome (h : Comparable v w) : (v.atMost? w).isSome = true := by
  cases h with
  | numbers ha hb => rw [atMost?_numbers ha hb, Option.isSome_some]
  | _ => rfl

theorem Comparable.equal_comm (h : Comparable v w) : v.equal w = w.equal v := by
  cases h with
  | numbers ha hb => rw [equal_of_number ha hb, equal_of_number hb ha, Number.equal_comm]
  | _ => simp [equal, Bool.beq_comm]

/-! ### Sorting -/

/-- Values that can be compared, none of which is unequal to itself. -/
structure Ordered (xs : List Value) : Prop where
  comparable : comparable xs = true
  reflexive : ∀ v ∈ xs, v.equal v = true

/-- The values ascend, and no two are equal. -/
def Ascending (xs : List Value) : Prop := xs.Pairwise fun v w => v.less? w = some true

variable {xs : List Value}

theorem pairwise_distinct (xs : List Value) :
    (distinct xs).Pairwise fun v w => v.equal w = false := by
  suffices ∀ (ys seen : List Value), seen.Pairwise (fun v w => v.equal w = false) →
      (ys.foldl (fun seen v => if mem v seen then seen else seen ++ [v]) seen).Pairwise
        fun v w => v.equal w = false from this xs [] .nil
  intro ys
  induction ys with
  | nil => exact fun _ h => h
  | cons y rest ih =>
    intro seen h
    refine ih _ ?_
    dsimp only
    split
    · exact h
    · rename_i hnew
      refine List.pairwise_append.2 ⟨h, List.pairwise_singleton _ _, fun v hv w hw => ?_⟩
      rw [List.mem_singleton.1 hw]
      simp only [mem, List.any_eq_true, not_exists, not_and, Bool.not_eq_true] at hnew
      exact hnew v hv

theorem ascending_of_short (h : xs.length ≤ 1) : Ascending xs := by
  match xs, h with
  | [], _ => exact .nil
  | [v], _ => exact List.pairwise_singleton _ v

/-- Sorting values that can all be compared makes them ascend. -/
theorem ascending_mergeSort (hcompare : ∀ v ∈ xs, ∀ w ∈ xs, Comparable v w)
    (hset : ∀ v ∈ xs, v.hashable = true) (hself : ∀ v ∈ xs, v.equal v = true)
    (hdistinct : xs.Pairwise fun v w => v.equal w = false) :
    Ascending (xs.mergeSort fun v w => (v.atMost? w).getD true) := by
  -- The order is one on the members only, so it is these that are sorted.
  let le : {v // v ∈ xs} → {v // v ∈ xs} → Bool := fun v w => (v.1.atMost? w.1).getD true
  have hmap : (xs.attach.mergeSort le).map Subtype.val =
      xs.mergeSort fun v w => (v.atMost? w).getD true := by
    have hsame := List.map_mergeSort (r := le) (s := fun v w => (v.atMost? w).getD true)
      (f := Subtype.val) (l := xs.attach) fun _ _ _ _ => rfl
    rwa [List.attach_map_subtype_val] at hsame
  have hle : ∀ v w, le v w = true → v.1.atMost? w.1 = some true := by
    intro v w h
    rcases (hcompare v v.2 w w.2).atMost?_total (hself v v.2) (hself w w.2) with hvw | hwv
    · exact hvw
    · cases hvw : v.1.atMost? w.1 with
      | none =>
        have hsome := (hcompare v v.2 w w.2).isSome
        rw [hvw] at hsome
        cases hsome
      | some r =>
        simp only [le, hvw, Option.getD_some] at h
        rw [h]
  have htrans : ∀ u v w, le u v = true → le v w = true → le u w = true := by
    intro u v w huv hvw
    have huw := atMost?_trans (hset u u.2) (hset v v.2) (hle u v huv) (hle v w hvw)
    simp only [le, huw, Option.getD_some]
  have htotal : ∀ v w, (le v w || le w v) = true := by
    intro v w
    rw [Bool.or_eq_true]
    refine ((hcompare v v.2 w w.2).atMost?_total (hself v v.2) (hself w w.2)).imp ?_ ?_
    · exact fun h => by simp only [le, h, Option.getD_some]
    · exact fun h => by simp only [le, h, Option.getD_some]
  have hdiffer : (xs.attach.mergeSort le).Pairwise fun v w => v.1.equal w.1 = false := by
    rw [← List.attach_map_subtype_val xs, List.pairwise_map] at hdistinct
    refine hdistinct.perm (List.mergeSort_perm _ _).symm fun {v w} h => ?_
    rwa [(hcompare w w.2 v v.2).equal_comm]
  rw [Ascending, ← hmap, List.pairwise_map]
  refine (List.pairwise_mergeSort htrans htotal xs.attach).imp₂ (fun v w h hne => ?_) hdiffer
  exact (hcompare v v.2 w w.2).less?_of_atMost? (hle v w h) hne

end Value

namespace Machine

open Value

variable {xs ids : List Value}

theorem hashable_of_members (h : members xs = .ok ids) : ∀ v ∈ ids, v.hashable = true := by
  unfold members at h
  split at h
  · cases h
  · rename_i hnone
    cases h
    intro v hv
    simpa using List.find?_eq_none.1 hnone v (distinct_subset hv)

theorem pairwise_of_members (h : members xs = .ok ids) :
    ids.Pairwise fun v w => v.equal w = false := by
  unfold members at h
  split at h
  · cases h
  · cases h
    exact pairwise_distinct xs

/-- **The members of a set are sorted in ascending order**, if they can be compared. -/
theorem sortedIds_of_ordered (hset : members xs = .ok ids) (h : Ordered ids) :
    ∃ sorted, sortedIds ids = .ok sorted ∧ sorted.Perm ids ∧ Ascending sorted := by
  have hreflexive : (ids.all fun v => v.equal v) = true := List.all_eq_true.2 h.reflexive
  refine ⟨ids.mergeSort fun v w => (v.atMost? w).getD true, ?_, List.mergeSort_perm _ _, ?_⟩
  · simp only [sortedIds, sorted?, h.comparable, hreflexive, Bool.not_true, Bool.false_eq_true,
      if_false, if_true]
  · have hcomparable := h.comparable
    rw [comparable, Bool.or_eq_true, decide_eq_true_iff] at hcomparable
    rcases hcomparable with hshort | hall
    · exact ascending_of_short (by rwa [List.length_mergeSort])
    · refine ascending_mergeSort (fun v hv w hw => ?_) (hashable_of_members hset) h.reflexive
        (pairwise_of_members hset)
      rw [List.all_eq_true] at hall
      exact comparable_of_isSome (hashable_of_members hset v hv)
        (List.all_eq_true.1 (hall v hv) w hw)

/-- Ids that cannot be compared are not sorted. -/
theorem sortedIds_of_unordered (h : comparable ids = false) :
    sortedIds ids = .error (.wrongKind "ids of different kinds have no order") := by
  simp only [sortedIds, sorted?, h, Bool.not_false, if_true]

theorem ordered_texts (texts : List String) : Ordered (texts.map Value.text) where
  comparable := by
    rw [comparable, Bool.or_eq_true]
    refine .inr (List.all_eq_true.2 fun v hv => List.all_eq_true.2 fun w hw => ?_)
    obtain ⟨s, -, rfl⟩ := List.mem_map.1 hv
    obtain ⟨t, -, rfl⟩ := List.mem_map.1 hw
    rfl
  reflexive v hv := by
    obtain ⟨s, -, rfl⟩ := List.mem_map.1 hv
    simp

end Machine

end BlockStorage
