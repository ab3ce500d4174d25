import Mathlib
import EntitySql.Predicate.Parameters

/-
  This file shows that binding a value never takes a name
  that stands for another value.

  Key definitions include:
    * `ParameterSet.names`

  Key theorems include:
    * `ParameterSet.le_size_of_taken`
    * `ParameterSet.firstFree_fresh`
    * `ParameterSet.bind_cases`
    * `ParameterSet.bindList_values`
    * `ParameterSet.bindList_params`
    * `ParameterSet.bindList_nodup`
-/

namespace EntitySql

namespace ParameterSet

/- The names that are taken, in the order of binding. -/
def names
    (s : ParameterSet) : List String :=
  s.params.map Parameter.name

@[simp] theorem contains_iff
    (s : ParameterSet)
    (name : String) :
    s.contains name = true ↔ name ∈ s.names := by
  simp [contains, names]

@[simp] theorem names_push
    (s : ParameterSet)
    (p : Parameter) :
    (s.push p).names = s.names ++ [p.name] := by
  simp [push, names]

/- A push of a name that is not taken keeps names distinct. -/
theorem nodup_push
    {s : ParameterSet}
    {p : Parameter}
    (hNodup : s.names.Nodup)
    (hFresh : p.name ∉ s.names) :
    (s.push p).names.Nodup := by
  rw [names_push]
  apply List.Nodup.append hNodup (List.nodup_singleton _)
  intro name hTaken hNew
  rw [List.mem_singleton] at hNew
  exact hFresh (hNew ▸ hTaken)

------------------------------------------------------------
-- Free names
------------------------------------------------------------

/- Every candidate before the one that is found is taken. -/
theorem contains_of_lt_search
    {s : ParameterSet}
    {candidate : Nat → String}
    {fuel n k : Nat}
    (hFrom : n ≤ k)
    (hBefore : k < firstFree.search s candidate fuel n) :
    candidate k ∈ s.names := by
  induction fuel generalizing n with
  | zero =>
      simp only [firstFree.search] at hBefore
      omega
  | succ fuel ih =>
      simp only [firstFree.search] at hBefore
      by_cases hTaken : s.contains (candidate n) = true
      · rw [if_pos hTaken] at hBefore
        by_cases hHere : k = n
        · subst hHere
          exact (contains_iff s _).mp hTaken
        · exact ih (by omega) hBefore
      · rw [if_neg hTaken] at hBefore
        omega

/- A search that ends early has found a free candidate. -/
theorem search_free
    {s : ParameterSet}
    {candidate : Nat → String}
    {fuel n : Nat}
    (hEarly :
      firstFree.search s candidate fuel n < n + fuel) :
    candidate (firstFree.search s candidate fuel n) ∉
      s.names := by
  induction fuel generalizing n with
  | zero =>
      simp only [firstFree.search] at hEarly
      omega
  | succ fuel ih =>
      simp only [firstFree.search] at hEarly ⊢
      by_cases hTaken : s.contains (candidate n) = true
      · rw [if_pos hTaken] at hEarly ⊢
        exact ih (by omega)
      · rw [if_neg hTaken]
        exact fun hMem => hTaken ((contains_iff s _).mpr hMem)

/-
  Different candidates that stand in a row and are all taken
  are names of as many parameters.
-/
theorem le_size_of_taken
    {s : ParameterSet}
    {candidate : Nat → String}
    {n count : Nat}
    (hInjective :
      ∀ i j, n ≤ i → n ≤ j →
        candidate i = candidate j → i = j)
    (hTaken :
      ∀ k, n ≤ k → k < n + count → candidate k ∈ s.names) :
    count ≤ s.size := by
  have hAllTaken :
      (List.range' n count).map candidate ⊆ s.names := by
    intro name hName
    rcases List.mem_map.mp hName with ⟨k, hRange, rfl⟩
    have hk := List.mem_range'_1.mp hRange
    exact hTaken k hk.1 hk.2
  have hDistinct :
      ((List.range' n count).map candidate).Nodup := by
    apply List.Nodup.map_on _ (List.nodup_range' 1)
    intro i hi j hj hSame
    exact hInjective i j (List.mem_range'_1.mp hi).1
      (List.mem_range'_1.mp hj).1 hSame
  have hLength := (hDistinct.subperm hAllTaken).length_le
  simpa only [names, size, List.length_map, List.length_range']
    using hLength

/-
  The candidate that is found is free. If the search ran to
  its bound and found its last candidate taken as well, the
  set would hold more names than parameters.
-/
theorem firstFree_fresh
    (s : ParameterSet)
    (candidate : Nat → String)
    (n : Nat)
    (hInjective :
      ∀ i j, n ≤ i → n ≤ j →
        candidate i = candidate j → i = j) :
    candidate (s.firstFree candidate n) ∉ s.names := by
  intro hTaken
  let found := s.firstFree candidate n
  have hBound : n + s.size ≤ found := by
    by_contra hEarly
    exact search_free (Nat.lt_of_not_le hEarly) hTaken
  have hTooMany : s.size + 1 ≤ s.size := by
    apply le_size_of_taken hInjective
    intro k hFrom hLess
    by_cases hLast : k = found
    · rw [hLast]
      exact hTaken
    · exact contains_of_lt_search hFrom
        (show k < found by omega)
  omega

/- The names that a base offers from one on are different. -/
theorem numbered_injective
    (base : String)
    (i j : Nat)
    (hi : 1 ≤ i)
    (hj : 1 ≤ j)
    (hSame : numbered base i = numbered base j) :
    i = j := by
  have hLonger (n : Nat) : base ≠ base ++ toString n := by
    intro hEq
    have hLength := congrArg String.length hEq
    rw [String.length_append] at hLength
    have hPos : 0 < (toString n).length :=
      Nat.length_repr_pos
    omega
  unfold numbered at hSame
  by_cases hiOne : i ≤ 1
  · by_cases hjOne : j ≤ 1
    · omega
    · rw [if_pos hiOne, if_neg hjOne] at hSame
      exact absurd hSame (hLonger j)
  · by_cases hjOne : j ≤ 1
    · rw [if_neg hiOne, if_pos hjOne] at hSame
      exact absurd hSame.symm (hLonger i)
    · rw [if_neg hiOne, if_neg hjOne,
        String.append_right_inj] at hSame
      exact Nat.repr_inj.mp hSame

theorem memberName_injective
    (base : String)
    (i j : Nat)
    (hSame : memberName base i = memberName base j) :
    i = j := by
  unfold memberName at hSame
  rw [String.append_right_inj] at hSame
  exact Nat.repr_inj.mp hSame

------------------------------------------------------------
-- Binding one value
------------------------------------------------------------

/-
  Binding a value either finds an equal one or adds it under
  a name that is free.
-/
theorem bind_cases
    (s : ParameterSet)
    (base : String)
    (v : Value) :
    (∃ p ∈ s.params, p.value.equal v = true ∧
      s.bind base v = (p.name, s)) ∨
    (∃ name, name ∉ s.names ∧
      s.bind base v = (name, s.push ⟨name, v⟩)) := by
  unfold bind
  cases hFound :
      s.params.find? fun p =>
        p.value.equal v && extendsName p.name base with
  | some p =>
      have hMatches := List.find?_some hFound
      simp only [Bool.and_eq_true] at hMatches
      exact Or.inl ⟨p, List.mem_of_find?_eq_some hFound,
        hMatches.1, rfl⟩
  | none =>
      exact Or.inr ⟨_,
        firstFree_fresh s (numbered base) 1
          (numbered_injective base), rfl⟩

------------------------------------------------------------
-- Binding a list
------------------------------------------------------------

/- A new parameter for every value, in order. -/
theorem bindFrom_values
    (s : ParameterSet)
    (base : String)
    (n : Nat)
    (vs : List Value) :
    (s.bindFrom base n vs).1.map Parameter.value = vs := by
  induction vs generalizing s n with
  | nil => rfl
  | cons v vs ih => simp [bindFrom, ih]

/- The new parameters are added at the end. -/
theorem bindFrom_params
    (s : ParameterSet)
    (base : String)
    (n : Nat)
    (vs : List Value) :
    (s.bindFrom base n vs).2.params =
      s.params ++ (s.bindFrom base n vs).1 := by
  induction vs generalizing s n with
  | nil => simp [bindFrom]
  | cons v vs ih => simp [bindFrom, ih, push]

/- The new parameters keep the names distinct. -/
theorem bindFrom_nodup
    (s : ParameterSet)
    (base : String)
    (n : Nat)
    (vs : List Value)
    (hNodup : s.names.Nodup) :
    (s.bindFrom base n vs).2.names.Nodup := by
  induction vs generalizing s n with
  | nil => exact hNodup
  | cons v vs ih =>
      apply ih
      apply nodup_push hNodup
      exact firstFree_fresh s (memberName base) n
        fun i j _ _ => memberName_injective base i j

theorem bindList_values
    (s : ParameterSet)
    (base : String)
    (vs : List Value) :
    (s.bindList base vs).1.map Parameter.value = vs :=
  bindFrom_values s base 1 vs

theorem bindList_params
    (s : ParameterSet)
    (base : String)
    (vs : List Value) :
    (s.bindList base vs).2.params =
      s.params ++ (s.bindList base vs).1 :=
  bindFrom_params s base 1 vs

theorem bindList_nodup
    (s : ParameterSet)
    (base : String)
    (vs : List Value)
    (hNodup : s.names.Nodup) :
    (s.bindList base vs).2.names.Nodup :=
  bindFrom_nodup s base 1 vs hNodup

end ParameterSet

end EntitySql
