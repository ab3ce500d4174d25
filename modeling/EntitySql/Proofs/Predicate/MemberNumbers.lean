import EntitySql.Proofs.Predicate.NameSearch

/-
  This file says which names the values of a list get when they
  are bound.

  Key definitions include:
    * `ParameterSet.ListEnds`
    * `ParameterSet.TakesNumbers`

  Key theorems include:
    * `ParameterSet.listEnds_iff`
    * `ParameterSet.ListEnds.takes_numbers`
    * `ParameterSet.bindList_takes_free_numbers`

  One counter runs through the whole list: the search for the
  name of a value starts behind the number of the value before
  it, in a set that holds that value already. The names that
  are added on the way have lower numbers than the counter, so
  they are never the reason for which a number is skipped.
-/

namespace EntitySql

namespace ParameterSet

------------------------------------------------------------
-- Loops without a bound
------------------------------------------------------------

/-
  The loop over the values of a list, each with a search for
  its name, ends with some parameters and a set that has them.
-/
inductive ListEnds
    (base : String) :
    ParameterSet → Nat → List Value →
      List Parameter → ParameterSet → Prop where
  | done {s n} :
      ListEnds base s n [] [] s
  | next {s n k v vs bound t}
      (hSearch : SearchEnds s (memberName base) n k)
      (hRest :
        ListEnds base (s.push ⟨memberName base k, v⟩) (k + 1) vs
          bound t) :
      ListEnds base s n (v :: vs)
        (⟨memberName base k, v⟩ :: bound) t

variable {s t : ParameterSet}
variable {base : String}
variable {n k : Nat}
variable {v : Value}
variable {vs : List Value}
variable {bound : List Parameter}

/- The name of a value is found, whatever is taken. -/
theorem searchEnds_memberName
    (s : ParameterSet)
    (base : String)
    (n : Nat) :
    SearchEnds s (memberName base) n
      (s.firstFree (memberName base) n) :=
  (searchEnds_firstFree s fun i j _ _ =>
    memberName_injective base i j).1

/- The loop ends with what the bounded searches give. -/
theorem listEnds_bindFrom
    (s : ParameterSet)
    (base : String)
    (n : Nat)
    (vs : List Value) :
    ListEnds base s n vs
      (s.bindFrom base n vs).1 (s.bindFrom base n vs).2 := by
  induction vs generalizing s n with
  | nil => exact .done
  | cons v vs ih =>
      exact .next (searchEnds_memberName s base n) (ih _ _)

/- The loop can end in one way only. -/
theorem listEnds_iff :
    ListEnds base s n vs bound t ↔
      s.bindFrom base n vs = (bound, t) := by
  constructor
  · intro hEnds
    induction hEnds with
    | done => rfl
    | @next s n k v vs bound t hSearch _ ih =>
        cases hSearch.unique (searchEnds_memberName s base n)
        simp only [bindFrom, ih]
  · intro hBind
    have hEnds := listEnds_bindFrom s base n vs
    rwa [hBind] at hEnds

------------------------------------------------------------
-- Numbers
------------------------------------------------------------

/-
  The numbers that a loop takes when its counter starts at `n`:
  each is free and higher than the one before it, and what is
  skipped on the way to any of them is taken.
-/
structure TakesNumbers
    (s : ParameterSet)
    (base : String)
    (n : Nat)
    (numbers : List Nat) : Prop where
  increasing : numbers.Pairwise (· < ·)
  from_start : ∀ k ∈ numbers, n ≤ k
  free : ∀ k ∈ numbers, memberName base k ∉ s.names
  skipped :
    ∀ last ∈ numbers, ∀ k, n ≤ k → k < last → k ∉ numbers →
      memberName base k ∈ s.names

theorem takesNumbers_nil :
    TakesNumbers s base n [] where
  increasing := .nil
  from_start := List.forall_mem_nil _
  free := List.forall_mem_nil _
  skipped := List.forall_mem_nil _

/-
  A number that is found comes before those that are taken
  behind it. A later number is skipped for a name that the set
  had, since the one that was added has a lower number.
-/
theorem TakesNumbers.cons
    {numbers : List Nat}
    (hSearch : SearchEnds s (memberName base) n k)
    (hRest :
      TakesNumbers (s.push ⟨memberName base k, v⟩) base (k + 1)
        numbers) :
    TakesNumbers s base n (k :: numbers) := by
  rcases searchEnds_iff.mp hSearch with ⟨hFrom, hFree, hBefore⟩
  have hBehind : ∀ j ∈ numbers, k < j := hRest.from_start
  constructor
  case increasing =>
    exact List.pairwise_cons.mpr ⟨hBehind, hRest.increasing⟩
  case from_start =>
    refine List.forall_mem_cons.mpr ⟨hFrom, ?_⟩
    exact fun j hMem => hFrom.trans (hBehind j hMem).le
  case free =>
    refine List.forall_mem_cons.mpr ⟨hFree, ?_⟩
    intro j hMem hTaken
    apply hRest.free j hMem
    rw [names_push]
    exact List.mem_append_left _ hTaken
  case skipped =>
    intro last hLast j hj hjLast hSkipped
    rcases List.ne_and_not_mem_of_not_mem_cons hSkipped with
      ⟨hOther, hSkipped⟩
    by_cases hBeforeFound : j < k
    · exact hBefore j hj hBeforeFound
    · have hLater : last ∈ numbers := by
        rcases List.mem_cons.mp hLast with rfl | hLater
        · exact absurd hjLast hBeforeFound
        · exact hLater
      have hTaken :=
        hRest.skipped last hLater j (by omega) hjLast hSkipped
      rw [names_push, List.mem_append, List.mem_singleton] at hTaken
      exact hTaken.resolve_right fun hSame =>
        hOther (memberName_injective base j k hSame)

/- The induction is on the loop, one value after the other. -/
theorem ListEnds.takes_numbers
    (hEnds : ListEnds base s n vs bound t) :
    ∃ numbers,
      TakesNumbers s base n numbers ∧
      bound.map Parameter.name = numbers.map (memberName base) := by
  induction hEnds with
  | done => exact ⟨[], takesNumbers_nil, rfl⟩
  | next hSearch _ ih =>
      rcases ih with ⟨numbers, hNumbers, hNames⟩
      refine ⟨_ :: numbers, hNumbers.cons hSearch, ?_⟩
      rw [List.map_cons, List.map_cons, hNames]

/-
  No number is higher than there are parameters at the end:
  all numbers up to it are names of parameters, each of its own.
-/
theorem TakesNumbers.le_size
    {numbers : List Nat}
    (hNumbers : TakesNumbers s base 1 numbers)
    (hNames : t.names = s.names ++ numbers.map (memberName base))
    (hMem : k ∈ numbers) :
    k ≤ t.size := by
  apply le_size_of_taken fun i j _ _ => memberName_injective base i j
  intro j hFrom hLess
  rw [hNames, List.mem_append]
  by_cases hNumber : j ∈ numbers
  · exact Or.inr (List.mem_map_of_mem hNumber)
  · have hOther : j ≠ k := fun hSame => hNumber (hSame ▸ hMem)
    exact Or.inl
      (hNumbers.skipped k hMem j hFrom (by omega) hNumber)

------------------------------------------------------------
-- Binding a list
------------------------------------------------------------

/-
  Binding a list ends, and in one way only. It adds a parameter
  for every value behind those that were there, in the order of
  the list and with the value as it is, and gives these
  parameters back. Their numbers increase and were free, what
  lies between one and the last of them and is not among them
  was taken, and no number is higher than there are parameters
  at the end. Distinct names stay distinct.
-/
theorem bindList_takes_free_numbers
    (s : ParameterSet)
    (base : String)
    (vs : List Value) :
    ∃ (bound : List Parameter) (t : ParameterSet)
      (numbers : List Nat),
      s.bindList base vs = (bound, t) ∧
      (∀ bound' t',
        ListEnds base s 1 vs bound' t' ↔ bound' = bound ∧ t' = t) ∧
      t.params = s.params ++ bound ∧
      bound.map Parameter.value = vs ∧
      bound.map Parameter.name = numbers.map (memberName base) ∧
      numbers.Pairwise (· < ·) ∧
      (∀ k ∈ numbers,
        1 ≤ k ∧ k ≤ t.size ∧ memberName base k ∉ s.names) ∧
      (∀ last ∈ numbers, ∀ k, 1 ≤ k → k < last → k ∉ numbers →
        memberName base k ∈ s.names) ∧
      (t.names.Nodup ↔ s.names.Nodup) := by
  rcases hBind : s.bindList base vs with ⟨bound, t⟩
  have hParams := s.bindList_params base vs
  have hValues := s.bindList_values base vs
  have hDistinct := s.bindList_nodup base vs
  rw [hBind] at hParams hValues hDistinct
  rcases (listEnds_iff.mpr hBind).takes_numbers with
    ⟨numbers, hNumbers, hBound⟩
  have hNames : t.names = s.names ++ numbers.map (memberName base) := by
    rw [names, hParams, List.map_append, hBound]
    rfl
  refine ⟨bound, t, numbers, rfl, ?_, hParams, hValues, hBound,
    hNumbers.increasing, ?_, hNumbers.skipped, ?_, hDistinct⟩
  · intro bound' t'
    rw [listEnds_iff, ← bindList, hBind, Prod.mk.injEq]
    exact and_congr eq_comm eq_comm
  · exact fun k hMem =>
      ⟨hNumbers.from_start k hMem, hNumbers.le_size hNames hMem,
        hNumbers.free k hMem⟩
  · intro hAfter
    rw [hNames] at hAfter
    exact hAfter.of_append_left

/- A taken name in the way of the second value is skipped. -/
example :
    let s : ParameterSet := ⟨[⟨"id_InParam_2", .int 99⟩]⟩
    (s.bindList "id" [.int 1, .int 2]).1 =
      [⟨"id_InParam_1", .int 1⟩, ⟨"id_InParam_3", .int 2⟩] := by
  decide +kernel

end ParameterSet

end EntitySql
