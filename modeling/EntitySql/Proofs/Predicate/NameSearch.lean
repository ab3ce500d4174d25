import EntitySql.Proofs.Predicate.TwinRuns

/-
  This file says which name a value gets when it is bound.

  Key definitions include:
    * `Parameter.Serves`
    * `ParameterSet.SearchEnds`

  Key theorems include:
    * `ParameterSet.extendsName_iff`
    * `ParameterSet.searchEnds_firstFree`
    * `ParameterSet.bind_reuses_or_adds`

  The search for a free name has no bound of its own. It ends
  because the names that it tries are all different, and a set
  has only so many of them.
-/

namespace EntitySql

------------------------------------------------------------
-- Parameters that can be used again
------------------------------------------------------------

/-
  A parameter that serves for a value under a base: its value
  is equal, and its name is the base with any number of digits
  after it.
-/
def Parameter.Serves
    (p : Parameter)
    (base : String)
    (v : Value) : Prop :=
  p.value.equal v = true ∧
    ∃ digits : List Char,
      (∀ c ∈ digits, c.isDigit = true) ∧
      p.name = base ++ String.ofList digits

namespace ParameterSet

/- The digits are what is left of the name after the base. -/
theorem extendsName_iff
    {name base : String} :
    extendsName name base = true ↔
      ∃ digits : List Char,
        (∀ c ∈ digits, c.isDigit = true) ∧
        name = base ++ String.ofList digits := by
  unfold extendsName
  rw [Bool.and_eq_true, List.isPrefixOf_iff_prefix, List.all_eq_true]
  constructor
  · rintro ⟨⟨digits, hName⟩, hDigits⟩
    rw [← hName, List.drop_left] at hDigits
    refine ⟨digits, hDigits, ?_⟩
    rw [← String.toList_inj, String.toList_append,
      String.toList_ofList, hName]
  · rintro ⟨digits, hDigits, rfl⟩
    rw [String.toList_append, String.toList_ofList, List.drop_left]
    exact ⟨List.prefix_append _ _, hDigits⟩

theorem serves_iff
    {p : Parameter}
    {base : String}
    {v : Value} :
    p.Serves base v ↔
      (p.value.equal v && extendsName p.name base) = true := by
  rw [Bool.and_eq_true, extendsName_iff]
  rfl

/- The names that a base offers are extensions of it. -/
theorem extendsName_numbered
    (base : String)
    (n : Nat) :
    extendsName (numbered base n) base = true := by
  rw [extendsName_iff]
  unfold numbered
  split
  · exact ⟨[], List.forall_mem_nil _, String.append_empty.symm⟩
  · refine ⟨(toString n).toList, ?_, by rw [String.ofList_toList]⟩
    intro c hMem
    rw [Nat.toString_eq_repr, Nat.toList_repr] at hMem
    exact Nat.isDigit_of_mem_toDigits (by omega) (by omega) hMem

------------------------------------------------------------
-- Searches without a bound
------------------------------------------------------------

/-
  The search that starts at one candidate and goes on to the
  next as long as the name is taken ends at another one.
-/
inductive SearchEnds
    (s : ParameterSet)
    (candidate : Nat → String) : Nat → Nat → Prop where
  | free {n}
      (hFree : candidate n ∉ s.names) :
      SearchEnds s candidate n n
  | taken {n k}
      (hTaken : candidate n ∈ s.names)
      (hRest : SearchEnds s candidate (n + 1) k) :
      SearchEnds s candidate n k

variable {s : ParameterSet}
variable {candidate : Nat → String}
variable {n k : Nat}

/-
  Where a search ends is settled by what it has met: only taken
  names, and then a free one.
-/
theorem searchEnds_iff :
    SearchEnds s candidate n k ↔
      n ≤ k ∧ candidate k ∉ s.names ∧
        ∀ j, n ≤ j → j < k → candidate j ∈ s.names := by
  constructor
  · intro hEnds
    induction hEnds with
    | free hFree => exact ⟨Nat.le_refl _, hFree, by omega⟩
    | @taken n k hTaken _ ih =>
        rcases ih with ⟨hFrom, hFree, hBefore⟩
        refine ⟨by omega, hFree, ?_⟩
        intro j hj hjk
        by_cases hHere : j = n
        · rwa [hHere]
        · exact hBefore j (by omega) hjk
  · rintro ⟨hFrom, hFree, hBefore⟩
    -- The induction is on the number of taken names.
    obtain ⟨tries, rfl⟩ := Nat.exists_eq_add_of_le hFrom
    induction tries generalizing n with
    | zero => exact .free hFree
    | succ tries ih =>
        have hShift : n + (tries + 1) = n + 1 + tries := by omega
        refine .taken (hBefore n (Nat.le_refl n) (by omega)) ?_
        rw [hShift] at hFree hBefore ⊢
        exact ih (by omega) hFree fun j hj => hBefore j (by omega)

/- Of two ends the higher one would have been free before. -/
theorem SearchEnds.unique
    {l : Nat}
    (hEnds : SearchEnds s candidate n k)
    (hOther : SearchEnds s candidate n l) :
    k = l := by
  rcases searchEnds_iff.mp hEnds with ⟨hk, hkFree, hkBefore⟩
  rcases searchEnds_iff.mp hOther with ⟨hl, hlFree, hlBefore⟩
  rcases Nat.lt_trichotomy k l with hLess | hSame | hMore
  · exact absurd (hlBefore k hk hLess) hkFree
  · exact hSame
  · exact absurd (hkBefore l hl hMore) hlFree

/- The bounded search does not pass its bound. -/
theorem search_bounds
    (s : ParameterSet)
    (candidate : Nat → String)
    (fuel n : Nat) :
    n ≤ firstFree.search s candidate fuel n ∧
      firstFree.search s candidate fuel n ≤ n + fuel := by
  induction fuel generalizing n with
  | zero => exact ⟨Nat.le_refl n, Nat.le_refl n⟩
  | succ fuel ih =>
      simp only [firstFree.search]
      split
      · have hNext := ih (n + 1)
        omega
      · omega

/-
  Among different candidates the search comes to an end, after
  at most as many taken names as there are parameters.
-/
theorem searchEnds_firstFree
    (s : ParameterSet)
    (hInjective :
      ∀ i j, n ≤ i → n ≤ j →
        candidate i = candidate j → i = j) :
    SearchEnds s candidate n (s.firstFree candidate n) ∧
      s.firstFree candidate n ≤ n + s.size := by
  have hBounds := search_bounds s candidate s.size n
  refine ⟨searchEnds_iff.mpr ⟨hBounds.1, ?_, ?_⟩, hBounds.2⟩
  · exact s.firstFree_fresh candidate n hInjective
  · exact fun j hFrom hBefore => contains_of_lt_search hFrom hBefore

------------------------------------------------------------
-- Binding one value
------------------------------------------------------------

/-
  If parameters serve for the value, the first of them gives
  its name and the set stays. Otherwise the search for a free
  name among the base and the numbered ones ends, after at most
  as many taken names as there are parameters, and the value is
  added at the end under the first name that is free.
-/
theorem bind_reuses_or_adds
    (s : ParameterSet)
    (base : String)
    (v : Value) :
    (∃ before p after,
      s.params = before ++ p :: after ∧
      p.Serves base v ∧
      (∀ q ∈ before, ¬ q.Serves base v) ∧
      s.bind base v = (p.name, s)) ∨
    ((∀ q ∈ s.params, ¬ q.Serves base v) ∧
      ∃ n,
        SearchEnds s (numbered base) 1 n ∧
        n ≤ s.size + 1 ∧
        numbered base n ∉ s.names ∧
        (∀ k, 1 ≤ k → k < n → numbered base k ∈ s.names) ∧
        s.bind base v =
          (numbered base n, ⟨s.params ++ [⟨numbered base n, v⟩]⟩)) := by
  cases hFound :
      s.params.find? fun p =>
        p.value.equal v && extendsName p.name base with
  | some p =>
      left
      rcases List.find?_eq_some_iff_append.mp hFound with
        ⟨hServes, before, after, hParams, hBefore⟩
      refine ⟨before, p, after, hParams, serves_iff.mpr hServes, ?_, ?_⟩
      · intro q hMem hOther
        have hSkipped := hBefore q hMem
        rw [serves_iff.mp hOther] at hSkipped
        cases hSkipped
      · unfold bind
        rw [hFound]
  | none =>
      right
      rcases searchEnds_firstFree s (numbered_injective base) with
        ⟨hEnds, hBound⟩
      rcases searchEnds_iff.mp hEnds with ⟨_, hFree, hBefore⟩
      refine ⟨?_, _, hEnds, by omega, hFree, hBefore, ?_⟩
      · intro q hMem hServes
        exact List.find?_eq_none.mp hFound q hMem
          (serves_iff.mp hServes)
      · unfold bind
        rw [hFound]
        rfl

/- The name a2 belongs to the base a as well as to a2. -/
example :
    let s : ParameterSet :=
      ⟨[⟨"a", .int 1⟩, ⟨"a2", .int 2⟩, ⟨"a22", .int 1⟩]⟩
    (s.bind "a" (.int 2)).1 = "a2" ∧
      (s.bind "a2" (.int 1)).1 = "a22" ∧
      (s.bind "a2" (.int 3)).1 = "a23" ∧
      (s.bind "a" (.int 3)).1 = "a3" := by
  decide +kernel

end ParameterSet

end EntitySql
