import EntitySql.Proofs.Predicate.RowTests

/-
  A column is in a list if it equals some element, as long as
  NULL is not involved: IN compares with NULL, and a test for
  equality with NULL asks for the absence of a value.

  Key definitions include:
    * `ValueTests.equalOrNull`

  Key theorems include:
    * `ValueTests.any_truth_eq_or_unknown`
    * `ValueTests.any_truth_eq_iff`
    * `Scope.isIn_reads_as_equalities_iff`
-/

namespace EntitySql

------------------------------------------------------------
-- Lists of values
------------------------------------------------------------

namespace ValueTests

variable (κ : ValueTests)

/-
  The truth of a test of a column for equality with a value,
  which for NULL asks whether the column has no value.
-/
def equalOrNull
    (x v : Value) : Truth :=
  if v.isNull then .ofBool x.isNull else κ.truth .eq x v

/- Beside other values than NULL the two equalities agree. -/
theorem map_equalOrNull
    {vs : List Value}
    (x : Value)
    (hNone : .null ∉ vs) :
    vs.map (κ.equalOrNull x) = vs.map (κ.truth .eq x) := by
  apply List.map_congr_left
  intro v hMem
  unfold equalOrNull
  rw [if_neg]
  intro hNull
  cases v <;> first | exact hNone hMem | cases hNull

/- What holds for some element holds as an equality as well. -/
theorem equalOrNull_holds
    {x v : Value}
    (hHolds : κ.truth .eq x v = .holds) :
    κ.equalOrNull x v = .holds := by
  unfold equalOrNull
  split
  · rename_i hNull
    rw [κ.truth_of_null .eq (Or.inr hNull)] at hHolds
    cases hHolds
  · exact hHolds

variable (x : Value)
variable (vs : List Value)

/-
  Membership is as true as the disjunction of the equalities,
  or unknown.
-/
theorem any_truth_eq_or_unknown :
    Truth.any (vs.map (κ.truth .eq x)) =
        .any (vs.map (κ.equalOrNull x)) ∨
      .any (vs.map (κ.truth .eq x)) = Truth.unknown := by
  by_cases hNull : .null ∈ vs
  · have hNotFails := κ.any_truth_ne_fails (x := x) hNull
    cases hMember : Truth.any (vs.map (κ.truth .eq x)) with
    | fails => exact absurd hMember hNotFails
    | unknown => exact Or.inr rfl
    | holds =>
        left
        rw [Truth.any_eq_holds_iff, List.mem_map] at hMember
        rcases hMember with ⟨v, hMem, hHolds⟩
        symm
        rw [Truth.any_eq_holds_iff, List.mem_map]
        exact ⟨v, hMem, κ.equalOrNull_holds hHolds⟩
  · exact Or.inl (congrArg Truth.any (κ.map_equalOrNull x hNull)).symm

/-
  They are equally true if NULL is not listed, if an element
  equals the value, or if there is a value and some other
  element cannot be compared with it.
-/
theorem any_truth_eq_iff :
    Truth.any (vs.map (κ.truth .eq x)) =
        .any (vs.map (κ.equalOrNull x)) ↔
      .null ∉ vs ∨
        .any (vs.map (κ.truth .eq x)) = Truth.holds ∨
        x ≠ .null ∧
          .any (vs.map (κ.equalOrNull x)) = Truth.unknown := by
  have hCases := κ.any_truth_eq_or_unknown x vs
  by_cases hNull : .null ∈ vs
  · have hNotFails := κ.any_truth_ne_fails (x := x) hNull
    by_cases hValue : x = .null
    · -- Every equality is unknown, but the one with NULL holds.
      have hMember :
          Truth.any (vs.map (κ.truth .eq x)) = .unknown :=
        κ.any_truth_of_null (by rw [hValue]; rfl)
          (List.ne_nil_of_mem hNull)
      have hEqual :
          Truth.any (vs.map (κ.equalOrNull x)) = .holds := by
        rw [Truth.any_eq_holds_iff, List.mem_map]
        exact ⟨.null, hNull, by rw [hValue]; rfl⟩
      simp [hMember, hEqual, hNull]
    · revert hCases hNotFails
      generalize Truth.any (vs.map (κ.truth .eq x)) = t
      generalize Truth.any (vs.map (κ.equalOrNull x)) = u
      cases t <;> cases u <;> simp [hNull, hValue]
  · have hSame := congrArg Truth.any (κ.map_equalOrNull x hNull)
    simp [hNull, hSame]

end ValueTests

------------------------------------------------------------
-- Compiled list tests
------------------------------------------------------------

namespace Scope

variable {scope : Scope}
variable {c : ColumnRef}
variable {e : ColumnExpr}

theorem truth?_isIn
    (hColumn : scope.column c = .ok e)
    (vs : List Value)
    (κ : ValueTests)
    (row : ColumnExpr → Value) :
    (c.isIn vs).truth? scope (κ.onRow row) =
      some (.any (vs.map (κ.truth .eq (row e)))) :=
  membershipTruth?_onRow hColumn κ row vs

theorem truth?_any_equal
    (hColumn : scope.column c = .ok e)
    (vs : List Value)
    (κ : ValueTests)
    (row : ColumnExpr → Value) :
    (Predicate.any (vs.map (c.compareValue .eq))).truth? scope
        (κ.onRow row) =
      some (.any (vs.map (κ.equalOrNull (row e)))) := by
  apply Predicate.truth?_any
  rw [List.forall₂_map_left_iff, List.forall₂_map_right_iff,
    List.forall₂_same]
  intro v _
  change Settled.comparisonTruth? scope _ .eq (.column c) (.value v) = _
  rw [comparisonTruth?_column_value,
    constantTruth?_onRow hColumn κ row]
  unfold ValueTests.equalOrNull
  split <;> rfl

/-
  The tests of a column for being in a list, for not being in
  it, and for equality with any of its elements all compile.
  On every row the first is the disjunction of the equalities
  of SQL, the second is its negation, and the third takes
  equality with NULL as the absence of a value. That says
  where the first and the third are equally true, and where
  the second is true just if the third is not.
-/
theorem isIn_reads_as_equalities_iff
    (scope : Scope)
    (c : ColumnRef)
    (e : ColumnExpr)
    (vs : List Value)
    (s : ParameterSet)
    (hColumn : scope.column c = .ok e) :
    ∃ listed excluded equal s₁ s₂ s₃,
      (scope.compile (c.isIn vs)).Yields s listed s₁ ∧
      (scope.compile (c.notIn vs)).Yields s excluded s₂ ∧
      (scope.compile
          (.any (vs.map (c.compareValue .eq)))).Yields
        s equal s₃ ∧
      ∀ (κ : ValueTests) (row : ColumnExpr → Value),
        let x := row e
        let t := Truth.any (vs.map (κ.truth .eq x))
        let u := Truth.any (vs.map (κ.equalOrNull x))
        listed.HasTruth (κ.onRow row) t ∧
          excluded.HasTruth (κ.onRow row) t.not ∧
          equal.HasTruth (κ.onRow row) u ∧
          (t = u ↔
            .null ∉ vs ∨ t = .holds ∨
              x ≠ .null ∧ u = .unknown) ∧
          ((t.not = .holds ↔ u ≠ .holds) ↔
            t ≠ .unknown ∨ u = .holds) := by
  have hListed := truth?_isIn hColumn vs
  have hEqual := truth?_any_equal hColumn vs
  have hExcluded (κ : ValueTests) (row : ColumnExpr → Value) :
      (c.notIn vs).truth? scope (κ.onRow row) =
        some (Truth.any (vs.map (κ.truth .eq (row e)))).not := by
    rw [ColumnRef.notIn, Predicate.truth?, hListed κ row]
    rfl
  -- That a predicate compiles is seen from its truth on one row.
  let κ₀ : ValueTests := ⟨fun _ _ => none, fun _ _ => .unknown⟩
  let row₀ : ColumnExpr → Value := fun _ => .null
  rcases exists_compile (hListed κ₀ row₀) s with
    ⟨listed, s₁, hListedYields, hListedTruth⟩
  rcases exists_compile (hExcluded κ₀ row₀) s with
    ⟨excluded, s₂, hExcludedYields, hExcludedTruth⟩
  rcases exists_compile (hEqual κ₀ row₀) s with
    ⟨equal, s₃, hEqualYields, hEqualTruth⟩
  refine ⟨listed, excluded, equal, s₁, s₂, s₃, hListedYields,
    hExcludedYields, hEqualYields, ?_⟩
  intro κ row x t u
  refine ⟨hListedTruth _ _ (hListed κ row),
    hExcludedTruth _ _ (hExcluded κ row),
    hEqualTruth _ _ (hEqual κ row), κ.any_truth_eq_iff x vs, ?_⟩
  rcases κ.any_truth_eq_or_unknown x vs with hSame | hUnknown
  · change t = u at hSame
    rw [← hSame]
    cases t <;> simp [Truth.not]
  · change t = .unknown at hUnknown
    rw [hUnknown]
    cases u <;> simp [Truth.not]

end Scope

namespace ParentLists

def category : EntityKey :=
  ⟨0, "Category"⟩

def parent : ColumnRef :=
  { entity := category, column := "parent_id" }

/-
  A row whose parent is the first category is found by all of
  the tests for the parents 1 and NULL, however the database
  compares other values.
-/
theorem parent_one_in_one_and_null :
    (Scope.table category).column parent =
        .ok (.bare "parent_id") ∧
      ∃ listed excluded equal s₁ s₂ s₃,
        ((Scope.table category).compile
          (parent.isIn [.int 1, .null])).Yields .empty listed s₁ ∧
        ((Scope.table category).compile
          (parent.notIn [.int 1, .null])).Yields .empty excluded s₂ ∧
        ((Scope.table category).compile
          (.any [parent.compareValue .eq (.int 1),
            parent.isNull])).Yields .empty equal s₃ ∧
        ∀ κ : ValueTests,
          κ.compare (.int 1) (.int 1) = some .eq →
            listed.HasTruth (κ.onRow fun _ => .int 1) .holds ∧
            excluded.HasTruth (κ.onRow fun _ => .int 1) .fails ∧
            equal.HasTruth (κ.onRow fun _ => .int 1) .holds := by
  have hColumn :
      (Scope.table category).column parent =
        .ok (.bare "parent_id") :=
    rfl
  refine ⟨hColumn, ?_⟩
  rcases Scope.isIn_reads_as_equalities_iff (.table category)
      parent (.bare "parent_id") [.int 1, .null] .empty hColumn with
    ⟨listed, excluded, equal, s₁, s₂, s₃, hListed, hExcluded,
      hEqual, hTruths⟩
  refine ⟨listed, excluded, equal, s₁, s₂, s₃, hListed,
    hExcluded, hEqual, ?_⟩
  intro κ hOne
  rcases hTruths κ fun _ => .int 1 with
    ⟨hListed, hExcluded, hEqual, _, _⟩
  have hTrue : κ.truth .eq (.int 1) (.int 1) = .holds :=
    κ.truth_of_compare .eq rfl rfl hOne
  simp only [List.map_cons, Truth.any_cons, hTrue,
    ValueTests.equalOrNull, Value.isNull] at hListed hExcluded hEqual
  exact ⟨hListed, hExcluded, hEqual⟩

/-
  A row without a parent is not found among those with the
  parents NULL, though its parent equals NULL; and a row with
  a parent is not found among the others, though it does not.
-/
theorem null_list_finds_nothing :
    let scope := Scope.table category
    let null : Parameter := ⟨"parent_id_InParam_1", .null⟩
    let listed : CompiledPredicate :=
      ⟨[.condition
        ⟨"parent_id", .bare "parent_id", .isIn, .list [null]⟩]⟩
    let excluded : CompiledPredicate :=
      ⟨[.condition
        ⟨"parent_id", .bare "parent_id", .notIn, .list [null]⟩]⟩
    let equal : CompiledPredicate :=
      ⟨[.condition
        ⟨"parent_id", .bare "parent_id", .isNull, .none⟩]⟩
    (scope.compile (parent.isIn [.null])).Yields .empty listed
        ⟨[null]⟩ ∧
      (scope.compile (parent.notIn [.null])).Yields .empty excluded
        ⟨[null]⟩ ∧
      (scope.compile
          (.any ([.null].map (parent.compareValue .eq)))).Yields
        .empty equal .empty ∧
      ∀ κ : ValueTests,
        listed.HasTruth (κ.onRow fun _ => .null) .unknown ∧
        equal.HasTruth (κ.onRow fun _ => .null) .holds ∧
        excluded.HasTruth (κ.onRow fun _ => .int 7) .unknown ∧
        equal.HasTruth (κ.onRow fun _ => .int 7) .fails := by
  intro scope null listed excluded equal
  refine ⟨rfl, rfl, rfl, ?_⟩
  intro κ
  exact ⟨⟨_, .condition _, rfl⟩, ⟨_, .condition _, rfl⟩,
    ⟨_, .condition _, rfl⟩, ⟨_, .condition _, rfl⟩⟩

end ParentLists

end EntitySql
