import EntitySql.Proofs.Predicate.Binding

/-
  This file says what the compilation of a single test can
  yield: which fragment, and which parameters it binds.

  Key theorems include:
    * `Scope.valueCondition_cases`
    * `Scope.columnComparison_cases`
    * `Scope.valueComparison_cases`
    * `Scope.membership_cases`
    * `Scope.pattern_cases`
-/

namespace EntitySql

namespace Scope

variable {scope : Scope}
variable {s s' : ParameterSet}
variable {fragment : Fragment}
variable {negated : Bool}

------------------------------------------------------------
-- Comparisons
------------------------------------------------------------

/-
  A column beside a constant. NULL binds nothing, and every
  other constant is bound under the name of the column.
-/
theorem valueCondition_cases
    {c : ColumnRef}
    {op : CompareOp}
    {v : Value}
    (hYields :
      (scope.valueCondition c op v negated).Yields
        s fragment s') :
    ∃ e, scope.column c = .ok e ∧
      ((v = .null ∧ op = .eq ∧ s' = s ∧
          fragment =
            .condition
              ⟨c.column, e, SqlOperator.isNull.negateIf negated,
                .none⟩) ∨
        (v = .null ∧ op = .ne ∧ s' = s ∧
          fragment =
            .condition
              ⟨c.column, e,
                SqlOperator.isNotNull.negateIf negated, .none⟩) ∨
        (v.isNull = false ∧ s' = (s.bind c.column v).2 ∧
          fragment =
            .condition
              ⟨c.column, e,
                (SqlOperator.ofCompare op).negateIf negated,
                .parameter ⟨(s.bind c.column v).1, v⟩⟩)) := by
  simp only [valueCondition, Binding.yields_bind_iff,
    Binding.yields_liftM_iff] at hYields
  rcases hYields with ⟨e, _, ⟨hColumn, rfl⟩, hYields⟩
  refine ⟨e, hColumn, ?_⟩
  cases hNull : v.isNull with
  | true =>
      have hValue : v = .null := by
        cases v <;> simp [Value.isNull] at hNull ⊢
      cases op with
      | eq =>
          simp only [hNull, if_true, pure_bind,
            Binding.yields_pure_iff] at hYields
          rcases hYields with ⟨rfl, rfl⟩
          exact Or.inl ⟨hValue, rfl, rfl, rfl⟩
      | ne =>
          simp only [hNull, if_true, pure_bind,
            Binding.yields_pure_iff] at hYields
          rcases hYields with ⟨rfl, rfl⟩
          exact Or.inr (Or.inl ⟨hValue, rfl, rfl, rfl⟩)
      | lt => simp [hNull] at hYields
      | le => simp [hNull] at hYields
      | gt => simp [hNull] at hYields
      | ge => simp [hNull] at hYields
  | false =>
      simp only [hNull, Bool.false_eq_true, if_false,
        Binding.yields_bind_iff, Binding.yields_bindValue_iff,
        Binding.yields_pure_iff] at hYields
      rcases hYields with
        ⟨p, _, ⟨rfl, rfl⟩, _, _, ⟨rfl, rfl⟩, rfl, rfl⟩
      exact Or.inr (Or.inr ⟨rfl, rfl, rfl⟩)

/- Two columns are compared without a parameter. -/
theorem columnComparison_cases
    {l r : ColumnRef}
    {op : CompareOp}
    (hYields :
      (scope.comparison (.column l) op (.column r)
        negated).Yields s fragment s') :
    ∃ e other, scope.column l = .ok e ∧
      scope.column r = .ok other ∧ s' = s ∧
      fragment =
        .condition
          ⟨l.column, e,
            (SqlOperator.ofCompare op).negateIf negated,
            .column other⟩ := by
  simp only [comparison, Binding.yields_bind_iff,
    Binding.yields_liftM_iff, Binding.yields_pure_iff] at hYields
  rcases hYields with
    ⟨e, _, ⟨hLeft, rfl⟩, other, _, ⟨hRight, rfl⟩, rfl, rfl⟩
  exact ⟨e, other, hLeft, hRight, rfl, rfl⟩

/- Two constants are folded. -/
theorem valueComparison_cases
    {l r : Value}
    {op : CompareOp}
    (hYields :
      (scope.comparison (.value l) op (.value r)
        negated).Yields s fragment s') :
    ∃ holds, l.foldComparison op r = .ok holds ∧ s' = s ∧
      fragment = .constant (holds != negated) := by
  simp only [comparison, Binding.yields_bind_iff,
    Binding.yields_liftM_iff, Binding.yields_pure_iff] at hYields
  rcases hYields with ⟨holds, _, ⟨hFold, rfl⟩, rfl, rfl⟩
  exact ⟨holds, hFold, rfl, rfl⟩

/- A list is not compared with anything. -/
theorem comparison_list_left
    {vs : List Value}
    {op : CompareOp}
    {right : Settled} :
    ¬ (scope.comparison (.list vs) op right negated).Yields
        s fragment s' := by
  cases right <;> simp [comparison]

theorem comparison_list_right
    {vs : List Value}
    {op : CompareOp}
    {left : Settled} :
    ¬ (scope.comparison left op (.list vs) negated).Yields
        s fragment s' := by
  cases left <;> simp [comparison]

------------------------------------------------------------
-- Memberships
------------------------------------------------------------

/- The values that the second operand of a membership lists. -/
def listed? : Settled → Option (List Value)
  | .list vs => some vs
  | .value v => some [v]
  | .column _ => none

/-
  A membership test. A column is in no empty list, any other
  list is bound element by element, and a constant is looked
  up at once.
-/
theorem membership_cases
    {column values : Settled}
    (hYields :
      (scope.membership column values negated).Yields
        s fragment s') :
    ∃ vs, listed? values = some vs ∧
      ((∃ c, column = .column c ∧ vs = [] ∧ s' = s ∧
          fragment = .constant negated) ∨
        (∃ c e, column = .column c ∧ vs ≠ [] ∧
          scope.column c = .ok e ∧
          s' = (s.bindList c.column vs).2 ∧
          fragment =
            .condition
              ⟨c.column, e, SqlOperator.isIn.negateIf negated,
                .list (s.bindList c.column vs).1⟩) ∨
        (∃ v, column = .value v ∧ s' = s ∧
          fragment =
            .constant (vs.any v.sameConstant != negated))) := by
  have hList :
      ∃ vs, listed? values = some vs ∧
        (scope.membership column (.list vs) negated).Yields
          s fragment s' := by
    cases values with
    | list vs => exact ⟨vs, rfl, hYields⟩
    | value v => exact ⟨[v], rfl, hYields⟩
    | column c => simp [membership] at hYields
  rcases hList with ⟨vs, hListed, hYields⟩
  refine ⟨vs, hListed, ?_⟩
  cases column with
  | column c =>
      cases vs with
      | nil =>
          simp only [membership, List.isEmpty_nil, if_true,
            pure_bind, Binding.yields_pure_iff] at hYields
          rcases hYields with ⟨rfl, rfl⟩
          exact Or.inl ⟨c, rfl, rfl, rfl, rfl⟩
      | cons v vs =>
          simp only [membership, List.isEmpty_cons,
            Bool.false_eq_true, if_false, pure_bind,
            Binding.yields_bind_iff, Binding.yields_liftM_iff,
            Binding.yields_bindValues_iff,
            Binding.yields_pure_iff] at hYields
          rcases hYields with
            ⟨e, _, ⟨hColumn, rfl⟩, ps, _, ⟨rfl, rfl⟩, rfl, rfl⟩
          exact Or.inr (Or.inl ⟨c, e, rfl, by simp, hColumn,
            rfl, rfl⟩)
  | value v =>
      simp only [membership, pure_bind,
        Binding.yields_pure_iff] at hYields
      rcases hYields with ⟨rfl, rfl⟩
      exact Or.inr (Or.inr ⟨v, rfl, rfl, rfl⟩)
  | list ws => simp [membership] at hYields

------------------------------------------------------------
-- Patterns
------------------------------------------------------------

/-
  A pattern test. The pattern for a column is bound under the
  name of the column, and a constant is matched at once.
-/
theorem pattern_cases
    {column value : Settled}
    {kind : PatternKind}
    (hYields :
      (scope.pattern column kind value negated).Yields
        s fragment s') :
    ∃ text, value = .value (.text text) ∧
      ((∃ c e, column = .column c ∧ scope.column c = .ok e ∧
          s' =
            (s.bind c.column (.text (kind.likePattern text))).2 ∧
          fragment =
            .condition
              ⟨c.column, e, SqlOperator.like.negateIf negated,
                .parameter
                  ⟨(s.bind c.column
                    (.text (kind.likePattern text))).1,
                    .text (kind.likePattern text)⟩⟩) ∨
        (∃ subject, column = .value (.text subject) ∧ s' = s ∧
          fragment =
            .constant (kind.holds subject text != negated))) := by
  cases value with
  | column c => simp [pattern] at hYields
  | list vs => simp [pattern] at hYields
  | value v =>
      cases v with
      | text text =>
          refine ⟨text, rfl, ?_⟩
          cases column with
          | column c =>
              simp only [pattern, Binding.yields_bind_iff,
                Binding.yields_liftM_iff,
                Binding.yields_bindValue_iff,
                Binding.yields_pure_iff] at hYields
              rcases hYields with
                ⟨e, _, ⟨hColumn, rfl⟩, p, _, ⟨rfl, rfl⟩, rfl,
                  rfl⟩
              exact Or.inl ⟨c, e, rfl, hColumn, rfl, rfl⟩
          | list vs => simp [pattern] at hYields
          | value w =>
              cases w with
              | text subject =>
                  simp only [pattern,
                    Binding.yields_pure_iff] at hYields
                  rcases hYields with ⟨rfl, rfl⟩
                  exact Or.inr ⟨subject, rfl, rfl, rfl⟩
              | null => simp [pattern] at hYields
              | bool b => simp [pattern] at hYields
              | int n => simp [pattern] at hYields
              | float x => simp [pattern] at hYields
              | blob bytes => simp [pattern] at hYields
      | null => simp [pattern] at hYields
      | bool b => simp [pattern] at hYields
      | int n => simp [pattern] at hYields
      | float x => simp [pattern] at hYields
      | blob bytes => simp [pattern] at hYields

end Scope

end EntitySql
