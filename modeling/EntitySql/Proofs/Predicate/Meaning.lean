import EntitySql.Proofs.Predicate.Grammar
import EntitySql.Proofs.Predicate.ParameterNames
import EntitySql.Proofs.Predicate.Tests

/-
  Compilation keeps the meaning of predicates: the fragments
  can be read in exactly one way, and what is read is as true
  as the predicate on every row.

  Key definitions include:
    * `Fragment.ReadsAs`

  Key theorems include:
    * `Fragment.ReadsAs.combine`
    * `Scope.comparison_readsAs`
    * `Scope.membership_readsAs`
    * `Scope.pattern_readsAs`
    * `Scope.fragments_readsAs`
    * `Scope.exists_formula_of_compile`
    * `Scope.compile_reads_once_and_keeps_truth`
-/

namespace EntitySql

------------------------------------------------------------
-- Readings of fragments
------------------------------------------------------------

namespace Fragment

/-
  The fragments have a reading that is as true as a meaning,
  or as its negation.
-/
def ReadsAs
    (fs : List Fragment)
    (negated : Bool)
    (meaning : Valuation → Option Truth) : Prop :=
  ∃ f, Derives fs f ∧
    ∀ ν, (meaning ν).map (·.negateIf negated) =
      some (f.truth ν)

/- A folded constant takes the parity of its negations. -/
theorem readsAs_constant
    (value negated : Bool) :
    ReadsAs [.constant (value != negated)] negated
      fun _ => some (.ofBool value) := by
  refine ⟨_, .constant _, ?_⟩
  intro ν
  simp [Formula.truth, Truth.ofBool_bne]

/- A condition takes the parity into its operator. -/
theorem readsAs_condition
    (property : String)
    (column : ColumnExpr)
    (op : SqlOperator)
    (operand : ConditionOperand)
    (negated : Bool) :
    ReadsAs
      [.condition
        ⟨property, column, op.negateIf negated, operand⟩]
      negated
      fun ν =>
        some (op.truth fun test =>
          ν ⟨column, test, operand.tested⟩) := by
  refine ⟨_, .condition _, ?_⟩
  intro ν
  simp [Formula.truth, Condition.truth,
    SqlOperator.truth_negateIf]

/- Under a negation a meaning is read with the other parity. -/
theorem ReadsAs.not
    {fs : List Fragment}
    {negated : Bool}
    {meaning : Valuation → Option Truth}
    (hReads : ReadsAs fs (!negated) meaning) :
    ReadsAs fs negated fun ν => (meaning ν).map Truth.not := by
  rcases hReads with ⟨f, hDerives, hTruth⟩
  refine ⟨f, hDerives, ?_⟩
  intro ν
  rw [← hTruth ν, Option.map_map]
  congr 1
  funext t
  exact t.not_negateIf negated

/-
  Two readings are combined to one of what the meanings join
  to, if the combinator is the join under that parity.
-/
theorem ReadsAs.combine
    {left right : List Fragment}
    {negated : Bool}
    {meaning meaning' : Valuation → Option Truth}
    {c : Combinator}
    {join : Truth → Truth → Truth}
    (hJoin : ∀ l r,
      (join l r).negateIf negated =
        c.truth (l.negateIf negated) (r.negateIf negated))
    (hLeft : ReadsAs left negated meaning)
    (hRight : ReadsAs right negated meaning') :
    ReadsAs (Scope.combine c left right) negated
      (fun ν => do
        let l ← meaning ν
        let r ← meaning' ν
        some (join l r)) := by
  rcases hLeft with ⟨f, hDerives, hTruth⟩
  rcases hRight with ⟨g, hDerives', hTruth'⟩
  refine ⟨_, derives_combine _ hDerives hDerives', ?_⟩
  intro ν
  rcases Option.map_eq_some_iff.mp (hTruth ν) with
    ⟨l, hl, hlTruth⟩
  rcases Option.map_eq_some_iff.mp (hTruth' ν) with
    ⟨r, hr, hrTruth⟩
  have hJoined := hJoin l r
  rw [hlTruth, hrTruth] at hJoined
  simp [Formula.truth, hl, hr, hJoined]

/-
  De Morgan's laws: the negation of a conjunction is read as
  the disjunction of the negations, and the other way round.
-/
theorem ReadsAs.and
    {left right : List Fragment}
    {negated : Bool}
    {meaning meaning' : Valuation → Option Truth}
    (hLeft : ReadsAs left negated meaning)
    (hRight : ReadsAs right negated meaning') :
    ReadsAs
      (Scope.combine (if negated then .or else .and) left right)
      negated
      (fun ν => do
        let l ← meaning ν
        let r ← meaning' ν
        some (l.and r)) := by
  apply ReadsAs.combine _ hLeft hRight
  intro l r
  cases negated with
  | false => rfl
  | true => exact l.not_and r

theorem ReadsAs.or
    {left right : List Fragment}
    {negated : Bool}
    {meaning meaning' : Valuation → Option Truth}
    (hLeft : ReadsAs left negated meaning)
    (hRight : ReadsAs right negated meaning') :
    ReadsAs
      (Scope.combine (if negated then .and else .or) left right)
      negated
      (fun ν => do
        let l ← meaning ν
        let r ← meaning' ν
        some (l.or r)) := by
  apply ReadsAs.combine _ hLeft hRight
  intro l r
  cases negated with
  | false => rfl
  | true => exact l.not_or r

end Fragment

------------------------------------------------------------
-- Single tests
------------------------------------------------------------

namespace Scope

open Fragment

variable {scope : Scope}
variable {s s' : ParameterSet}
variable {fragment : Fragment}
variable {negated : Bool}

theorem column?_eq_some
    {c : ColumnRef}
    {e : ColumnExpr}
    (hColumn : scope.column c = .ok e) :
    scope.column? c = some e := by
  simp [column?, hColumn, Except.toOption]

/- The meaning of a column beside a constant. -/
def constantTruth?
    (scope : Scope)
    (ν : Valuation)
    (op : CompareOp)
    (c : ColumnRef)
    (v : Value) : Option Truth := do
  let e ← scope.column? c
  if v.isNull then op.nullTruth? fun test => ν ⟨e, test, .none⟩
  else some (op.truth fun test => ν ⟨e, test, .value v⟩)

theorem comparisonTruth?_column_value
    (ν : Valuation)
    (op : CompareOp)
    (c : ColumnRef)
    (v : Value) :
    Settled.comparisonTruth? scope ν op (.column c) (.value v) =
      scope.constantTruth? ν op c v := by
  cases v <;> rfl

/- With the constant on the left the operator is mirrored. -/
theorem comparisonTruth?_value_column
    (ν : Valuation)
    (op : CompareOp)
    (c : ColumnRef)
    (v : Value) :
    Settled.comparisonTruth? scope ν op (.value v) (.column c) =
      scope.constantTruth? ν op.swapped c v := by
  cases v <;>
    simp [Settled.comparisonTruth?, constantTruth?,
      Value.isNull, CompareOp.nullTruth?_swapped,
      CompareOp.truth_swapped]

theorem valueCondition_readsAs
    {c : ColumnRef}
    {op : CompareOp}
    {v : Value}
    (hYields :
      (scope.valueCondition c op v negated).Yields
        s fragment s') :
    ReadsAs [fragment] negated
      fun ν => scope.constantTruth? ν op c v := by
  rcases valueCondition_cases hYields with ⟨e, hColumn, hCases⟩
  simp only [constantTruth?, column?_eq_some hColumn]
  rcases hCases with
    ⟨rfl, rfl, -, rfl⟩ | ⟨rfl, rfl, -, rfl⟩ |
      ⟨hValue, -, rfl⟩
  · exact readsAs_condition c.column e .isNull .none negated
  · exact readsAs_condition c.column e .isNotNull .none negated
  · have hReads :=
      readsAs_condition c.column e (.ofCompare op)
        (.parameter ⟨(s.bind c.column v).1, v⟩) negated
    simpa [hValue, SqlOperator.truth_ofCompare,
      ConditionOperand.tested] using hReads

/- A compiled comparison is read as the comparison. -/
theorem comparison_readsAs
    {left right : Settled}
    {op : CompareOp}
    (hYields :
      (scope.comparison left op right negated).Yields
        s fragment s') :
    ReadsAs [fragment] negated
      fun ν => left.comparisonTruth? scope ν op right := by
  cases left with
  | column l =>
      cases right with
      | column r =>
          rcases columnComparison_cases hYields with
            ⟨e, other, hLeft, hRight, -, rfl⟩
          have hReads :=
            readsAs_condition l.column e (.ofCompare op)
              (.column other) negated
          simpa [Settled.comparisonTruth?,
            column?_eq_some hLeft, column?_eq_some hRight,
            SqlOperator.truth_ofCompare,
            ConditionOperand.tested] using hReads
      | value v =>
          simp only [comparisonTruth?_column_value]
          exact valueCondition_readsAs hYields
      | list vs => exact absurd hYields comparison_list_right
  | value v =>
      cases right with
      | column r =>
          simp only [comparisonTruth?_value_column]
          exact valueCondition_readsAs hYields
      | value w =>
          rcases valueComparison_cases hYields with
            ⟨holds, hFold, -, rfl⟩
          simpa [Settled.comparisonTruth?, hFold,
            Except.toOption] using
            readsAs_constant holds negated
      | list vs => exact absurd hYields comparison_list_right
  | list vs => exact absurd hYields comparison_list_left

/- The meaning of a membership in the values that are listed. -/
theorem membershipTruth?_listed
    (ν : Valuation)
    (column : Settled)
    {values : Settled}
    {vs : List Value}
    (hListed : listed? values = some vs) :
    column.membershipTruth? scope ν values =
      column.membershipTruth? scope ν (.list vs) := by
  cases values with
  | column c => cases hListed
  | list ws =>
      cases hListed
      rfl
  | value v =>
      cases hListed
      cases column <;> simp [Settled.membershipTruth?]

/- A compiled membership test is read as the membership. -/
theorem membership_readsAs
    {column values : Settled}
    (hYields :
      (scope.membership column values negated).Yields
        s fragment s') :
    ReadsAs [fragment] negated
      fun ν => column.membershipTruth? scope ν values := by
  rcases membership_cases hYields with ⟨vs, hListed, hCases⟩
  simp only [membershipTruth?_listed _ column hListed]
  rcases hCases with
    ⟨c, rfl, rfl, -, rfl⟩ |
      ⟨c, e, rfl, hNonempty, hColumn, -, rfl⟩ |
      ⟨v, rfl, -, rfl⟩
  · simpa [Settled.membershipTruth?, Truth.ofBool] using
      readsAs_constant false negated
  · cases vs with
    | nil => exact absurd rfl hNonempty
    | cons v vs =>
        have hReads :=
          readsAs_condition c.column e .isIn
            (.list (s.bindList c.column (v :: vs)).1) negated
        simpa [Settled.membershipTruth?,
          column?_eq_some hColumn, SqlOperator.truth,
          ConditionOperand.tested,
          ParameterSet.bindList_values] using hReads
  · exact readsAs_constant _ negated

/- A compiled pattern test is read as the pattern test. -/
theorem pattern_readsAs
    {column value : Settled}
    {kind : PatternKind}
    (hYields :
      (scope.pattern column kind value negated).Yields
        s fragment s') :
    ReadsAs [fragment] negated
      fun ν => column.patternTruth? scope ν kind value := by
  rcases pattern_cases hYields with ⟨text, rfl, hCases⟩
  rcases hCases with
    ⟨c, e, rfl, hColumn, -, rfl⟩ | ⟨subject, rfl, -, rfl⟩
  · have hReads :=
      readsAs_condition c.column e .like
        (.parameter
          ⟨(s.bind c.column (.text (kind.likePattern text))).1,
            .text (kind.likePattern text)⟩) negated
    simpa [Settled.patternTruth?, column?_eq_some hColumn,
      SqlOperator.truth, ConditionOperand.tested] using hReads
  · exact readsAs_constant _ negated

------------------------------------------------------------
-- Predicates
------------------------------------------------------------

/-
  The fragments of a predicate under any number of negations.
  The induction is on the predicate for both parities at once,
  since a negation passes the other parity to what is inside.
-/
theorem fragments_readsAs
    {p : Predicate}
    {fs : List Fragment}
    (hYields : (scope.fragments negated p).Yields s fs s') :
    ReadsAs fs negated fun ν => p.truth? scope ν := by
  induction p generalizing negated s fs s' with
  | comparison left op right =>
      simp only [fragments, Binding.yields_bind_iff,
        Binding.yields_pure_iff] at hYields
      rcases hYields with ⟨fragment, _, hTest, rfl, rfl⟩
      exact comparison_readsAs hTest
  | membership column values =>
      simp only [fragments, Binding.yields_bind_iff,
        Binding.yields_pure_iff] at hYields
      rcases hYields with ⟨fragment, _, hTest, rfl, rfl⟩
      exact membership_readsAs hTest
  | pattern column kind value =>
      simp only [fragments, Binding.yields_bind_iff,
        Binding.yields_pure_iff] at hYields
      rcases hYields with ⟨fragment, _, hTest, rfl, rfl⟩
      exact pattern_readsAs hTest
  | and left right ihLeft ihRight =>
      simp only [fragments, Binding.yields_bind_iff,
        Binding.yields_pure_iff] at hYields
      rcases hYields with
        ⟨l, _, hLeft, r, _, hRight, rfl, rfl⟩
      exact (ihLeft hLeft).and (ihRight hRight)
  | or left right ihLeft ihRight =>
      simp only [fragments, Binding.yields_bind_iff,
        Binding.yields_pure_iff] at hYields
      rcases hYields with
        ⟨l, _, hLeft, r, _, hRight, rfl, rfl⟩
      exact (ihLeft hLeft).or (ihRight hRight)
  | not inner ih => exact (ih hYields).not
  | literal value =>
      simp only [fragments, Binding.yields_pure_iff] at hYields
      rcases hYields with ⟨rfl, rfl⟩
      exact readsAs_constant value negated

/- What a predicate compiles to reads like the predicate. -/
theorem exists_formula_of_compile
    {p : Predicate}
    {compiled : CompiledPredicate}
    (hYields : (scope.compile p).Yields s compiled s') :
    ∃ f, Derives compiled.fragments f ∧
      ∀ ν, p.truth? scope ν = some (f.truth ν) := by
  simp only [compile, Binding.yields_bind_iff,
    Binding.yields_pure_iff] at hYields
  rcases hYields with ⟨fs, _, hFragments, rfl, rfl⟩
  rcases fragments_readsAs hFragments with
    ⟨f, hDerives, hTruth⟩
  refine ⟨f, hDerives, ?_⟩
  intro ν
  simpa using hTruth ν

/-
  The fragments of a compiled predicate have one reading and
  no other, and on every row it is as true as the predicate.
-/
theorem compile_reads_once_and_keeps_truth
    (scope : Scope)
    (p : Predicate)
    (s s' : ParameterSet)
    (compiled : CompiledPredicate)
    (hYields : (scope.compile p).Yields s compiled s') :
    ∃ f, Derives compiled.fragments f ∧
      (∀ g, Derives compiled.fragments g → g = f) ∧
      ∀ ν, p.truth? scope ν = some (f.truth ν) := by
  simp only [compile, Binding.yields_bind_iff,
    Binding.yields_pure_iff] at hYields
  rcases hYields with ⟨fs, _, hFragments, rfl, rfl⟩
  rcases fragments_readsAs hFragments with
    ⟨f, hDerives, hTruth⟩
  refine ⟨f, hDerives, ?_, ?_⟩
  · intro g hOther
    exact hOther.unique hDerives
  · intro ν
    simpa using hTruth ν

/-
  NOT (5 < rating AND (rating IN () OR NOT title = NULL))
  compiles to rating <= 5 OR (1 = 1 AND title IS NULL).
-/
theorem compile_negated_conjunction_keeps_truth :
    let blog : EntityKey := ⟨0, "Blog"⟩
    let rating : ColumnRef := { entity := blog, column := "rating" }
    let title : ColumnRef := { entity := blog, column := "title" }
    let scope : Scope := .table blog
    let p : Predicate :=
      .not (.and
        (.comparison (.literal (.int 5)) .lt (.column rating))
        (.or (rating.isIn []) (.not title.isNull)))
    let compiled : CompiledPredicate :=
      ⟨[ .opening,
          .condition
            ⟨"rating", .bare "rating", .le,
              .parameter ⟨"rating", .int 5⟩⟩,
          .closing, .combinator .or, .opening,
          .opening, .constant true, .closing,
          .combinator .and,
          .opening,
          .condition ⟨"title", .bare "title", .isNull, .none⟩,
          .closing, .closing ]⟩
    (scope.compile p).Yields .empty compiled
        ⟨[⟨"rating", .int 5⟩]⟩ ∧
      ∃ f, Derives compiled.fragments f ∧
        (∀ g, Derives compiled.fragments g → g = f) ∧
        ∀ ν, p.truth? scope ν = some (f.truth ν) := by
  intro blog rating title scope p compiled
  have hYields :
      (scope.compile p).Yields .empty compiled
        ⟨[⟨"rating", .int 5⟩]⟩ := rfl
  exact ⟨hYields,
    compile_reads_once_and_keeps_truth _ _ _ _ _ hYields⟩

end Scope

end EntitySql
