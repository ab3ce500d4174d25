import EntitySql.Proofs.Predicate.Meaning
import EntitySql.Proofs.Predicate.Negation
import EntitySql.Proofs.Session.StoredRows
import EntitySql.Proofs.Statement.Paging

/-
  This file says which rows a query keeps when it excludes a
  predicate, compared with the rows that it keeps when it
  filters by it.

  Key theorems include:
    * `CompiledPredicate.ReadsOn.negate`
    * `Query.plan_exclude`
    * `Query.exclude_keeps_failing_rows`
    * `Categories.top_category_in_neither`

  A row on which the predicate is unknown is kept by neither
  query, so the two are complementary on all other rows only.
-/

namespace EntitySql

------------------------------------------------------------
-- Sent values
------------------------------------------------------------

/- Values are sent alike for a fragment and its counterpart. -/
theorem Fragment.sent_negate
    (params : List Parameter)
    (fragment : Fragment) :
    fragment.negate.sent params = (fragment.sent params).negate := by
  cases fragment <;> rfl

namespace CompiledPredicate

variable {params : List Parameter}
variable {ν : Valuation}
variable {p : CompiledPredicate}
variable {t : Truth}

/- The counterpart of a predicate is as true as its negation. -/
theorem ReadsOn.negate
    (hReads : p.ReadsOn params ν t) :
    p.negate.ReadsOn params ν t.not := by
  rcases hReads with ⟨f, hDerives, rfl⟩
  refine ⟨f.negate, ?_, f.truth_negate ν⟩
  have hSent :
      p.negate.fragments.map (Fragment.sent params) =
        (p.fragments.map (Fragment.sent params)).map
          Fragment.negate := by
    simp [CompiledPredicate.negate, Fragment.sent_negate]
  rw [hSent]
  exact hDerives.map _ _ _

/- A predicate is decided if all of its conditions are. -/
theorem ReadsOn.ne_unknown
    (hReads : p.ReadsOn params ν t)
    (hDecided : ∀ c,
      .condition c ∈ p.fragments.map (Fragment.sent params) →
        c.truth ν ≠ .unknown) :
    t ≠ .unknown := by
  rcases hReads with ⟨f, hDerives, rfl⟩
  apply Formula.truth_ne_unknown
  intro c hMem
  exact hDecided c (hDerives.mem_of_mem_conditions hMem)

end CompiledPredicate

/- What compiles has a truth, whatever values are sent. -/
theorem Scope.exists_readsOn
    {scope : Scope}
    {p : Predicate}
    {s s' : ParameterSet}
    {compiled : CompiledPredicate}
    (hYields : (scope.compile p).Yields s compiled s')
    (params : List Parameter)
    (ν : Valuation) :
    ∃ t, compiled.ReadsOn params ν t := by
  rcases exists_formula_of_compile hYields with ⟨f, hDerives, _⟩
  exact ⟨_, _, hDerives.sent params, rfl⟩

------------------------------------------------------------
-- Queries
------------------------------------------------------------

/- Predicates are compiled one after the other. -/
theorem Scope.compileList_concat_yields_iff
    {scope : Scope}
    {ps : List Predicate}
    {p : Predicate}
    {s s' : ParameterSet}
    {filters : List CompiledPredicate} :
    (scope.compileList (ps ++ [p])).Yields s filters s' ↔
      ∃ before u kept,
        (scope.compileList ps).Yields s before u ∧
        (scope.compile p).Yields u kept s' ∧
        filters = before ++ [kept] := by
  unfold compileList
  simp only [List.mapM_append, List.mapM_cons, List.mapM_nil,
    Binding.yields_bind_iff, Binding.yields_pure_iff]
  constructor
  · rintro ⟨before, u, hBefore, _, _, ⟨kept, _, hKept, _, _,
      ⟨rfl, rfl⟩, rfl, rfl⟩, rfl, rfl⟩
    exact ⟨before, u, kept, hBefore, hKept, rfl⟩
  · rintro ⟨before, u, kept, hBefore, hKept, rfl⟩
    exact ⟨before, u, hBefore, _, _, ⟨kept, _, hKept, _, _,
      ⟨rfl, rfl⟩, rfl, rfl⟩, rfl, rfl⟩

/- Every predicate is compiled. -/
theorem Scope.length_compileList
    {scope : Scope}
    {ps : List Predicate}
    {s s' : ParameterSet}
    {filters : List CompiledPredicate}
    (hYields : (scope.compileList ps).Yields s filters s') :
    filters.length = ps.length := by
  unfold compileList at hYields
  induction ps generalizing s filters with
  | nil =>
      simp only [List.mapM_nil, Binding.yields_pure_iff] at hYields
      rw [← hYields.1]
      rfl
  | cons p ps ih =>
      simp only [List.mapM_cons, Binding.yields_bind_iff,
        Binding.yields_pure_iff] at hYields
      rcases hYields with ⟨_, _, _, rest, _, hRest, rfl, rfl⟩
      simp [ih hRest]

namespace Query

variable {q : Query}
variable {p : Predicate}
variable {naming : TableNaming}
variable {s s' : ParameterSet}
variable {plan : SelectPlan}

/-
  Where filtering by a predicate has a plan, excluding it has
  one, which differs in the last filter only.
-/
theorem plan_exclude
    (hPlan : ((q.filter p).plan naming).Yields s plan s') :
    ∃ scope before u kept,
      plan.filters = before ++ [kept] ∧
      before.length = q.filters.length ∧
      (Scope.compile scope p).Yields u kept s' ∧
      ((q.exclude p).plan naming).Yields s
        { plan with filters := before ++ [kept.negate] } s' := by
  have hNegated {scope : Scope} {u : ParameterSet}
      {kept : CompiledPredicate}
      (hKept : (scope.compile p).Yields u kept s') :
      (scope.compile (.not p)).Yields u kept.negate s' := by
    rw [scope.compile_not, Binding.yields_map_iff]
    exact ⟨kept, hKept, rfl⟩
  unfold Query.plan at hPlan ⊢
  cases hJoined : q.isJoined with
  | true =>
      have hFilter : (q.filter p).isJoined = true := hJoined
      have hExclude : (q.exclude p).isJoined = true := hJoined
      simp only [hFilter, hExclude, if_true] at hPlan ⊢
      simp only [planJoined, filter, exclude,
        Binding.yields_bind_iff, Binding.yields_liftM_iff,
        Binding.yields_pure_iff,
        Scope.compileList_concat_yields_iff] at hPlan ⊢
      rcases hPlan with
        ⟨key, _, hKey, ⟨clauses, aliases⟩, u, hJoins, _, _,
          ⟨before, v, kept, hBefore, hKept, rfl⟩,
          items, _, ⟨hItems, rfl⟩, rfl, rfl⟩
      refine ⟨.aliased aliases, before, v, kept, rfl,
        Scope.length_compileList hBefore, hKept, ?_⟩
      exact ⟨key, _, hKey, ⟨clauses, aliases⟩, u, hJoins, _, _,
        ⟨before, v, _, hBefore, hNegated hKept, rfl⟩,
        items, _, ⟨hItems, rfl⟩, rfl, rfl⟩
  | false =>
      have hFilter : (q.filter p).isJoined = false := hJoined
      have hExclude : (q.exclude p).isJoined = false := hJoined
      simp only [hFilter, hExclude, Bool.false_eq_true,
        if_false] at hPlan ⊢
      simp only [planFlat, filter, exclude,
        Binding.yields_bind_iff, Binding.yields_liftM_iff,
        Binding.yields_pure_iff,
        Scope.compileList_concat_yields_iff] at hPlan ⊢
      rcases hPlan with
        ⟨_, _, ⟨before, v, kept, hBefore, hKept, rfl⟩,
          items, _, ⟨hItems, rfl⟩, rfl, rfl⟩
      refine ⟨.table q.root.key, before, v, kept, rfl,
        Scope.length_compileList hBefore, hKept, ?_⟩
      exact ⟨_, _, ⟨before, v, _, hBefore, hNegated hKept, rfl⟩,
        items, _, ⟨hItems, rfl⟩, rfl, rfl⟩

/-
  Filtering by a predicate and excluding it are statements with
  one difference, in the last part of the WHERE clause, and
  they send the same values. On a row where the predicate is
  true only the first clause holds, where it is false only the
  second, and where it is unknown neither of them does.
-/
theorem exclude_keeps_failing_rows
    {d : Dialect}
    {st : Statement}
    (hStatement :
      (Request.select (q.filter p)).statement naming d = .ok st) :
    ∃ plan page before kept dropped front back,
      plan.filters = before ++ [kept] ∧
      before.length = q.filters.length ∧
      (Request.select (q.filter p)).draft naming =
        .ok ⟨.select plan page, st.params⟩ ∧
      (Request.select (q.exclude p)).draft naming =
        .ok
          ⟨.select { plan with filters := before ++ [dropped] } page,
            st.params⟩ ∧
      st.sql =
        front ++ " WHERE " ++ conjunctionText d (before ++ [kept]) ++
          back ∧
      (Request.select (q.exclude p)).statement naming d =
        .ok
          { sql :=
              front ++ " WHERE " ++
                conjunctionText d (before ++ [dropped]) ++ back
            params := st.params
            kind := .select } ∧
      ∀ ν,
        (∃ t, kept.ReadsOn st.params ν t ∧
          dropped.ReadsOn st.params ν t.not) ∧
        ¬ (kept.HoldsOn st.params ν ∧
          dropped.HoldsOn st.params ν) ∧
        ((dropped.HoldsOn st.params ν ↔
            ¬ kept.HoldsOn st.params ν) ↔
          ¬ kept.ReadsOn st.params ν .unknown) ∧
        ((∀ c,
          .condition c ∈
              kept.fragments.map (Fragment.sent st.params) →
            c.truth ν ≠ .unknown) →
          ¬ kept.ReadsOn st.params ν .unknown) := by
  rcases exists_plan_of_select hStatement with
    ⟨plan, page, hPage, hPlan, hDraft, hSql⟩
  rcases plan_exclude hPlan with
    ⟨scope, before, u, kept, hFilters, hLength, hKept, hExclude⟩
  rcases plan.exists_text_selectSql d page with
    ⟨front, back, hText⟩
  have hSame : { plan with filters := before ++ [kept] } = plan := by
    rw [← hFilters]
  have hExcluded :
      (Request.select (q.exclude p)).draft naming =
        .ok
          ⟨.select { plan with filters := before ++ [kept.negate] }
              page, st.params⟩ := by
    rw [Request.draft_eq_ok_iff]
    simp only [Request.command, Binding.yields_bind_iff,
      Binding.yields_liftM_iff, Binding.yields_pure_iff]
    exact ⟨page, _, ⟨hPage, rfl⟩, _, _, hExclude, rfl, rfl⟩
  refine ⟨plan, page, before, kept, kept.negate, front, back, hFilters,
    hLength, hDraft, hExcluded, ?_, ?_, ?_⟩
  · rw [hSql, ← hText (before ++ [kept]) (by simp), hSame]
  · rw [← hText (before ++ [kept.negate]) (by simp),
      Request.statement, hExcluded]
    rfl
  · intro ν
    rcases Scope.exists_readsOn hKept st.params ν with ⟨t, hReads⟩
    have hDropped := hReads.negate
    have hUnknown :
        kept.ReadsOn st.params ν .unknown ↔ t = .unknown := by
      constructor
      · exact hReads.unique
      · rintro rfl
        exact hReads
    simp only [hReads.holdsOn_iff, hDropped.holdsOn_iff, hUnknown]
    refine ⟨⟨t, hReads, hDropped⟩, ?_, ?_, hReads.ne_unknown⟩
    · cases t <;> simp [Truth.not]
    · cases t <;> simp [Truth.not]

end Query

------------------------------------------------------------
-- Categories
------------------------------------------------------------

namespace Categories

/- Categories with their parents; some have no parent. -/
def category : EntityType :=
  { key := ⟨0, "Category"⟩
    table := "category"
    properties :=
      [ { column := "id", declaredType := "i64",
          type := ⟨.integer .int64, false⟩, identity := true },
        { column := "parent_id", declaredType := "Option<i64>",
          type := ⟨.integer .int64, true⟩ } ] }

/- The categories after the third, below the first or not. -/
theorem below_first_and_the_others :
    let q := (Query.of category).filter
      ((ColumnRef.of category "id").compareValue .gt (.int 3))
    let p :=
      (ColumnRef.of category "parent_id").compareValue .eq (.int 1)
    let st : Statement :=
      { sql :=
          "SELECT \"id\", \"parent_id\" FROM \"category\" " ++
          "WHERE (\"id\" > @id) AND (\"parent_id\" = @parent_id)"
        params := [⟨"id", .int 3⟩, ⟨"parent_id", .int 1⟩]
        kind := .select }
    (Request.select (q.filter p)).statement {} .sqlite = .ok st ∧
      ∃ plan page before kept dropped front back,
        plan.filters = before ++ [kept] ∧
        before.length = q.filters.length ∧
        (Request.select (q.filter p)).draft {} =
          .ok ⟨.select plan page, st.params⟩ ∧
        (Request.select (q.exclude p)).draft {} =
          .ok
            ⟨.select { plan with filters := before ++ [dropped] }
                page, st.params⟩ ∧
        st.sql =
          front ++ " WHERE " ++
            conjunctionText .sqlite (before ++ [kept]) ++ back ∧
        (Request.select (q.exclude p)).statement {} .sqlite =
          .ok
            { sql :=
                front ++ " WHERE " ++
                  conjunctionText .sqlite (before ++ [dropped]) ++ back
              params := st.params
              kind := .select } ∧
        ∀ ν,
          (∃ t, kept.ReadsOn st.params ν t ∧
            dropped.ReadsOn st.params ν t.not) ∧
          ¬ (kept.HoldsOn st.params ν ∧
            dropped.HoldsOn st.params ν) ∧
          ((dropped.HoldsOn st.params ν ↔
              ¬ kept.HoldsOn st.params ν) ↔
            ¬ kept.ReadsOn st.params ν .unknown) ∧
          ((∀ c,
            .condition c ∈
                kept.fragments.map (Fragment.sent st.params) →
              c.truth ν ≠ .unknown) →
            ¬ kept.ReadsOn st.params ν .unknown) := by
  intro q p st
  have hStatement :
      (Request.select (q.filter p)).statement {} .sqlite =
        .ok st := by
    decide +kernel
  exact ⟨hStatement, Query.exclude_keeps_failing_rows hStatement⟩

/-
  A category without a parent is found neither among those
  below the first category nor among all others.
-/
theorem top_category_in_neither :
    let p :=
      (ColumnRef.of category "parent_id").compareValue .eq (.int 1)
    let test (op : SqlOperator) : CompiledPredicate :=
      ⟨[.condition
        ⟨"parent_id", .bare "parent_id", op,
          .parameter ⟨"parent_id", .int 1⟩⟩]⟩
    let plan (filter : CompiledPredicate) : SelectPlan :=
      { table := ⟨none, "category"⟩
        ranking := none
        joins := []
        columns := category.bareColumns
        filters := [filter]
        order := [] }
    let params : List Parameter := [⟨"parent_id", .int 1⟩]
    let top : StoredRow
      | "id" => .int 7
      | _ => .null
    (Request.select ((Query.of category).filter p)).draft {} =
        .ok ⟨.select (plan (test .eq)) none, params⟩ ∧
      (Request.select ((Query.of category).exclude p)).draft {} =
        .ok ⟨.select (plan (test .ne)) none, params⟩ ∧
      ∀ ν : Valuation,
        (∀ column v,
          ν ⟨.bare column, .eq, .value v⟩ =
            (top column).equalTruth v) →
        ¬ (test .eq).HoldsOn params ν ∧
          ¬ (test .ne).HoldsOn params ν := by
  intro p test plan params top
  refine ⟨by decide +kernel, by decide +kernel, ?_⟩
  intro ν hEqual
  have hUnknown :
      ν ⟨.bare "parent_id", .eq, .value (.int 1)⟩ = .unknown :=
    hEqual "parent_id" (.int 1)
  have hReads (op : SqlOperator) :
      (test op).ReadsOn params ν
        (op.truth fun test =>
          ν ⟨.bare "parent_id", test, .value (.int 1)⟩) :=
    ⟨_, .condition _, rfl⟩
  constructor
  · rw [(hReads .eq).holdsOn_iff]
    simp [SqlOperator.truth, hUnknown]
  · rw [(hReads .ne).holdsOn_iff]
    simp [SqlOperator.truth, hUnknown, Truth.not]

end Categories

end EntitySql
