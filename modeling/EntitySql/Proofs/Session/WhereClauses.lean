import EntitySql.Proofs.Predicate.Meaning
import EntitySql.Proofs.Predicate.Outcome
import EntitySql.Proofs.Session.StoredRows

/-
  Updates, deletes, selects and counts restrict rows by the
  same predicate in the same way.

  Key definitions include:
    * `Valuation.RespectsEqual`
    * `Condition.SuppliedBy`
    * `Request.Restricts`

  Key theorems include:
    * `Scope.fragments_supplied`
    * `Scope.compile_readsOn`
    * `Request.restrict_rows_alike`

  An update binds the values of its patch before those of the
  predicate. A placeholder may then stand for a value of the
  patch, but only for one that equals the value of the test.
-/

namespace EntitySql

------------------------------------------------------------
-- Conditions with sent values
------------------------------------------------------------

/- Tests against equal values come out alike. -/
def Valuation.RespectsEqual
    (ν : Valuation) : Prop :=
  ∀ column op v w, v.equal w = true →
    ν ⟨column, op, .value v⟩ = ν ⟨column, op, .value w⟩

namespace Condition

/-
  The parameters hold what the condition needs: for a single
  value that value or an equal one, for a list its elements.
-/
def SuppliedBy
    (params : List Parameter)
    (c : Condition) : Prop :=
  match c.operand with
  | .none | .column _ => True
  | .parameter p =>
      ∃ q ∈ params, q.name = p.name ∧
        (q.value = p.value ∨ q.value.equal p.value = true)
  | .list ps => ∀ p ∈ ps, p ∈ params

theorem SuppliedBy.mono
    {params params' : List Parameter}
    {c : Condition}
    (hSupplied : c.SuppliedBy params)
    (hKeeps : ∀ p ∈ params, p ∈ params') :
    c.SuppliedBy params' := by
  unfold SuppliedBy at hSupplied ⊢
  split
  · trivial
  · trivial
  · rename_i p hOperand
    rw [hOperand] at hSupplied
    rcases hSupplied with ⟨q, hMem, hName, hValue⟩
    exact ⟨q, hKeeps q hMem, hName, hValue⟩
  · rename_i ps hOperand
    rw [hOperand] at hSupplied
    exact fun p hMem => hKeeps p (hSupplied p hMem)

end Condition

/- Among distinct names the value of a parameter is sent. -/
theorem Parameter.sent_of_mem
    {params : List Parameter}
    {p q : Parameter}
    (hNodup : (params.map Parameter.name).Nodup)
    (hMem : q ∈ params)
    (hName : q.name = p.name) :
    p.sent params = ⟨p.name, q.value⟩ := by
  simp [sent, ParameterSet.get?, ← hName,
    find?_name_eq_some hNodup hMem]

/- A supplied condition is as true with the values sent. -/
theorem Condition.truth_sent
    {params : List Parameter}
    {c : Condition}
    {ν : Valuation}
    (hNodup : (params.map Parameter.name).Nodup)
    (hSupplied : c.SuppliedBy params)
    (hRespects : ν.RespectsEqual) :
    (c.sent params).truth ν = c.truth ν := by
  unfold SuppliedBy at hSupplied
  unfold truth sent
  congr 1
  funext op
  cases hOperand : c.operand with
  | none => rfl
  | column other => rfl
  | parameter p =>
      rw [hOperand] at hSupplied
      rcases hSupplied with ⟨q, hMem, hName, hValue⟩
      have hSent := Parameter.sent_of_mem hNodup hMem hName
      simp only [ConditionOperand.sent, ConditionOperand.tested,
        hSent]
      rcases hValue with hSame | hEqual
      · rw [hSame]
      · exact hRespects c.column op q.value p.value hEqual
  | list ps =>
      rw [hOperand] at hSupplied
      have hSent :
          ps.map (Parameter.sent params) = ps := by
        apply (List.map_congr_left _).trans (List.map_id ps)
        intro p hMem
        exact Parameter.sent_of_mem hNodup (hSupplied p hMem) rfl
      simp only [ConditionOperand.sent, ConditionOperand.tested,
        hSent]

/- A formula is as true as its conditions are. -/
theorem Formula.truth_sent
    {params : List Parameter}
    {f : Formula}
    {ν : Valuation}
    (hConditions : ∀ c ∈ f.conditions,
      (c.sent params).truth ν = c.truth ν) :
    (f.sent params).truth ν = f.truth ν := by
  induction f with
  | constant value => rfl
  | condition c => exact hConditions c List.mem_cons_self
  | combined c left right ihLeft ihRight =>
      have hLeft := ihLeft fun c' hMem =>
        hConditions c' (List.mem_append_left _ hMem)
      have hRight := ihRight fun c' hMem =>
        hConditions c' (List.mem_append_right _ hMem)
      change
        c.truth ((left.sent params).truth ν)
          ((right.sent params).truth ν) = _
      rw [hLeft, hRight]
      rfl

------------------------------------------------------------
-- Compilation
------------------------------------------------------------

namespace Scope

open ParameterSet

variable {scope : Scope}
variable {s t : ParameterSet}
variable {fragment : Fragment}
variable {negated : Bool}
variable {c : Condition}

/- What is bound for a value is that value or equals it. -/
theorem exists_bind_eq
    (s : ParameterSet)
    (base : String)
    (v : Value) :
    ∃ q ∈ (s.bind base v).2.params,
      q.name = (s.bind base v).1 ∧
        (q.value = v ∨ q.value.equal v = true) := by
  rcases s.bind_cases base v with
    ⟨p, hMem, hEqual, hBind⟩ | ⟨name, _, hBind⟩
  · rw [hBind]
    exact ⟨p, hMem, rfl, .inr hEqual⟩
  · rw [hBind]
    exact ⟨⟨name, v⟩,
      List.mem_append_right _ (List.mem_singleton_self _), rfl,
      .inl rfl⟩

theorem valueCondition_supplied
    {column : ColumnRef}
    {op : CompareOp}
    {v : Value}
    (hYields :
      (scope.valueCondition column op v negated).Yields s
        (.condition c) t) :
    c.SuppliedBy t.params := by
  rcases valueCondition_cases hYields with
    ⟨e, _, ⟨rfl, _, rfl, hSame⟩ | ⟨rfl, _, rfl, hSame⟩ |
      ⟨_, rfl, hSame⟩⟩
  all_goals cases hSame
  · trivial
  · trivial
  · exact exists_bind_eq s column.column v

theorem comparison_supplied
    {left right : Settled}
    {op : CompareOp}
    (hYields :
      (scope.comparison left op right negated).Yields s
        (.condition c) t) :
    c.SuppliedBy t.params := by
  cases left with
  | list vs => exact absurd hYields comparison_list_left
  | column l =>
      cases right with
      | list vs => exact absurd hYields comparison_list_right
      | value v => exact valueCondition_supplied hYields
      | column r =>
          rcases columnComparison_cases hYields with
            ⟨e, other, _, _, _, hSame⟩
          cases hSame
          trivial
  | value v =>
      cases right with
      | list vs => exact absurd hYields comparison_list_right
      | column r => exact valueCondition_supplied hYields
      | value w =>
          rcases valueComparison_cases hYields with
            ⟨_, _, _, hSame⟩
          cases hSame

theorem membership_supplied
    {column values : Settled}
    (hYields :
      (scope.membership column values negated).Yields s
        (.condition c) t) :
    c.SuppliedBy t.params := by
  rcases membership_cases hYields with
    ⟨vs, _, ⟨_, _, _, _, hSame⟩ | ⟨col, e, _, _, _, rfl, hSame⟩ |
      ⟨_, _, _, hSame⟩⟩
  · cases hSame
  · cases hSame
    intro p hMem
    rw [bindList_params]
    exact List.mem_append_right _ hMem
  · cases hSame

theorem pattern_supplied
    {column value : Settled}
    {kind : PatternKind}
    (hYields :
      (scope.pattern column kind value negated).Yields s
        (.condition c) t) :
    c.SuppliedBy t.params := by
  rcases pattern_cases hYields with
    ⟨text, _, ⟨col, e, _, _, rfl, hSame⟩ | ⟨_, _, _, hSame⟩⟩
  · cases hSame
    exact exists_bind_eq s col.column _
  · cases hSame

/-
  Every condition of a predicate is supplied by the parameters
  in the end, since later tests keep what earlier ones bound.
-/
theorem fragments_supplied
    {p : Predicate}
    {fs : List Fragment}
    (hYields : (scope.fragments negated p).Yields s fs t) :
    ∀ c, .condition c ∈ fs → c.SuppliedBy t.params := by
  induction p generalizing negated s fs t with
  | literal value =>
      simp only [fragments, Binding.yields_pure_iff] at hYields
      rcases hYields with ⟨rfl, rfl⟩
      intro c hMem
      cases List.mem_singleton.mp hMem
  | not inner ih => exact ih hYields
  | and left right ihLeft ihRight
  | or left right ihLeft ihRight =>
      simp only [fragments, Binding.yields_bind_iff,
        Binding.yields_pure_iff] at hYields
      rcases hYields with ⟨l, u, hLeft, r, _, hRight, rfl, rfl⟩
      have hKeeps := (fragments_fills hRight).keeps
      intro c hMem
      simp only [combine, List.mem_append, List.mem_cons,
        List.not_mem_nil, reduceCtorEq, or_false, false_or]
        at hMem
      rcases hMem with hMem | hMem
      · exact (ihLeft hLeft c hMem).mono hKeeps
      · exact ihRight hRight c hMem
  | comparison left op right =>
      simp only [fragments, Binding.yields_bind_iff,
        Binding.yields_pure_iff] at hYields
      rcases hYields with ⟨fragment, _, hTest, rfl, rfl⟩
      intro c hMem
      cases List.mem_singleton.mp hMem
      exact comparison_supplied hTest
  | membership column values =>
      simp only [fragments, Binding.yields_bind_iff,
        Binding.yields_pure_iff] at hYields
      rcases hYields with ⟨fragment, _, hTest, rfl, rfl⟩
      intro c hMem
      cases List.mem_singleton.mp hMem
      exact membership_supplied hTest
  | pattern column kind value =>
      simp only [fragments, Binding.yields_bind_iff,
        Binding.yields_pure_iff] at hYields
      rcases hYields with ⟨fragment, _, hTest, rfl, rfl⟩
      intro c hMem
      cases List.mem_singleton.mp hMem
      exact pattern_supplied hTest

/-
  Read with the values that are bound in the end, a compiled
  predicate is as true as the predicate, whatever was bound
  before it.
-/
theorem compile_readsOn
    {p : Predicate}
    {compiled : CompiledPredicate}
    (hNames : s.names.Nodup)
    (hYields : (scope.compile p).Yields s compiled t) :
    ∀ ν, ∃ truth,
      p.truth? scope ν = some truth ∧
      (ν.RespectsEqual → compiled.ReadsOn t.params ν truth) := by
  have hNodup := (compile_fills hYields).distinct hNames
  rcases exists_formula_of_compile hYields with
    ⟨f, hDerives, hTruth⟩
  simp only [compile, Binding.yields_bind_iff,
    Binding.yields_pure_iff] at hYields
  rcases hYields with ⟨fs, _, hFragments, rfl, rfl⟩
  intro ν
  refine ⟨f.truth ν, hTruth ν, ?_⟩
  intro hRespects
  refine ⟨f.sent _, hDerives.sent _, ?_⟩
  apply Formula.truth_sent
  intro c hMem
  have hSupplied :=
    fragments_supplied hFragments c
      (hDerives.mem_of_mem_conditions hMem)
  exact Condition.truth_sent hNodup hSupplied hRespects

end Scope

------------------------------------------------------------
-- Requests
------------------------------------------------------------

/- A patch of known columns is bound without a failure. -/
theorem Patch.exists_bindCells
    {patch : Patch}
    {e : EntityType}
    (hKnown : ∀ a ∈ patch.assignments,
      (e.position? a.1).isSome = true)
    (s : ParameterSet) :
    ∃ cells t, (patch.bindCells e).Yields s cells t := by
  unfold bindCells
  apply Binding.exists_yields_mapM
  rintro ⟨column, v⟩ hMem s
  have hColumn : (e.position? column).isNone = false := by
    rw [Option.isNone_eq_false_iff]
    exact hKnown _ hMem
  simp only [hColumn, Bool.false_eq_true, if_false]
  exact ⟨_, _, rfl⟩

namespace Request

/-
  The request comes down to compiling a predicate, after some
  values may have been bound, and what is compiled is the
  WHERE clause of its statement.
-/
def Restricts
    (request : Request)
    (naming : TableNaming)
    (scope : Scope)
    (p : Predicate) : Prop :=
  ∃ (s : ParameterSet) (build : CompiledPredicate → Command),
    s.names.Nodup ∧
    (request.command naming).run.run .empty =
      (build <$> scope.compile p).run.run s ∧
    ∀ rows d, ∃ front,
      (build rows).sql d =
        front ++ Sql.words " WHERE " ++ rows.sql.parenthesized

variable {e : EntityType}
variable {p : Predicate}
variable {naming : TableNaming}

theorem restricts_updateWhere
    {patch : Patch}
    (hNonempty : patch.assignments ≠ [])
    (hKnown : ∀ a ∈ patch.assignments,
      (e.position? a.1).isSome = true) :
    (updateWhere e patch p).Restricts naming (.table e.key) p := by
  rcases Patch.exists_bindCells hKnown .empty with
    ⟨cells, s, hCells⟩
  refine ⟨s,
    fun rows => .update (e.tableName naming) cells (.matching rows),
    (patch.bindCells_fills hCells).distinct List.nodup_nil, ?_, ?_⟩
  · have hPatch : patch.assignments.isEmpty = false := by
      simpa using hNonempty
    simp only [command, hPatch, Bool.false_eq_true, if_false]
    rw [Binding.run_bind_of_ok _ hCells, map_eq_pure_bind]
  · intro rows d
    exact ⟨_, rfl⟩

theorem restricts_deleteWhere :
    (deleteWhere e p).Restricts naming (.table e.key) p := by
  refine ⟨.empty,
    fun rows => .delete (e.tableName naming) (.matching rows),
    List.nodup_nil, ?_, ?_⟩
  · simp only [command]
    rw [map_eq_pure_bind]
  · intro rows d
    exact ⟨_, rfl⟩

theorem plan_filter :
    ((Query.of e).filter p).plan naming =
      filteredPlan e naming <$> (Scope.table e.key).compile p := by
  simp [Query.plan, Query.isJoined, Query.planFlat, Query.filter,
    Query.of, Scope.compileList, Scope.orderItems]
  rfl

theorem tailSql_filteredPlan
    (rows : CompiledPredicate) :
    (filteredPlan e naming rows).tailSql =
      Sql.words " FROM " ++ Sql.table (e.tableName naming) ++
        Sql.words " WHERE " ++ rows.sql.parenthesized := by
  simp [SelectPlan.tailSql, filteredPlan, conjunctionSql,
    Sql.joinWith]

theorem restricts_select :
    (select ((Query.of e).filter p)).Restricts naming
      (.table e.key) p := by
  refine ⟨.empty, fun rows => .select (filteredPlan e naming rows) none,
    List.nodup_nil, ?_, ?_⟩
  · have hPage :
        ((Query.of e).filter p).checkedPage = .ok none := rfl
    simp only [command, hPage, plan_filter, bind_map_left]
    rw [map_eq_pure_bind]
    rfl
  · intro rows d
    refine ⟨Sql.words "SELECT " ++
      (filteredPlan e naming rows).columnsSql ++
      (Sql.words " FROM " ++ Sql.table (e.tableName naming)), ?_⟩
    change
      Sql.words "SELECT " ++
          (filteredPlan e naming rows).columnsSql ++
          (filteredPlan e naming rows).tailSql ++ [] = _
    simp only [tailSql_filteredPlan, List.append_assoc,
      List.append_nil]

theorem restricts_count :
    (count ((Query.of e).filter p)).Restricts naming
      (.table e.key) p := by
  refine ⟨.empty, fun rows => .count (filteredPlan e naming rows),
    List.nodup_nil, ?_, ?_⟩
  · simp only [command, plan_filter, bind_map_left]
    rw [map_eq_pure_bind]
  · intro rows d
    refine ⟨Sql.words "SELECT COUNT(" ++ Sql.words "*" ++
      Sql.words ")" ++
      (Sql.words " FROM " ++ Sql.table (e.tableName naming)), ?_⟩
    change
      Sql.words "SELECT COUNT(" ++ Sql.words "*" ++
          Sql.words ")" ++
          (filteredPlan e naming rows).tailSql = _
    simp only [tailSql_filteredPlan, List.append_assoc]

variable {request : Request}
variable {scope : Scope}

/- A request fails as its predicate does. -/
theorem Restricts.statement_eq_error
    {cause : MappingError}
    (hRestricts : request.Restricts naming scope p)
    (hEnds : (scope.compile p).Ends (some cause))
    (d : Dialect) :
    request.statement naming d = .error cause := by
  rcases hRestricts with ⟨s, build, _, hRun, _⟩
  have hFault := hEnds s
  rcases hCompile : (scope.compile p).run.run s with ⟨e | rows, t⟩
  · rw [hCompile] at hFault
    cases hFault
    rw [map_eq_pure_bind,
      Binding.run_bind_of_error _ hCompile] at hRun
    unfold Request.statement Request.draft
    rw [hRun]
    rfl
  · rw [hCompile] at hFault
    cases hFault

/-
  A request whose predicate compiles has a statement. On every
  row its WHERE clause is as true as the predicate.
-/
theorem Restricts.exists_statement
    (hRestricts : request.Restricts naming scope p)
    (hEnds : (scope.compile p).Ends none)
    (d : Dialect) :
    ∃ st front, ∃ rows : CompiledPredicate,
      request.statement naming d = .ok st ∧
      st.sql =
        (front ++ Sql.words " WHERE " ++
          rows.sql.parenthesized).text d ∧
      ∀ ν : Valuation, ν.RespectsEqual →
        ∃ truth, p.truth? scope ν = some truth ∧
          rows.ReadsOn st.params ν truth := by
  rcases hRestricts with ⟨s, build, hNames, hRun, hText⟩
  have hFault := hEnds s
  rcases hCompile : (scope.compile p).run.run s with ⟨e | rows, t⟩
  · rw [hCompile] at hFault
    cases hFault
  · rw [map_eq_pure_bind,
      Binding.run_bind_of_ok _ hCompile] at hRun
    have hReads := Scope.compile_readsOn hNames hCompile
    rcases hText rows d with ⟨front, hSql⟩
    refine ⟨_, front, rows, statement_of_yields hRun d, ?_, ?_⟩
    · unfold Draft.statement
      rw [hSql]
    · intro ν hRespects
      rcases hReads ν with ⟨truth, hTruth, hRows⟩
      exact ⟨truth, hTruth, hRows hRespects⟩

/-
  An update, a delete, a select and a count with one predicate
  all fail with the same error, or all have a statement. Then
  every WHERE clause, read with the parameters of its own
  statement, is as true as the predicate on every row.
-/
theorem restrict_rows_alike
    {patch : Patch}
    (hNonempty : patch.assignments ≠ [])
    (hKnown : ∀ a ∈ patch.assignments,
      (e.position? a.1).isSome = true)
    (p : Predicate)
    (naming : TableNaming)
    (d : Dialect) :
    let q := (Query.of e).filter p
    let requests : List Request :=
      [.updateWhere e patch p, .deleteWhere e p, .select q, .count q]
    (∃ cause, ∀ request ∈ requests,
      request.statement naming d = .error cause) ∨
    ∀ request ∈ requests, ∃ st front, ∃ rows : CompiledPredicate,
      request.statement naming d = .ok st ∧
      st.sql =
        (front ++ Sql.words " WHERE " ++
          rows.sql.parenthesized).text d ∧
      ∀ ν : Valuation, ν.RespectsEqual →
        ∃ truth, p.truth? (.table e.key) ν = some truth ∧
          rows.ReadsOn st.params ν truth := by
  intro q requests
  have hRestricts :
      ∀ request ∈ requests,
        request.Restricts naming (.table e.key) p := by
    simp only [requests, List.forall_mem_cons]
    exact ⟨restricts_updateWhere hNonempty hKnown,
      restricts_deleteWhere, restricts_select, restricts_count,
      List.forall_mem_nil _⟩
  rcases (Scope.table e.key).exists_compile_ends p with
    ⟨_ | cause, hEnds⟩
  · right
    intro request hMem
    exact (hRestricts request hMem).exists_statement hEnds d
  · left
    refine ⟨cause, ?_⟩
    intro request hMem
    exact (hRestricts request hMem).statement_eq_error hEnds d

/-
  The patch sets a2 to the value that a is tested against, so
  in the update the parameter of a2 stands beside a.
-/
theorem colliding_patch_restricts_alike :
    let column (name : String) : Property :=
      { column := name, declaredType := "i64",
        type := ⟨.integer .int64, false⟩ }
    let doc : EntityType :=
      { key := ⟨0, "Doc"⟩, table := "doc",
        properties := [column "a", column "a2"] }
    let a := ColumnRef.of doc "a"
    let a2 := ColumnRef.of doc "a2"
    let patch : Patch := ⟨[("a", .int 1), ("a2", .int 2)]⟩
    let p : Predicate :=
      .and (a.compareValue .eq (.int 2))
        (.or (a2.compareValue .lt (.int 3)) (a.notIn [.int 1, .null]))
    let q := (Query.of doc).filter p
    let requests : List Request :=
      [.updateWhere doc patch p, .deleteWhere doc p, .select q,
        .count q]
    (updateWhere doc patch p).statement {} .sqlite =
        .ok
          { sql :=
              "UPDATE \"doc\" SET \"a\" = @a, \"a2\" = @a2 WHERE " ++
              "((\"a\" = @a2) AND ((\"a2\" < @a22) OR (\"a\" NOT " ++
              "IN (@a_InParam_1, @a_InParam_2))))"
            params :=
              [⟨"a", .int 1⟩, ⟨"a2", .int 2⟩, ⟨"a22", .int 3⟩,
                ⟨"a_InParam_1", .int 1⟩, ⟨"a_InParam_2", .null⟩]
            kind := .update } ∧
      (deleteWhere doc p).statement {} .sqlite =
        .ok
          { sql :=
              "DELETE FROM \"doc\" WHERE ((\"a\" = @a) AND ((\"a2\" " ++
              "< @a2) OR (\"a\" NOT IN (@a_InParam_1, " ++
              "@a_InParam_2))))"
            params :=
              [⟨"a", .int 2⟩, ⟨"a2", .int 3⟩,
                ⟨"a_InParam_1", .int 1⟩, ⟨"a_InParam_2", .null⟩]
            kind := .delete } ∧
      ∀ request ∈ requests,
        ∃ st front, ∃ rows : CompiledPredicate,
          request.statement {} .sqlite = .ok st ∧
          st.sql =
            (front ++ Sql.words " WHERE " ++
              rows.sql.parenthesized).text .sqlite ∧
          ∀ ν : Valuation, ν.RespectsEqual →
            ∃ truth, p.truth? (.table doc.key) ν = some truth ∧
              rows.ReadsOn st.params ν truth := by
  intro column doc a a2 patch p q requests
  refine ⟨by decide +kernel, ?_⟩
  have hDelete :
      (deleteWhere doc p).statement {} .sqlite =
        .ok
          { sql :=
              "DELETE FROM \"doc\" WHERE ((\"a\" = @a) AND ((\"a2\" " ++
              "< @a2) OR (\"a\" NOT IN (@a_InParam_1, " ++
              "@a_InParam_2))))"
            params :=
              [⟨"a", .int 2⟩, ⟨"a2", .int 3⟩,
                ⟨"a_InParam_1", .int 1⟩, ⟨"a_InParam_2", .null⟩]
            kind := .delete } := by
    decide +kernel
  refine ⟨hDelete, ?_⟩
  have hKnown : ∀ a ∈ patch.assignments,
      (doc.position? a.1).isSome = true := by
    decide
  rcases restrict_rows_alike (List.cons_ne_nil _ _) hKnown p {}
      .sqlite with
    ⟨cause, hFails⟩ | hRestrict
  · have hFailure := hFails (.deleteWhere doc p) (by simp)
    cases hDelete.symm.trans hFailure
  · exact hRestrict

end Request

end EntitySql
