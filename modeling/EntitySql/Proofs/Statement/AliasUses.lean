import EntitySql.Proofs.Predicate.References
import EntitySql.Statement.Command

/-
  What aliases are used for in SQL. An alias with a dot behind
  it qualifies a column; without one it is declared for the
  table before it.

  Key definitions include:
    * `Sql.declared`, `Sql.qualified`
    * `Sql.Refers`
    * `SelectPlan.fromSql`, `SelectPlan.whereSql`

  Key theorems include:
    * `CompiledPredicate.refers_sql`
    * `JoinClause.refers_onSql`
    * `SelectPlan.declared_fromSql`
-/

namespace EntitySql

------------------------------------------------------------
-- Uses of aliases
------------------------------------------------------------

namespace Sql

/- The aliases that qualify no column, in order. -/
def declared : Sql → List TableAlias
  | [] => []
  | .tableAlias a :: rest =>
      if rest.head? = some (.words ".") then declared rest
      else a :: declared rest
  | _ :: rest => declared rest

/- The columns that stand under an alias, in order. -/
def qualified : Sql → List ColumnExpr
  | [] => []
  | .tableAlias a :: .words "." :: .name column :: rest =>
      .qualified a column :: qualified rest
  | _ :: rest => qualified rest

/- The SQL does not go on from an alias before it. -/
def Parted
    (sql : Sql) : Prop :=
  sql.head? ≠ some (.words ".")

/-
  All that the SQL does with aliases is to refer to some
  columns, whatever stands before it and behind it.
-/
structure Refers
    (columns : List ColumnExpr)
    (sql : Sql) : Prop where
  parted : sql.Parted
  declared_eq : sql.declared = []
  qualified_append :
    ∀ after, qualified (sql ++ after) = columns ++ qualified after
  of_mem :
    ∀ a, .tableAlias a ∈ sql → ∃ column, .qualified a column ∈ columns

variable {left right sql : Sql}
variable {columns : List ColumnExpr}

theorem parted_words
    {text : String}
    (hText : text ≠ ".") :
    Parted (.words text :: sql) := by
  intro hHead
  exact hText (Piece.words.inj (Option.some.inj hHead))

theorem Parted.append
    (hLeft : left.Parted)
    (hRight : right.Parted) :
    Parted (left ++ right) := by
  cases left with
  | nil => exact hRight
  | cons p left => exact hLeft

/- SQL that is parted leaves the aliases before it as they are. -/
theorem declared_append
    (hRight : right.Parted)
    (left : Sql) :
    declared (left ++ right) = declared left ++ declared right := by
  induction left with
  | nil => rfl
  | cons p left ih =>
      cases p with
      | words text => exact ih
      | name identifier => exact ih
      | placeholder parameter => exact ih
      | tableAlias a =>
          have hHead :
              (left ++ right).head? = some (.words ".") ↔
                left.head? = some (.words ".") := by
            cases left with
            | nil => exact iff_of_false hRight nofun
            | cons q left => exact Iff.rfl
          simp only [List.cons_append, declared, hHead]
          split
          · exact ih
          · rw [ih, List.cons_append]

namespace Refers

theorem append
    {others : List ColumnExpr}
    (hLeft : left.Refers columns)
    (hRight : right.Refers others) :
    Refers (columns ++ others) (left ++ right) where
  parted := hLeft.parted.append hRight.parted
  declared_eq := by
    rw [declared_append hRight.parted, hLeft.declared_eq,
      hRight.declared_eq]
    rfl
  qualified_append after := by
    rw [List.append_assoc, hLeft.qualified_append,
      hRight.qualified_append, List.append_assoc]
  of_mem a hMem := by
    rcases List.mem_append.mp hMem with hIn | hIn
    · rcases hLeft.of_mem a hIn with ⟨column, hColumn⟩
      exact ⟨column, List.mem_append_left _ hColumn⟩
    · rcases hRight.of_mem a hIn with ⟨column, hColumn⟩
      exact ⟨column, List.mem_append_right _ hColumn⟩

theorem nil :
    Refers [] [] :=
  ⟨nofun, rfl, fun _ => rfl, nofun⟩

theorem words
    {text : String}
    (hText : text ≠ ".") :
    Refers [] (Sql.words text) := by
  refine ⟨parted_words hText, rfl, fun _ => rfl, ?_⟩
  intro a hMem
  cases List.mem_singleton.mp hMem

theorem placeholder
    (parameter : String) :
    Refers [] (Sql.placeholder parameter) := by
  refine ⟨nofun, rfl, fun _ => rfl, ?_⟩
  intro a hMem
  cases List.mem_singleton.mp hMem

/- A table is named by its schema and its name. -/
theorem table
    (t : TableName) :
    Refers [] (Sql.table t) := by
  rcases t with ⟨schema | schema, name⟩
  · exact ⟨nofun, rfl, fun _ => rfl, by simp [Sql.table]⟩
  · exact ⟨nofun, rfl, fun _ => rfl, by simp [Sql.table]⟩

theorem column
    (a : TableAlias)
    (column : String) :
    Refers [.qualified a column]
      (ColumnExpr.sql (.qualified a column)) := by
  refine ⟨nofun, rfl, fun _ => rfl, ?_⟩
  intro b hMem
  simp only [ColumnExpr.sql, List.mem_cons,
    Piece.tableAlias.injEq, List.not_mem_nil, or_false,
    reduceCtorEq] at hMem
  rw [hMem]
  exact ⟨column, List.mem_singleton_self _⟩

section lists

variable {α : Type}
variable {f : α → Sql}
variable {g : α → List ColumnExpr}
variable {xs : List α}

theorem flatMap
    (hEach : ∀ x ∈ xs, (f x).Refers (g x)) :
    Refers (xs.flatMap g) (xs.flatMap f) := by
  induction xs with
  | nil => exact nil
  | cons x xs ih =>
      rw [List.forall_mem_cons] at hEach
      exact hEach.1.append (ih hEach.2)

theorem joinWith
    {separator : String}
    (hSeparator : separator ≠ ".")
    (hEach : ∀ x ∈ xs, (f x).Refers (g x)) :
    Refers (xs.flatMap g) (Sql.joinWith separator (xs.map f)) := by
  cases xs with
  | nil => exact nil
  | cons x xs =>
      rw [List.forall_mem_cons] at hEach
      refine hEach.1.append ?_
      rw [List.flatMap_map]
      exact flatMap fun y hMem =>
        (words hSeparator).append (hEach.2 y hMem)

end lists

theorem parenthesized
    (hSql : sql.Refers columns) :
    Refers columns sql.parenthesized := by
  have hOpen : Refers [] (Sql.words "(") := words (by decide)
  have hClose : Refers [] (Sql.words ")") := words (by decide)
  have hBoth := (hOpen.append hSql).append hClose
  rwa [List.append_nil, List.nil_append] at hBoth

end Refers

end Sql

------------------------------------------------------------
-- Predicates
------------------------------------------------------------

/- The column stands under an alias. -/
def ColumnExpr.IsQualified
    (e : ColumnExpr) : Prop :=
  ∃ a column, e = .qualified a column

theorem ColumnExpr.refers_sql
    {e : ColumnExpr}
    (hQualified : e.IsQualified) :
    e.sql.Refers [e] := by
  rcases hQualified with ⟨a, column, rfl⟩
  exact .column a column

theorem Condition.refers_sql
    {c : Condition}
    (hColumns : ∀ e ∈ c.columns, e.IsQualified) :
    c.sql.Refers c.columns := by
  have hOperator : (" " ++ c.op.text) ≠ "." := by
    cases c.op <;> decide
  have hSpace : (Sql.words " ").Refers [] :=
    .words (by decide)
  unfold columns at hColumns ⊢
  rw [List.forall_mem_cons] at hColumns
  unfold sql
  refine ((ColumnExpr.refers_sql hColumns.1).append
    (.words hOperator)).append ?_
  cases hOperand : c.operand with
  | none => exact .nil
  | parameter p => exact hSpace.append (.placeholder _)
  | list ps =>
      have hNone : ([] : List ColumnExpr) = ps.flatMap fun _ => [] := by
        simp
      rw [hNone]
      exact hSpace.append (Sql.Refers.parenthesized
        (.joinWith (by decide) fun p _ => .placeholder p.name))
  | column other =>
      rw [hOperand] at hColumns
      exact hSpace.append
        (ColumnExpr.refers_sql (hColumns.2 other (by simp)))

theorem Fragment.refers_sql
    {f : Fragment}
    (hColumns : ∀ e ∈ f.columns, e.IsQualified) :
    f.sql.Refers f.columns := by
  cases f with
  | opening => exact .words (by decide)
  | closing => exact .words (by decide)
  | combinator c =>
      apply Sql.Refers.words
      cases c <;> decide
  | constant value =>
      cases value <;> exact .words (by decide)
  | condition c => exact Condition.refers_sql hColumns

/- The SQL of a predicate refers to its columns, in order. -/
theorem CompiledPredicate.refers_sql
    {p : CompiledPredicate}
    (hColumns : ∀ e ∈ p.columns, e.IsQualified) :
    p.sql.Refers p.columns :=
  .flatMap fun f hFragment =>
    Fragment.refers_sql fun e hMem =>
      hColumns e (List.mem_flatMap.mpr ⟨f, hFragment, hMem⟩)

------------------------------------------------------------
-- Joins
------------------------------------------------------------

namespace JoinClause

variable {clause : JoinClause}
variable {columns : List ColumnExpr}

/- The columns of the predicate of a join. -/
def conditionColumns
    (clause : JoinClause) : List ColumnExpr :=
  match clause.condition with
  | some p => p.columns
  | none => []

/- What stands behind ON. -/
def onSql
    (clause : JoinClause) : Sql :=
  clause.source.sql ++ Sql.words " = " ++ clause.dest.sql ++
    match clause.condition with
    | some p => Sql.words " AND " ++ p.sql.parenthesized
    | none => []

theorem sql_eq
    (clause : JoinClause) :
    clause.sql =
      Sql.words (" " ++ clause.kind.text ++ " ") ++
        Sql.table clause.table ++
        [.words " ", .tableAlias clause.tableAlias, .words " ON "] ++
        clause.onSql := by
  unfold sql onSql
  cases clause.condition <;> simp only [List.append_assoc]

/- The part behind ON refers to the columns of the join. -/
theorem refers_onSql
    (hSource : clause.source.IsQualified)
    (hDest : clause.dest.IsQualified)
    (hCondition : ∀ e ∈ clause.conditionColumns, e.IsQualified) :
    clause.onSql.Refers
      (clause.source :: clause.dest :: clause.conditionColumns) := by
  refine (((ColumnExpr.refers_sql hSource).append
    (.words (by decide))).append
    (ColumnExpr.refers_sql hDest)).append ?_
  unfold conditionColumns at hCondition
  cases hPredicate : clause.condition with
  | none => exact .nil
  | some p =>
      rw [hPredicate] at hCondition
      exact (Sql.Refers.words (by decide)).append
        (CompiledPredicate.refers_sql hCondition).parenthesized

theorem parted_sql
    (clause : JoinClause) :
    clause.sql.Parted := by
  rw [sql_eq]
  apply Sql.parted_words
  cases clause.kind <;> decide

/- A join declares the alias of its table. -/
theorem declared_sql
    (hOn : clause.onSql.Refers columns) :
    clause.sql.declared = [clause.tableAlias] := by
  have hTable := Sql.Refers.table clause.table
  have hAlias :
      Sql.Parted
        [.words " ", .tableAlias clause.tableAlias, .words " ON "] :=
    Sql.parted_words (by decide)
  rw [sql_eq, Sql.declared_append hOn.parted,
    Sql.declared_append hAlias, Sql.declared_append hTable.parted,
    hTable.declared_eq, hOn.declared_eq]
  rfl

/- Joins declare the aliases of their tables, in order. -/
theorem declared_flatMap_sql
    {clauses : List JoinClause}
    (hOn :
      ∀ clause ∈ clauses, ∃ columns, clause.onSql.Refers columns) :
    Sql.Parted (clauses.flatMap JoinClause.sql) ∧
      Sql.declared (clauses.flatMap JoinClause.sql) =
        clauses.map JoinClause.tableAlias := by
  induction clauses with
  | nil => exact ⟨nofun, rfl⟩
  | cons clause clauses ih =>
      rw [List.forall_mem_cons] at hOn
      rcases hOn with ⟨⟨columns, hFirst⟩, hRest⟩
      rcases ih hRest with ⟨hParted, hDeclared⟩
      rw [List.flatMap_cons]
      refine ⟨clause.parted_sql.append hParted, ?_⟩
      rw [Sql.declared_append hParted, declared_sql hFirst,
        hDeclared]
      rfl

end JoinClause

------------------------------------------------------------
-- Selects
------------------------------------------------------------

/- An order refers to the columns of its items. -/
theorem refers_orderSql
    {items : List OrderItem}
    (hItems : ∀ item ∈ items, item.column.IsQualified) :
    (orderSql items).Refers (items.map OrderItem.column) := by
  rw [List.map_eq_flatMap]
  refine .joinWith (by decide) fun item hMem => ?_
  have hDirection : (" " ++ item.direction.text) ≠ "." := by
    cases item.direction <;> decide
  exact (ColumnExpr.refers_sql (hItems item hMem)).append
    (.words hDirection)

namespace SelectPlan

/- The tables of a plan and how they are joined. -/
def fromSql
    (plan : SelectPlan) : Sql :=
  Sql.words " FROM " ++ Sql.table plan.table ++
    (match plan.ranking with
    | some ranking => [.words " ", .tableAlias ranking.tableAlias]
    | none => []) ++
    plan.joins.flatMap JoinClause.sql

/- The filters of a plan, if there are any. -/
def whereSql
    (plan : SelectPlan) : Sql :=
  if plan.filters.isEmpty then []
  else Sql.words " WHERE " ++ conjunctionSql plan.filters

theorem tailSql_eq_from
    (plan : SelectPlan) :
    plan.tailSql = plan.fromSql ++ plan.whereSql :=
  rfl

/- A WHERE clause refers to the columns of the filters. -/
theorem refers_whereSql
    {plan : SelectPlan}
    (hFilters :
      ∀ p ∈ plan.filters, ∀ e ∈ p.columns, e.IsQualified) :
    plan.whereSql.Refers
      (plan.filters.flatMap CompiledPredicate.columns) := by
  have hAll :
      (conjunctionSql plan.filters).Refers
        (plan.filters.flatMap CompiledPredicate.columns) :=
    .joinWith (by decide) fun p hMem =>
      (CompiledPredicate.refers_sql (hFilters p hMem)).parenthesized
  unfold whereSql
  split
  · rename_i hEmpty
    rw [List.isEmpty_iff.mp hEmpty]
    exact .nil
  · exact (Sql.Refers.words (by decide)).append hAll

/-
  A FROM clause declares the alias of the first table and those
  of the joins, in order, and no others.
-/
theorem declared_fromSql
    {plan : SelectPlan}
    {ranking : RootRanking}
    (hRanking : plan.ranking = some ranking)
    (hOn :
      ∀ clause ∈ plan.joins, ∃ columns,
        clause.onSql.Refers columns) :
    plan.fromSql.declared =
      ranking.tableAlias :: plan.joins.map JoinClause.tableAlias := by
  rcases JoinClause.declared_flatMap_sql hOn with
    ⟨hParted, hDeclared⟩
  have hTable := Sql.Refers.table plan.table
  have hAlias :
      Sql.Parted [.words " ", .tableAlias ranking.tableAlias] :=
    Sql.parted_words (by decide)
  rw [fromSql, hRanking, Sql.declared_append hParted,
    Sql.declared_append hAlias, Sql.declared_append hTable.parted,
    hTable.declared_eq, hDeclared]
  rfl

end SelectPlan

end EntitySql
