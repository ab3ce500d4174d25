import EntitySql.Proofs.Statement.PredicateText
import EntitySql.Proofs.Statement.Readable

/-
  The SQL of every part of a statement is readable if its
  names are.

  Key definitions include:
    * `ConditionOperand.IsClean`
    * `SelectPlan.IsReadable`
    * `Command.IsReadable`

  Key theorems include:
    * `Fragment.sealed_combine`
    * `SelectPlan.sealed_selectSql`
    * `Command.readable_sql`

  Placeholders end tests, and tests end at a parenthesis, at a
  combinator or with the statement.
-/

namespace EntitySql

variable {d : Dialect}

open Sql

------------------------------------------------------------
-- Columns and tables
------------------------------------------------------------

/- The name is written without the mark. -/
def Dialect.IsPlain
    (d : Dialect)
    (name : String) : Prop :=
  d.placeholderMark ∉ name.toList

theorem Dialect.isPlain_of_isIdentifier
    {name : String}
    (hName : Text.IsIdentifier name) :
    d.IsPlain name :=
  mark_notMem_of_word hName.word

theorem ColumnExpr.sealed_sql
    {column : ColumnExpr}
    (hColumn : d.IsPlain column.column) :
    column.sql.Sealed d := by
  cases column with
  | bare name => exact sealed_name hColumn
  | verbatim text => exact sealed_words hColumn
  | qualified a name =>
      have hDot : (words ".").Sealed d :=
        sealed_literal (by decide)
      exact (sealed_alias a).append
        (hDot.append (sealed_name hColumn))

theorem Sql.sealed_table
    {t : TableName}
    (hName : d.IsPlain t.name)
    (hSchema : ∀ schema ∈ t.schema, d.IsPlain schema) :
    (table t).Sealed d := by
  unfold table
  cases hCase : t.schema with
  | none => exact sealed_name hName
  | some schema =>
      have hDot : (words ".").Sealed d :=
        sealed_literal (by decide)
      exact (sealed_name (hSchema schema hCase)).append
        (hDot.append (sealed_name hName))

------------------------------------------------------------
-- Predicates
------------------------------------------------------------

/- The names on the right-hand side of a test. -/
def ConditionOperand.IsClean
    (d : Dialect) : ConditionOperand → Prop
  | .none => True
  | .parameter p => Text.IsIdentifier p.name
  | .list ps => ∀ p ∈ ps, Text.IsIdentifier p.name
  | .column other => d.IsPlain other.column

theorem SqlOperator.mark_notMem
    (op : SqlOperator) :
    d.placeholderMark ∉ (" " ++ op.text).toList := by
  apply Dialect.mark_notMem
  cases op <;> decide

theorem Condition.readable_sql
    {c : Condition}
    (hColumn : d.IsPlain c.column.column)
    (hOperand : c.operand.IsClean d) :
    c.sql.Readable d := by
  have hSpace : (words " ").Sealed d :=
    sealed_literal (by decide)
  have hFront : (c.column.sql ++ words (" " ++ c.op.text)).Sealed d :=
    (ColumnExpr.sealed_sql hColumn).append
      (sealed_words c.op.mark_notMem)
  unfold Condition.sql
  apply hFront.append_readable
  cases hCase : c.operand with
  | none => exact sealed_nil.toReadable
  | parameter p =>
      rw [hCase] at hOperand
      exact hSpace.append_readable (readable_placeholder hOperand)
  | list ps =>
      rw [hCase] at hOperand
      apply hSpace.append_readable
      apply Sealed.toReadable
      apply Readable.parenthesized
      apply readable_commaList
      intro item hMem
      rcases List.mem_map.mp hMem with ⟨p, hIn, rfl⟩
      exact readable_placeholder (hOperand p hIn)
  | column other =>
      rw [hCase] at hOperand
      exact hSpace.append_readable
        (ColumnExpr.sealed_sql hOperand).toReadable

theorem Fragment.sealed_constant
    (value : Bool) :
    (Fragment.constant value).sql.Sealed d := by
  cases value <;>
    exact sealed_literal (by decide)

/- The parentheses of a combination end what is in them. -/
theorem Fragment.sealed_combine
    (c : Combinator)
    {left right : List Fragment}
    (hLeft : (listSql left).Readable d)
    (hRight : (listSql right).Readable d) :
    (listSql (Scope.combine c left right)).Sealed d := by
  have hText : d.placeholderMark ∉ (" " ++ c.text ++ " ").toList := by
    apply Dialect.mark_notMem
    cases c <;> decide
  have hGroups :
      listSql (Scope.combine c left right) =
        (listSql left).parenthesized ++
          words (" " ++ c.text ++ " ") ++
          (listSql right).parenthesized := by
    rw [Scope.listSql_combine]
    simp [Sql.parenthesized]
  rw [hGroups]
  exact (hLeft.parenthesized.append (sealed_words hText)).append
    hRight.parenthesized

------------------------------------------------------------
-- Cells and filters of rows
------------------------------------------------------------

/- The names of a cell. -/
structure Cell.IsClean
    (d : Dialect)
    (c : Cell) : Prop where
  column : d.IsPlain c.column
  parameter : Text.IsIdentifier c.parameter

theorem Cell.readable_sql
    {c : Cell}
    (hClean : c.IsClean d) :
    c.sql.Readable d := by
  have hEquals : (words " = ").Sealed d :=
    sealed_literal (by decide)
  exact ((sealed_name hClean.column).append hEquals).append_readable
    (readable_placeholder hClean.parameter)

def RowFilter.IsReadable
    (d : Dialect) : RowFilter → Prop
  | .keyEquals key => key.IsClean d
  | .matching p => p.sql.Readable d

theorem RowFilter.readable_sql
    {rows : RowFilter}
    (hRows : rows.IsReadable d) :
    rows.sql.Readable d := by
  cases rows with
  | keyEquals key => exact Cell.readable_sql hRows
  | matching p => exact (Readable.parenthesized hRows).toReadable

------------------------------------------------------------
-- Selects
------------------------------------------------------------

/- The names of a join, and its predicate. -/
structure JoinClause.IsReadable
    (d : Dialect)
    (j : JoinClause) : Prop where
  table : (Sql.table j.table).Sealed d
  source : d.IsPlain j.source.column
  dest : d.IsPlain j.dest.column
  condition : ∀ p ∈ j.condition, p.sql.Readable d

theorem JoinClause.sealed_sql
    {j : JoinClause}
    (hJoin : j.IsReadable d) :
    j.sql.Sealed d := by
  have hKind : (words (" " ++ j.kind.text ++ " ")).Sealed d := by
    apply sealed_words
    apply Dialect.mark_notMem
    cases j.kind <;> decide
  have hAlias :
      Sealed d [.words " ", .tableAlias j.tableAlias, .words " ON "] :=
    (sealed_literal (by decide)).append
      ((sealed_alias j.tableAlias).append
        (sealed_literal (by decide)))
  have hEquals : (words " = ").Sealed d :=
    sealed_literal (by decide)
  unfold JoinClause.sql
  apply Sealed.append
  · exact ((((hKind.append hJoin.table).append hAlias).append
      (ColumnExpr.sealed_sql hJoin.source)).append hEquals).append
      (ColumnExpr.sealed_sql hJoin.dest)
  · cases hCase : j.condition with
    | none => exact sealed_nil
    | some p =>
        have hAnd : (words " AND ").Sealed d :=
          sealed_literal (by decide)
        exact hAnd.append
          (Readable.parenthesized (hJoin.condition p hCase))

theorem OrderItem.sealed_sql
    {item : OrderItem}
    (hColumn : d.IsPlain item.column.column) :
    item.sql.Sealed d := by
  apply (ColumnExpr.sealed_sql hColumn).append
  apply sealed_words
  apply Dialect.mark_notMem
  cases item.direction <;> decide

theorem sealed_orderSql
    {items : List OrderItem}
    (hItems : ∀ item ∈ items, d.IsPlain item.column.column) :
    (orderSql items).Sealed d := by
  apply sealed_commaList
  intro sql hMem
  rcases List.mem_map.mp hMem with ⟨item, hIn, rfl⟩
  exact OrderItem.sealed_sql (hItems item hIn)

/- The names of a column of the select list. -/
structure OutputColumn.IsClean
    (d : Dialect)
    (c : OutputColumn) : Prop where
  column : d.IsPlain c.column.column
  label : d.IsPlain c.label

theorem OutputColumn.sealed_sql
    {c : OutputColumn}
    (hClean : c.IsClean d) :
    c.sql.Sealed d := by
  have hAs : (words " AS ").Sealed d :=
    sealed_literal (by decide)
  have hColumn := ColumnExpr.sealed_sql hClean.column
  unfold OutputColumn.sql
  split
  · exact (hColumn.append hAs).append (sealed_name hClean.label)
  · exact hColumn

/- The names of all parts of a plan, and its predicates. -/
structure SelectPlan.IsReadable
    (d : Dialect)
    (plan : SelectPlan) : Prop where
  table : (Sql.table plan.table).Sealed d
  key : ∀ r ∈ plan.ranking, d.IsPlain r.key.column
  roots : ∀ r ∈ plan.ranking,
    ∀ item ∈ r.order, d.IsPlain item.column.column
  joins : ∀ j ∈ plan.joins, j.IsReadable d
  columns : ∀ c ∈ plan.columns, c.IsClean d
  filters : ∀ p ∈ plan.filters, p.sql.Readable d
  order : ∀ item ∈ plan.order, d.IsPlain item.column.column

namespace SelectPlan

variable {plan : SelectPlan}

theorem sealed_columnsSql
    (hPlan : plan.IsReadable d) :
    plan.columnsSql.Sealed d := by
  apply sealed_commaList
  intro sql hMem
  rcases List.mem_map.mp hMem with ⟨c, hIn, rfl⟩
  exact OutputColumn.sealed_sql (hPlan.columns c hIn)

theorem sealed_labelsSql
    (hPlan : plan.IsReadable d) :
    plan.labelsSql.Sealed d := by
  apply sealed_commaList
  intro sql hMem
  rcases List.mem_map.mp hMem with ⟨c, hIn, rfl⟩
  exact sealed_name (hPlan.columns c hIn).label

theorem sealed_tailSql
    (hPlan : plan.IsReadable d) :
    plan.tailSql.Sealed d := by
  have hFrom : (words " FROM ").Sealed d :=
    sealed_literal (by decide)
  have hWhere : (words " WHERE ").Sealed d :=
    sealed_literal (by decide)
  unfold tailSql
  refine (((hFrom.append hPlan.table).append ?_).append ?_).append ?_
  · cases plan.ranking with
    | none => exact sealed_nil
    | some ranking =>
        exact (sealed_literal (by decide)).append
          (sealed_alias ranking.tableAlias)
  · exact sealed_flatMap fun j hMem =>
      JoinClause.sealed_sql (hPlan.joins j hMem)
  · split
    · exact sealed_nil
    · apply hWhere.append
      apply sealed_joinWith (Dialect.mark_notMem (by decide))
      intro sql hMem
      rcases List.mem_map.mp hMem with ⟨p, hIn, rfl⟩
      exact Readable.parenthesized (hPlan.filters p hIn)

/- A number between words, as page bounds are written. -/
theorem sealed_bound
    {before : String}
    (hBefore : '@' ∉ before.toList)
    (n : Nat) :
    (words (before ++ toString n)).Sealed d := by
  apply sealed_words
  rw [String.toList_append, List.mem_append, not_or]
  exact ⟨Dialect.mark_notMem hBefore,
    Dialect.mark_notMem_of_word (Text.word_toString n)⟩

theorem sealed_withinPage
    {number : Sql}
    (hNumber : number.Sealed d)
    (page : Page) :
    (withinPage number page).Sealed d := by
  have hAbove :
      (words (" > " ++ toString page.offset ++ " AND ")).Sealed d := by
    have hBound : (words (" > " ++ toString page.offset)).Sealed d :=
      sealed_bound (by decide) page.offset
    apply sealed_words
    rw [String.toList_append, List.mem_append, not_or]
    exact ⟨hBound.clean _ (List.mem_singleton_self _),
      Dialect.mark_notMem (by decide)⟩
  exact ((hNumber.append hAbove).append hNumber).append
    (sealed_bound (by decide) page.upper)

theorem sealed_rankedSql
    (hPlan : plan.IsReadable d)
    {ranking : RootRanking}
    (hRanking : ranking ∈ plan.ranking)
    (page : Page) :
    (plan.rankedSql ranking page).Sealed d := by
  have hRootNumber : rootNumber.Sealed d :=
    sealed_name (Dialect.mark_notMem (by decide))
  have hRowNumber : rowNumber.Sealed d :=
    sealed_name (Dialect.mark_notMem (by decide))
  have hPaged : pagedTable.Sealed d :=
    sealed_name (Dialect.mark_notMem (by decide))
  unfold rankedSql
  repeat' with_reducible apply Sealed.append
  any_goals with_reducible exact sealed_literal (by decide)
  · exact sealed_labelsSql hPlan
  · exact sealed_orderSql (hPlan.roots ranking hRanking)
  · exact hRootNumber
  · exact sealed_orderSql hPlan.order
  · exact hRowNumber
  · exact sealed_columnsSql hPlan
  · exact sealed_tailSql hPlan
  · exact hPaged
  · exact sealed_withinPage hRootNumber page
  · exact hRootNumber
  · exact hRowNumber

theorem sealed_rowNumberedSql
    (hPlan : plan.IsReadable d)
    (page : Page) :
    (plan.rowNumberedSql page).Sealed d := by
  have hRowNumber : rowNumber.Sealed d :=
    sealed_name (Dialect.mark_notMem (by decide))
  have hPaged : pagedTable.Sealed d :=
    sealed_name (Dialect.mark_notMem (by decide))
  unfold rowNumberedSql
  repeat' with_reducible apply Sealed.append
  any_goals with_reducible exact sealed_literal (by decide)
  · exact sealed_labelsSql hPlan
  · exact sealed_orderSql hPlan.order
  · exact hRowNumber
  · exact sealed_columnsSql hPlan
  · exact sealed_tailSql hPlan
  · exact hPaged
  · exact sealed_withinPage hRowNumber page
  · exact hRowNumber

theorem sealed_limitedSql
    (hPlan : plan.IsReadable d)
    (page : Page) :
    (plan.limitedSql page).Sealed d := by
  unfold limitedSql
  repeat' with_reducible apply Sealed.append
  · exact sealed_literal (by decide)
  · exact sealed_columnsSql hPlan
  · exact sealed_tailSql hPlan
  · exact sealed_literal (by decide)
  · exact sealed_orderSql hPlan.order
  · exact sealed_bound (by decide) page.size.toNat
  · split
    · exact sealed_nil
    · exact sealed_bound (by decide) page.offset

theorem sealed_unpagedSql
    (hPlan : plan.IsReadable d) :
    plan.unpagedSql.Sealed d := by
  have hOrder : (words " ORDER BY ").Sealed d :=
    sealed_literal (by decide)
  unfold unpagedSql
  repeat' with_reducible apply Sealed.append
  any_goals with_reducible exact sealed_literal (by decide)
  · exact sealed_columnsSql hPlan
  · exact sealed_tailSql hPlan
  · split
    · exact sealed_nil
    · exact hOrder.append (sealed_orderSql hPlan.order)

theorem sealed_selectSql
    (hPlan : plan.IsReadable d)
    (page : Option Page) :
    (plan.selectSql d page).Sealed d := by
  unfold selectSql
  cases page with
  | none => exact sealed_unpagedSql hPlan
  | some page =>
      cases hRanking : plan.ranking with
      | some ranking => exact sealed_rankedSql hPlan hRanking page
      | none =>
          cases d.pageStyle with
          | limitOffset => exact sealed_limitedSql hPlan page
          | rowNumber => exact sealed_rowNumberedSql hPlan page

theorem sealed_countSql
    (hPlan : plan.IsReadable d) :
    plan.countSql.Sealed d := by
  have hDistinct : (words "DISTINCT ").Sealed d :=
    sealed_literal (by decide)
  unfold countSql
  repeat' with_reducible apply Sealed.append
  any_goals with_reducible exact sealed_literal (by decide)
  · cases hRanking : plan.ranking with
    | none => exact sealed_literal (by decide)
    | some ranking =>
        exact hDistinct.append
          (ColumnExpr.sealed_sql (hPlan.key ranking hRanking))
  · exact sealed_tailSql hPlan

end SelectPlan

------------------------------------------------------------
-- Commands
------------------------------------------------------------

theorem sealed_insertedSql
    {cells : List Cell}
    (hCells : ∀ c ∈ cells, c.IsClean d) :
    (insertedSql cells).Sealed d := by
  unfold insertedSql
  split
  · exact sealed_literal (by decide)
  · repeat' with_reducible apply Sealed.append
    any_goals with_reducible exact sealed_literal (by decide)
    · apply Readable.parenthesized
      apply Sealed.toReadable
      apply sealed_commaList
      intro sql hMem
      rcases List.mem_map.mp hMem with ⟨c, hIn, rfl⟩
      exact sealed_name (hCells c hIn).column
    · apply Readable.parenthesized
      apply readable_commaList
      intro sql hMem
      rcases List.mem_map.mp hMem with ⟨c, hIn, rfl⟩
      exact readable_placeholder (hCells c hIn).parameter

theorem Dialect.sealed_identityReport
    {column : String}
    (hColumn : d.IsPlain column) :
    (d.identityReport (Sql.name column)).Sealed d := by
  have hReturning : (words " RETURNING ").Sealed d :=
    sealed_literal (by decide)
  unfold identityReport
  split
  · exact hReturning.append (sealed_name hColumn)
  · exact hReturning.append (sealed_name hColumn)
  · exact sealed_literal (by decide)

namespace Command

/- The names of all parts of a command, and its predicates. -/
def IsReadable
    (d : Dialect) : Command → Prop
  | .insert table cells identity =>
      (Sql.table table).Sealed d ∧ (∀ c ∈ cells, c.IsClean d) ∧
        d.IsPlain identity
  | .update table cells rows =>
      (Sql.table table).Sealed d ∧ (∀ c ∈ cells, c.IsClean d) ∧
        rows.IsReadable d
  | .delete table rows =>
      (Sql.table table).Sealed d ∧ rows.IsReadable d
  | .select plan _ | .count plan | .selectWithCount plan _ =>
      plan.IsReadable d

/- A command may end with a placeholder, as no list does. -/
theorem readable_sql
    {command : Command}
    (hCommand : command.IsReadable d) :
    (command.sql d).Readable d := by
  cases command with
  | insert table cells identity =>
      rcases hCommand with ⟨hTable, hCells, hIdentity⟩
      apply Sealed.toReadable
      have hInsert : (words "INSERT INTO ").Sealed d :=
        sealed_literal (by decide)
      exact ((hInsert.append hTable).append
        (sealed_insertedSql hCells)).append
        (Dialect.sealed_identityReport hIdentity)
  | update table cells rows =>
      rcases hCommand with ⟨hTable, hCells, hRows⟩
      have hUpdate : (words "UPDATE ").Sealed d :=
        sealed_literal (by decide)
      have hSet : (words " SET ").Sealed d :=
        sealed_literal (by decide)
      have hList :
          (commaList (cells.map Cell.sql)).Readable d := by
        apply readable_commaList
        intro sql hMem
        rcases List.mem_map.mp hMem with ⟨c, hIn, rfl⟩
        exact Cell.readable_sql (hCells c hIn)
      have hAssigned :=
        ((hUpdate.append hTable).append hSet).append_readable hList
      apply Sealed.append_readable _ (RowFilter.readable_sql hRows)
      exact hAssigned.append_words (Dialect.mark_notMem (by decide))
        (by decide)
  | delete table rows =>
      rcases hCommand with ⟨hTable, hRows⟩
      have hDelete : (words "DELETE FROM ").Sealed d :=
        sealed_literal (by decide)
      have hWhere : (words " WHERE ").Sealed d :=
        sealed_literal (by decide)
      exact ((hDelete.append hTable).append hWhere).append_readable
        (RowFilter.readable_sql hRows)
  | select plan page =>
      exact (SelectPlan.sealed_selectSql hCommand page).toReadable
  | count plan =>
      exact (SelectPlan.sealed_countSql hCommand).toReadable
  | selectWithCount plan page =>
      have hBreak : (words "; ").Sealed d :=
        sealed_literal (by decide)
      exact (((SelectPlan.sealed_selectSql hCommand page).append
        hBreak).append (SelectPlan.sealed_countSql hCommand)).toReadable

end Command

end EntitySql
