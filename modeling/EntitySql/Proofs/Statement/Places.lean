import EntitySql.Statement.Command

/-
  The places of a command: every spot of its SQL that takes a
  value, with the column that the value is for and the
  parameter that stands there.

  Key definitions include:
    * `Sql.placeholders`
    * `Command.places`

  Key theorems include:
    * `Command.placeholders_sql`
-/

namespace EntitySql

------------------------------------------------------------
-- Placeholders of SQL
------------------------------------------------------------

namespace Sql

def Piece.placeholder? : Piece → Option String
  | .placeholder parameter => some parameter
  | _ => none

/- The names of the placeholders, in order of appearance. -/
def placeholders
    (sql : Sql) : List String :=
  sql.filterMap Piece.placeholder?

@[simp] theorem placeholders_nil :
    placeholders [] = [] := rfl

@[simp] theorem placeholders_append
    (left right : Sql) :
    (left ++ right).placeholders =
      left.placeholders ++ right.placeholders :=
  List.filterMap_append

@[simp] theorem placeholders_words_cons
    (text : String)
    (sql : Sql) :
    placeholders (.words text :: sql) = placeholders sql := rfl

@[simp] theorem placeholders_alias_cons
    (a : TableAlias)
    (sql : Sql) :
    placeholders (.tableAlias a :: sql) = placeholders sql := rfl

@[simp] theorem placeholders_words
    (text : String) :
    (words text).placeholders = [] := rfl

@[simp] theorem placeholders_name
    (identifier : String) :
    (name identifier).placeholders = [] := rfl

@[simp] theorem placeholders_placeholder
    (parameter : String) :
    (placeholder parameter).placeholders = [parameter] := rfl

@[simp] theorem placeholders_table
    (t : TableName) :
    (table t).placeholders = [] := by
  unfold table
  cases t.schema <;> rfl

@[simp] theorem placeholders_flatMap
    {α : Type}
    (items : List α)
    (f : α → Sql) :
    placeholders (items.flatMap f) =
      items.flatMap fun item => (f item).placeholders := by
  induction items with
  | nil => rfl
  | cons item items ih => simp [ih]

/- Separators hold no place. -/
@[simp] theorem placeholders_joinWith
    (separator : String)
    (items : List Sql) :
    (joinWith separator items).placeholders =
      items.flatMap placeholders := by
  cases items with
  | nil => rfl
  | cons first rest => simp [joinWith]

@[simp] theorem placeholders_commaList
    (items : List Sql) :
    (commaList items).placeholders =
      items.flatMap placeholders :=
  placeholders_joinWith ", " items

@[simp] theorem placeholders_parenthesized
    (sql : Sql) :
    sql.parenthesized.placeholders = sql.placeholders := by
  simp [parenthesized]

end Sql

@[simp] theorem ColumnExpr.placeholders_sql
    (column : ColumnExpr) :
    column.sql.placeholders = [] := by
  cases column <;> rfl

@[simp] theorem Dialect.placeholders_identityReport
    (d : Dialect)
    (column : String) :
    (d.identityReport (Sql.name column)).placeholders = [] := by
  cases d <;> rfl

------------------------------------------------------------
-- Places of commands
------------------------------------------------------------

/- The column that an expression names. -/
def ColumnExpr.column : ColumnExpr → String
  | .bare column => column
  | .qualified _ column => column
  | .verbatim text => text

def Condition.places
    (c : Condition) : List Cell :=
  match c.operand with
  | .none => []
  | .parameter p => [⟨c.column.column, p.name⟩]
  | .list ps => ps.map fun p => ⟨c.column.column, p.name⟩
  | .column _ => []

def Fragment.places : Fragment → List Cell
  | .condition c => c.places
  | _ => []

namespace CompiledPredicate

def places
    (p : CompiledPredicate) : List Cell :=
  p.fragments.flatMap Fragment.places

end CompiledPredicate

def RowFilter.places : RowFilter → List Cell
  | .keyEquals key => [key]
  | .matching p => p.places

def JoinClause.places
    (j : JoinClause) : List Cell :=
  j.condition.toList.flatMap CompiledPredicate.places

/- The predicates of joins come before those of the filters. -/
def SelectPlan.places
    (plan : SelectPlan) : List Cell :=
  plan.joins.flatMap JoinClause.places ++
    plan.filters.flatMap CompiledPredicate.places

/- The places of a command in the order of its SQL. -/
def Command.places : Command → List Cell
  | .insert _ cells _ => cells
  | .update _ cells rows => cells ++ rows.places
  | .delete _ rows => rows.places
  | .select plan _ => plan.places
  | .count plan => plan.places
  | .selectWithCount plan _ => plan.places ++ plan.places

------------------------------------------------------------
-- Placeholders of commands
------------------------------------------------------------

theorem Condition.placeholders_sql
    (c : Condition) :
    c.sql.placeholders = c.places.map Cell.parameter := by
  rcases c with ⟨property, column, op, operand⟩
  cases operand with
  | none => simp [sql, places]
  | parameter p => simp [sql, places]
  | list ps =>
      simp [sql, places, List.flatMap_map, ← List.map_eq_flatMap]
  | column other => simp [sql, places]

theorem Fragment.placeholders_sql
    (fragment : Fragment) :
    fragment.sql.placeholders =
      fragment.places.map Cell.parameter := by
  cases fragment with
  | condition c => exact c.placeholders_sql
  | constant value => cases value <;> rfl
  | opening => rfl
  | closing => rfl
  | combinator c => rfl

@[simp] theorem CompiledPredicate.placeholders_sql
    (p : CompiledPredicate) :
    p.sql.placeholders = p.places.map Cell.parameter := by
  simp [sql, places, Fragment.listSql, List.map_flatMap,
    Fragment.placeholders_sql]

@[simp] theorem Cell.placeholders_sql
    (c : Cell) :
    c.sql.placeholders = [c.parameter] := by
  simp [sql]

@[simp] theorem RowFilter.placeholders_sql
    (rows : RowFilter) :
    rows.sql.placeholders = rows.places.map Cell.parameter := by
  cases rows with
  | keyEquals key => simp [sql, places]
  | matching p => simp [sql, places]

@[simp] theorem JoinClause.placeholders_sql
    (j : JoinClause) :
    j.sql.placeholders = j.places.map Cell.parameter := by
  rcases j with ⟨kind, table, a, source, dest, condition⟩
  cases condition <;> simp [sql, places]

@[simp] theorem placeholders_conjunctionSql
    (ps : List CompiledPredicate) :
    (conjunctionSql ps).placeholders =
      (ps.flatMap CompiledPredicate.places).map
        Cell.parameter := by
  simp [conjunctionSql, List.flatMap_map, List.map_flatMap]

/- Orders and select lists hold no place. -/
@[simp] theorem placeholders_orderSql
    (items : List OrderItem) :
    (orderSql items).placeholders = [] := by
  simp [orderSql, OrderItem.sql]

namespace SelectPlan

@[simp] theorem placeholders_columnsSql
    (plan : SelectPlan) :
    plan.columnsSql.placeholders = [] := by
  simp only [columnsSql, Sql.placeholders_commaList,
    List.flatMap_eq_nil_iff, List.mem_map]
  rintro _ ⟨c, _, rfl⟩
  unfold OutputColumn.sql
  split <;> simp

@[simp] theorem placeholders_labelsSql
    (plan : SelectPlan) :
    plan.labelsSql.placeholders = [] := by
  simp [labelsSql]

@[simp] theorem placeholders_withinPage
    (number : String)
    (page : Page) :
    (withinPage (Sql.name number) page).placeholders = [] := by
  simp [withinPage]

@[simp] theorem placeholders_tailSql
    (plan : SelectPlan) :
    plan.tailSql.placeholders =
      plan.places.map Cell.parameter := by
  rcases plan with ⟨table, ranking, joins, columns, filters, order⟩
  cases ranking <;> cases filters <;>
    simp [tailSql, places, List.map_flatMap]

/- However a page is cut, the tables and filters come once. -/
theorem placeholders_rankedSql
    (plan : SelectPlan)
    (ranking : RootRanking)
    (page : Page) :
    (plan.rankedSql ranking page).placeholders =
      plan.places.map Cell.parameter := by
  unfold rankedSql rootNumber rowNumber pagedTable
  simp only [Sql.placeholders_append, Sql.placeholders_words,
    Sql.placeholders_name, placeholders_labelsSql,
    placeholders_orderSql, placeholders_columnsSql,
    placeholders_tailSql, placeholders_withinPage,
    List.nil_append, List.append_nil]

theorem placeholders_rowNumberedSql
    (plan : SelectPlan)
    (page : Page) :
    (plan.rowNumberedSql page).placeholders =
      plan.places.map Cell.parameter := by
  unfold rowNumberedSql rowNumber pagedTable
  simp only [Sql.placeholders_append, Sql.placeholders_words,
    Sql.placeholders_name, placeholders_labelsSql,
    placeholders_orderSql, placeholders_columnsSql,
    placeholders_tailSql, placeholders_withinPage,
    List.nil_append, List.append_nil]

theorem placeholders_limitedSql
    (plan : SelectPlan)
    (page : Page) :
    (plan.limitedSql page).placeholders =
      plan.places.map Cell.parameter := by
  unfold limitedSql
  split <;> simp

theorem placeholders_unpagedSql
    (plan : SelectPlan) :
    plan.unpagedSql.placeholders =
      plan.places.map Cell.parameter := by
  unfold unpagedSql
  split <;> simp

@[simp] theorem placeholders_selectSql
    (plan : SelectPlan)
    (d : Dialect)
    (page : Option Page) :
    (plan.selectSql d page).placeholders =
      plan.places.map Cell.parameter := by
  unfold selectSql
  split
  · exact plan.placeholders_unpagedSql
  · rename_i page
    split
    · rename_i ranking _
      exact plan.placeholders_rankedSql ranking page
    · split
      · exact plan.placeholders_limitedSql page
      · exact plan.placeholders_rowNumberedSql page

@[simp] theorem placeholders_countSql
    (plan : SelectPlan) :
    plan.countSql.placeholders =
      plan.places.map Cell.parameter := by
  unfold countSql
  cases plan.ranking <;> simp

end SelectPlan

theorem placeholders_insertedSql
    (cells : List Cell) :
    (insertedSql cells).placeholders =
      cells.map Cell.parameter := by
  cases cells with
  | nil => simp [insertedSql]
  | cons c cells =>
      simp [insertedSql, List.flatMap_map, ← List.map_eq_flatMap]

/-
  In every dialect the placeholders of a command's SQL are the
  parameters of its places, in the same order.
-/
theorem Command.placeholders_sql
    (command : Command)
    (d : Dialect) :
    (command.sql d).placeholders =
      command.places.map Cell.parameter := by
  cases command with
  | insert table cells identity =>
      simp [sql, places, placeholders_insertedSql]
  | update table cells rows =>
      simp [sql, places, List.flatMap_map, ← List.map_eq_flatMap]
  | delete table rows => simp [sql, places]
  | select plan page => simp [sql, places]
  | count plan => simp [sql, places]
  | selectWithCount plan page => simp [sql, places]

end EntitySql
