import EntitySql.Statement.Basic
import EntitySql.Statement.Plan

/-
  This file defines the commands that can be sent to a
  database and their SQL in every dialect.

  Key definitions include:
    * `Cell`, `RowFilter`, `Command`
    * `SelectPlan.tailSql`
    * `SelectPlan.selectSql`, `SelectPlan.countSql`
    * `Command.sql`
    * `Draft`, `Draft.statement`
-/

namespace EntitySql

------------------------------------------------------------
-- Commands
------------------------------------------------------------

/- A column and the parameter whose value goes into it. -/
structure Cell where
  column : String
  parameter : String
  deriving DecidableEq, Repr

/- Which rows a command works on. -/
inductive RowFilter where
  | keyEquals (key : Cell)
  | matching (p : CompiledPredicate)
  deriving DecidableEq, Repr

/- A command, with every name and parameter chosen. -/
inductive Command where
  | insert (table : TableName) (cells : List Cell) (identity : String)
  | update (table : TableName) (cells : List Cell) (rows : RowFilter)
  | delete (table : TableName) (rows : RowFilter)
  | select (plan : SelectPlan) (page : Option Page)
  | count (plan : SelectPlan)
  | selectWithCount (plan : SelectPlan) (page : Option Page)
  deriving DecidableEq, Repr

def Command.kind : Command → StatementKind
  | .insert .. => .insert
  | .update .. => .update
  | .delete .. => .delete
  | .select .. => .select
  | .count .. => .scalar
  | .selectWithCount .. => .multiResult

------------------------------------------------------------
-- Parts of statements
------------------------------------------------------------

/- A column set to, or compared with, its parameter. -/
def Cell.sql
    (c : Cell) : Sql :=
  Sql.name c.column ++ Sql.words " = " ++ Sql.placeholder c.parameter

def RowFilter.sql : RowFilter → Sql
  | .keyEquals key => key.sql
  | .matching p => p.sql.parenthesized

def OrderItem.sql
    (item : OrderItem) : Sql :=
  item.column.sql ++ Sql.words (" " ++ item.direction.text)

def orderSql
    (items : List OrderItem) : Sql :=
  Sql.commaList (items.map OrderItem.sql)

/- A column of the select list, labelled if it has to be. -/
def OutputColumn.sql
    (c : OutputColumn) : Sql :=
  if c.labelled then
    c.column.sql ++ Sql.words " AS " ++ Sql.name c.label
  else c.column.sql

/- A join and what has to hold on its rows. -/
def JoinClause.sql
    (j : JoinClause) : Sql :=
  Sql.words (" " ++ j.kind.text ++ " ") ++ Sql.table j.table ++
    [.words " ", .tableAlias j.tableAlias, .words " ON "] ++
    j.source.sql ++ Sql.words " = " ++ j.dest.sql ++
    match j.condition with
    | some p => Sql.words " AND " ++ p.sql.parenthesized
    | none => []

------------------------------------------------------------
-- Selects
------------------------------------------------------------

namespace SelectPlan

/- The tables and the filters, shared by select and count. -/
def tailSql
    (plan : SelectPlan) : Sql :=
  Sql.words " FROM " ++ Sql.table plan.table ++
    (match plan.ranking with
    | some ranking => [.words " ", .tableAlias ranking.tableAlias]
    | none => []) ++
    plan.joins.flatMap JoinClause.sql ++
    (if plan.filters.isEmpty then []
    else Sql.words " WHERE " ++ conjunctionSql plan.filters)

/- The select list. -/
def columnsSql
    (plan : SelectPlan) : Sql :=
  Sql.commaList (plan.columns.map OutputColumn.sql)

/- The select list as a query around this one names it. -/
def labelsSql
    (plan : SelectPlan) : Sql :=
  Sql.commaList (plan.columns.map fun c => Sql.name c.label)

/- The names that paging adds to the rows of an inner query. -/
def rootNumber : Sql :=
  Sql.name "RootNum"

def rowNumber : Sql :=
  Sql.name "RowNum"

def pagedTable : Sql :=
  Sql.name "Paged"

/- The rows whose number in a column lies on a page. -/
def withinPage
    (number : Sql)
    (page : Page) : Sql :=
  number ++ Sql.words (" > " ++ toString page.offset ++ " AND ") ++
    number ++ Sql.words (" < " ++ toString page.upper)

/- All rows. -/
def unpagedSql
    (plan : SelectPlan) : Sql :=
  Sql.words "SELECT " ++ plan.columnsSql ++ plan.tailSql ++
    if plan.order.isEmpty then []
    else Sql.words " ORDER BY " ++ orderSql plan.order

/- A page cut by its length and offset. -/
def limitedSql
    (plan : SelectPlan)
    (page : Page) : Sql :=
  Sql.words "SELECT " ++ plan.columnsSql ++ plan.tailSql ++
    Sql.words " ORDER BY " ++ orderSql plan.order ++
    Sql.words (" LIMIT " ++ toString page.size.toNat) ++
    if page.offset = 0 then []
    else Sql.words (" OFFSET " ++ toString page.offset)

/- A page cut by row numbers. -/
def rowNumberedSql
    (plan : SelectPlan)
    (page : Page) : Sql :=
  Sql.words "SELECT " ++ plan.labelsSql ++
    Sql.words " FROM (SELECT ROW_NUMBER() OVER (ORDER BY " ++
    orderSql plan.order ++ Sql.words ") AS " ++ rowNumber ++
    Sql.words ", " ++ plan.columnsSql ++ plan.tailSql ++
    Sql.words ") AS " ++ pagedTable ++ Sql.words " WHERE " ++
    withinPage rowNumber page ++ Sql.words " ORDER BY " ++ rowNumber

/-
  A page of roots. All rows of a root share its rank, so that
  a page holds whole roots.
-/
def rankedSql
    (plan : SelectPlan)
    (ranking : RootRanking)
    (page : Page) : Sql :=
  Sql.words "SELECT " ++ plan.labelsSql ++
    Sql.words " FROM (SELECT DENSE_RANK() OVER (ORDER BY " ++
    orderSql ranking.order ++ Sql.words ") AS " ++ rootNumber ++
    Sql.words ", ROW_NUMBER() OVER (ORDER BY " ++
    orderSql plan.order ++ Sql.words ") AS " ++ rowNumber ++
    Sql.words ", " ++ plan.columnsSql ++ plan.tailSql ++
    Sql.words ") AS " ++ pagedTable ++ Sql.words " WHERE " ++
    withinPage rootNumber page ++ Sql.words " ORDER BY " ++
    rootNumber ++ Sql.words ", " ++ rowNumber

/- The rows of a plan, or one page of them. -/
def selectSql
    (plan : SelectPlan)
    (d : Dialect)
    (page : Option Page) : Sql :=
  match page with
  | none => plan.unpagedSql
  | some page =>
      match plan.ranking with
      | some ranking => plan.rankedSql ranking page
      | none =>
          match d.pageStyle with
          | .limitOffset => plan.limitedSql page
          | .rowNumber => plan.rowNumberedSql page

/- The number of rows, or of different roots. -/
def countSql
    (plan : SelectPlan) : Sql :=
  Sql.words "SELECT COUNT(" ++
    (match plan.ranking with
    | some ranking => Sql.words "DISTINCT " ++ ranking.key.sql
    | none => Sql.words "*") ++
    Sql.words ")" ++ plan.tailSql

end SelectPlan

------------------------------------------------------------
-- The SQL of commands
------------------------------------------------------------

/- The values of an insert; without columns it takes defaults. -/
def insertedSql
    (cells : List Cell) : Sql :=
  if cells.isEmpty then Sql.words " DEFAULT VALUES"
  else
    Sql.words " " ++
      (Sql.commaList
        (cells.map fun c => Sql.name c.column)).parenthesized ++
      Sql.words " VALUES " ++
      (Sql.commaList
        (cells.map fun c => Sql.placeholder c.parameter)).parenthesized

/- The SQL of a command in a dialect. -/
def Command.sql
    (d : Dialect) : Command → Sql
  | .insert table cells identity =>
      Sql.words "INSERT INTO " ++ Sql.table table ++
        insertedSql cells ++ d.identityReport (Sql.name identity)
  | .update table cells rows =>
      Sql.words "UPDATE " ++ Sql.table table ++ Sql.words " SET " ++
        Sql.commaList (cells.map Cell.sql) ++ Sql.words " WHERE " ++
        rows.sql
  | .delete table rows =>
      Sql.words "DELETE FROM " ++ Sql.table table ++
        Sql.words " WHERE " ++ rows.sql
  | .select plan page => plan.selectSql d page
  | .count plan => plan.countSql
  | .selectWithCount plan page =>
      plan.selectSql d page ++ Sql.words "; " ++ plan.countSql

------------------------------------------------------------
-- Drafts
------------------------------------------------------------

/- A command with the values of its parameters. -/
structure Draft where
  command : Command
  params : List Parameter
  deriving DecidableEq, Repr

/- The statement that a draft stands for in a dialect. -/
def Draft.statement
    (draft : Draft)
    (d : Dialect) : Statement :=
  { sql := (draft.command.sql d).text d
    params := draft.params
    kind := draft.command.kind }

end EntitySql
