import EntitySql.Dialect.Basic

/-
  This file defines SQL as a list of pieces, before a dialect
  has turned it into text.

  Key definitions include:
    * `TableAlias`
    * `Sql.Piece`, `Sql`
    * `Sql.text`
    * `Sql.table`, `Sql.joinWith`
    * `ColumnExpr`, `ColumnExpr.sql`
    * `Dialect.identityReport`

  Pieces keep apart what the text runs together: the words of
  the language, the names that get quoted, the aliases, and
  the placeholders of parameters.
-/

namespace EntitySql

/- The alias of a table in a join: `t1`, `t2`, and so on. -/
structure TableAlias where
  number : Nat
  deriving DecidableEq, Repr

def TableAlias.text
    (a : TableAlias) : String :=
  "t" ++ toString a.number

------------------------------------------------------------
-- Pieces
------------------------------------------------------------

namespace Sql

/- A piece of SQL. -/
inductive Piece where
  | words (text : String)
  | name (identifier : String)
  | tableAlias (a : TableAlias)
  | placeholder (parameter : String)
  deriving DecidableEq, Repr

/- The text of a piece in a dialect. -/
def Piece.text
    (d : Dialect) : Piece → String
  | .words text => text
  | .name identifier => d.quoteName identifier
  | .tableAlias a => a.text
  | .placeholder parameter => d.placeholder parameter

end Sql

/- SQL of any length. -/
abbrev Sql :=
  List Sql.Piece

namespace Sql

/- The text of SQL in a dialect. -/
def text
    (d : Dialect)
    (sql : Sql) : String :=
  String.join (sql.map (Piece.text d))

/- Words of the language. -/
def words
    (s : String) : Sql :=
  [.words s]

def name
    (identifier : String) : Sql :=
  [.name identifier]

def placeholder
    (parameter : String) : Sql :=
  [.placeholder parameter]

/- A table name, with its schema in front. -/
def table
    (t : TableName) : Sql :=
  match t.schema with
  | some schema => [.name schema, .words ".", .name t.name]
  | none => [.name t.name]

/- Items with the same words between any two of them. -/
def joinWith
    (separator : String)
    (items : List Sql) : Sql :=
  match items with
  | [] => []
  | first :: rest =>
      first ++ rest.flatMap fun item => words separator ++ item

/- Items with commas between them. -/
def commaList
    (items : List Sql) : Sql :=
  joinWith ", " items

/- SQL between parentheses. -/
def parenthesized
    (sql : Sql) : Sql :=
  words "(" ++ sql ++ words ")"

end Sql

------------------------------------------------------------
-- Columns
------------------------------------------------------------

/-
  A column as an expression: by its name alone, under a table
  alias, or as text that is ready.
-/
inductive ColumnExpr where
  | bare (column : String)
  | qualified (table : TableAlias) (column : String)
  | verbatim (text : String)
  deriving DecidableEq, Repr

namespace ColumnExpr

def sql : ColumnExpr → Sql
  | .bare column => [.name column]
  | .qualified table column =>
      [.tableAlias table, .words ".", .name column]
  | .verbatim text => [.words text]

def text
    (d : Dialect)
    (column : ColumnExpr) : String :=
  column.sql.text d

end ColumnExpr

------------------------------------------------------------
-- Generated keys
------------------------------------------------------------

/-
  The end of an insert that makes it report the key which the
  database generated.
-/
def Dialect.identityReport
    (d : Dialect)
    (identity : Sql) : Sql :=
  match d with
  | .sqlite | .postgres => Sql.words " RETURNING " ++ identity
  | .sqlServer => Sql.words "; SELECT SCOPE_IDENTITY()"

end EntitySql
