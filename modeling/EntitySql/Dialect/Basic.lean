import EntitySql.Dialect.TypeSpelling
import EntitySql.Schema.Naming

/-
  This file defines the SQL dialects: how they quote names,
  mark parameters, cut pages and name column types.

  Key definitions include:
    * `Dialect`
    * `Quoting`, `Quoting.quote`
    * `Dialect.quoteName`, `Dialect.quoteTable`
    * `Dialect.placeholder`
    * `Dialect.pageStyle`
    * `Dialect.columnType?`
-/

namespace EntitySql

/- The supported dialects. -/
inductive Dialect where
  | sqlite
  | postgres
  | sqlServer
  deriving DecidableEq, Repr

------------------------------------------------------------
-- Quoted names
------------------------------------------------------------

/- The characters around a quoted name. -/
structure Quoting where
  opening : Char
  closing : Char
  deriving DecidableEq, Repr

/- A quoted name: its closing characters are doubled. -/
def Quoting.quote
    (q : Quoting)
    (name : List Char) : List Char :=
  q.opening ::
    name.flatMap (fun c => if c = q.closing then [c, c] else [c]) ++
    [q.closing]

namespace Dialect

def name : Dialect → String
  | .sqlite => "sqlite"
  | .postgres => "postgres"
  | .sqlServer => "sqlserver"

def quoting : Dialect → Quoting
  | .sqlite | .postgres => ⟨'"', '"'⟩
  | .sqlServer => ⟨'[', ']'⟩

def quoteName
    (d : Dialect)
    (name : String) : String :=
  String.ofList (d.quoting.quote name.toList)

/- A table name, its schema in front and quoted apart. -/
def quoteTable
    (d : Dialect)
    (t : TableName) : String :=
  match t.schema with
  | some schema => d.quoteName schema ++ "." ++ d.quoteName t.name
  | none => d.quoteName t.name

------------------------------------------------------------
-- Parameters and pages
------------------------------------------------------------

/- The character that a parameter placeholder begins with. -/
def placeholderMark
    (_ : Dialect) : Char :=
  '@'

def placeholder
    (d : Dialect)
    (parameter : String) : String :=
  String.ofList (d.placeholderMark :: parameter.toList)

/- How a select is cut down to one page. -/
inductive PageStyle where
  | limitOffset
  | rowNumber
  deriving DecidableEq, Repr

def pageStyle : Dialect → PageStyle
  | .sqlite | .postgres => .limitOffset
  | .sqlServer => .rowNumber

------------------------------------------------------------
-- Column types
------------------------------------------------------------

/- The column types of one field type. -/
structure ColumnTypes where
  sqlite : String
  postgres : String
  sqlServer : String
  deriving DecidableEq, Repr

/- The column types of every supported field type. -/
def columnTypes : List (String × ColumnTypes) :=
  [ ("i64", ⟨"INTEGER", "BIGINT", "BIGINT"⟩),
    ("u32", ⟨"INTEGER", "BIGINT", "BIGINT"⟩),
    ("i32", ⟨"INTEGER", "INTEGER", "INT"⟩),
    ("u16", ⟨"INTEGER", "INTEGER", "INT"⟩),
    ("i16", ⟨"INTEGER", "SMALLINT", "SMALLINT"⟩),
    ("i8", ⟨"INTEGER", "SMALLINT", "SMALLINT"⟩),
    ("u8", ⟨"INTEGER", "SMALLINT", "TINYINT"⟩),
    ("bool", ⟨"INTEGER", "BOOLEAN", "BIT"⟩),
    ("f64", ⟨"REAL", "DOUBLE PRECISION", "FLOAT"⟩),
    ("f32", ⟨"REAL", "REAL", "REAL"⟩),
    ("String", ⟨"TEXT", "TEXT", "NVARCHAR(MAX)"⟩),
    ("&str", ⟨"TEXT", "TEXT", "NVARCHAR(MAX)"⟩),
    ("str", ⟨"TEXT", "TEXT", "NVARCHAR(MAX)"⟩),
    ("Vec<u8>", ⟨"BLOB", "BYTEA", "VARBINARY(MAX)"⟩),
    ("NaiveDate", ⟨"TEXT", "DATE", "DATE"⟩),
    ("NaiveDateTime", ⟨"TEXT", "TIMESTAMP", "DATETIME2"⟩),
    ("DateTime<Utc>", ⟨"TEXT", "TIMESTAMPTZ", "DATETIMEOFFSET"⟩) ]

def ColumnTypes.ofDialect
    (types : ColumnTypes) : Dialect → String
  | .sqlite => types.sqlite
  | .postgres => types.postgres
  | .sqlServer => types.sqlServer

/- The column type of a declared type, by its normal form. -/
def columnType?
    (d : Dialect)
    (declared : String) : Option String :=
  (columnTypes.lookup (TypeSpelling.normalize declared)).map
    fun types => types.ofDialect d

end Dialect

end EntitySql
