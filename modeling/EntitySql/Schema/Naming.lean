/-
  This file defines resolved table names and the convention
  that resolves them.

  Key definitions include:
    * `TableName`, `TableName.text`
    * `TableNaming`, `TableNaming.resolve`
-/

namespace EntitySql

/- A table name with its schema, if any. -/
structure TableName where
  schema : Option String
  name : String
  deriving DecidableEq, Repr

/- The name in messages: schema and name with a dot between. -/
def TableName.text
    (t : TableName) : String :=
  match t.schema with
  | some schema => schema ++ "." ++ t.name
  | none => t.name

/-
  How declared tables are named in the database: a prefix for
  every table, and a schema for the tables that declare none.
-/
structure TableNaming where
  tablePrefix : Option String := none
  defaultSchema : Option String := none
  deriving DecidableEq, Repr

/-
  The full name of a declared table. A declared schema wins
  over the default one.
-/
def TableNaming.resolve
    (naming : TableNaming)
    (table : String)
    (schema : Option String) : TableName :=
  { schema := schema <|> naming.defaultSchema
    name := naming.tablePrefix.getD "" ++ table }

end EntitySql
