import EntitySql.Dialect.Basic
import EntitySql.Predicate.Basic

/-
  This file defines why a statement cannot be generated or a
  row cannot be turned into an entity.

  Key definitions include:
    * `Unsupported`, `PageFault`, `AliasFault`
    * `MappingError`
    * `MappingError.message`
    * `Dialect.columnType`
-/

namespace EntitySql

------------------------------------------------------------
-- Causes
------------------------------------------------------------

/- Requests that have no SQL. -/
inductive Unsupported where
  | unordered (left : Value.Kind) (op : CompareOp) (right : Value.Kind)
  | comparedList (op : CompareOp)
  | orderedNull (column : ColumnRef) (op : CompareOp)
  | columnAsList (column : ColumnRef)
  | listAsMember
  | patternNotText
  | patternSubject
  | nothingToUpdate (entity : EntityKey)
  | emptyPatch
  | unknownColumn (entity : EntityKey) (column : String)
  deriving DecidableEq, Repr

def Unsupported.message : Unsupported → String
  | .unordered left op right =>
      "cannot order " ++ left.name ++ " " ++ op.text ++ " " ++
        right.name
  | .comparedList op =>
      "list operand in a " ++ op.text ++ " comparison"
  | .orderedNull column op =>
      column.text ++ " " ++ op.text ++ " NULL"
  | .columnAsList column =>
      "column " ++ column.text ++ " used as a membership list"
  | .listAsMember => "list tested for membership"
  | .patternNotText => "pattern operand must be text"
  | .patternSubject => "pattern subject must be a column or text"
  | .nothingToUpdate entity =>
      entity.name ++ " has no columns to update"
  | .emptyPatch => "update patch assigns no columns"
  | .unknownColumn entity column =>
      entity.name ++ " has no column '" ++ column ++ "'"

/- Pages that do not exist. -/
inductive PageFault where
  | numberZero
  | sizeZero
  | unordered
  deriving DecidableEq, Repr

def PageFault.message : PageFault → String
  | .numberZero => "page number starts at 1"
  | .sizeZero => "page size must be at least 1"
  | .unordered => "paging requires an ORDER BY"

/- Columns and tables that are not in scope. -/
inductive AliasFault where
  | foreignColumn (column : ColumnRef) (table : EntityKey)
  | noOccurrence (entity : EntityKey) (n : Nat)
  deriving DecidableEq, Repr

def AliasFault.message : AliasFault → String
  | .foreignColumn column table =>
      column.text ++ " is not a column of " ++ table.name
  | .noOccurrence entity n =>
      entity.name ++ " has no alias #" ++ toString n ++
        " in this query"

------------------------------------------------------------
-- Errors
------------------------------------------------------------

inductive MappingError where
  | unsupported (cause : Unsupported)
  | invalidPage (cause : PageFault)
  | missingIdentity (entity : EntityKey)
  | noColumnType (dialect : Dialect) (declaredType : String)
  | unresolvedAlias (cause : AliasFault)
  | conversion (column : String) (cause : ConversionError)
  | widthMismatch (expected actual : Nat)
  deriving DecidableEq, Repr

def MappingError.message : MappingError → String
  | .unsupported cause => "unsupported expression: " ++ cause.message
  | .invalidPage cause => "invalid pagination: " ++ cause.message
  | .missingIdentity entity =>
      "entity '" ++ entity.name ++ "' declares no identity column"
  | .noColumnType dialect declaredType =>
      "dialect '" ++ dialect.name ++ "' has no column type for '" ++
        declaredType ++ "'"
  | .unresolvedAlias cause => "unresolved alias: " ++ cause.message
  | .conversion column cause =>
      "cannot convert column '" ++ column ++ "': " ++ cause.message
  | .widthMismatch expected actual =>
      "row has " ++ toString actual ++
        " columns, join layout expects " ++ toString expected

/- The column type of a declared type, which must have one. -/
def Dialect.columnType
    (d : Dialect)
    (declaredType : String) : Except MappingError String :=
  match d.columnType? declaredType with
  | some column => .ok column
  | none => .error (.noColumnType d declaredType)

end EntitySql
