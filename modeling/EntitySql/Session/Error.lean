import EntitySql.Error

/-
  This file defines why work with a database fails.

  Key definitions include:
    * `UnexpectedResult`, `ConfigFault`
    * `SessionError`
    * `SessionError.message?`
-/

namespace EntitySql

/- Answers that a statement cannot have. -/
inductive UnexpectedResult where
  | noIdentity (table : String)
  | negativeCount (n : Int64)
  | countKind (kind : Value.Kind)
  | resultSets (n : Nat)
  | noCount
  | reported (text : String)
  deriving DecidableEq, Repr

def UnexpectedResult.message : UnexpectedResult → String
  | .noIdentity table =>
      "insert into " ++ table ++ " returned no identity"
  | .negativeCount n => "negative count " ++ toString n.toInt
  | .countKind kind =>
      "expected an integer count, got " ++ kind.name
  | .resultSets n =>
      "expected a page and a count, got " ++ toString n ++
        " result sets"
  | .noCount => "count returned no rows"
  | .reported text => text

/- Settings that cannot be used. -/
inductive ConfigFault where
  | blankName (setting : String)
  | noDatabasePath (url : String)
  deriving DecidableEq, Repr

def ConfigFault.message : ConfigFault → String
  | .blankName setting => setting ++ " must not be empty"
  | .noDatabasePath url => "no database path in '" ++ url ++ "'"

inductive SessionError where
  | mapping (e : MappingError)
  | database
  | provider (text : String)
  | notFound
  | multipleFound
  | unexpected (cause : UnexpectedResult)
  | config (cause : ConfigFault)
  | malformedConfig
  deriving DecidableEq, Repr

/-
  The text of an error. Refusals by the database and by the
  reader of configurations carry none.
-/
def SessionError.message? : SessionError → Option String
  | .mapping e => some e.message
  | .database => none
  | .provider text => some ("provider error: " ++ text)
  | .notFound => some "object not found"
  | .multipleFound =>
      some "multiple objects returned when one was expected"
  | .unexpected cause =>
      some ("unexpected result: " ++ cause.message)
  | .config cause => some ("configuration error: " ++ cause.message)
  | .malformedConfig => none

end EntitySql
