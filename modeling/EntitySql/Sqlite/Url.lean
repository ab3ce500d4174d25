import EntitySql.Session.Error
import EntitySql.Text.Blank

/-
  This file defines the targets of SQLite connections and the
  URLs that name them.

  Key definitions include:
    * `Sqlite.Target`
    * `Sqlite.Target.ofUrl`
-/

namespace EntitySql

namespace Sqlite

/- A database in memory or in a file. -/
inductive Target where
  | memory
  | file (path : String)
  deriving DecidableEq, Repr

namespace Target

def isMemory : Target → Bool
  | .memory => true
  | .file _ => false

/- What follows an opening, if the text begins with it. -/
def after?
    (opening : String)
    (cs : List Char) : Option (List Char) :=
  if opening.toList.isPrefixOf cs then
    some (cs.drop opening.toList.length)
  else none

/-
  The target of a URL. Blanks around it do not count, and a
  file path may follow one of two schemes.
-/
def ofUrl
    (url : String) : Except SessionError Target :=
  let cs := Text.trim url.toList
  let trimmed := String.ofList cs
  if trimmed = ":memory:" ∨ trimmed = "sqlite::memory:" then
    .ok .memory
  else
    let path :=
      (after? "sqlite://" cs <|> after? "sqlite:" cs).getD cs
    if path.isEmpty then
      .error (.config (.noDatabasePath trimmed))
    else .ok (.file (String.ofList path))

end Target

end Sqlite

end EntitySql
