import EntitySql.Sqlite.Command
import EntitySql.Sqlite.Engine

/-
  This file defines the library over an empty database, with
  the statements that need no tables, and connections to it.

  Key definitions include:
    * `Sqlite.State`
    * `Sqlite.Cursor`
    * `Sqlite.emptyDatabase`
    * `Sqlite.provider`
-/

namespace EntitySql

namespace Sqlite

/- What a connection remembers: whether a transaction is open. -/
structure State where
  inTransaction : Bool := false
  deriving DecidableEq, Repr

------------------------------------------------------------
-- Prepared statements
------------------------------------------------------------

/-
  The first statement of a text, and how much of it was read.
  The text ends at the first NUL character.
-/
def prepare
    (cs : List Char) : Action State (Option TableFree × Nat) :=
  let text := cs.takeWhile fun c => c != '\x00'
  match nextStep text with
  | .finished => pure (none, 0)
  | .blank rest => pure (none, text.length - rest.length)
  | .unreadable => throw .database
  | .statement s rest => pure (some s, text.length - rest.length)

/- The parameters of a statement, numbered from one. -/
def TableFree.parameters : TableFree → List String
  | .begin | .commit | .rollback => []
  | .select arms =>
      (arms.flatMap SelectArm.items).map fun item =>
        Dialect.sqlite.placeholder item.parameter

def TableFree.parameterIndex
    (s : TableFree)
    (name : String) : Option Nat :=
  (s.parameters.eraseDups.idxOf? name).map fun i => i + 1

/- The columns of a union are those of its first SELECT. -/
def TableFree.columns : TableFree → List String
  | .begin | .commit | .rollback | .select [] => []
  | .select (first :: _) => first.items.map SelectItem.column

------------------------------------------------------------
-- Running statements
------------------------------------------------------------

/- What a started statement has left to do. -/
inductive Cursor where
  | begin
  | endTransaction
  | rows (left : List (List Datum))
  deriving DecidableEq, Repr

/- NaN is stored as NULL. -/
def Datum.stored : Datum → Datum
  | .real x => if x.isNaN then .null else .real x
  | v => v

/- Every SELECT of a union has one row of bound values. -/
def TableFree.start
    (s : TableFree)
    (b : Bindings) : Cursor :=
  match s with
  | .begin => .begin
  | .commit | .rollback => .endTransaction
  | .select arms =>
      let parameters := s.parameters.eraseDups
      let bound (item : SelectItem) : Datum :=
        let name := Dialect.sqlite.placeholder item.parameter
        (b (parameters.idxOf name + 1)).stored
      .rows ((arms.filter SelectArm.hasRow).map fun arm =>
        arm.items.map bound)

/- Open a transaction, unless one is open. -/
def begin : Action State Unit :=
  Action.ofFunction fun s =>
    if s.inTransaction then (.error .database, s)
    else (.ok (), ⟨true⟩)

/- End the open transaction. -/
def endTransaction : Action State Unit :=
  Action.ofFunction fun s =>
    if s.inTransaction then (.ok (), ⟨false⟩)
    else (.error .database, s)

namespace Cursor

def step : Cursor → Action State (Option (List Datum × Cursor))
  | .begin => do
      Sqlite.begin
      pure none
  | .endTransaction => do
      Sqlite.endTransaction
      pure none
  | .rows [] => pure none
  | .rows (row :: left) => pure (some (row, .rows left))

def rowsLeft : Cursor → Nat
  | .begin | .endTransaction => 0
  | .rows left => left.length

/- Only a row is followed by more rows, which are fewer. -/
theorem rowsLeft_lt
    {c c' : Cursor}
    {row : List Datum}
    {w w' : State}
    (hStep : c.step.runOn w = (.ok (some (row, c')), w')) :
    c'.rowsLeft < c.rowsLeft := by
  rcases w with ⟨inTransaction⟩
  cases c with
  | begin => cases inTransaction <;> cases hStep
  | endTransaction => cases inTransaction <;> cases hStep
  | rows left =>
      cases left with
      | nil => cases hStep
      | cons first rest =>
          cases hStep
          exact Nat.lt_succ_self _

end Cursor

------------------------------------------------------------
-- The provider
------------------------------------------------------------

/- Without tables there is nothing to change or to undo. -/
def emptyDatabase : Engine State TableFree Cursor where
  prepare := prepare
  parameterIndex s name := .ok (s.parameterIndex name)
  checkBound _ := .ok ()
  columns := TableFree.columns
  start := TableFree.start
  step := Cursor.step
  reset _ w := w
  changes _ := 0
  rowsLeft c _ := c.rowsLeft
  rowsLeft_lt := Cursor.rowsLeft_lt

/- Connections to a database of their own in memory. -/
def provider : Provider State Unit where
  openConnection :=
    Action.ofFunction fun _ => (.ok (), ({} : State))
  call _ := emptyDatabase.call
  control _ := emptyDatabase.control
  close _ s := s

end Sqlite

end EntitySql
