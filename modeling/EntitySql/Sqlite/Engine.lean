import EntitySql.Session.Provider
import EntitySql.Value.Field

/-
  This file defines connections to SQLite: how commands of
  several statements are bound, run and read back, over a
  library that prepares one statement at a time and steps it
  from row to row.

  Key definitions include:
    * `Sqlite.Datum`
    * `Sqlite.Bindings`
    * `Sqlite.Engine`
    * `Sqlite.Engine.bind`
    * `Sqlite.Engine.eachStatement`
    * `Sqlite.Engine.call`, `Sqlite.Engine.control`
-/

namespace EntitySql

namespace Sqlite

------------------------------------------------------------
-- Stored values
------------------------------------------------------------

/- A value as the library holds it, a text by its bytes. -/
inductive Datum where
  | null
  | integer (n : Int64)
  | real (x : Double)
  | text (bytes : List UInt8)
  | blob (bytes : List UInt8)
  deriving DecidableEq, Repr

namespace Datum

/- What is bound for a value. Truth values are integers. -/
def ofValue : Value → Datum
  | .null => .null
  | .bool b => .integer (if b then 1 else 0)
  | .int n => .integer n
  | .float x => .real x
  | .text s => .text (utf8Bytes s)
  | .blob bytes => .blob bytes

/- What is read back. The bytes of a text may not be UTF-8. -/
def toValue : Datum → Except SessionError Value
  | .null => .ok .null
  | .integer n => .ok (.int n)
  | .real x => .ok (.float x)
  | .text bytes =>
      match String.fromUTF8? ⟨bytes.toArray⟩ with
      | some s => .ok (.text s)
      | none => .error .database
  | .blob bytes => .ok (.blob bytes)

end Datum

/- What is bound to every parameter of a statement. -/
abbrev Bindings :=
  Nat → Datum

namespace Bindings

/- Nothing is bound yet, so every parameter is NULL. -/
def initial : Bindings :=
  fun _ => .null

def set
    (b : Bindings)
    (index : Nat)
    (v : Datum) : Bindings :=
  fun i => if i = index then v else b i

end Bindings

------------------------------------------------------------
-- The library
------------------------------------------------------------

/-
  What a connection asks of the library. It prepares the first
  statement of a text and says how much of it was read, where
  zero is all of it; blank text has no statement. A statement
  that is started gives one row at each step until it is done,
  and every statement is done at some time.
-/
structure Engine (σ π γ : Type) where
  prepare : List Char → Action σ (Option π × Nat)
  parameterIndex : π → String → Except SessionError (Option Nat)
  checkBound : Datum → Except SessionError Unit
  columns : π → List String
  start : π → Bindings → γ
  step : γ → Action σ (Option (List Datum × γ))
  reset : γ → σ → σ
  changes : σ → Nat
  rowsLeft : γ → σ → Nat
  rowsLeft_lt :
    ∀ {c w row c' w'},
      (step c).runOn w = (.ok (some (row, c')), w') →
      rowsLeft c' w' < rowsLeft c w

/- The text behind what was read. -/
def unread
    (cs : List Char)
    (read : Nat) : List Char :=
  if read = 0 then [] else cs.drop read

theorem length_unread_lt
    {cs : List Char}
    (hText : cs ≠ [])
    (read : Nat) :
    (unread cs read).length < cs.length := by
  have hLength := List.length_pos_iff.mpr hText
  unfold unread
  split
  · exact hLength
  · rw [List.length_drop]
    omega

/- The value in a column of a row. -/
def valueAt
    (row : List Datum)
    (column : Nat) : Except SessionError Value :=
  match row[column]? with
  | some v => v.toValue
  | none => .error .database

/- How a transaction begins, by the closest mode of locking. -/
def beginSql : Isolation → String
  | .readUncommitted | .readCommitted => "BEGIN DEFERRED"
  | .repeatableRead | .snapshot => "BEGIN IMMEDIATE"
  | .serializable => "BEGIN EXCLUSIVE"

namespace Engine

variable {σ π γ α : Type}
variable (e : Engine σ π γ)

------------------------------------------------------------
-- Binding
------------------------------------------------------------

/- Bind a parameter if the statement refers to it. -/
def bindParameter
    (p : π)
    (b : Bindings)
    (q : Parameter) : Except SessionError Bindings := do
  match ← e.parameterIndex p (Dialect.sqlite.placeholder q.name) with
  | none => .ok b
  | some index => do
      e.checkBound (.ofValue q.value)
      .ok (b.set index (.ofValue q.value))

/-
  Bind the parameters to which a statement refers. Others are
  left out, so the statements of a command share one list.
-/
def bind
    (params : List Parameter)
    (p : π) : Except SessionError Bindings :=
  params.foldlM (e.bindParameter p) .initial

------------------------------------------------------------
-- Running statements
------------------------------------------------------------

/- Go on with a result; a statement is reset after an error. -/
def orReset
    (c : γ)
    (result : Except SessionError α) : Action σ α :=
  Action.ofFunction fun w =>
    match result with
    | .ok a => (.ok a, w)
    | .error cause => (.error cause, e.reset c w)

/- Run a statement that has no rows, and count its changes. -/
def runWithoutRows
    (c : γ) : Action σ Nat := do
  match ← e.step c with
  | none => Action.ofFunction fun w => (.ok (e.changes w), w)
  | some (_, c) => e.orReset c (.error .database)

/- Run a statement to its end and take its rows in order. -/
def eachRowFrom
    (take : α → List Datum → Except SessionError α)
    (a : α)
    (c : γ)
    (w : σ) : Except SessionError α × σ :=
  match _hStep : (e.step c).runOn w with
  | (.error cause, w') => (.error cause, w')
  | (.ok none, w') => (.ok a, w')
  | (.ok (some (row, c')), w') =>
      match take a row with
      | .error cause => (.error cause, e.reset c' w')
      | .ok a' => eachRowFrom take a' c' w'
termination_by e.rowsLeft c w
decreasing_by exact e.rowsLeft_lt _hStep

def eachRow
    (take : α → List Datum → Except SessionError α)
    (a : α)
    (c : γ) : Action σ α :=
  Action.ofFunction (e.eachRowFrom take a c)

/- Run the statements of a text in order, each one bound. -/
def eachStatement
    (params : List Parameter)
    (run : α → π → γ → Action σ α)
    (a : α)
    (cs : List Char) : Action σ α :=
  if _hText : cs = [] then pure a
  else do
    let (prepared, read) ← e.prepare cs
    match prepared with
    | none => eachStatement params run a (unread cs read)
    | some p => do
        let b ← liftM (e.bind params p)
        let a ← run a p (e.start p b)
        eachStatement params run a (unread cs read)
termination_by cs.length
decreasing_by all_goals exact length_unread_lt _hText read

------------------------------------------------------------
-- Calls
------------------------------------------------------------

/- The first value of a statement; what follows is only run. -/
def firstValue
    (c : γ) : Action σ Value := do
  match ← e.step c with
  | none => pure .null
  | some (row, c) => do
      let v ← e.orReset c (valueAt row 0)
      e.eachRow (fun _ _ => .ok ()) () c
      pure v

/- Keep the first value of the first statement with columns. -/
def keepFirst
    (first : Option Value)
    (p : π)
    (c : γ) : Action σ (Option Value) := do
  if (e.columns p).isEmpty then
    let _ ← e.runWithoutRows c
    pure first
  else
    let v ← e.firstValue c
    pure (some (first.getD v))

/- Read a row of so many columns into a result set. -/
def pushRow
    (width : Nat)
    (set : ResultSet)
    (row : List Datum) : Except SessionError ResultSet := do
  let values ← (List.range width).mapM (valueAt row)
  .ok (set.push values)

/- Collect the result set of a statement with columns. -/
def collect
    (sets : List ResultSet)
    (p : π)
    (c : γ) : Action σ (List ResultSet) := do
  if (e.columns p).isEmpty then
    let _ ← e.runWithoutRows c
    pure sets
  else
    let columns := e.columns p
    let set ← e.eachRow (pushRow columns.length) ⟨columns, []⟩ c
    pure (sets ++ [set])

/- Count the changes of a statement, which has no rows. -/
def count
    (affected : Nat)
    (_ : π)
    (c : γ) : Action σ Nat := do
  let changed ← e.runWithoutRows c
  pure (affected + changed)

/- Call a command. -/
def call : (c : Convention) → Statement → Action σ c.Answer
  | .scalar, s => do
      let first ←
        e.eachStatement s.params e.keepFirst none s.sql.toList
      pure (first.getD .null)
  | .nonQuery, s =>
      e.eachStatement s.params e.count (0 : Nat) s.sql.toList
  | .reader, s => e.eachStatement s.params e.collect [] s.sql.toList

------------------------------------------------------------
-- Transactions
------------------------------------------------------------

/- Step every statement of a text once. -/
def executeBatch
    (sql : String) : Action σ Unit :=
  let stepOnce (_ : Unit) (_ : π) (c : γ) : Action σ Unit := do
    match ← e.step c with
    | none => pure ()
    | some (_, c) => Action.ofFunction fun w => (.ok (), e.reset c w)
  e.eachStatement [] stepOnce () sql.toList

def control : Control → Action σ Unit
  | .begin isolation => e.executeBatch (beginSql isolation)
  | .commit => e.executeBatch "COMMIT"
  | .rollback => e.executeBatch "ROLLBACK"

end Engine

end Sqlite

end EntitySql
