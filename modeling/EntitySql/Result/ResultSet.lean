import EntitySql.Value.Basic

/-
  This file defines the rows that a database answers with.

  Key definitions include:
    * `ResultSet`
    * `Row`, `Row.get?`, `Row.slice?`
    * `ResultSet.rowViews`
    * `ResultSet.scalar?`
-/

namespace EntitySql

------------------------------------------------------------
-- Rows
------------------------------------------------------------

/- A row, or some neighbouring columns of one. -/
structure Row where
  columns : List String
  values : List Value
  deriving DecidableEq, Repr

namespace Row

/- The value of a named column; the first of that name counts. -/
def get?
    (r : Row)
    (column : String) : Option Value := do
  let i ← r.columns.idxOf? column
  r.values[i]?

def width
    (r : Row) : Nat :=
  r.values.length

def isEmpty
    (r : Row) : Bool :=
  r.values.isEmpty

def isAllNull
    (r : Row) : Bool :=
  r.values.all Value.isNull

/- The elements from one position up to another. -/
def range?
    {α : Type}
    (xs : List α)
    (start stop : Nat) : Option (List α) :=
  if start ≤ stop ∧ stop ≤ xs.length then
    some ((xs.take stop).drop start)
  else none

/- The columns from one position up to another, if all exist. -/
def slice?
    (r : Row)
    (start stop : Nat) : Option Row := do
  let columns ← range? r.columns start stop
  let values ← range? r.values start stop
  some ⟨columns, values⟩

end Row

------------------------------------------------------------
-- Result sets
------------------------------------------------------------

/-
  Columns and rows. A row may be shorter or longer than the
  list of columns.
-/
structure ResultSet where
  columns : List String := []
  rows : List (List Value) := []
  deriving DecidableEq, Repr

namespace ResultSet

def empty : ResultSet :=
  {}

def size
    (s : ResultSet) : Nat :=
  s.rows.length

def isEmpty
    (s : ResultSet) : Bool :=
  s.rows.isEmpty

/- Add a row at the end. -/
def push
    (s : ResultSet)
    (row : List Value) : ResultSet :=
  { s with rows := s.rows ++ [row] }

def rowViews
    (s : ResultSet) : List Row :=
  s.rows.map fun values => ⟨s.columns, values⟩

/- The first value of the first row. -/
def scalar?
    (s : ResultSet) : Option Value := do
  let row ← s.rows.head?
  row.head?

end ResultSet

end EntitySql
