import EntitySql.Error
import EntitySql.Sql

/-
  This file defines the aliases of the tables of a select, and
  the scopes in which column references are resolved.

  Key definitions include:
    * `AliasMap`
    * `AliasMap.assign`, `AliasMap.resolve`
    * `Scope`, `Scope.column`
-/

namespace EntitySql

------------------------------------------------------------
-- Aliases
------------------------------------------------------------

/-
  The tables of a select in order of appearance. The table at
  position `i`, counted from one, has the alias `t i`.
-/
structure AliasMap where
  tables : List EntityKey := []
  deriving DecidableEq, Repr

namespace AliasMap

def empty : AliasMap :=
  {}

def size
    (m : AliasMap) : Nat :=
  m.tables.length

/- Give the next alias to a table. -/
def assign
    (m : AliasMap)
    (entity : EntityKey) : TableAlias × AliasMap :=
  (⟨m.size + 1⟩, ⟨m.tables ++ [entity]⟩)

/- The aliases of an entity, in order. -/
def aliases
    (m : AliasMap)
    (entity : EntityKey) : List TableAlias :=
  (m.tables.zipIdx 1).filterMap fun (key, n) =>
    if key = entity then some ⟨n⟩ else none

/- The n-th alias of an entity, by default the first. -/
def resolve
    (m : AliasMap)
    (entity : EntityKey)
    (occurrence : Option Nat) : Except MappingError TableAlias :=
  let n := occurrence.getD 1
  let found :=
    if n = 0 then none else (m.aliases entity)[n - 1]?
  match found with
  | some a => .ok a
  | none => .error (.unresolvedAlias (.noOccurrence entity n))

/- The alias of the first table. -/
def root?
    (m : AliasMap) : Option TableAlias :=
  if m.size = 0 then none else some ⟨1⟩

/- The alias given last. -/
def last?
    (m : AliasMap) : Option TableAlias :=
  if m.size = 0 then none else some ⟨m.size⟩

end AliasMap

------------------------------------------------------------
-- Scopes
------------------------------------------------------------

/-
  Where columns are looked up: in one table, where they need
  no alias, or among the tables of a join.
-/
inductive Scope where
  | table (entity : EntityKey)
  | aliased (aliases : AliasMap)
  deriving DecidableEq, Repr

/- The expression that a column reference stands for. -/
def Scope.column
    (scope : Scope)
    (c : ColumnRef) : Except MappingError ColumnExpr :=
  match scope with
  | .table entity =>
      if c.entity = entity ∧ c.occurrence.getD 1 = 1 then
        .ok (.bare c.column)
      else .error (.unresolvedAlias (.foreignColumn c entity))
  | .aliased aliases => do
      let a ← aliases.resolve c.entity c.occurrence
      .ok (.qualified a c.column)

end EntitySql
