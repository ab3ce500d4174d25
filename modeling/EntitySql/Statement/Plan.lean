import EntitySql.Predicate.Compile
import EntitySql.Schema.Record
import EntitySql.Statement.Query

/-
  This file defines the plan of a select: its tables, columns
  and orders with every reference resolved, before a page is
  cut and text is written.

  Key definitions include:
    * `OutputColumn`, `OrderItem`, `JoinClause`
    * `RootRanking`
    * `SelectPlan`
    * `Query.plan`
    * `Query.reached`
-/

namespace EntitySql

------------------------------------------------------------
-- Parts of a plan
------------------------------------------------------------

/-
  A column of the select list, with the label it gets when it
  comes from one of several tables.
-/
structure OutputColumn where
  column : ColumnExpr
  label : String
  labelled : Bool
  deriving DecidableEq, Repr

/- One item of ORDER BY. -/
structure OrderItem where
  column : ColumnExpr
  direction : Direction
  deriving DecidableEq, Repr

/- One join of the FROM clause. -/
structure JoinClause where
  kind : JoinKind
  table : TableName
  tableAlias : TableAlias
  source : ColumnExpr
  dest : ColumnExpr
  condition : Option CompiledPredicate
  deriving DecidableEq, Repr

/-
  How a join tells its root rows apart: the alias and key of
  the root table, and an order of the roots among themselves.
-/
structure RootRanking where
  tableAlias : TableAlias
  key : ColumnExpr
  order : List OrderItem
  deriving DecidableEq, Repr

/- A select over one table or, with a ranking, over several. -/
structure SelectPlan where
  table : TableName
  ranking : Option RootRanking
  joins : List JoinClause
  columns : List OutputColumn
  filters : List CompiledPredicate
  order : List OrderItem
  deriving DecidableEq, Repr

------------------------------------------------------------
-- Columns
------------------------------------------------------------

/- The columns of a table that stands alone. -/
def EntityType.bareColumns
    (e : EntityType) : List OutputColumn :=
  e.columns.map fun c => ⟨.bare c, c, false⟩

/- The label of a column of one of several tables. -/
def TableAlias.label
    (a : TableAlias)
    (column : String) : String :=
  a.text ++ "_" ++ column

/- The columns of one of several tables. -/
def EntityType.aliasedColumns
    (e : EntityType)
    (a : TableAlias) : List OutputColumn :=
  e.columns.map fun c => ⟨.qualified a c, a.label c, true⟩

------------------------------------------------------------
-- Joins
------------------------------------------------------------

/- The alias that a join starts from. -/
def Join.sourceAlias
    (j : Join)
    (aliases : AliasMap) : Except MappingError TableAlias :=
  match j.source with
  | .previous => .ok (aliases.last?.getD ⟨1⟩)
  | .root => .ok ⟨1⟩
  | .nth entity n => aliases.resolve entity (some n)

/-
  Add the table of a join. Its predicate may refer to this
  table and to the earlier ones.
-/
def Join.clause
    (j : Join)
    (naming : TableNaming)
    (aliases : AliasMap) : Binding (JoinClause × AliasMap) := do
  let source ← j.sourceAlias aliases
  let (a, aliases) := aliases.assign j.target.key
  let condition ←
    match j.condition with
    | some p => some <$> (Scope.aliased aliases).compile p
    | none => pure none
  pure
    (⟨j.kind, j.target.tableName naming, a,
        .qualified source j.sourceColumn,
        .qualified a j.destColumn, condition⟩,
      aliases)

/- Add the tables of all joins in order. -/
def joinClauses
    (naming : TableNaming) :
    AliasMap → List Join → Binding (List JoinClause × AliasMap)
  | aliases, [] => pure ([], aliases)
  | aliases, j :: js => do
      let (clause, aliases) ← j.clause naming aliases
      let (clauses, aliases) ← joinClauses naming aliases js
      pure (clause :: clauses, aliases)

/- The select list of the joined tables, in join order. -/
def joinedColumns
    (joins : List Join)
    (clauses : List JoinClause) : List OutputColumn :=
  (joins.zip clauses).flatMap fun (j, clause) =>
    j.target.aliasedColumns clause.tableAlias

------------------------------------------------------------
-- Orders
------------------------------------------------------------

/- Resolve the columns of an order. -/
def Scope.orderItems
    (scope : Scope)
    (ordering : List OrderBy) : Except MappingError (List OrderItem) :=
  ordering.mapM fun o => do
    let column ← scope.column o.column
    pure ⟨column, o.direction⟩

/- The column belongs to the table with an alias. -/
def ColumnExpr.isOf
    (a : TableAlias) : ColumnExpr → Bool
  | .qualified b _ => a == b
  | _ => false

/-
  The order of roots: the items on root columns, and the root
  key in the end unless it is among them.
-/
def rootOrder
    (a : TableAlias)
    (key : ColumnExpr)
    (items : List OrderItem) : List OrderItem :=
  let roots := items.filter fun item => item.column.isOf a
  if items.any fun item => item.column == key then roots
  else roots ++ [⟨key, .asc⟩]

/-
  The order of joined rows. The root key follows the leading
  items on root columns, so that the rows of a root stay
  together; an order that starts on a joined table, or an
  empty one, gets the key at its end.
-/
def joinedOrder
    (a : TableAlias)
    (key : ColumnExpr)
    (items : List OrderItem) : List OrderItem :=
  let leading := items.takeWhile fun item => item.column.isOf a
  let rest := items.dropWhile fun item => item.column.isOf a
  if items.any fun item => item.column == key then items
  else if leading.isEmpty then items ++ [⟨key, .asc⟩]
  else leading ++ [⟨key, .asc⟩] ++ rest

------------------------------------------------------------
-- Plans
------------------------------------------------------------

namespace Query

/- Plan a select over one table. -/
def planFlat
    (q : Query)
    (naming : TableNaming) : Binding SelectPlan := do
  let scope := Scope.table q.root.key
  let filters ← scope.compileList q.filters
  let order ← scope.orderItems q.ordering
  pure
    { table := q.root.tableName naming
      ranking := none
      joins := []
      columns := q.root.bareColumns
      filters := filters
      order := order }

/- Plan a select over several tables; its root needs a key. -/
def planJoined
    (q : Query)
    (naming : TableNaming) : Binding SelectPlan := do
  let keyColumn ← q.root.identityColumn
  let (root, aliases) := AliasMap.empty.assign q.root.key
  let (clauses, aliases) ← joinClauses naming aliases q.joins
  let scope := Scope.aliased aliases
  let filters ← scope.compileList q.filters
  let items ← scope.orderItems q.ordering
  let key := ColumnExpr.qualified root keyColumn
  pure
    { table := q.root.tableName naming
      ranking := some ⟨root, key, rootOrder root key items⟩
      joins := clauses
      columns :=
        q.root.aliasedColumns root ++ joinedColumns q.joins clauses
      filters := filters
      order := joinedOrder root key items }

def plan
    (q : Query)
    (naming : TableNaming) : Binding SelectPlan :=
  if q.isJoined then q.planJoined naming else q.planFlat naming

------------------------------------------------------------
-- Entity types that planning reaches
------------------------------------------------------------

/-
  The joined types that planning looks at: all of them, or
  those up to the first join that fails.
-/
def joinsReached
    (naming : TableNaming) :
    AliasMap → ParameterSet → List Join → List EntityType
  | _, _, [] => []
  | aliases, params, j :: js =>
      j.target ::
        match (j.clause naming aliases).run.run params with
        | (.ok (_, aliases), params) =>
            joinsReached naming aliases params js
        | (.error _, _) => []

/- The types that planning looks at, the root first. -/
def reached
    (q : Query)
    (naming : TableNaming) : List EntityType :=
  let joined :=
    if q.root.identityIndex?.isNone then []
    else joinsReached naming ⟨[q.root.key]⟩ .empty q.joins
  q.root :: joined

end Query

end EntitySql
