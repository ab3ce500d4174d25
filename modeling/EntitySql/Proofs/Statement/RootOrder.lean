import EntitySql.Proofs.Predicate.References
import EntitySql.Proofs.Statement.Parameters
import EntitySql.Proofs.Statement.RowOrder

/-
  The orders that are planned for a join: which items are on
  columns of the root table, and where the root key stands.

  Key definitions include:
    * `Query.ordersRoot`, `Query.ordersKey`
    * `Query.rootFront`
    * `Query.PlansJoin`

  Key theorems include:
    * `AliasMap.resolve_eq_root_iff`
    * `Query.plansJoin_of_yields`
    * `Query.rootOrder_eq`
    * `Query.joinedOrder_eq`

  Items are told apart by the alias in front of their column.
  The root is the first table, so its alias is that of the
  first occurrence of its entity type, and no other.
-/

namespace EntitySql

------------------------------------------------------------
-- Items of an order
------------------------------------------------------------

/- The alias of the first table. -/
def TableAlias.root : TableAlias :=
  ⟨1⟩

/- A column of the first table. -/
def ColumnExpr.ofRoot
    (column : String) : ColumnExpr :=
  .qualified .root column

namespace Query

/- The item orders by a column of the first table. -/
def ordersRoot
    (q : Query)
    (o : OrderBy) : Bool :=
  o.column.entity == q.root.key && o.column.occurrence.getD 1 == 1

/- The item orders by one column of the first table. -/
def ordersKey
    (q : Query)
    (column : String)
    (o : OrderBy) : Bool :=
  q.ordersRoot o && o.column.column == column

end Query

/- An item on a column of the first table, as it is planned. -/
def OrderBy.rootItem
    (o : OrderBy) : OrderItem :=
  ⟨.ofRoot o.column.column, o.direction⟩

namespace Query

/- The root key, ascending, unless it is ordered on anyway. -/
def addedKey
    (q : Query)
    (column : String) : List OrderItem :=
  if q.ordering.any (q.ordersKey column) then []
  else [⟨.ofRoot column, .asc⟩]

/- The leading items on columns of the first table. -/
def leadingItems
    (q : Query) : List OrderBy :=
  q.ordering.takeWhile q.ordersRoot

/- The items from the first one on that is on another table. -/
def laterItems
    (q : Query) : List OrderBy :=
  q.ordering.dropWhile q.ordersRoot

/- The leading items and the root key, if it is added. -/
def rootFront
    (q : Query)
    (column : String) : List OrderItem :=
  q.leadingItems.map OrderBy.rootItem ++ q.addedKey column

/- An item is planned as one on its own column. -/
structure Resolves
    (q : Query)
    (o : OrderBy)
    (item : OrderItem) : Prop where
  direction_eq : item.direction = o.direction
  isOf_eq : item.column.isOf .root = q.ordersRoot o
  column_eq : ∃ a, item.column = .qualified a o.column.column

end Query

------------------------------------------------------------
-- Aliases
------------------------------------------------------------

namespace AliasMap

/- The first occurrence of the first table is the root. -/
theorem resolve_eq_root_iff
    {m : AliasMap}
    {key entity : EntityKey}
    {rest : List EntityKey}
    {occurrence : Option Nat}
    {a : TableAlias}
    (hTables : m.tables = key :: rest)
    (hResolve : m.resolve entity occurrence = .ok a) :
    a = .root ↔ entity = key ∧ occurrence.getD 1 = 1 := by
  rcases m with ⟨tables⟩
  subst hTables
  rcases resolve_eq_ok_iff.mp hResolve with ⟨i, hOccurs, rfl⟩
  constructor
  · intro hRoot
    obtain rfl : i = 0 := TableAlias.ofPosition_inj hRoot
    rcases isOccurrence_zero_iff.mp hOccurs with ⟨hKey, hNumber⟩
    exact ⟨hKey.symm, hNumber⟩
  · rintro ⟨hKey, hNumber⟩
    have hRoot : resolve ⟨key :: rest⟩ entity occurrence = .ok .root :=
      resolve_eq_ok_iff.mpr
        ⟨0, isOccurrence_zero_iff.mpr ⟨hKey.symm, hNumber⟩, rfl⟩
    exact Except.ok.inj (hResolve.symm.trans hRoot)

end AliasMap

------------------------------------------------------------
-- Planned joins
------------------------------------------------------------

/- A join takes the next alias and keeps its kind. -/
theorem Join.clause_spec
    {j : Join}
    {naming : TableNaming}
    {aliases aliases' : AliasMap}
    {clause : JoinClause}
    {s t : ParameterSet}
    (hYields :
      (j.clause naming aliases).Yields s (clause, aliases') t) :
    clause.kind = j.kind ∧
      clause.tableAlias = ⟨aliases.size + 1⟩ ∧
      aliases'.tables = aliases.tables ++ [j.target.key] := by
  simp only [Join.clause, Binding.yields_bind_iff,
    Binding.yields_liftM_iff] at hYields
  rcases hYields with ⟨source, _, _, hYields⟩
  cases hCondition : j.condition with
  | none =>
      simp only [hCondition, pure_bind, Binding.yields_pure_iff]
        at hYields
      cases hYields.1
      exact ⟨rfl, rfl, rfl⟩
  | some p =>
      simp only [hCondition, Binding.yields_bind_iff,
        Binding.yields_pure_iff] at hYields
      rcases hYields with ⟨_, _, _, hClause, _⟩
      cases hClause
      exact ⟨rfl, rfl, rfl⟩

/- Joins take the next aliases in order and keep their kinds. -/
theorem joinClauses_spec
    {naming : TableNaming}
    {aliases aliases' : AliasMap}
    {joins : List Join}
    {clauses : List JoinClause}
    {s t : ParameterSet}
    (hYields :
      (joinClauses naming aliases joins).Yields s
        (clauses, aliases') t) :
    clauses.map JoinClause.kind = joins.map Join.kind ∧
      (∀ clause ∈ clauses,
        aliases.size < clause.tableAlias.number) ∧
      aliases'.tables =
        aliases.tables ++ joins.map fun j => j.target.key := by
  induction joins generalizing s aliases clauses with
  | nil =>
      simp only [joinClauses, Binding.yields_pure_iff] at hYields
      cases hYields.1
      simp
  | cons j joins ih =>
      simp only [joinClauses, Binding.yields_bind_iff,
        Binding.yields_pure_iff] at hYields
      rcases hYields with
        ⟨⟨clause, aliases₁⟩, u, hClause, ⟨rest, aliases₂⟩, _,
          hRest, hClauses, rfl⟩
      cases hClauses
      rcases Join.clause_spec hClause with ⟨hKind, hAlias, hTables⟩
      rcases ih hRest with ⟨hKinds, hFresh, hTables'⟩
      dsimp only at hFresh hTables'
      refine ⟨by simp [hKind, hKinds], ?_, by simp [hTables', hTables]⟩
      intro other hMem
      have hSize : aliases₁.size = aliases.size + 1 := by
        simp [AliasMap.size, hTables]
      rcases List.mem_cons.mp hMem with rfl | hLater
      · rw [hAlias]
        exact Nat.lt_succ_self _
      · have hBound := hFresh other hLater
        omega

namespace Query

/- An order of joined rows is never empty. -/
theorem joinedOrder_ne_nil
    (a : TableAlias)
    (key : ColumnExpr)
    (items : List OrderItem) :
    joinedOrder a key items ≠ [] := by
  unfold joinedOrder
  dsimp only
  split
  · rename_i hAny
    rintro rfl
    cases hAny
  · split <;> simp

/-
  The plan of a join: its root with its key, the orders of the
  roots and of the rows, and the columns that it lists.
-/
structure PlansJoin
    (q : Query)
    (naming : TableNaming)
    (plan : SelectPlan)
    (column : String)
    (items : List OrderItem) : Prop where
  identity : q.root.identityColumn = .ok column
  table : plan.table = q.root.tableName naming
  ranking :
    plan.ranking =
      some
        ⟨.root, .ofRoot column,
          rootOrder .root (.ofRoot column) items⟩
  order : plan.order = joinedOrder .root (.ofRoot column) items
  columns :
    plan.columns =
      q.root.aliasedColumns .root ++ joinedColumns q.joins plan.joins
  resolved : List.Forall₂ q.Resolves q.ordering items
  kinds : plan.joins.map JoinClause.kind = q.joins.map Join.kind
  fresh : ∀ clause ∈ plan.joins, clause.tableAlias ≠ .root

theorem PlansJoin.order_ne_nil
    {q : Query}
    {naming : TableNaming}
    {plan : SelectPlan}
    {column : String}
    {items : List OrderItem}
    (hPlans : q.PlansJoin naming plan column items) :
    plan.order ≠ [] := by
  rw [hPlans.order]
  exact joinedOrder_ne_nil _ _ _

/- Every item of an order is planned as one on its column. -/
theorem resolves_orderItems
    {q : Query}
    {m : AliasMap}
    {rest : List EntityKey}
    {items : List OrderItem}
    (hTables : m.tables = q.root.key :: rest)
    (hItems : (Scope.aliased m).orderItems q.ordering = .ok items) :
    List.Forall₂ q.Resolves q.ordering items := by
  apply (mapM_eq_ok_iff.mp hItems).imp
  intro o item hItem
  simp only [Scope.column] at hItem
  cases hResolve : m.resolve o.column.entity o.column.occurrence with
  | error e =>
      rw [hResolve] at hItem
      cases hItem
  | ok a =>
      rw [hResolve] at hItem
      cases hItem
      refine ⟨rfl, ?_, a, rfl⟩
      have hRoot := AliasMap.resolve_eq_root_iff hTables hResolve
      rw [ColumnExpr.isOf, ordersRoot, Bool.eq_iff_iff,
        Bool.and_eq_true, beq_iff_eq, beq_iff_eq, beq_iff_eq,
        eq_comm, hRoot]

theorem plansJoin_of_yields
    {q : Query}
    {naming : TableNaming}
    {plan : SelectPlan}
    {s t : ParameterSet}
    (hJoined : q.isJoined = true)
    (hPlan : (q.plan naming).Yields s plan t) :
    ∃ column items, q.PlansJoin naming plan column items := by
  rw [Query.plan, if_pos hJoined] at hPlan
  simp only [planJoined, Binding.yields_bind_iff,
    Binding.yields_liftM_iff, Binding.yields_pure_iff] at hPlan
  rcases hPlan with
    ⟨column, _, ⟨hIdentity, rfl⟩, ⟨clauses, aliases⟩, _, hClauses,
      filters, _, _, items, _, ⟨hItems, rfl⟩, rfl, _⟩
  rcases joinClauses_spec hClauses with ⟨hKinds, hFresh, hTables⟩
  refine ⟨column, items, hIdentity, rfl, rfl, rfl, rfl,
    resolves_orderItems hTables hItems, hKinds, ?_⟩
  intro clause hMem hRoot
  have hBound := hFresh clause hMem
  rw [hRoot] at hBound
  exact absurd hBound (Nat.lt_irrefl 1)

------------------------------------------------------------
-- Where the root key stands
------------------------------------------------------------

section orders

variable {q : Query}
variable {o : OrderBy}
variable {item : OrderItem}
variable {items : List OrderItem}

theorem Resolves.eq_rootItem
    (hResolves : q.Resolves o item)
    (hRoot : q.ordersRoot o = true) :
    item = o.rootItem := by
  rcases item with ⟨column, direction⟩
  rcases hResolves with ⟨rfl, hOf, a, rfl⟩
  rw [hRoot, ColumnExpr.isOf, beq_iff_eq] at hOf
  rw [OrderBy.rootItem, ColumnExpr.ofRoot, hOf]

theorem Resolves.column_beq_key
    (hResolves : q.Resolves o item)
    (column : String) :
    (item.column == .ofRoot column) = q.ordersKey column o := by
  rcases hResolves.column_eq with ⟨a, hColumn⟩
  have hOf := hResolves.isOf_eq
  rw [hColumn, ColumnExpr.isOf] at hOf
  rw [ordersKey, ← hOf, hColumn, ColumnExpr.ofRoot, Bool.eq_iff_iff,
    beq_iff_eq, ColumnExpr.qualified.injEq, Bool.and_eq_true,
    beq_iff_eq, beq_iff_eq, eq_comm (a := a)]

theorem filter_isOf
    (hResolved : List.Forall₂ q.Resolves q.ordering items) :
    items.filter (fun item => item.column.isOf .root) =
      (q.ordering.filter q.ordersRoot).map OrderBy.rootItem := by
  generalize q.ordering = ordering at hResolved ⊢
  induction hResolved with
  | nil => rfl
  | @cons o item _ _ hFirst _ ih =>
      rw [List.filter_cons, List.filter_cons, hFirst.isOf_eq]
      split
      · rename_i hRoot
        rw [List.map_cons, ← hFirst.eq_rootItem hRoot, ih]
      · exact ih

theorem takeWhile_isOf
    (hResolved : List.Forall₂ q.Resolves q.ordering items) :
    items.takeWhile (fun item => item.column.isOf .root) =
      q.leadingItems.map OrderBy.rootItem := by
  unfold leadingItems
  generalize q.ordering = ordering at hResolved ⊢
  induction hResolved with
  | nil => rfl
  | @cons o item _ _ hFirst _ ih =>
      rw [List.takeWhile_cons, List.takeWhile_cons, hFirst.isOf_eq]
      split
      · rename_i hRoot
        rw [List.map_cons, ← hFirst.eq_rootItem hRoot, ih]
      · rfl

theorem any_column_beq_key
    (hResolved : List.Forall₂ q.Resolves q.ordering items)
    (column : String) :
    (items.any fun item => item.column == .ofRoot column) =
      q.ordering.any (q.ordersKey column) := by
  generalize q.ordering = ordering at hResolved ⊢
  induction hResolved with
  | nil => rfl
  | cons hFirst _ ih =>
      rw [List.any_cons, List.any_cons, ih,
        hFirst.column_beq_key column]

/-
  The roots are ordered by the items on their columns, in
  their order, and by the key after them if it is not there.
-/
theorem rootOrder_eq
    (hResolved : List.Forall₂ q.Resolves q.ordering items)
    (column : String) :
    rootOrder .root (.ofRoot column) items =
      (q.ordering.filter q.ordersRoot).map OrderBy.rootItem ++
        q.addedKey column := by
  rw [rootOrder, any_column_beq_key hResolved, filter_isOf hResolved,
    addedKey]
  split
  · rw [List.append_nil]
  · rfl

/-
  Unless they start on another table, rows are ordered by the
  front first.
-/
theorem joinedOrder_eq
    (hResolved : List.Forall₂ q.Resolves q.ordering items)
    (column : String)
    (hStart : q.ordering = [] ∨ q.leadingItems ≠ []) :
    joinedOrder .root (.ofRoot column) items =
      q.rootFront column ++
        items.dropWhile fun item => item.column.isOf .root := by
  simp only [joinedOrder, any_column_beq_key hResolved,
    takeWhile_isOf hResolved, rootFront, addedKey]
  split
  · rw [List.append_nil, ← takeWhile_isOf hResolved,
      List.takeWhile_append_dropWhile]
  · rcases hStart with hEmpty | hLeading
    · rw [hEmpty] at hResolved
      cases hResolved
      simp [leadingItems, hEmpty]
    · simp [hLeading]

theorem eq_of_mem_addedKey
    {column : String}
    (hMem : item ∈ q.addedKey column) :
    item = ⟨.ofRoot column, .asc⟩ := by
  unfold addedKey at hMem
  split at hMem
  · cases hMem
  · exact List.mem_singleton.mp hMem

/- The order of joined rows has all items, and the key. -/
theorem mem_joinedOrder_iff
    (hResolved : List.Forall₂ q.Resolves q.ordering items)
    (column : String) :
    item ∈ joinedOrder .root (.ofRoot column) items ↔
      item ∈ items ∨ item ∈ q.addedKey column := by
  have hParts :
      item ∈ items ↔
        item ∈ q.leadingItems.map OrderBy.rootItem ∨
          item ∈ items.dropWhile fun item =>
            item.column.isOf .root := by
    rw [← takeWhile_isOf hResolved, ← List.mem_append,
      List.takeWhile_append_dropWhile]
  simp only [joinedOrder, any_column_beq_key hResolved,
    takeWhile_isOf hResolved, addedKey]
  split
  · simp
  · split
    · simp
    · simp only [List.mem_append, hParts]
      exact or_right_comm

/- Of the items of joined rows the roots have their own. -/
theorem mem_rootOrder_iff
    {column : String}
    (hResolved : List.Forall₂ q.Resolves q.ordering items)
    (hMem : item ∈ joinedOrder .root (.ofRoot column) items) :
    item ∈ rootOrder .root (.ofRoot column) items ↔
      item.column.isOf .root = true := by
  rw [mem_joinedOrder_iff hResolved] at hMem
  rw [rootOrder_eq hResolved, ← filter_isOf hResolved,
    List.mem_append, List.mem_filter]
  constructor
  · rintro (hItem | hKey)
    · exact hItem.2
    · rw [eq_of_mem_addedKey hKey]
      rfl
  · intro hOf
    exact hMem.imp_left fun hItem => ⟨hItem, hOf⟩

/- Items with the root key are on columns of the root table. -/
theorem exists_ofRoot_of_mem
    {column : String}
    {ordering : List OrderBy}
    (hMem :
      item ∈ ordering.map OrderBy.rootItem ++ q.addedKey column) :
    ∃ c, item.column = .ofRoot c := by
  rcases List.mem_append.mp hMem with hItem | hKey
  · rcases List.mem_map.mp hItem with ⟨o, _, rfl⟩
    exact ⟨_, rfl⟩
  · exact ⟨column, congrArg OrderItem.column (eq_of_mem_addedKey hKey)⟩

/-
  Items with the root key order on it, unless the query orders
  on it with an item that is not among them.
-/
theorem exists_key_mem
    {column : String}
    {ordering : List OrderBy}
    (hKey :
      q.ordering.any (q.ordersKey column) = true →
        ordering.any (q.ordersKey column) = true) :
    ∃ item ∈ ordering.map OrderBy.rootItem ++ q.addedKey column,
      item.column = .ofRoot column := by
  unfold addedKey
  split
  · rename_i hAny
    rcases List.any_eq_true.mp (hKey hAny) with ⟨o, hMem, hOrders⟩
    rw [ordersKey, Bool.and_eq_true, beq_iff_eq] at hOrders
    refine ⟨o.rootItem,
      List.mem_append_left _ (List.mem_map_of_mem hMem), ?_⟩
    rw [OrderBy.rootItem, hOrders.2]
  · exact ⟨_, List.mem_append_right _ (List.mem_singleton_self _),
      rfl⟩

end orders

end Query

end EntitySql
