import EntitySql.Proofs.Statement.JoinPaging

/-
  The rows of a root stand together in a join that is not cut
  into pages, if the order of its rows decides the root before
  anything else. A query that orders on the root key, but only
  behind a column of another table, does not decide it there.

  Key definitions include:
    * `RootRanking.StandTogether`
    * `Query.KeyLeads`
    * `OrderItem.apart`

  Key theorems include:
    * `RootRanking.standTogether_of_sortedBy`
    * `OrderItem.exists_torn_roots`
    * `Query.roots_stand_together_iff`
-/

namespace EntitySql

open Std (OrientedCmp TransCmp)

/- Between rows with one root key there is no other one. -/
def RootRanking.StandTogether
    (κ : Collation)
    (ranking : RootRanking)
    (rows : List SelectRow) : Prop :=
  ∀ r t s, [r, t, s].Sublist rows →
    κ.compareAt ranking.key r s = .eq →
      κ.compareAt ranking.key r t = .eq

/-
  The root key is not ordered on, or among the items before
  the first one on another table.
-/
def Query.KeyLeads
    (q : Query)
    (column : String) : Prop :=
  q.ordering.any (q.ordersKey column) = true →
    q.leadingItems.any (q.ordersKey column) = true

------------------------------------------------------------
-- The root decided first
------------------------------------------------------------

/-
  Rows that are ordered by columns of the root, with its key,
  before all others. The rows of a root tie in these columns,
  and so does everything between them.
-/
theorem RootRanking.standTogether_of_sortedBy
    {κ : Collation}
    {ranking : RootRanking}
    {front rest : List OrderItem}
    {rows : List SelectRow}
    (hOwn :
      ∀ item ∈ front, ∃ column,
        item.column = .qualified ranking.tableAlias column)
    (hKey : ∃ item ∈ front, item.column = ranking.key)
    (hDetermines : ranking.Determines κ rows)
    (hSorted : SortedBy κ (front ++ rest) rows) :
    ranking.StandTogether κ rows := by
  intro r t s hSublist hSame
  have hPairs := hSorted.sublist hSublist
  have hBefore {x y : SelectRow}
      (hOrder : (compareRows κ (front ++ rest) x y).isLE) :
      (compareRows κ front x y).isLE := by
    rw [compareRows_append, Ordering.isLE_then_iff_and] at hOrder
    exact hOrder.1
  simp only [List.pairwise_cons, List.mem_cons, List.not_mem_nil,
    or_false, forall_eq_or_imp, forall_eq] at hPairs
  have hRoot : compareRows κ front r s = .eq := by
    rw [compareRows_eq_eq_iff]
    intro item hMem
    rcases hOwn item hMem with ⟨column, hColumn⟩
    rw [hColumn]
    exact hDetermines r (hSublist.mem (by simp)) s
      (hSublist.mem (by simp)) hSame column
  have hBack : (compareRows κ front t r).isLE := by
    have hStep := hBefore hPairs.2.1
    rwa [TransCmp.congr_right hRoot]
  have hTies : compareRows κ front r t = .eq :=
    OrientedCmp.isLE_antisymm (hBefore hPairs.1.1) hBack
  rcases hKey with ⟨item, hMem, hColumn⟩
  rw [← hColumn]
  exact (compareRows_eq_eq_iff κ front r t).mp hTies item hMem

------------------------------------------------------------
-- The root torn apart
------------------------------------------------------------

namespace OrderItem

/- A row of a root with a place in a column of another table. -/
def apart
    (item : OrderItem)
    (key : ColumnExpr)
    (root place : Int64) : SelectRow :=
  .ofCells [(key, .int root), (item.column, .int place)]

/-
  Two rows of one root with a row of another between them, in
  the order of an item on another table.
-/
def torn
    (item : OrderItem)
    (key : ColumnExpr) : List SelectRow :=
  match item.direction with
  | .asc =>
      [item.apart key 1 1, item.apart key 2 2, item.apart key 1 3]
  | .desc =>
      [item.apart key 1 3, item.apart key 2 2, item.apart key 1 1]

variable {item : OrderItem}
variable {key column : ColumnExpr}

theorem apart_key
    (item : OrderItem)
    (key : ColumnExpr)
    (root place : Int64) :
    item.apart key root place key = .int root := by
  simp [apart, SelectRow.ofCells]

theorem apart_column
    (hKey : item.column ≠ key)
    (root place : Int64) :
    item.apart key root place item.column = .int place := by
  have hPlace : (item.column == key) = false := by simpa using hKey
  simp only [apart, SelectRow.ofCells, List.lookup_cons, hPlace,
    beq_self_eq_true, Option.getD_some]

/- Away from the place a root has the same columns. -/
theorem apart_root
    (hColumn : column ≠ item.column)
    (root place place' : Int64) :
    item.apart key root place column =
      item.apart key root place' column := by
  have hPlace : (column == item.column) = false := by
    simpa using hColumn
  simp only [apart, SelectRow.ofCells, List.lookup_cons, hPlace]

/- Only the key tells the roots apart, and nothing but it. -/
theorem apart_null
    (hKey : column ≠ key)
    (hColumn : column ≠ item.column)
    (root place : Int64) :
    item.apart key root place column = .null := by
  have hRoot : (column == key) = false := by simpa using hKey
  have hPlace : (column == item.column) = false := by
    simpa using hColumn
  simp only [apart, SelectRow.ofCells, List.lookup_cons, hRoot,
    hPlace, List.lookup_nil, Option.getD_none]

/-
  Rows in the order of a column of another table, which no
  item on the root key comes before.
-/
theorem sortedBy_torn
    {front : List OrderItem}
    (hKey : item.column ≠ key)
    (hFront :
      ∀ other ∈ front,
        other.column ≠ key ∧ other.column ≠ item.column)
    (rest : List OrderItem) :
    SortedBy .integers (front ++ item :: rest) (item.torn key) := by
  have hLess {root place root' place' : Int64}
      (hItem :
        item.compare .integers (item.apart key root place)
          (item.apart key root' place') = .lt) :
      (compareRows .integers (front ++ item :: rest)
        (item.apart key root place)
        (item.apart key root' place')).isLE := by
    have hTies :
        compareRows .integers front (item.apart key root place)
          (item.apart key root' place') = .eq := by
      rw [compareRows_eq_eq_iff]
      intro other hMem
      apply Collation.compareAt_of_eq
      rcases hFront other hMem with ⟨hOther, hColumn⟩
      rw [apart_null hOther hColumn, apart_null hOther hColumn]
    rw [compareRows_append, hTies, compareRows, compareLex, hItem]
    rfl
  have hCompare :
      item.compare .integers =
        match item.direction with
        | .asc => fun r s => Collation.integers.compareAt item.column r s
        | .desc =>
            fun r s => Collation.integers.compareAt item.column s r :=
    rfl
  unfold SortedBy torn
  cases hDirection : item.direction
  all_goals
    rw [hDirection] at hCompare
    simp only [List.pairwise_cons, List.mem_cons, List.not_mem_nil,
      or_false, forall_eq_or_imp, forall_eq, false_imp_iff,
      implies_true, List.Pairwise.nil, and_true]
    refine ⟨⟨hLess ?_, hLess ?_⟩, hLess ?_⟩
    all_goals
      rw [hCompare]
      simp only [Collation.compareAt, apart_column hKey]
      rfl

theorem exists_apart_of_mem
    {r : SelectRow}
    (hMem : r ∈ item.torn key) :
    ∃ root place, r = item.apart key root place := by
  unfold torn at hMem
  split at hMem
  all_goals
    simp only [List.mem_cons, List.not_mem_nil, or_false] at hMem
    rcases hMem with rfl | rfl | rfl
    all_goals exact ⟨_, _, rfl⟩

theorem root_eq_of_compareAt
    {root place root' place' : Int64}
    (hSame :
      Collation.integers.compareAt key (item.apart key root place)
        (item.apart key root' place') = .eq) :
    root = root' := by
  rw [Collation.compareAt, apart_key, apart_key] at hSame
  have hNumbers : Ord.compare root.toInt root'.toInt = .eq := hSame
  exact Int64.toInt_inj.mp (Std.LawfulEqOrd.eq_of_compare hNumbers)

/-
  The rows of a root are not together after items that say
  nothing about the root key.
-/
theorem exists_torn_roots
    {front : List OrderItem}
    (ranking : RootRanking)
    (hOther :
      ∀ column, item.column ≠ .qualified ranking.tableAlias column)
    (hKey : item.column ≠ ranking.key)
    (hFront :
      ∀ other ∈ front,
        other.column ≠ ranking.key ∧ other.column ≠ item.column)
    (rest : List OrderItem) :
    ∃ κ rows,
      ranking.Determines κ rows ∧
      SortedBy κ (front ++ item :: rest) rows ∧
      ¬ ranking.StandTogether κ rows := by
  refine ⟨.integers, item.torn ranking.key, ?_,
    sortedBy_torn hKey hFront rest, ?_⟩
  · intro r hr s hs hSame column
    rcases exists_apart_of_mem hr with ⟨root, place, rfl⟩
    rcases exists_apart_of_mem hs with ⟨root', place', rfl⟩
    cases root_eq_of_compareAt hSame
    exact Collation.compareAt_of_eq
      (apart_root (Ne.symm (hOther column)) root place place')
  · intro hTogether
    unfold torn at hTogether
    cases hDirection : item.direction
    all_goals
      rw [hDirection] at hTogether
      have hSame := root_eq_of_compareAt
        (hTogether _ _ _ (List.Sublist.refl _)
          (Collation.compareAt_of_eq (by rw [apart_key, apart_key])))
      exact absurd hSame (by decide)

end OrderItem

------------------------------------------------------------
-- Queries that keep roots together
------------------------------------------------------------

namespace Query

/- Leading items are on other columns, if none orders on the key. -/
theorem rootItem_ne
    {q : Query}
    {column : String}
    {o : OrderBy}
    (hNone : q.leadingItems.any (q.ordersKey column) = false)
    (hMem : o ∈ q.leadingItems) :
    o.rootItem.column ≠ .ofRoot column := by
  intro hColumn
  have hRoot : q.ordersRoot o = true := List.mem_takeWhile_imp hMem
  have hOrders : q.ordersKey column o = true := by
    cases hColumn
    rw [ordersKey, hRoot, Bool.true_and, beq_self_eq_true]
  rw [List.any_eq_true.mpr ⟨o, hMem, hOrders⟩] at hNone
  cases hNone

/-
  If the key is ordered on, but not by a leading item, then an
  item on another table follows the leading ones.
-/
theorem PlansJoin.exists_order_eq
    {q : Query}
    {naming : TableNaming}
    {plan : SelectPlan}
    {column : String}
    {items : List OrderItem}
    (hPlans : q.PlansJoin naming plan column items)
    (hStart : q.ordering = [] ∨ q.leadingItems ≠ [])
    (hAny : q.ordering.any (q.ordersKey column) = true)
    (hNone : q.leadingItems.any (q.ordersKey column) = false) :
    ∃ item rest,
      plan.order =
        q.leadingItems.map OrderBy.rootItem ++ item :: rest ∧
      item.column.isOf .root = false := by
  have hOrder := hPlans.order
  rw [joinedOrder_eq hPlans.resolved column hStart, rootFront,
    addedKey, if_pos hAny, List.append_nil] at hOrder
  have hItems := any_column_beq_key hPlans.resolved column
  rw [hAny, ← List.takeWhile_append_dropWhile
      (p := fun item : OrderItem => item.column.isOf .root) (l := items),
    takeWhile_isOf hPlans.resolved, List.any_append] at hItems
  have hLeading :
      (q.leadingItems.map OrderBy.rootItem).any
        (fun item => item.column == .ofRoot column) = false := by
    rw [List.any_map, List.any_eq_false]
    intro o hMem
    simpa using rootItem_ne hNone hMem
  rw [hLeading, Bool.false_or] at hItems
  rcases hRest : items.dropWhile fun item => item.column.isOf .root
    with _ | ⟨item, rest⟩
  · rw [hRest] at hItems
    cases hItems
  · have hHead := List.head_dropWhile_not
      (fun item : OrderItem => item.column.isOf .root) (l := items)
      (by simp [hRest])
    simp only [hRest, List.head_cons] at hHead
    exact ⟨item, rest, by rw [hOrder, hRest], hHead⟩

/-
  A join without a page whose order is empty or starts on the
  root table. Its text ends with the order of the plan. Sorted
  by this, the rows of every root stand together, whatever rows
  there are in which the root key determines the root, if and
  only if the query leaves the key out of its order or has it
  among the leading root columns.
-/
theorem roots_stand_together_iff
    {q : Query}
    {naming : TableNaming}
    {d : Dialect}
    {st : Statement}
    (hJoined : q.isJoined = true)
    (hPage : q.page = none)
    (hStart : q.ordering = [] ∨ q.leadingItems ≠ [])
    (hStatement : (Request.select q).statement naming d = .ok st) :
    ∃ plan ranking column,
      (Request.select q).draft naming =
        .ok ⟨.select plan none, st.params⟩ ∧
      plan.ranking = some ranking ∧
      st.sql = plan.orderedText d ∧
      q.root.identityColumn = .ok column ∧
      ranking.tableAlias = .root ∧
      ranking.key = .ofRoot column ∧
      ((∀ κ rows,
          ranking.Determines κ rows →
          SortedBy κ plan.order rows →
          ranking.StandTogether κ rows) ↔
        q.KeyLeads column) := by
  rcases exists_plan_of_select hStatement with
    ⟨plan, checked, hChecked, hPlan, hDraft, hSql⟩
  rw [checkedPage, hPage] at hChecked
  cases hChecked
  rcases plansJoin_of_yields hJoined hPlan with
    ⟨column, items, hPlans⟩
  refine ⟨plan, _, column, hDraft, hPlans.ranking, ?_,
    hPlans.identity, rfl, rfl, ?_⟩
  · rw [hSql, SelectPlan.text_selectSql_none hPlans.order_ne_nil]
  · constructor
    case mp =>
      intro hTogether hAny
      by_contra hNot
      rw [Bool.not_eq_true] at hNot
      rcases hPlans.exists_order_eq hStart hAny hNot with
        ⟨item, rest, hOrder, hItem⟩
      have hOther (c : String) : item.column ≠ .ofRoot c := by
        intro hColumn
        rw [hColumn] at hItem
        cases hItem
      have hFront :
          ∀ other ∈ q.leadingItems.map OrderBy.rootItem,
            other.column ≠ .ofRoot column ∧
              other.column ≠ item.column := by
        intro other hMem
        rcases List.mem_map.mp hMem with ⟨o, hLeading, rfl⟩
        exact ⟨rootItem_ne hNot hLeading, (hOther _).symm⟩
      rcases OrderItem.exists_torn_roots
          ⟨.root, .ofRoot column, rootOrder .root (.ofRoot column) items⟩
          hOther (hOther column) hFront rest with
        ⟨κ, rows, hDetermines, hSorted, hTorn⟩
      rw [← hOrder] at hSorted
      exact hTorn (hTogether κ rows hDetermines hSorted)
    case mpr =>
      intro hLeads κ rows hDetermines hSorted
      rw [hPlans.order, joinedOrder_eq hPlans.resolved column hStart]
        at hSorted
      exact RootRanking.standTogether_of_sortedBy
        (fun _ hMem => exists_ofRoot_of_mem hMem)
        (exists_key_mem hLeads) hDetermines hSorted

end Query

------------------------------------------------------------
-- Blogs and posts
------------------------------------------------------------

namespace BlogPosts

/- The key is put between the rating and the posts. -/
theorem rated_roots_stand_together :
    ∃ plan ranking,
      (Request.select
          (joinedQuery .left
            [ ⟨ColumnRef.of blog "rating", .desc⟩,
              ⟨ColumnRef.of post "id", .asc⟩ ])).draft {} =
        .ok ⟨.select plan none, []⟩ ∧
      plan.ranking = some ranking ∧
      ∀ κ rows,
        ranking.Determines κ rows →
        SortedBy κ plan.order rows →
        ranking.StandTogether κ rows := by
  have hStatement :
      (Request.select
          (joinedQuery .left
            [ ⟨ColumnRef.of blog "rating", .desc⟩,
              ⟨ColumnRef.of post "id", .asc⟩ ])).statement {} .sqlite =
        .ok
          ⟨"SELECT t1.\"id\" AS \"t1_id\", " ++
              "t1.\"rating\" AS \"t1_rating\", " ++
              "t2.\"id\" AS \"t2_id\", " ++
              "t2.\"blog_id\" AS \"t2_blog_id\" " ++
              "FROM \"blogs\" t1 LEFT JOIN \"posts\" t2 " ++
              "ON t1.\"id\" = t2.\"blog_id\" " ++
              "ORDER BY t1.\"rating\" DESC, t1.\"id\" ASC, " ++
              "t2.\"id\" ASC",
            [], .select⟩ := by
    decide +kernel
  rcases Query.roots_stand_together_iff rfl rfl
      (.inr (by decide)) hStatement with
    ⟨plan, ranking, column, hDraft, hRanking, _, hColumn, _, _, hIff⟩
  refine ⟨plan, ranking, hDraft, hRanking, hIff.mpr ?_⟩
  intro hAny
  cases hColumn
  exact absurd hAny (by decide)

/- Blogs by rating, then by their posts, and then by id. -/
def lateKeyQuery : Query :=
  joinedQuery .left
    [ ⟨ColumnRef.of blog "rating", .asc⟩,
      ⟨ColumnRef.of post "id", .asc⟩,
      ⟨ColumnRef.of blog "id", .asc⟩ ]

/-
  Two posts of one blog with one of another between them, in
  the order of the statement.
-/
theorem late_key_tears_blog_apart :
    let rows := [row 1 5 10, row 2 5 20, row 1 5 30]
    ∃ plan ranking,
      (Request.select lateKeyQuery).draft {} =
        .ok ⟨.select plan none, []⟩ ∧
      plan.ranking = some ranking ∧
      ranking.Determines .integers rows ∧
      SortedBy .integers plan.order rows ∧
      ¬ ranking.StandTogether .integers rows := by
  intro rows
  let blogOrder : List OrderItem :=
    [⟨.ofRoot "rating", .asc⟩, ⟨.ofRoot "id", .asc⟩]
  let order : List OrderItem :=
    [ ⟨.ofRoot "rating", .asc⟩, ⟨.qualified ⟨2⟩ "id", .asc⟩,
      ⟨.ofRoot "id", .asc⟩ ]
  refine ⟨joinedPlan .left blogOrder order,
    ⟨.root, .ofRoot "id", blogOrder⟩, by decide +kernel, rfl,
    ?_, ?_, ?_⟩
  · apply determines_of_rating rfl rfl 5
    simp only [rows, List.mem_cons, List.not_mem_nil, or_false]
    rintro r (rfl | rfl | rfl)
    all_goals exact ⟨_, _, rfl⟩
  · unfold SortedBy
    decide
  · intro hTogether
    have hSame := hTogether _ _ _ (List.Sublist.refl rows) (by decide)
    exact absurd hSame (by decide)

end BlogPosts

end EntitySql
