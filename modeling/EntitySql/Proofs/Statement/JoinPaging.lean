import EntitySql.Proofs.Dialect.NameReading
import EntitySql.Proofs.Predicate.Identifiers
import EntitySql.Proofs.Statement.RootOrder
import EntitySql.Proofs.Statement.StatementText

/-
  The pages of a join hold whole roots: rows share a rank if
  and only if they share a root key, and a page keeps exactly
  the ranks that belong to it.

  Key definitions include:
    * `RootRanking.rank`, `RootRanking.kept`
    * `RootRanking.Determines`

  Key theorems include:
    * `RootRanking.rank_eq_iff`
    * `RootRanking.mem_kept_iff`
    * `Query.join_pages_hold_whole_roots`

  Ranks come from all columns that the roots are ordered by.
  The root key is one of them, and it decides the others.
-/

namespace EntitySql

------------------------------------------------------------
-- Ranked rows
------------------------------------------------------------

namespace RootRanking

/- The root number of a row: its rank in the order of roots. -/
def rank
    (κ : Collation)
    (ranking : RootRanking)
    (rows : List SelectRow)
    (r : SelectRow) : Nat :=
  denseRank (compareRows κ ranking.order) rows r

/- The rows whose root number lies on a page. -/
def kept
    (κ : Collation)
    (ranking : RootRanking)
    (page : Page)
    (rows : List SelectRow) : List SelectRow :=
  rows.filter fun r => page.holds (ranking.rank κ rows r)

/- Rows with one root key agree in all columns of the root. -/
def Determines
    (κ : Collation)
    (ranking : RootRanking)
    (rows : List SelectRow) : Prop :=
  ∀ r ∈ rows, ∀ s ∈ rows,
    κ.compareAt ranking.key r s = .eq →
      ∀ column,
        κ.compareAt (.qualified ranking.tableAlias column) r s = .eq

/- Roots are ordered by their own columns, also by their key. -/
structure OrdersRoots
    (ranking : RootRanking) : Prop where
  own :
    ∀ item ∈ ranking.order, ∃ column,
      item.column = .qualified ranking.tableAlias column
  key : ∃ item ∈ ranking.order, item.column = ranking.key

variable {κ : Collation}
variable {ranking : RootRanking}
variable {rows : List SelectRow}
variable {r s : SelectRow}

/- Rows tie in the order of roots if they have one root key. -/
theorem compareRows_order_eq_iff
    (hOrders : ranking.OrdersRoots)
    (hDetermines : ranking.Determines κ rows)
    (hr : r ∈ rows)
    (hs : s ∈ rows) :
    compareRows κ ranking.order r s = .eq ↔
      κ.compareAt ranking.key r s = .eq := by
  rw [compareRows_eq_eq_iff]
  constructor
  · intro hTies
    rcases hOrders.key with ⟨item, hMem, hKey⟩
    rw [← hKey]
    exact hTies item hMem
  · intro hKey item hMem
    rcases hOrders.own item hMem with ⟨column, hColumn⟩
    rw [hColumn]
    exact hDetermines r hr s hs hKey column

/- Rows share a root number if they have one root key. -/
theorem rank_eq_iff
    (hOrders : ranking.OrdersRoots)
    (hDetermines : ranking.Determines κ rows)
    (hr : r ∈ rows)
    (hs : s ∈ rows) :
    ranking.rank κ rows r = ranking.rank κ rows s ↔
      κ.compareAt ranking.key r s = .eq := by
  rw [rank, rank, denseRank_eq_iff hr hs,
    compareRows_order_eq_iff hOrders hDetermines hr hs]

/- A page keeps the rows whose root number is in its bounds. -/
theorem mem_kept_iff_between
    {page : Page}
    (hr : r ∈ rows) :
    r ∈ ranking.kept κ page rows ↔
      page.offset < ranking.rank κ rows r ∧
        ranking.rank κ rows r < page.upper := by
  rw [kept, List.mem_filter, Page.holds, Bool.and_eq_true,
    decide_eq_true_eq, decide_eq_true_eq]
  exact and_iff_right hr

/- A page keeps the rows whose root number belongs to it. -/
theorem mem_kept_iff
    {page : Page}
    (hNumber : page.number ≠ 0)
    (hRows : rows.length < Page.greatestRow)
    (hr : r ∈ rows) :
    r ∈ ranking.kept κ page rows ↔
      (page.number.toNat - 1) * page.size.toNat <
          ranking.rank κ rows r ∧
        ranking.rank κ rows r ≤
          page.number.toNat * page.size.toNat := by
  have hRank : ranking.rank κ rows r ≤ rows.length :=
    (denseRank_le hr).trans (length_tieClasses_le _ rows)
  rw [kept, List.mem_filter, Page.holds_iff hNumber (by omega)]
  exact and_iff_right hr

end RootRanking

------------------------------------------------------------
-- Planned rankings
------------------------------------------------------------

/- An item is written under the alias of its table. -/
theorem OrderItem.written_qualified
    {item : OrderItem}
    {a : TableAlias}
    {column : String}
    (hColumn : item.column = .qualified a column)
    (d : Dialect) :
    item.written d =
      a.text ++ "." ++ d.quoteName column ++ " " ++
        item.direction.text := by
  rw [written, hColumn, ColumnExpr.written]

/-
  No other alias begins like that of the root: the dot after
  it ends the number.
-/
theorem TableAlias.starts_root_iff
    (a : TableAlias)
    (s : String) :
    (∃ rest, a.text ++ "." ++ s = "t1." ++ rest) ↔ a = .root := by
  constructor
  · rintro ⟨rest, hText⟩
    have hRoot : TableAlias.root.text.toList = ['t', '1'] := by
      decide
    have hSame :
        a.text.toList ++ '.' :: s.toList =
          TableAlias.root.text.toList ++ '.' :: rest.toList := by
      simpa [hRoot] using congrArg String.toList hText
    exact (TableAlias.text_append_inj (by decide) hSame).1
  · rintro rfl
    exact ⟨s, rfl⟩

namespace Query

theorem PlansJoin.ordersRoots
    {q : Query}
    {naming : TableNaming}
    {plan : SelectPlan}
    {ranking : RootRanking}
    {column : String}
    {items : List OrderItem}
    (hPlans : q.PlansJoin naming plan column items)
    (hRanking : plan.ranking = some ranking) :
    ranking.OrdersRoots := by
  cases hPlans.ranking.symm.trans hRanking
  rw [rootOrder_eq hPlans.resolved]
  constructor
  case own =>
    intro item hMem
    exact exists_ofRoot_of_mem hMem
  case key =>
    apply exists_key_mem
    intro hAny
    rcases List.any_eq_true.mp hAny with ⟨o, hMem, hOrders⟩
    have hRoot : q.ordersRoot o = true := by
      rw [ordersKey, Bool.and_eq_true] at hOrders
      exact hOrders.1
    exact List.any_eq_true.mpr
      ⟨o, List.mem_filter.mpr ⟨hMem, hRoot⟩, hOrders⟩

/- The items of a join are on columns under an alias. -/
theorem PlansJoin.exists_qualified
    {q : Query}
    {naming : TableNaming}
    {plan : SelectPlan}
    {column : String}
    {items : List OrderItem}
    {item : OrderItem}
    (hPlans : q.PlansJoin naming plan column items)
    (hMem : item ∈ plan.order) :
    ∃ a c, item.column = .qualified a c := by
  rw [hPlans.order, mem_joinedOrder_iff hPlans.resolved] at hMem
  rcases hMem with hItem | hKey
  · rcases exists_mem_of_forall₂ hPlans.resolved hItem with
      ⟨o, _, hResolves⟩
    rcases hResolves.column_eq with ⟨a, hColumn⟩
    exact ⟨a, _, hColumn⟩
  · rw [eq_of_mem_addedKey hKey]
    exact ⟨_, _, rfl⟩

/-
  A page of a join. In its text the roots are ranked by the
  items of the query on columns of the root table, in their
  order and direction, and by the root key; nothing else is
  written in the ranking. The text keeps the ranks between the
  bounds of the page, and puts the rows in the order of ranks
  and then of the plan. So rows share a root number if and only
  if they have one root key, and the page keeps the roots with
  the numbers that belong to it, each of them with all its rows.
-/
theorem join_pages_hold_whole_roots
    {q : Query}
    {page : Page}
    {naming : TableNaming}
    {d : Dialect}
    {st : Statement}
    (hJoined : q.isJoined = true)
    (hPage : q.page = some page)
    (hStatement : (Request.select q).statement naming d = .ok st) :
    ∃ plan ranking column,
      (Request.select q).draft naming =
        .ok ⟨.select plan (some page), st.params⟩ ∧
      plan.ranking = some ranking ∧
      st.sql =
        plan.rankedText d ranking.order page.offset page.upper ∧
      q.root.identityColumn = .ok column ∧
      ranking.tableAlias = .root ∧
      ranking.key = .ofRoot column ∧
      ranking.order =
        (q.ordering.filter q.ordersRoot).map OrderBy.rootItem ++
          q.addedKey column ∧
      (∀ item ∈ plan.order,
        (∃ rest, item.written d = "t1." ++ rest) ↔
          item ∈ ranking.order) ∧
      (∀ item ∈ ranking.order, ∃ c, item.column = .ofRoot c) ∧
      (∃ item ∈ ranking.order, item.column = ranking.key) ∧
      ∀ κ rows,
        rows.length < Page.greatestRow →
        ranking.Determines κ rows →
        ∀ r ∈ rows,
          (r ∈ ranking.kept κ page rows ↔
            page.offset < ranking.rank κ rows r ∧
              ranking.rank κ rows r < page.upper) ∧
          (r ∈ ranking.kept κ page rows ↔
            (page.number.toNat - 1) * page.size.toNat <
                ranking.rank κ rows r ∧
              ranking.rank κ rows r ≤
                page.number.toNat * page.size.toNat) ∧
          ∀ s ∈ rows,
            (ranking.rank κ rows r = ranking.rank κ rows s ↔
              κ.compareAt ranking.key r s = .eq) ∧
            (κ.compareAt ranking.key r s = .eq →
              (r ∈ ranking.kept κ page rows ↔
                s ∈ ranking.kept κ page rows)) := by
  rcases exists_plan_of_select hStatement with
    ⟨plan, checked, hChecked, hPlan, hDraft, hSql⟩
  rcases checkedPage_eq_ok hPage hChecked with
    ⟨rfl, hNumber, _, _⟩
  rcases plansJoin_of_yields hJoined hPlan with
    ⟨column, items, hPlans⟩
  let ranking : RootRanking :=
    ⟨.root, .ofRoot column, rootOrder .root (.ofRoot column) items⟩
  have hRanking : plan.ranking = some ranking := hPlans.ranking
  have hOrder := rootOrder_eq hPlans.resolved column
  have hOrders := hPlans.ordersRoots hRanking
  refine ⟨plan, ranking, column, hDraft, hRanking, ?_,
    hPlans.identity, rfl, rfl, hOrder, ?_, hOrders.own, hOrders.key,
    ?_⟩
  · rw [hSql, SelectPlan.text_selectSql_joined hRanking]
  · intro item hMem
    rcases hPlans.exists_qualified hMem with ⟨a, c, hColumn⟩
    rw [hPlans.order] at hMem
    rw [mem_rootOrder_iff hPlans.resolved hMem, hColumn,
      ColumnExpr.isOf, beq_iff_eq, eq_comm (a := TableAlias.root),
      item.written_qualified hColumn, String.append_assoc,
      String.append_assoc]
    exact a.starts_root_iff _
  · intro κ rows hRows hDetermines r hr
    have hKept {t : SelectRow} (ht : t ∈ rows) :=
      @RootRanking.mem_kept_iff κ ranking rows t page hNumber hRows ht
    refine ⟨RootRanking.mem_kept_iff_between hr, hKept hr, ?_⟩
    intro s hs
    have hRank := RootRanking.rank_eq_iff hOrders hDetermines hr hs
    refine ⟨hRank, ?_⟩
    intro hSame
    rw [hKept hr, hKept hs, hRank.mpr hSame]

end Query

------------------------------------------------------------
-- Blogs and posts
------------------------------------------------------------

/- Integers in their order, and NULL before all of them. -/
def Collation.integers : Collation where
  compare _ := compareLex (compareOn place) (compareOn number)
  lawful _ := inferInstance
where
  place : Value → Nat
    | .null => 0
    | _ => 1
  number : Value → Int
    | .int n => n.toInt
    | .bool b => if b then 1 else 0
    | _ => 0

/- A row with some columns, and NULL in all others. -/
def SelectRow.ofCells
    (cells : List (ColumnExpr × Value)) : SelectRow :=
  fun column => (cells.lookup column).getD .null

namespace BlogPosts

def blog : EntityType :=
  { key := ⟨0, "Blog"⟩
    table := "blogs"
    properties :=
      [ { column := "id", declaredType := "i64",
          type := ⟨.integer .int64, false⟩, identity := true },
        { column := "rating", declaredType := "i64",
          type := ⟨.integer .int64, false⟩ } ] }

def post : EntityType :=
  { key := ⟨1, "Post"⟩
    table := "posts"
    properties :=
      [ { column := "id", declaredType := "i64",
          type := ⟨.integer .int64, false⟩, identity := true },
        { column := "blog_id", declaredType := "i64",
          type := ⟨.integer .int64, false⟩ } ] }

/- Blogs joined with their posts. -/
def joinedQuery
    (kind : JoinKind)
    (ordering : List OrderBy) : Query :=
  { root := blog
    joins :=
      [ { kind := kind, target := post, sourceColumn := "id",
          destColumn := "blog_id" } ]
    ordering := ordering }

/- Their plan, with an order of blogs and one of rows. -/
def joinedPlan
    (kind : JoinKind)
    (blogOrder order : List OrderItem) : SelectPlan :=
  { table := ⟨none, "blogs"⟩
    ranking := some ⟨.root, .ofRoot "id", blogOrder⟩
    joins :=
      [ { kind := kind, table := ⟨none, "posts"⟩, tableAlias := ⟨2⟩,
          source := .qualified ⟨1⟩ "id",
          dest := .qualified ⟨2⟩ "blog_id", condition := none } ]
    columns :=
      [ ⟨.qualified ⟨1⟩ "id", "t1_id", true⟩,
        ⟨.qualified ⟨1⟩ "rating", "t1_rating", true⟩,
        ⟨.qualified ⟨2⟩ "id", "t2_id", true⟩,
        ⟨.qualified ⟨2⟩ "blog_id", "t2_blog_id", true⟩ ]
    filters := []
    order := order }

/- A row of a blog and one of its posts. -/
def row
    (id rating post : Int64) : SelectRow :=
  .ofCells
    [ (.qualified ⟨1⟩ "id", .int id),
      (.qualified ⟨1⟩ "rating", .int rating),
      (.qualified ⟨2⟩ "id", .int post) ]

/- The columns of a blog are the same beside all its posts. -/
theorem row_root
    (id rating post other : Int64)
    (column : String) :
    row id rating post (.ofRoot column) =
      row id rating other (.ofRoot column) := by
  have hPost :
      (ColumnExpr.ofRoot column == .qualified ⟨2⟩ "id") = false := by
    simp [ColumnExpr.ofRoot, TableAlias.root]
  simp only [row, SelectRow.ofCells, List.lookup_cons, hPost]

/- The id of a blog of a rating decides all its columns. -/
theorem determines_of_rating
    {ranking : RootRanking}
    {rows : List SelectRow}
    (hAlias : ranking.tableAlias = .root)
    (hKey : ranking.key = .ofRoot "id")
    (rating : Int64)
    (hRows : ∀ r ∈ rows, ∃ id post, r = row id rating post) :
    ranking.Determines .integers rows := by
  intro r hr s hs hSame column
  rcases hRows r hr with ⟨id, post, rfl⟩
  rcases hRows s hs with ⟨id', post', rfl⟩
  rw [hKey] at hSame
  have hNumbers : compare id.toInt id'.toInt = .eq := hSame
  cases Int64.toInt_inj.mp (Std.LawfulEqOrd.eq_of_compare hNumbers)
  rw [hAlias]
  exact Collation.compareAt_of_eq (row_root id rating post post' column)

/-
  Blogs with their posts, and with the blogs of these posts
  under a second alias.
-/
def ratedQuery : Query :=
  { root := blog
    joins :=
      [ { kind := .left, target := post, sourceColumn := "id",
          destColumn := "blog_id" },
        { kind := .inner, target := blog, sourceColumn := "blog_id",
          destColumn := "id" } ]
    ordering :=
      [ ⟨(ColumnRef.of blog "rating").nth 2, .asc⟩,
        ⟨ColumnRef.of blog "rating", .desc⟩,
        ⟨ColumnRef.of post "id", .asc⟩ ]
    page := some ⟨2, 1⟩ }

/-
  Only the rating under the first alias ranks blogs. Of two
  blogs with one rating, the second page has the second one.
-/
theorem second_page_holds_second_blog :
    let rows := [row 1 5 20, row 2 5 10, row 1 5 30]
    ∃ plan ranking,
      (Request.select ratedQuery).draft {} =
        .ok ⟨.select plan (some ⟨2, 1⟩), []⟩ ∧
      plan.ranking = some ranking ∧
      (orderSql ranking.order).text .sqlite =
        "t1.\"rating\" DESC, t1.\"id\" ASC" ∧
      rows.map (ranking.rank .integers rows) = [1, 2, 1] ∧
      (ranking.kept .integers ⟨2, 1⟩ rows).map
          (fun r => r (.ofRoot "id")) =
        [.int 2] ∧
      (row 1 5 20 ∈ ranking.kept .integers ⟨2, 1⟩ rows ↔
        row 1 5 30 ∈ ranking.kept .integers ⟨2, 1⟩ rows) := by
  intro rows
  have hStatement :
      (Request.select ratedQuery).statement {} .sqlite =
        .ok
          ⟨"SELECT \"t1_id\", \"t1_rating\", \"t2_id\", " ++
              "\"t2_blog_id\", \"t3_id\", \"t3_rating\" FROM " ++
              "(SELECT DENSE_RANK() OVER (ORDER BY " ++
              "t1.\"rating\" DESC, t1.\"id\" ASC) AS " ++
              "\"RootNum\", ROW_NUMBER() OVER (ORDER BY " ++
              "t3.\"rating\" ASC, t1.\"rating\" DESC, " ++
              "t2.\"id\" ASC, t1.\"id\" ASC) AS \"RowNum\", " ++
              "t1.\"id\" AS \"t1_id\", " ++
              "t1.\"rating\" AS \"t1_rating\", " ++
              "t2.\"id\" AS \"t2_id\", " ++
              "t2.\"blog_id\" AS \"t2_blog_id\", " ++
              "t3.\"id\" AS \"t3_id\", " ++
              "t3.\"rating\" AS \"t3_rating\" " ++
              "FROM \"blogs\" t1 LEFT JOIN \"posts\" t2 " ++
              "ON t1.\"id\" = t2.\"blog_id\" " ++
              "INNER JOIN \"blogs\" t3 " ++
              "ON t2.\"blog_id\" = t3.\"id\") AS \"Paged\" " ++
              "WHERE \"RootNum\" > 1 AND \"RootNum\" < 3 " ++
              "ORDER BY \"RootNum\", \"RowNum\"",
            [], .select⟩ := by
    decide +kernel
  rcases Query.join_pages_hold_whole_roots rfl rfl hStatement with
    ⟨plan, ranking, column, hDraft, hRanking, _, hColumn, hAlias,
      hKey, hOrder, _, _, _, hKept⟩
  have hId : column = "id" := by
    cases hColumn
    rfl
  subst hId
  have hItems :
      ranking.order =
        [⟨.ofRoot "rating", .desc⟩, ⟨.ofRoot "id", .asc⟩] := hOrder
  have hDetermines : ranking.Determines .integers rows := by
    apply determines_of_rating hAlias hKey 5
    simp only [rows, List.mem_cons, List.not_mem_nil, or_false]
    rintro r (rfl | rfl | rfl)
    all_goals exact ⟨_, _, rfl⟩
  have hRanks :
      rows.map (ranking.rank .integers rows) = [1, 2, 1] := by
    unfold RootRanking.rank
    rw [hItems]
    decide
  refine ⟨plan, ranking, hDraft, hRanking, ?_, hRanks, ?_, ?_⟩
  · rw [hItems]
    decide
  · unfold RootRanking.kept RootRanking.rank
    rw [hItems]
    decide
  · have hPair :=
      (hKept .integers rows (by decide) hDetermines
        (row 1 5 20) (by simp [rows])).2.2 (row 1 5 30)
        (by simp [rows])
    apply hPair.2
    rw [hKey]
    decide

end BlogPosts

end EntitySql
