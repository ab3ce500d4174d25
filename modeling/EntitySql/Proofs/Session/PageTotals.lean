import EntitySql.Proofs.Session.KeyedRows
import EntitySql.Proofs.Statement.RankCount

/-
  The pages of a join and its total: every page has the roots
  of the ranks on it, and joined rows without a root have one
  rank together, which the total leaves out.

  Key definitions include:
    * `RootRanking.Ranks`
    * `KeyedRows.classes`, `KeyedRows.counted`

  Key theorems include:
    * `KeyedRows.countOf_eq`
    * `KeyedRows.length_eq_countP`
    * `Mapper.selectPage_fills_pages`
-/

namespace EntitySql

open Std (OrientedCmp TransCmp)
open Operation

------------------------------------------------------------
-- Roots of a page
------------------------------------------------------------

/- Roots are ranked by their own columns and one key column. -/
structure RootRanking.Ranks
    (ranking : RootRanking)
    (column : String) : Prop extends ranking.OrdersRoots where
  alias_eq : ranking.tableAlias = .root
  key_eq : ranking.key = .ofRoot column

theorem Query.PlansJoin.ranks
    {q : Query}
    {naming : TableNaming}
    {plan : SelectPlan}
    {ranking : RootRanking}
    {column : String}
    {items : List OrderItem}
    (hPlans : q.PlansJoin naming plan column items)
    (hRanking : plan.ranking = some ranking) :
    ranking.Ranks column := by
  refine ⟨hPlans.ordersRoots hRanking, ?_, ?_⟩
  all_goals
    cases hPlans.ranking.symm.trans hRanking
    rfl

namespace KeyedRows

variable {κ : Collation}
variable {e : EntityType}
variable {i : Nat}
variable {column : String}
variable {stored : List StoredRow}
variable {rows : List SelectRow}
variable {ranking : RootRanking}
variable {r s : SelectRow}

/- The classes of rows in the order of the roots. -/
abbrev classes
    (κ : Collation)
    (ranking : RootRanking)
    (rows : List SelectRow) : List SelectRow :=
  tieClasses (compareRows κ ranking.order) rows

/- The row has a root, as far as a count can see. -/
abbrev counted
    (ranking : RootRanking)
    (r : SelectRow) : Bool :=
  !(r ranking.key).isNull

theorem determines
    (hRows : KeyedRows κ e i column stored rows)
    (hRanks : ranking.Ranks column) :
    ranking.Determines κ rows := by
  intro r hr s hs hSame c
  rw [hRanks.key_eq] at hSame
  rw [hRanks.alias_eq]
  exact Collation.compareAt_of_eq
    (hRows.root_eq_of_compareAt hr hs hSame c)

/- Rows tie in the order of the roots if they have one root. -/
theorem compareRows_eq_iff
    (hRows : KeyedRows κ e i column stored rows)
    (hRanks : ranking.Ranks column)
    (hr : r ∈ rows)
    (hs : s ∈ rows) :
    compareRows κ ranking.order r s = .eq ↔
      r.rootValues e = s.rootValues e := by
  rw [RootRanking.compareRows_order_eq_iff hRanks.toOrdersRoots
    (hRows.determines hRanks) hr hs, hRanks.key_eq,
    hRows.compareAt_eq_iff hr hs]

theorem counted_eq_true_iff
    (hRows : KeyedRows κ e i column stored rows)
    (hRanks : ranking.Ranks column)
    (hr : r ∈ rows) :
    counted ranking r = true ↔ ¬ AllNull (r.rootValues e) := by
  rw [hRows.allNull_rootValues_iff hr, hRows.rootless_iff hr,
    counted, hRanks.key_eq, Bool.not_eq_true', ← Bool.not_eq_true,
    Value.isNull_eq_true_iff]

theorem counted_eq_of_rootValues_eq
    (hRows : KeyedRows κ e i column stored rows)
    (hRanks : ranking.Ranks column)
    (hr : r ∈ rows)
    (hs : s ∈ rows)
    (hSame : r.rootValues e = s.rootValues e) :
    counted ranking r = counted ranking s := by
  rw [Bool.eq_iff_iff, hRows.counted_eq_true_iff hRanks hr,
    hRows.counted_eq_true_iff hRanks hs, hSame]

/- The total counts the classes of rows with a root. -/
theorem countOf_eq
    {plan : SelectPlan}
    (hRows : KeyedRows κ e i column stored rows)
    (hRanking : plan.ranking = some ranking)
    (hRanks : ranking.Ranks column) :
    plan.countOf κ rows =
      (classes κ ranking rows).countP (counted ranking) := by
  have hTies :
      ∀ r ∈ rows, ∀ s ∈ rows,
        κ.compareAt ranking.key r s = .eq ↔
          compareRows κ ranking.order r s = .eq := by
    intro r hr s hs
    rw [hRows.compareRows_eq_iff hRanks hr hs, hRanks.key_eq,
      hRows.compareAt_eq_iff hr hs]
  have hCounted :
      ∀ r ∈ rows, ∀ s ∈ rows,
        κ.compareAt ranking.key r s = .eq →
          counted ranking r = counted ranking s := by
    intro r hr s hs hTie
    rw [hRanks.key_eq, hRows.compareAt_eq_iff hr hs] at hTie
    exact hRows.counted_eq_of_rootValues_eq hRanks hr hs hTie
  rw [SelectPlan.countOf, hRanking]
  change (tieClasses _ (rows.filter (counted ranking))).length = _
  rw [tieClasses_filter hCounted, tieClasses_congr hTies,
    ← List.countP_eq_length_filter]

/-
  There is a root on a page for every class of rows with a
  root whose root number is on the page.
-/
theorem length_eq_countP
    {page : Page}
    {fetched : List SelectRow}
    {values : List (List Value)}
    (hRows : KeyedRows κ e i column stored rows)
    (hRanks : ranking.Ranks column)
    (hFetched : fetched.Perm (ranking.kept κ page rows))
    (hNodup : values.Nodup)
    (hValues :
      ∀ v, v ∈ values ↔
        v ∈ fetched.map (SelectRow.rootValues e) ∧ ¬ AllNull v) :
    values.length =
      (classes κ ranking rows).countP fun r =>
        counted ranking r && page.holds (ranking.rank κ rows r) := by
  apply length_eq_countP_tieClasses (f := SelectRow.rootValues e)
  case hNodup => exact hNodup
  case hTies =>
    intro r hr s hs
    exact hRows.compareRows_eq_iff hRanks hr hs
  case hTest =>
    intro r hr s hs hTie
    have hSame :=
      (hRows.compareRows_eq_iff hRanks hr hs).mp hTie
    have hRank :
        ranking.rank κ rows r = ranking.rank κ rows s :=
      denseRank_congr rows hTie
    rw [hRows.counted_eq_of_rootValues_eq hRanks hr hs hSame, hRank]
  case hValues =>
    intro v
    rw [hValues, List.mem_map]
    simp only [hFetched.mem_iff, RootRanking.kept, List.mem_filter,
      Bool.and_eq_true]
    constructor
    · rintro ⟨⟨r, ⟨hr, hHolds⟩, rfl⟩, hPresent⟩
      exact ⟨r, hr,
        ⟨(hRows.counted_eq_true_iff hRanks hr).mpr hPresent, hHolds⟩,
        rfl⟩
    · rintro ⟨r, hr, ⟨hCounted, hHolds⟩, rfl⟩
      exact ⟨⟨r, ⟨hr, hHolds⟩, rfl⟩,
        (hRows.counted_eq_true_iff hRanks hr).mp hCounted⟩

/- Rows without a root are none or one class. -/
theorem counted_eq_false_iff
    (hRows : KeyedRows κ e i column stored rows)
    (hRanks : ranking.Ranks column)
    (hr : r ∈ rows)
    (hRootless : r.Rootless)
    (hs : s ∈ rows) :
    counted ranking s = false ↔
      compareRows κ ranking.order r s = .eq := by
  rw [hRows.compareRows_eq_iff hRanks hr hs,
    ← Bool.not_eq_true, hRows.counted_eq_true_iff hRanks hs, not_not,
    hRows.allNull_rootValues_iff hs]
  constructor
  · intro hRootless'
    apply List.map_congr_left
    intro c _
    rw [hRootless, hRootless']
  · intro hSame
    rw [← hRows.allNull_rootValues_iff hs, ← hSame,
      hRows.allNull_rootValues_iff hr]
    exact hRootless

/-
  The ranks on a page are those of its roots and, if there are
  rows without a root, the one rank of these.
-/
theorem countP_classes
    (hRows : KeyedRows κ e i column stored rows)
    (hRanks : ranking.Ranks column)
    (holds : Nat → Bool) :
    ((∀ r ∈ rows, ¬ r.Rootless) →
      (classes κ ranking rows).countP
          (fun r => holds (ranking.rank κ rows r)) =
        (classes κ ranking rows).countP fun r =>
          counted ranking r && holds (ranking.rank κ rows r)) ∧
    ∀ r ∈ rows, r.Rootless →
      (classes κ ranking rows).countP
          (fun r => holds (ranking.rank κ rows r)) =
        ((classes κ ranking rows).countP fun r =>
          counted ranking r && holds (ranking.rank κ rows r)) +
          if holds (ranking.rank κ rows r) then 1 else 0 := by
  constructor
  · intro hAll
    apply List.countP_congr
    intro r hMem
    have hr := mem_of_mem_tieClasses hMem
    have hCounted : counted ranking r = true := by
      rw [hRows.counted_eq_true_iff hRanks hr,
        hRows.allNull_rootValues_iff hr]
      exact hAll r hr
    rw [hCounted, Bool.true_and]
  · intro r hr hRootless
    have hLost (s : SelectRow) (hs : s ∈ rows) :=
      hRows.counted_eq_false_iff hRanks hr hRootless hs
    have hRank {s : SelectRow}
        (hTie : compareRows κ ranking.order r s = .eq) :
        ranking.rank κ rows r = ranking.rank κ rows s :=
      denseRank_congr rows hTie
    rw [List.countP_eq_countP_filter_add _ _ (counted ranking),
      List.countP_filter, List.countP_filter]
    congr 1
    · simp only [Bool.and_comm]
    · split
      · rename_i hHolds
        apply countP_tieClasses_eq_one hr
        intro s hs
        rw [Bool.and_eq_true, ← hLost s hs]
        constructor
        · rintro ⟨_, hNot⟩
          simpa using hNot
        · intro hNot
          rw [← hRank ((hLost s hs).mp hNot), hHolds, hNot]
          exact ⟨rfl, rfl⟩
      · rename_i hHolds
        rw [List.countP_eq_zero]
        intro s hMem hBoth
        have hs := mem_of_mem_tieClasses hMem
        rw [Bool.and_eq_true] at hBoth
        have hNot : counted ranking s = false := by
          simpa using hBoth.2
        rw [← hRank ((hLost s hs).mp hNot)] at hBoth
        exact hHolds hBoth.1

/-
  The number of roots on a page, from their total. A page that
  has rows without a root is one root short.
-/
theorem countP_page
    {page : Page}
    {total : Nat}
    (hRows : KeyedRows κ e i column stored rows)
    (hRanks : ranking.Ranks column)
    (hTotal :
      total = (classes κ ranking rows).countP (counted ranking))
    (hNumber : page.number ≠ 0)
    (hBound : total + 1 < Page.greatestRow) :
    let roots :=
      (classes κ ranking rows).countP fun r =>
        counted ranking r && page.holds (ranking.rank κ rows r)
    let before := (page.number.toNat - 1) * page.size.toNat
    ((∀ r ∈ rows, ¬ r.Rootless) →
      roots = min page.size.toNat (total - before)) ∧
    ∀ r ∈ rows, r.Rootless →
      roots +
          (if page.holds (ranking.rank κ rows r) then 1 else 0) =
        min page.size.toNat (total + 1 - before) := by
  intro roots before
  have hOnPage
      (hLast : (classes κ ranking rows).length < Page.greatestRow) :
      (classes κ ranking rows).countP
          (fun r => page.holds (ranking.rank κ rows r)) =
        min page.size.toNat
          ((classes κ ranking rows).length - before) :=
    (countP_denseRank _ rows page.holds).trans
      (page.countP_holds hNumber hLast)
  have hPage :=
    hRows.countP_classes hRanks page.holds
  have hAll :=
    hRows.countP_classes hRanks fun _ => true
  simp only [List.countP_true, Bool.and_true, if_true] at hAll
  rw [← hTotal] at hAll
  constructor
  · intro hRooted
    have hLength := hAll.1 hRooted
    rw [← hLength, ← hOnPage (by omega)]
    exact (hPage.1 hRooted).symm
  · intro r hr hRootless
    have hLength := hAll.2 r hr hRootless
    rw [← hLength, ← hOnPage (by omega)]
    exact (hPage.2 r hr hRootless).symm

end KeyedRows

/- Fetched rows hydrate to one root for each of their values. -/
theorem KeyedRows.exists_roots
    {κ : Collation}
    {q : Query}
    {naming : TableNaming}
    {plan : SelectPlan}
    {i : Nat}
    {column : String}
    {items : List OrderItem}
    {stored : List StoredRow}
    {fetched : List SelectRow}
    (hRows : KeyedRows κ q.root i column stored fetched)
    (hPlans : q.PlansJoin naming plan column items) :
    ∃ found gathered,
      hydrateRoots q.root (plan.resultSet fetched) = .ok found ∧
      List.Forall₂
        (fun values r => Record.ofValues q.root values = .ok r)
        gathered found ∧
      gathered.Nodup ∧
      ∀ values,
        values ∈ gathered ↔
          values ∈ fetched.map (SelectRow.rootValues q.root) ∧
            ¬ AllNull values := by
  have hValues := hPlans.map_take_rows fetched
  have hRoots :=
    hydrateRoots_gathers hRows.identity
      (hPlans.wide_resultSet fetched)
      (by
        rw [hValues]
        exact hRows.tellsApart)
      (by
        intro values hMem
        rcases List.mem_map.mp hMem with ⟨r, hr, rfl⟩
        rw [hPlans.take_width]
        exact hRows.readable hr)
  rwa [hValues] at hRoots

/- Rows of a join have their roots from the first table. -/
theorem Query.PlansJoin.keyedRows
    {q : Query}
    {naming : TableNaming}
    {plan : SelectPlan}
    {i : Nat}
    {column : String}
    {items : List OrderItem}
    {κ : Collation}
    {db : Database}
    {params : List Parameter}
    (hPlans : q.PlansJoin naming plan column items)
    (hIdentity :
      q.root.identityIndex? = some i ∧ q.root.columns.getD i "" = column)
    (hNulls : κ.NullApart)
    (hTable :
      KeyedTable κ q.root column (db.rows (q.root.tableName naming))) :
    KeyedRows κ q.root i column (db.rows plan.table)
      (db.rowsOf plan params) where
  nulls := hNulls
  identity := hIdentity.1
  column_eq := hIdentity.2
  table := hPlans.table ▸ hTable
  roots := fun _ hr =>
    (Database.root_of_mem_rowsOf hPlans hr).imp_right And.right

/- Inner and left joins have no rows without a root. -/
theorem Query.PlansJoin.not_rootless
    {q : Query}
    {naming : TableNaming}
    {plan : SelectPlan}
    {column : String}
    {items : List OrderItem}
    {κ : Collation}
    {db : Database}
    {params : List Parameter}
    {r : SelectRow}
    (hPlans : q.PlansJoin naming plan column items)
    (hTable : KeyedTable κ q.root column (db.rows plan.table))
    (hKinds : ∀ j ∈ q.joins, j.kind = .inner ∨ j.kind = .left)
    (hr : r ∈ db.rowsOf plan params) :
    ¬ r.Rootless := by
  intro hRootless
  rcases Database.root_of_mem_rowsOf hPlans hr with
    ⟨a, ha, hSame⟩ | ⟨⟨j, hJoin, hKind⟩, _⟩
  · apply hTable.not_null a ha
    rw [← hSame]
    exact hRootless column
  · rcases hKinds j hJoin with hOther | hOther
    all_goals
      rw [hOther] at hKind
      rcases hKind with hKind | hKind <;> cases hKind

/- A page with its total gives the roots and the count. -/
theorem Mapper.gives_selectPage
    {ω γ : Type}
    {p : Provider ω γ}
    {conn : γ}
    {m : Mapper}
    {q : Query}
    {draft : Draft}
    {set : ResultSet}
    {columns : List String}
    {n : Int64}
    {total : Nat}
    {roots : List Record}
    {w w' : ω}
    (hJoined : q.isJoined = true)
    (hDraft : (Request.selectWithCount q).draft m.naming = .ok draft)
    (hCall :
      (p.call conn .reader (draft.statement m.dialect)).runOn w =
        (.ok [set, ⟨columns, [[.int n]]⟩], w'))
    (hRoots : hydrateRoots q.root set = .ok roots)
    (hTotal : n.toInt = total) :
    Gives p conn (m.selectPage q) w ⟨roots, total, q.page⟩ w' := by
  have hAnswer : countOfValue (.int n) = .ok total := by
    simp [countOfValue, hTotal]
  unfold Mapper.selectPage
  apply gives_bind (gives_callFor hDraft hCall)
  change Gives p conn (do
    let items ← hydrate q.root q.isJoined set
    let total ← Operation.ofAnswer (countOfValue (.int n))
    pure (PageResult.mk items total q.page)) _ _ _
  rw [hJoined, hAnswer]
  apply gives_bind (gives_hydrate_roots hRoots w')
  exact gives_bind (gives_pure _ w') (gives_pure _ w')

------------------------------------------------------------
-- Pages with a total
------------------------------------------------------------

/-
  A page of a join with its total, from a database where the
  identity of the root table is a key. Two selects are sent in
  one text: the roots whose rank lies on the page, and the
  number of different root keys, which is the total. Where
  every joined row has a root, as in all inner and left joins,
  a page has as many roots as the total leaves for it. Rows
  without a root take one rank more, and the page with this
  rank is one root short.
-/
theorem Mapper.selectPage_fills_pages
    {ω γ : Type}
    {p : Provider ω γ}
    {conn : γ}
    {m : Mapper}
    {db : ω → Database}
    {κ : Collation}
    {q : Query}
    {page : Page}
    {draft : Draft}
    {w : ω}
    (hJoined : q.isJoined = true)
    (hPage : q.page = some page)
    (hDraft : (Request.selectWithCount q).draft m.naming = .ok draft)
    (hNulls : κ.NullApart)
    (hTable :
      ∀ column, q.root.identityColumn = .ok column →
        KeyedTable κ q.root column
          ((db w).rows (q.root.tableName m.naming)))
    (hSelects :
      (Database.view db κ).Selects p conn m.dialect draft w) :
    ∃ plan ranking column items total w',
      draft.command = .selectWithCount plan (some page) ∧
      plan.ranking = some ranking ∧
      q.root.identityColumn = .ok column ∧
      ranking.key = .ofRoot column ∧
      (draft.statement m.dialect).sql =
        plan.rankedText m.dialect ranking.order page.offset page.upper ++
          "; " ++ plan.countText m.dialect (some ranking.key) ∧
      Gives p conn (m.selectPage q) w ⟨items, total, some page⟩ w' ∧
      let rows := (db w).rowsOf plan draft.params
      let before := (page.number.toNat - 1) * page.size.toNat
      total = plan.countOf κ rows ∧
      ((∀ r ∈ rows, ¬ r.Rootless) →
        items.length = min page.size.toNat (total - before)) ∧
      (∀ r ∈ rows, r.Rootless →
        items.length +
            (if page.holds (ranking.rank κ rows r) then 1 else 0) =
          min page.size.toNat (total + 1 - before)) ∧
      ((∀ j ∈ q.joins, j.kind = .inner ∨ j.kind = .left) →
        ∀ r ∈ rows, ¬ r.Rootless) := by
  rcases draft with ⟨command, params⟩
  have hYields := Request.draft_eq_ok_iff.mp hDraft
  simp only [Request.command, Binding.yields_bind_iff,
    Binding.yields_liftM_iff, Binding.yields_pure_iff] at hYields
  rcases hYields with
    ⟨checked, _, ⟨hChecked, rfl⟩, plan, _, hPlan, rfl, rfl⟩
  rcases Query.checkedPage_eq_ok hPage hChecked with
    ⟨rfl, hNumber, _, _⟩
  rcases Query.plansJoin_of_yields hJoined hPlan with
    ⟨column, _, hPlans⟩
  rcases hSelects with
    ⟨_, w', hCall, fetched, columns, n, hFetches, hCount, rfl⟩
  rcases EntityType.identityColumn_eq_ok_iff.mp hPlans.identity with
    ⟨i, hIdentity, hColumn⟩
  let rows := (db w).rowsOf plan params
  have hRows :
      KeyedRows κ q.root i column ((db w).rows plan.table) rows :=
    hPlans.keyedRows ⟨hIdentity, hColumn⟩ hNulls
      (hTable column hPlans.identity)
  have hRanks := hPlans.ranks hPlans.ranking
  have hKept := hFetches.perm_kept hPlans.ranking
  have hFetched :
      KeyedRows κ q.root i column ((db w).rows plan.table) fetched :=
    hRows.subset fun r hr =>
      List.mem_of_mem_filter (hKept.mem_iff.mp hr)
  rcases hFetched.exists_roots hPlans with
    ⟨items, gathered, hItems, hBuilt, hNodup, hGathered⟩
  have hTotal : n.toInt = plan.countOf κ rows := hCount
  have hGives :=
    Mapper.gives_selectPage hJoined hDraft hCall hItems hTotal
  rw [hPage] at hGives
  have hBound : plan.countOf κ rows + 1 < Page.greatestRow := by
    have hLess := n.toInt_lt
    unfold Page.greatestRow
    omega
  have hPages := hRows.countP_page hRanks
    (hRows.countOf_eq hPlans.ranking hRanks) hNumber hBound
  have hLength : items.length = _ :=
    hBuilt.length_eq.symm.trans
      (hRows.length_eq_countP hRanks hKept hNodup hGathered)
  have hText :=
    plan.text_selectWithCount hPlans.ranking m.dialect page
  refine ⟨plan, _, column, items, _, w', rfl, hPlans.ranking,
    hPlans.identity, rfl, hText, hGives, rfl, ?_⟩
  rw [hLength]
  refine ⟨hPages.1, hPages.2, ?_⟩
  intro hKinds r hr
  exact hPlans.not_rootless hRows.table hKinds hr

------------------------------------------------------------
-- Blogs and posts
------------------------------------------------------------

namespace BlogPosts

/- Pages of blogs with their posts, by id. -/
def pagedQuery
    (kind : JoinKind)
    (page : Page) : Query :=
  (joinedQuery kind [⟨ColumnRef.of blog "id", .asc⟩]).paged page

def pagedPlan
    (kind : JoinKind) : SelectPlan :=
  joinedPlan kind [⟨.ofRoot "id", .asc⟩] [⟨.ofRoot "id", .asc⟩]

theorem nullApart_integers :
    Collation.integers.NullApart := by
  intro column v hTie
  cases v with
  | null => rfl
  | bool _ | int _ | float _ | text _ | blob _ => cases hTie

theorem keyedTable_blogs :
    KeyedTable .integers blog "id" (database.rows ⟨none, "blogs"⟩) := by
  refine ⟨by decide, by decide, by decide, ?_⟩
  intro s hs
  change s ∈ [stored _, stored _] at hs
  rw [List.mem_pair] at hs
  rcases hs with rfl | rfl
  all_goals exact ⟨_, rfl⟩

/- The second page has the second blog for itself. -/
theorem second_page_has_one_blog :
    let page : Page := ⟨2, 1⟩
    let sets :=
      [ (pagedPlan .left).resultSet [pairRow 2 20],
        ⟨["COUNT"], [[.int 2]]⟩ ]
    ∃ items w',
      Gives (answering fun _ => sets) ()
        (Mapper.selectPage ⟨{}, .sqlite⟩ (pagedQuery .left page)) ()
        ⟨items, 2, some page⟩ w' ∧
      items.length = 1 := by
  intro page sets
  have hDraft :
      (Request.selectWithCount (pagedQuery .left page)).draft {} =
        .ok ⟨.selectWithCount (pagedPlan .left) (some page), []⟩ := by
    decide +kernel
  have hTable :
      ∀ column, blog.identityColumn = .ok column →
        KeyedTable .integers blog column
          (database.rows (blog.tableName {})) := by
    intro column hColumn
    cases hColumn
    exact keyedTable_blogs
  have hSelects :
      (Database.view (fun _ : Unit => database) .integers).Selects
        (answering fun _ => sets) () .sqlite
        ⟨.selectWithCount (pagedPlan .left) (some page), []⟩ () := by
    refine ⟨sets, (), rfl, [pairRow 2 20], ["COUNT"], 2, ?_,
      by decide, rfl⟩
    refine ⟨[pairRow 1 10, pairRow 2 20], .refl _, ?_,
      [(pairRow 2 20, 2)], .refl _, List.pairwise_singleton _ _, rfl⟩
    unfold SortedBy
    decide +kernel
  rcases @Mapper.selectPage_fills_pages Unit Unit
      (answering fun _ => sets) () ⟨{}, .sqlite⟩ (fun _ => database)
      .integers _ page _ () rfl rfl hDraft nullApart_integers hTable
      hSelects with
    ⟨plan, ranking, _, items, total, w', hCommand, _, _, _, _, hGives,
      hTotal, hFull, _, hRooted⟩
  cases hCommand
  have hTwo : total = 2 := by
    rw [hTotal]
    decide +kernel
  have hAll := hRooted (by decide)
  rw [hTwo] at hGives hFull
  exact ⟨items, w', hGives, hFull hAll⟩

/-
  The post of no blog ranks before the blogs, and so the first
  of the pages of one blog has none, with a total of two.
-/
theorem first_page_lacks_blog :
    let rows := database.rowsOf (pagedPlan .right) []
    (Request.selectWithCount (pagedQuery .right ⟨1, 1⟩)).draft {} =
      .ok ⟨.selectWithCount (pagedPlan .right) (some ⟨1, 1⟩), []⟩ ∧
    KeyedTable .integers blog "id" (database.rows ⟨none, "blogs"⟩) ∧
    Collation.integers.NullApart ∧
    (pagedPlan .right).countOf .integers rows = 2 ∧
    ∃ fetched,
      (pagedPlan .right).Fetches .integers .sqlite (some ⟨1, 1⟩) rows
        fetched ∧
      hydrateRoots blog ((pagedPlan .right).resultSet fetched) =
        .ok [] := by
  intro rows
  let lone := SelectRow.blank.beside ⟨2⟩ (stored [("id", .int 30)])
  have hRows : rows = [pairRow 1 10, pairRow 2 20, lone] := rfl
  refine ⟨by decide +kernel, keyedTable_blogs, nullApart_integers,
    by decide +kernel, [lone],
    ⟨[lone, pairRow 1 10, pairRow 2 20], ?_, ?_, [(lone, 1)],
      .refl _, List.pairwise_singleton _ _, rfl⟩, rfl⟩
  · rw [hRows]
    exact @List.perm_append_comm _ [lone]
      [pairRow 1 10, pairRow 2 20]
  · unfold SortedBy
    decide +kernel

end BlogPosts

end EntitySql
