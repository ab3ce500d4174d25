import EntitySql.Proofs.Session.JoinedRows
import EntitySql.Proofs.Statement.RootLead

/-
  The first entity of a query against the first one of its
  select. A join is asked for the first page of one root, and
  this is the root that ranks first among all roots.

  Key definitions include:
    * `Page.one`
    * `Mapper.hydrated`

  Key theorems include:
    * `SelectPlan.Fetches.eq_filter`
    * `Mapper.gives_first`
    * `Mapper.first_gives_first_root`

  A select without a page and the first page have the same
  plan, and both sort its rows. Without ties there is one way
  to sort them, so both see the same rows in the same order.
-/

namespace EntitySql

open Operation

------------------------------------------------------------
-- The first page
------------------------------------------------------------

/- The page with the first row or root only. -/
def Page.one : Page :=
  ⟨1, 1⟩

theorem Page.offset_one :
    Page.one.offset = 0 := by
  decide

theorem Page.upper_one :
    Page.one.upper = 2 := by
  decide

theorem Page.holds_one_iff
    (k : Nat) :
    Page.one.holds k = true ↔ k = 1 := by
  rw [Page.holds, Page.offset_one, Page.upper_one, Bool.and_eq_true,
    decide_eq_true_eq, decide_eq_true_eq]
  omega

/- In either style the first page is the first row. -/
theorem Page.keep_cut_one
    {α : Type}
    (style : Dialect.PageStyle)
    (rows : List α) :
    (Page.one.cut style).keep rows = rows.take 1 := by
  cases style with
  | limitOffset => rfl
  | rowNumber =>
      have hBounds :
          ∀ k, 1 ≤ k → k ≤ rows.length →
            (Page.one.holds k = true ↔
              (decide (0 < k) && decide (k ≤ 1)) = true) := by
        intro k hk _
        rw [Page.holds_one_iff, Bool.and_eq_true, decide_eq_true_eq,
          decide_eq_true_eq]
        omega
      change rowsWhere Page.one.holds rows = _
      rw [rowsWhere_congr hBounds, rowsWhere_between, List.drop_zero]

/-
  The first page of a join has the sorted rows of the root
  that ranks first.
-/
theorem SelectPlan.Fetches.eq_filter
    {κ : Collation}
    {d : Dialect}
    {plan : SelectPlan}
    {ranking : RootRanking}
    {rows fetched : List SelectRow}
    (hRanking : plan.ranking = some ranking)
    (hFetches : plan.Fetches κ d (some .one) rows fetched) :
    ∃ sorted : List SelectRow,
      sorted.Perm rows ∧
      SortedBy κ plan.order sorted ∧
      fetched =
        sorted.filter fun r => ranking.rank κ rows r == 1 := by
  rcases hFetches with ⟨sorted, hPerm, hSorted, hPage⟩
  rw [hRanking] at hPage
  rcases hPage with ⟨numbered, hNumbered, hPairs, rfl⟩
  refine ⟨sorted, hPerm, hSorted, ?_⟩
  have hFirst :
      (fun row : SelectRow × Nat =>
          Page.one.holds (ranking.rank κ rows row.1)) =
        fun row => ranking.rank κ rows row.1 == 1 := by
    funext row
    rw [Bool.eq_iff_iff, Page.holds_one_iff, beq_iff_eq]
  rw [hFirst] at hNumbered
  rw [← map_fst_filter_zipIdx (fun r => ranking.rank κ rows r == 1)
    sorted 1]
  congr 1
  have hRank {row : SelectRow × Nat} (hMem : row ∈ numbered) :
      ranking.rank κ rows row.1 = 1 := by
    have hIn := hNumbered.mem_iff.mp hMem
    exact beq_iff_eq.mp (List.mem_filter.mp hIn).2
  have hByNumber : numbered.Pairwise fun a b => a.2 < b.2 := by
    apply hPairs.imp_of_mem
    intro a b ha hb hLess
    rw [hRank ha, hRank hb] at hLess
    rcases hLess with hLess | ⟨_, hLess⟩
    · exact absurd hLess (Nat.lt_irrefl 1)
    · exact hLess
  have hNumbers : (sorted.zipIdx 1).Pairwise fun a b => a.2 < b.2 := by
    rw [← List.pairwise_map, List.zipIdx_map_snd]
    exact List.pairwise_lt_range'
  apply List.Perm.eq_of_pairwise _ hByNumber
    (hNumbers.filter _) hNumbered
  intro a b _ _ hLess hGreater
  exact absurd hLess (Nat.lt_asymm hGreater)

------------------------------------------------------------
-- The first entity
------------------------------------------------------------

/- The first page of a query has the plan of its select. -/
theorem Query.draft_one
    {q : Query}
    {naming : TableNaming}
    {plan : SelectPlan}
    {params : List Parameter}
    (hOrdered : q.ordering ≠ [])
    (hDraft :
      (Request.select q).draft naming =
        .ok ⟨.select plan none, params⟩) :
    (q.plan naming).Yields .empty plan ⟨params⟩ ∧
      (Request.select (q.paged .one)).draft naming =
        .ok ⟨.select plan (some .one), params⟩ := by
  have hYields := Request.draft_eq_ok_iff.mp hDraft
  simp only [Request.command, Binding.yields_bind_iff,
    Binding.yields_liftM_iff, Binding.yields_pure_iff] at hYields
  rcases hYields with ⟨_, _, ⟨_, rfl⟩, _, _, hPlan, hCommand, rfl⟩
  cases hCommand
  refine ⟨hPlan, ?_⟩
  have hChecked := checkedPage_paged (p := .one) hOrdered
    (by decide) (by decide)
  rw [Request.draft_eq_ok_iff]
  simp only [Request.command, Binding.yields_bind_iff,
    Binding.yields_liftM_iff, Binding.yields_pure_iff]
  exact ⟨_, _, ⟨hChecked, rfl⟩, plan, _, hPlan, rfl, rfl⟩

/- A query with an order has a plan with one. -/
theorem Query.order_ne_nil
    {q : Query}
    {naming : TableNaming}
    {plan : SelectPlan}
    {s t : ParameterSet}
    (hOrdered : q.ordering ≠ [])
    (hPlan : (q.plan naming).Yields s plan t) :
    plan.order ≠ [] := by
  cases hJoined : q.isJoined with
  | true =>
      rcases plansJoin_of_yields hJoined hPlan with
        ⟨column, items, hPlans⟩
      exact hPlans.order_ne_nil
  | false =>
      rw [Query.plan, if_neg (by simp [hJoined])] at hPlan
      simp only [planFlat, Binding.yields_bind_iff,
        Binding.yields_liftM_iff, Binding.yields_pure_iff] at hPlan
      rcases hPlan with ⟨_, _, _, items, _, ⟨hItems, rfl⟩, rfl, _⟩
      have hLength := (mapM_eq_ok_iff.mp hItems).length_eq
      intro hNone
      have hItems : items = [] := hNone
      rw [hItems, List.length_nil, List.length_eq_zero_iff] at hLength
      exact hOrdered hLength

namespace Mapper

/- The query for the first entity is that of the first page. -/
theorem firstQuery_eq
    {q : Query}
    (hOrdered : q.ordering ≠ []) :
    firstQuery q = q.paged .one := by
  unfold firstQuery
  rw [if_neg (by simpa using hOrdered)]
  rfl

/-
  The texts of a select and of the first page. Both have the
  order of the plan, and in a join the first page ranks the
  roots by an order of their own.
-/
theorem exists_first_texts
    {q : Query}
    {naming : TableNaming}
    {plan : SelectPlan}
    {params : List Parameter}
    (hOrdered : q.ordering ≠ [])
    (hDraft :
      (Request.select q).draft naming =
        .ok ⟨.select plan none, params⟩)
    (d : Dialect) :
    ∃ all one,
      (Request.select q).statement naming d = .ok all ∧
      all.sql = plan.orderedText d ∧
      (Request.select (firstQuery q)).statement naming d = .ok one ∧
      one.sql =
        match plan.ranking with
        | none => plan.cutText d (Page.one.cut d.pageStyle)
        | some ranking => plan.rankedText d ranking.order 0 2 := by
  rcases Query.draft_one hOrdered hDraft with ⟨hPlan, hDraftOne⟩
  have hOrder := Query.order_ne_nil hOrdered hPlan
  refine ⟨Draft.statement ⟨.select plan none, params⟩ d,
    Draft.statement ⟨.select plan (some .one), params⟩ d, ?_,
    SelectPlan.text_selectSql_none hOrder d, ?_, ?_⟩
  · rw [Request.statement, hDraft]
    rfl
  · rw [firstQuery_eq hOrdered, Request.statement, hDraftOne]
    rfl
  · cases hRanking : plan.ranking with
    | none => exact SelectPlan.text_selectSql_flat hRanking d .one
    | some ranking =>
        have hText :=
          SelectPlan.text_selectSql_joined hRanking d .one
        rw [Page.offset_one, Page.upper_one] at hText
        exact hText

variable {ω γ : Type}
variable {p : Provider ω γ}
variable {conn : γ}
variable {m : Mapper}
variable {q : Query}
variable {draft : Draft}
variable {sets : List ResultSet}
variable {found : List Record}
variable {w w' w'' : ω}

/- The entities of a result, by the kind of the query. -/
def hydrated
    (q : Query)
    (set : ResultSet) : Except MappingError (List Record) :=
  if q.isJoined then hydrateRoots q.root set
  else hydrateFlat q.root set

/- A select that succeeds has hydrated its answer. -/
theorem hydrated_of_gives_select
    (hDraft : (Request.select q).draft m.naming = .ok draft)
    (hCall :
      (p.call conn .reader (draft.statement m.dialect)).runOn w =
        (.ok sets, w'))
    (hSelected : Gives p conn (m.select q) w found w'') :
    hydrated q (firstSet sets) = .ok found := by
  have hHydrate :=
    gives_next (gives_callFor hDraft hCall) hSelected
  unfold hydrate at hHydrate
  have hMapping := gives_next (gives_use q.root w') hHydrate
  exact eq_ok_of_gives_ofMapping hMapping

/- A select gives what its answer is hydrated to. -/
theorem gives_select
    (hDraft : (Request.select q).draft m.naming = .ok draft)
    (hCall :
      (p.call conn .reader (draft.statement m.dialect)).runOn w =
        (.ok sets, w'))
    (hFound : hydrated q (firstSet sets) = .ok found) :
    Gives p conn (m.select q) w found w' :=
  gives_bind (gives_callFor hDraft hCall)
    (gives_bind (gives_use q.root w') (gives_ofMapping hFound w'))

/- The first entity of an ordered query is that of its page. -/
theorem gives_first
    (hOrdered : q.ordering ≠ [])
    (hDraft :
      (Request.select (q.paged .one)).draft m.naming = .ok draft)
    (hCall :
      (p.call conn .reader (draft.statement m.dialect)).runOn w =
        (.ok sets, w'))
    (hFound : hydrated q (firstSet sets) = .ok found) :
    Gives p conn (m.first q) w found.head? w' := by
  have hSelect :
      Gives p conn (m.select (q.paged .one)) w found w' :=
    gives_select hDraft hCall hFound
  unfold first
  rw [firstQuery_eq hOrdered]
  exact gives_bind (gives_useAll _ w)
    (gives_bind hSelect (gives_pure _ w'))

end Mapper

/- The first rows of a result have the first entities. -/
theorem hydrateFlat_take
    {e : EntityType}
    {columns : List String}
    {rows : List (List Value)}
    {found : List Record}
    (hFound : hydrateFlat e ⟨columns, rows⟩ = .ok found)
    (n : Nat) :
    hydrateFlat e ⟨columns, rows.take n⟩ = .ok (found.take n) :=
  mapM_eq_ok_iff.mpr
    (List.forall₂_take n (mapM_eq_ok_iff.mp hFound))

namespace Query.PlansJoin

variable {q : Query}
variable {naming : TableNaming}
variable {plan : SelectPlan}
variable {ranking : RootRanking}
variable {column : String}
variable {i : Nat}
variable {items : List OrderItem}
variable {κ : Collation}
variable {rows sorted : List SelectRow}
variable {r : SelectRow}
variable {found : List Record}

/- A first row with a root has the first entity. -/
theorem head_of_cons
    (hPlans : q.PlansJoin naming plan column items)
    (hIdentity : q.root.identityIndex? = some i)
    (hRoot : ¬ AllNull (r.rootValues q.root))
    (hFound :
      hydrateRoots q.root (plan.resultSet (r :: sorted)) = .ok found) :
    ∃ record,
      Record.ofValues q.root (r.rootValues q.root) = .ok record ∧
      found.head? = some record := by
  rw [← hPlans.take_width] at hRoot
  rcases hydrateRoots_cons hIdentity
      (hPlans.wide_resultSet (r :: sorted)) hRoot hFound with
    ⟨record, rest, hRecord, rfl⟩
  rw [hPlans.take_width] at hRecord
  exact ⟨record, hRecord, rfl⟩

/- Rows in front of all others have the same first entity. -/
theorem head_of_prefix
    {fetched : List SelectRow}
    (hPlans : q.PlansJoin naming plan column items)
    (hIdentity : q.root.identityIndex? = some i)
    (hFront : fetched <+: sorted)
    (hSome : sorted ≠ [] → fetched ≠ [])
    (hRooted : ∀ r ∈ sorted, ¬ AllNull (r.rootValues q.root))
    (hFound :
      hydrateRoots q.root (plan.resultSet sorted) = .ok found) :
    ∃ front,
      hydrateRoots q.root (plan.resultSet fetched) = .ok front ∧
      front.head? = found.head? := by
  rcases hFront with ⟨rest, rfl⟩
  have hWide := hPlans.wide_resultSet (fetched ++ rest)
  rw [SelectPlan.resultSet, List.map_append] at hFound hWide
  rcases hydrateRoots_append hIdentity hWide hFound with
    ⟨front, hFirst, hPrefix⟩
  refine ⟨front, hFirst, ?_⟩
  rcases fetched with _ | ⟨r, fetched⟩
  · have hNone : rest = [] := by
      by_contra hRest
      exact hSome (by simpa using hRest) rfl
    rw [hNone] at hFound
    cases hFirst.symm.trans hFound
    rfl
  · rcases hPlans.head_of_cons hIdentity
        (hRooted r List.mem_cons_self) hFirst with
      ⟨record, _, hHead⟩
    rcases hPrefix with ⟨others, rfl⟩
    rw [List.head?_append, hHead]
    rfl

/- Readable rows hydrate, and are empty only without rows. -/
theorem exists_of_readable
    (hPlans : q.PlansJoin naming plan column items)
    (hIdentity : q.root.identityIndex? = some i)
    (hReads :
      ∀ r ∈ rows, ∃ record,
        Record.ofValues q.root (r.rootValues q.root) = .ok record) :
    ∃ found,
      hydrateRoots q.root (plan.resultSet rows) = .ok found := by
  apply exists_hydrateRoots hIdentity (hPlans.wide_resultSet rows)
  intro values hMem
  rcases List.mem_map.mp hMem with ⟨r, hr, rfl⟩
  rw [hPlans.take_width]
  exact .inr (hReads r hr)

/-
  If rows follow their roots, the rows of the root that ranks
  first have the first entity of all.
-/
theorem head_of_follows
    (hPlans : q.PlansJoin naming plan column items)
    (hIdentity : q.root.identityIndex? = some i)
    (hFollows : plan.Follows κ ranking rows)
    (hPerm : sorted.Perm rows)
    (hSorted : SortedBy κ plan.order sorted)
    (hRooted : ∀ r ∈ rows, ¬ AllNull (r.rootValues q.root))
    (hFound :
      hydrateRoots q.root (plan.resultSet sorted) = .ok found) :
    ∃ front,
      hydrateRoots q.root
          (plan.resultSet
            (sorted.filter fun r => ranking.rank κ rows r == 1)) =
        .ok front ∧
      front.head? = found.head? := by
  apply hPlans.head_of_prefix hIdentity
    (hFollows.filter_isPrefix hPerm hSorted) _ _ hFound
  · intro hSome hEmpty
    rcases sorted with _ | ⟨r, sorted⟩
    · exact hSome rfl
    · have hRank := hFollows.rank_eq_one hPerm hSorted
      rw [List.filter_cons_of_pos (by simpa using hRank)] at hEmpty
      cases hEmpty
  · intro r hr
    exact hRooted r (hPerm.mem_iff.mp hr)

/-
  The rows of the root that ranks first have the entity of the
  least row, by the ranking of roots before the order of rows.
-/
theorem exists_least_of_readable
    (hPlans : q.PlansJoin naming plan column items)
    (hIdentity : q.root.identityIndex? = some i)
    (hPerm : sorted.Perm rows)
    (hSorted : SortedBy κ plan.order sorted)
    (hRooted : ∀ r ∈ rows, ¬ AllNull (r.rootValues q.root))
    (hReads :
      ∀ r ∈ rows, ∃ record,
        Record.ofValues q.root (r.rootValues q.root) = .ok record)
    (hFound :
      hydrateRoots q.root (plan.resultSet sorted) = .ok found) :
    ∃ one,
      hydrateRoots q.root
          (plan.resultSet
            (sorted.filter fun r => ranking.rank κ rows r == 1)) =
        .ok one ∧
      (one.head? = none ∧ found = [] ∨
        ∃ r ∈ rows,
          (∀ s ∈ rows,
            (compareRows κ
              (ranking.order ++ plan.order) r s).isLE) ∧
          ∃ record,
            Record.ofValues q.root (r.rootValues q.root) =
              .ok record ∧
            one.head? = some record ∧
            found ≠ []) := by
  have hReadsFirst :
      ∀ r ∈ sorted.filter fun r => ranking.rank κ rows r == 1,
        ∃ record,
          Record.ofValues q.root (r.rootValues q.root) =
            .ok record :=
    fun r hr =>
      hReads r (hPerm.mem_iff.mp (List.mem_of_mem_filter hr))
  rcases hPlans.exists_of_readable hIdentity hReadsFirst with
    ⟨one, hOne⟩
  refine ⟨one, hOne, ?_⟩
  rcases sorted with _ | ⟨r₀, sorted⟩
  · have hNone : hydrateRoots q.root (plan.resultSet []) = .ok [] := by
      rw [hydrateRoots_eq hIdentity (hPlans.wide_resultSet [])]
      rfl
    cases hNone.symm.trans hFound
    cases hNone.symm.trans hOne
    exact .inl ⟨rfl, rfl⟩
  · have hr₀ : r₀ ∈ rows := hPerm.mem_iff.mp List.mem_cons_self
    rcases RootRanking.exists_least_of_filter hPerm hSorted
        (List.ne_nil_of_mem hr₀) with ⟨r, rest, hFilter, hr, hLeast⟩
    rw [hFilter] at hOne
    rcases hPlans.head_of_cons hIdentity (hRooted r hr) hOne with
      ⟨record, hRecord, hHead⟩
    rcases hPlans.head_of_cons hIdentity (hRooted r₀ hr₀) hFound with
      ⟨_, _, hSelectHead⟩
    refine .inr ⟨r, hr, hLeast, record, hRecord, hHead, ?_⟩
    rintro rfl
    cases hSelectHead

end Query.PlansJoin

/- Over one table the first row has the first entity. -/
theorem Mapper.hydrated_take
    {q : Query}
    {plan : SelectPlan}
    {rows : List SelectRow}
    {found : List Record}
    (hFlat : q.isJoined = false)
    (hFound : hydrated q (plan.resultSet rows) = .ok found)
    (n : Nat) :
    hydrated q (plan.resultSet (rows.take n)) =
      .ok (found.take n) := by
  unfold hydrated at hFound ⊢
  rw [if_neg (by simp [hFlat])] at hFound ⊢
  rw [SelectPlan.resultSet, List.map_take]
  exact hydrateFlat_take hFound n

/-
  The first entity of an unpaged query with an order, on rows
  that its statement sorts without a tie. This statement ends
  with the order of the plan, and that for the first entity
  cuts the first page of the plan. Over one table the first
  entity is the first one of the select, or none if this is
  empty. In a join whose rows all have a root it is the root
  that comes first by the ranking of roots, and rows of one
  rank by the order of rows. The select starts with this root
  if root columns lead its order, or if the root key does and
  no two roots share it.
-/
theorem Mapper.first_gives_first_root
    {ω γ : Type}
    {p : Provider ω γ}
    {conn : γ}
    {m : Mapper}
    {view : SelectView ω}
    {q : Query}
    {plan : SelectPlan}
    {params : List Parameter}
    {found : List Record}
    {w w' : ω}
    (hOrdered : q.ordering ≠ [])
    (hDraft :
      (Request.select q).draft m.naming =
        .ok ⟨.select plan none, params⟩)
    (hSelects :
      ∀ page, page = none ∨ page = some .one →
        view.Selects p conn m.dialect ⟨.select plan page, params⟩ w)
    (hTotal :
      Total view.collation plan.order (view.rows plan params w))
    (hRooted :
      q.isJoined = true →
        ∀ r ∈ view.rows plan params w,
          ¬ AllNull (r.rootValues q.root))
    (hSelected : Gives p conn (m.select q) w found w') :
    let κ := view.collation
    let rows := view.rows plan params w
    (∃ all one,
      (Request.select q).statement m.naming m.dialect = .ok all ∧
      all.sql = plan.orderedText m.dialect ∧
      (Request.select (firstQuery q)).statement m.naming m.dialect =
        .ok one ∧
      one.sql =
        match plan.ranking with
        | none =>
            plan.cutText m.dialect (Page.one.cut m.dialect.pageStyle)
        | some ranking =>
            plan.rankedText m.dialect ranking.order 0 2) ∧
    (q.isJoined = false →
      ∃ w'', Gives p conn (m.first q) w found.head? w'') ∧
    ∀ ranking column,
      plan.ranking = some ranking →
      q.root.identityColumn = .ok column →
      (q.RootsLead ∨
          q.leadingItems.any (q.ordersKey column) = true ∧
            ranking.Determines κ rows →
        ∃ w'', Gives p conn (m.first q) w found.head? w'') ∧
      ((∀ r ∈ rows, ∃ record,
          Record.ofValues q.root (r.rootValues q.root) = .ok record) →
        ∃ first w'',
          Gives p conn (m.first q) w first w'' ∧
          (first = none ∧ found = [] ∨
            ∃ r ∈ rows,
              (∀ s ∈ rows,
                (compareRows κ
                  (ranking.order ++ plan.order) r s).isLE) ∧
              ∃ record,
                Record.ofValues q.root (r.rootValues q.root) =
                  .ok record ∧
                first = some record ∧
                found ≠ [])) := by
  intro κ rows
  rcases Query.draft_one hOrdered hDraft with ⟨hPlan, hDraftOne⟩
  rcases hSelects none (.inl rfl) with
    ⟨_, _, hCall, sorted, ⟨_, hPerm, hSorted, rfl⟩, rfl⟩
  rcases hSelects (some .one) (.inr rfl) with
    ⟨_, w'', hCallOne, fetched, hFetches, rfl⟩
  have hFound := hydrated_of_gives_select hDraft hCall hSelected
  have hFirst {one : List Record}
      (hOne : hydrated q (plan.resultSet fetched) = .ok one) :
      Gives p conn (m.first q) w one.head? w'' :=
    gives_first hOrdered hDraftOne hCallOne hOne
  refine ⟨exists_first_texts hOrdered hDraft m.dialect, ?_⟩
  constructor
  case left =>
    intro hFlat
    have hNone := Query.ranking_of_flat hFlat hPlan
    rcases hFetches with ⟨sorted', hPerm', hSorted', hPage⟩
    rw [hNone] at hPage
    cases hTotal.eq_of_sortedBy hPerm' hPerm hSorted' hSorted
    have hTake : fetched = sorted.take 1 :=
      hPage.trans (Page.keep_cut_one m.dialect.pageStyle sorted)
    rw [hTake] at hFirst
    have hGives := hFirst (hydrated_take hFlat hFound 1)
    rw [List.head?_take, if_neg Nat.one_ne_zero] at hGives
    exact ⟨w'', hGives⟩
  case right =>
    intro ranking column hRanking hColumn
    have hJoined : q.isJoined = true := by
      by_contra hFlat
      rw [Bool.not_eq_true] at hFlat
      rw [Query.ranking_of_flat hFlat hPlan] at hRanking
      cases hRanking
    rcases Query.plansJoin_of_yields hJoined hPlan with
      ⟨column', items, hPlans⟩
    cases hPlans.identity.symm.trans hColumn
    rcases EntityType.identityColumn_eq_ok_iff.mp hColumn with
      ⟨i, hIdentity, _⟩
    rcases hFetches.eq_filter hRanking with
      ⟨sorted', hPerm', hSorted', rfl⟩
    cases hTotal.eq_of_sortedBy hPerm' hPerm hSorted' hSorted
    have hRoots {set : ResultSet} :
        hydrated q set = hydrateRoots q.root set := by
      rw [hydrated, if_pos hJoined]
    have hFoundRoots :
        hydrateRoots q.root (plan.resultSet sorted) = .ok found :=
      hRoots.symm.trans hFound
    constructor
    case left =>
      intro hLead
      have hFollows : plan.Follows κ ranking rows := by
        rcases hLead with hLead | ⟨hKey, hDetermines⟩
        · exact hPlans.follows_of_rootsLead hRanking hLead
        · exact hPlans.follows_of_keyLeads hRanking hKey hDetermines
      rcases hPlans.head_of_follows hIdentity hFollows hPerm hSorted
          (hRooted hJoined) hFoundRoots with ⟨front, hFront, hHead⟩
      rw [← hHead]
      exact ⟨w'', hFirst (hRoots.trans hFront)⟩
    case right =>
      intro hReads
      rcases hPlans.exists_least_of_readable hIdentity hPerm hSorted
          (hRooted hJoined) hReads hFoundRoots with
        ⟨one, hOne, hLeast⟩
      exact ⟨one.head?, w'', hFirst (hRoots.trans hOne), hLeast⟩

------------------------------------------------------------
-- Blogs and posts
------------------------------------------------------------

namespace BlogPosts

/-
  A database that answers a plan with all its rows, and other
  selects with those of one page.
-/
def twoAnswers
    (plan : SelectPlan)
    (all one : List SelectRow) : Provider Unit Unit :=
  answering fun s =>
    if s = Draft.statement ⟨.select plan none, []⟩ .sqlite then
      [plan.resultSet all]
    else [plan.resultSet one]

section answers

variable {plan : SelectPlan}
variable {all one : List SelectRow}

theorem call_twoAnswers_all
    (plan : SelectPlan)
    (all one : List SelectRow) :
    ((twoAnswers plan all one).call () .reader
        (Draft.statement ⟨.select plan none, []⟩ .sqlite)).runOn () =
      (.ok [plan.resultSet all], ()) := by
  simp only [twoAnswers, answering, if_pos]
  rfl

theorem call_twoAnswers_one
    (hOther :
      Draft.statement ⟨.select plan (some .one), []⟩ .sqlite ≠
        Draft.statement ⟨.select plan none, []⟩ .sqlite) :
    ((twoAnswers plan all one).call () .reader
        (Draft.statement ⟨.select plan (some .one), []⟩
          .sqlite)).runOn () =
      (.ok [plan.resultSet one], ()) := by
  simp only [twoAnswers, answering, if_neg hOther]
  rfl

theorem selects_twoAnswers
    (hOther :
      Draft.statement ⟨.select plan (some .one), []⟩ .sqlite ≠
        Draft.statement ⟨.select plan none, []⟩ .sqlite)
    (hAll :
      plan.Fetches .integers .sqlite none (database.rowsOf plan []) all)
    (hOne :
      plan.Fetches .integers .sqlite (some .one)
        (database.rowsOf plan []) one) :
    ∀ page, page = none ∨ page = some .one →
      (Database.view (fun _ : Unit => database) .integers).Selects
        (twoAnswers plan all one) () .sqlite
        ⟨.select plan page, []⟩ () := by
  rintro page (rfl | rfl)
  · exact ⟨_, _, call_twoAnswers_all plan all one, all, hAll, rfl⟩
  · exact ⟨_, _, call_twoAnswers_one hOther, one, hOne, rfl⟩

end answers

/- Blogs with posts by rating, the last post first. -/
def ratedPostQuery : Query :=
  joinedQuery .inner
    [ ⟨ColumnRef.of blog "rating", .desc⟩,
      ⟨ColumnRef.of post "id", .desc⟩ ]

def ratedPostPlan : SelectPlan :=
  joinedPlan .inner
    [⟨.ofRoot "rating", .desc⟩, ⟨.ofRoot "id", .asc⟩]
    [ ⟨.ofRoot "rating", .desc⟩, ⟨.ofRoot "id", .asc⟩,
      ⟨.qualified ⟨2⟩ "id", .desc⟩ ]

/- The order starts with the rating, and so does the select. -/
theorem first_rated_blog :
    let p := twoAnswers ratedPostPlan [pairRow 1 10, pairRow 2 20]
      [pairRow 1 10]
    ∃ w'',
      Gives p () (Mapper.first ⟨{}, .sqlite⟩ ratedPostQuery) ()
        (some ⟨blog, [.integer 1, .integer 5]⟩) w'' := by
  intro p
  let m : Mapper := ⟨{}, .sqlite⟩
  let all := [pairRow 1 10, pairRow 2 20]
  have hSorted : SortedBy .integers ratedPostPlan.order all := by
    unfold SortedBy
    decide +kernel
  have hTotal : Total .integers ratedPostPlan.order all := by
    unfold Total
    decide +kernel
  have hRooted :
      ratedPostQuery.isJoined = true →
        ∀ r ∈ all, ¬ AllNull (r.rootValues blog) := by
    unfold AllNull
    decide +kernel
  have hDraft :
      (Request.select ratedPostQuery).draft m.naming =
        .ok ⟨.select ratedPostPlan none, []⟩ := by
    decide +kernel
  have hSelects :
      ∀ page, page = none ∨ page = some .one →
        (Database.view (fun _ : Unit => database) .integers).Selects p
          () m.dialect ⟨.select ratedPostPlan page, []⟩ () := by
    apply selects_twoAnswers (by decide +kernel)
    · exact ⟨all, .refl _, hSorted, rfl⟩
    · exact ⟨all, .refl _, hSorted, [(pairRow 1 10, 1)], .refl _,
        List.pairwise_singleton _ _, rfl⟩
  have hSelected :
      Gives p () (m.select ratedPostQuery) ()
        [ ⟨blog, [.integer 1, .integer 5]⟩,
          ⟨blog, [.integer 2, .integer 5]⟩ ] () :=
    Mapper.gives_select hDraft (call_twoAnswers_all _ _ _) rfl
  have hFirst :=
    Mapper.first_gives_first_root (by decide) hDraft hSelects hTotal
      hRooted hSelected
  exact (hFirst.2.2 _ "id" rfl rfl).1 (.inl (by
    unfold Query.RootsLead
    decide +kernel))

/- Blogs with posts, the last post first. -/
def lastPostQuery : Query :=
  joinedQuery .inner [⟨ColumnRef.of post "id", .desc⟩]

def lastPostPlan : SelectPlan :=
  joinedPlan .inner [⟨.ofRoot "id", .asc⟩]
    [⟨.qualified ⟨2⟩ "id", .desc⟩, ⟨.ofRoot "id", .asc⟩]

/-
  The select starts with the blog of the last post, and the
  first blog is the one with the least id.
-/
theorem first_blog_is_not_first_of_select :
    let rows := database.rowsOf lastPostPlan []
    let m : Mapper := ⟨{}, .sqlite⟩
    let one : Record := ⟨blog, [.integer 1, .integer 5]⟩
    let two : Record := ⟨blog, [.integer 2, .integer 5]⟩
    let p := twoAnswers lastPostPlan [pairRow 2 20, pairRow 1 10]
      [pairRow 1 10]
    (Request.select lastPostQuery).draft {} =
      .ok ⟨.select lastPostPlan none, []⟩ ∧
    (∀ page, page = none ∨ page = some .one →
      (Database.view (fun _ : Unit => database) .integers).Selects p
        () .sqlite ⟨.select lastPostPlan page, []⟩ ()) ∧
    Total .integers lastPostPlan.order rows ∧
    (∀ r ∈ rows, ¬ AllNull (r.rootValues blog)) ∧
    Gives p () (m.select lastPostQuery) () [two, one] () ∧
    Gives p () (m.first lastPostQuery) () (some one) () ∧
    one ≠ two := by
  intro rows m one two p
  have hRows : rows = [pairRow 1 10, pairRow 2 20] := rfl
  have hSorted :
      SortedBy .integers lastPostPlan.order
        [pairRow 2 20, pairRow 1 10] := by
    unfold SortedBy
    decide +kernel
  have hPerm : [pairRow 2 20, pairRow 1 10].Perm rows :=
    .swap (pairRow 1 10) (pairRow 2 20) []
  have hOther :
      Draft.statement ⟨.select lastPostPlan (some .one), []⟩ .sqlite ≠
        Draft.statement ⟨.select lastPostPlan none, []⟩ .sqlite := by
    decide +kernel
  have hDraft :
      (Request.select lastPostQuery).draft m.naming =
        .ok ⟨.select lastPostPlan none, []⟩ := by
    decide +kernel
  have hDraftOne :
      (Request.select (lastPostQuery.paged .one)).draft m.naming =
        .ok ⟨.select lastPostPlan (some .one), []⟩ := by
    decide +kernel
  have hOne :
      Mapper.hydrated lastPostQuery
          (Mapper.firstSet [lastPostPlan.resultSet [pairRow 1 10]]) =
        .ok [one] := rfl
  refine ⟨hDraft, ?_, ?_, ?_, ?_, ?_, by decide⟩
  · apply selects_twoAnswers hOther
    · exact ⟨_, hPerm, hSorted, rfl⟩
    · exact ⟨_, hPerm, hSorted, [(pairRow 1 10, 2)], .refl _,
        List.pairwise_singleton _ _, rfl⟩
  · unfold Total
    rw [hRows]
    decide +kernel
  · unfold AllNull
    rw [hRows]
    decide +kernel
  · exact Mapper.gives_select hDraft (call_twoAnswers_all _ _ _) rfl
  · exact Mapper.gives_first (by decide) hDraftOne
      (call_twoAnswers_one hOther) hOne

end BlogPosts

end EntitySql
