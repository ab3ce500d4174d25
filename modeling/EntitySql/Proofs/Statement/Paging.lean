import EntitySql.Proofs.Statement.Parameters
import EntitySql.Session.Mapper

/-
  The pages of a select over one table: in both styles of
  paging every page has exactly its rows, and the pages that
  are counted hold all rows.

  Key definitions include:
    * `RowCut`, `RowCut.keep`
    * `Page.cut`, `Page.rowsOf`, `Page.holds`
    * `SelectPlan.cutSql`

  Key theorems include:
    * `SelectPlan.selectSql_eq_cutSql`
    * `Page.keep_cut`
    * `Page.flatMap_keep_cut`
    * `Query.flat_pages_partition_rows`

  Bounds stop at the greatest row number, and there is no row
  with that number. So a bound that was cut off still parts
  the rows where the exact one would have.
-/

namespace EntitySql

------------------------------------------------------------
-- Cuts
------------------------------------------------------------

/-
  How a statement cuts rows: by a length and an offset, or
  strictly between two row numbers.
-/
inductive RowCut where
  | limit (size : Nat) (offset : Option Nat)
  | between (above below : Nat)
  deriving DecidableEq, Repr

/- The rows whose numbers pass a test, counted from one. -/
def rowsWhere
    {α : Type}
    (p : Nat → Bool)
    (rows : List α) : List α :=
  ((rows.zipIdx 1).filter fun row => p row.2).map Prod.fst

/- The rows that a cut keeps. -/
def RowCut.keep
    {α : Type}
    (rows : List α) : RowCut → List α
  | .limit size offset => (rows.drop (offset.getD 0)).take size
  | .between above below =>
      rowsWhere (fun k => above < k && k < below) rows

namespace Page

/- The cut that makes a page in one of the styles. -/
def cut
    (p : Page) : Dialect.PageStyle → RowCut
  | .limitOffset =>
      .limit p.size.toNat (if p.offset = 0 then none else some p.offset)
  | .rowNumber => .between p.offset p.upper

/-
  The rows that belong to a page: those after all rows of the
  pages before it, and no more than its size.
-/
def rowsOf
    {α : Type}
    (p : Page)
    (rows : List α) : List α :=
  rowsWhere
    (fun k =>
      (p.number.toNat - 1) * p.size.toNat < k &&
        k ≤ p.number.toNat * p.size.toNat)
    rows

end Page

namespace SelectPlan

/- A select over one table whose rows are cut. -/
def cutSql
    (plan : SelectPlan) : RowCut → Sql
  | .limit size offset =>
      Sql.words "SELECT " ++ plan.columnsSql ++ plan.tailSql ++
        Sql.words " ORDER BY " ++ orderSql plan.order ++
        Sql.words (" LIMIT " ++ toString size) ++
        match offset with
        | some n => Sql.words (" OFFSET " ++ toString n)
        | none => []
  | .between above below =>
      Sql.words "SELECT " ++ plan.labelsSql ++
        Sql.words " FROM (SELECT ROW_NUMBER() OVER (ORDER BY " ++
        orderSql plan.order ++ Sql.words ") AS " ++ rowNumber ++
        Sql.words ", " ++ plan.columnsSql ++ plan.tailSql ++
        Sql.words ") AS " ++ pagedTable ++ Sql.words " WHERE " ++
        (rowNumber ++
          Sql.words (" > " ++ toString above ++ " AND ") ++
          rowNumber ++ Sql.words (" < " ++ toString below)) ++
        Sql.words " ORDER BY " ++ rowNumber

/- A page is cut as the style of the dialect says. -/
theorem selectSql_eq_cutSql
    {plan : SelectPlan}
    (hRanking : plan.ranking = none)
    (d : Dialect)
    (page : Page) :
    plan.selectSql d (some page) =
      plan.cutSql (page.cut d.pageStyle) := by
  unfold selectSql Page.cut
  rw [hRanking]
  cases d.pageStyle with
  | rowNumber => rfl
  | limitOffset =>
      by_cases hOffset : page.offset = 0
      · simp [limitedSql, cutSql, hOffset]
      · simp [limitedSql, cutSql, hOffset]

end SelectPlan

------------------------------------------------------------
-- Rows between two numbers
------------------------------------------------------------

variable {α : Type}

/- Numbered from `n + 1` on, rows are taken and then dropped. -/
theorem map_filter_zipIdx
    (above last n : Nat)
    (rows : List α) :
    ((rows.zipIdx (n + 1)).filter fun row =>
        above < row.2 && row.2 ≤ last).map Prod.fst =
      (rows.take (last - n)).drop (above - n) := by
  induction rows generalizing n with
  | nil => simp
  | cons row rows ih =>
      rw [List.zipIdx_cons]
      by_cases hKept : above < n + 1 ∧ n + 1 ≤ last
      · rw [List.filter_cons_of_pos (by simpa using hKept),
          List.map_cons, ih (n + 1)]
        obtain ⟨m, hm⟩ : ∃ m, last - n = m + 1 :=
          ⟨last - n - 1, by omega⟩
        have hm' : last - (n + 1) = m := by omega
        have hAbove : above - n = 0 := by omega
        have hAbove' : above - (n + 1) = 0 := by omega
        rw [hm, hm', hAbove, hAbove', List.take_succ_cons,
          List.drop_zero, List.drop_zero]
      · rw [List.filter_cons_of_neg (by simpa using hKept),
          ih (n + 1)]
        by_cases hLast : n + 1 ≤ last
        · obtain ⟨m, hm⟩ : ∃ m, last - n = m + 1 :=
            ⟨last - n - 1, by omega⟩
          obtain ⟨a, ha⟩ : ∃ a, above - n = a + 1 :=
            ⟨above - n - 1, by omega⟩
          have hm' : last - (n + 1) = m := by omega
          have ha' : above - (n + 1) = a := by omega
          rw [hm, hm', ha, ha', List.take_succ_cons,
            List.drop_succ_cons]
        · have hm : last - n = 0 := by omega
          have hm' : last - (n + 1) = 0 := by omega
          rw [hm, hm', List.take_zero, List.take_zero,
            List.drop_nil, List.drop_nil]

/- The rows after one number and up to another. -/
theorem rowsWhere_between
    (above last : Nat)
    (rows : List α) :
    rowsWhere (fun k => above < k && k ≤ last) rows =
      (rows.take last).drop above :=
  map_filter_zipIdx above last 0 rows

/- Tests that agree on the numbers of the rows keep the same. -/
theorem rowsWhere_congr
    {p q : Nat → Bool}
    {rows : List α}
    (hSame :
      ∀ k, 1 ≤ k → k ≤ rows.length → (p k = true ↔ q k = true)) :
    rowsWhere p rows = rowsWhere q rows := by
  unfold rowsWhere
  congr 1
  apply List.filter_congr
  rintro ⟨row, k⟩ hMem
  have hBounds := List.mem_zipIdx hMem
  exact Bool.eq_iff_iff.mpr (hSame k (by omega) (by omega))

/- A limit keeps the rows after its offset. -/
theorem take_drop_eq_rowsWhere
    (size above : Nat)
    (rows : List α) :
    (rows.drop above).take size =
      rowsWhere (fun k => above < k && k ≤ above + size) rows := by
  rw [rowsWhere_between, List.drop_take, Nat.add_sub_cancel_left]

------------------------------------------------------------
-- Rows of a page
------------------------------------------------------------

namespace Page

theorem rowsOf_eq
    (p : Page)
    (rows : List α) :
    p.rowsOf rows =
      (rows.take (p.number.toNat * p.size.toNat)).drop
        ((p.number.toNat - 1) * p.size.toNat) :=
  rowsWhere_between _ _ rows

theorem toNat_pos
    {n : UInt64}
    (hPositive : n ≠ 0) :
    0 < n.toNat := by
  apply Nat.pos_of_ne_zero
  intro hZero
  exact hPositive (UInt64.toNat_inj.mp hZero)

/- The exact bounds of a page are a size apart. -/
theorem mul_size_eq
    {p : Page}
    (hNumber : p.number ≠ 0) :
    p.number.toNat * p.size.toNat =
      (p.number.toNat - 1) * p.size.toNat + p.size.toNat := by
  have hPositive := toNat_pos hNumber
  rw [← Nat.succ_mul, Nat.succ_eq_add_one,
    Nat.sub_add_cancel hPositive]

/- A number lies on the page, as its bounds are written. -/
def holds
    (p : Page)
    (k : Nat) : Bool :=
  p.offset < k && k < p.upper

/-
  A number lies between the written bounds if and only if it
  lies between the exact ones, even if these are too large.
-/
theorem holds_iff
    {p : Page}
    {k : Nat}
    (hNumber : p.number ≠ 0)
    (hLess : k < greatestRow) :
    p.holds k = true ↔
      (p.number.toNat - 1) * p.size.toNat < k ∧
        k ≤ p.number.toNat * p.size.toNat := by
  have hOffset :
      p.offset =
        min ((p.number.toNat - 1) * p.size.toNat) greatestRow := rfl
  have hUpper :
      p.upper =
        min (min (p.offset + p.size.toNat) greatestRow + 1)
          greatestRow := rfl
  rw [mul_size_eq hNumber]
  generalize (p.number.toNat - 1) * p.size.toNat = before
    at hOffset ⊢
  simp only [holds, Bool.and_eq_true, decide_eq_true_eq]
  omega

/-
  In either style a page keeps the rows that belong to it,
  also where its exact bounds are past the greatest number.
-/
theorem keep_cut
    {p : Page}
    {rows : List α}
    (hNumber : p.number ≠ 0)
    (hRows : rows.length < greatestRow)
    (style : Dialect.PageStyle) :
    (p.cut style).keep rows = p.rowsOf rows := by
  unfold rowsOf
  cases style with
  | limitOffset =>
      have hOffset :
          p.offset =
            min ((p.number.toNat - 1) * p.size.toNat)
              greatestRow := rfl
      have hGiven :
          (if p.offset = 0 then none else some p.offset).getD 0 =
            p.offset := by
        split
        · rename_i hZero
          exact hZero.symm
        · rfl
      rw [cut, RowCut.keep, hGiven, take_drop_eq_rowsWhere,
        mul_size_eq hNumber]
      generalize (p.number.toNat - 1) * p.size.toNat = before
        at hOffset ⊢
      apply rowsWhere_congr
      intro k _ hk
      simp only [Bool.and_eq_true, decide_eq_true_eq]
      omega
  | rowNumber =>
      change rowsWhere p.holds rows = _
      apply rowsWhere_congr
      intro k _ hk
      have hHolds := holds_iff (k := k) hNumber (by omega)
      simpa [holds] using hHolds

end Page

------------------------------------------------------------
-- Numbers of pages
------------------------------------------------------------

namespace Page

/- A page is counted if there are rows after those before it. -/
theorem lt_countOf_iff
    {p : Page}
    (hSize : p.size ≠ 0)
    (before total : Nat) :
    before < p.countOf total ↔ before * p.size.toNat < total := by
  have hPositive := toNat_pos hSize
  rw [countOf, if_neg hSize, ← Nat.succ_le_iff,
    Nat.le_div_iff_mul_le hPositive, Nat.succ_mul]
  omega

/- The counted pages have room for all rows. -/
theorem le_countOf_mul
    {p : Page}
    (hSize : p.size ≠ 0)
    (total : Nat) :
    total ≤ p.countOf total * p.size.toNat := by
  apply Nat.le_of_not_lt
  intro hLess
  exact Nat.lt_irrefl _ ((lt_countOf_iff hSize _ total).mpr hLess)

/- There are no more pages than rows. -/
theorem countOf_le
    {p : Page}
    (hSize : p.size ≠ 0)
    (total : Nat) :
    p.countOf total ≤ total := by
  apply Nat.le_of_not_lt
  intro hMore
  have hLess := (lt_countOf_iff hSize total total).mp hMore
  have hPositive := toNat_pos hSize
  have hLarge := Nat.le_mul_of_pos_right total hPositive
  omega

/- The pages without rows are those after the counted ones. -/
theorem rowsOf_eq_nil_iff
    {p : Page}
    (hNumber : p.number ≠ 0)
    (hSize : p.size ≠ 0)
    (rows : List α) :
    p.rowsOf rows = [] ↔ p.countOf rows.length < p.number.toNat := by
  have hCounted :=
    lt_countOf_iff hSize (p.number.toNat - 1) rows.length
  have hBounds := mul_size_eq hNumber
  have hNumber' := toNat_pos hNumber
  have hSize' := toNat_pos hSize
  rw [rowsOf_eq, List.drop_eq_nil_iff, List.length_take]
  omega

end Page

/- The first pages of one size together, in order. -/
theorem take_mul_eq_flatMap
    (size count : Nat)
    (rows : List α) :
    (List.range' 1 count).flatMap (fun n =>
        (rows.take (n * size)).drop ((n - 1) * size)) =
      rows.take (count * size) := by
  induction count with
  | zero => simp
  | succ count ih =>
      have hBefore :
          rows.take (count * size) =
            (rows.take ((count + 1) * size)).take (count * size) := by
        rw [List.take_take, Nat.succ_mul, Nat.min_eq_left]
        omega
      rw [List.range'_1_concat, List.flatMap_append,
        List.flatMap_singleton, ih, Nat.add_sub_cancel_left,
        Nat.add_comm 1, hBefore, List.take_append_drop]

/- The counted pages together hold all rows, each row once. -/
theorem Page.flatMap_keep_cut
    {size : UInt64}
    {rows : List α}
    (hSize : size ≠ 0)
    (hRows : rows.length < greatestRow)
    (number : UInt64)
    (style : Dialect.PageStyle) :
    (List.range' 1 (countOf ⟨number, size⟩ rows.length)).flatMap
        (fun n => (cut ⟨UInt64.ofNat n, size⟩ style).keep rows) =
      rows := by
  have hCount :=
    @countOf_le ⟨number, size⟩ hSize rows.length
  have hRoom :=
    @le_countOf_mul ⟨number, size⟩ hSize rows.length
  have hPage :
      ∀ n ∈ List.range' 1 (countOf ⟨number, size⟩ rows.length),
        (cut ⟨UInt64.ofNat n, size⟩ style).keep rows =
          (rows.take (n * size.toNat)).drop
            ((n - 1) * size.toNat) := by
    intro n hMem
    have hBounds := List.mem_range'_1.mp hMem
    have hValue : (UInt64.ofNat n).toNat = n := by
      apply UInt64.toNat_ofNat_of_lt'
      change n < greatestRow + 1
      omega
    have hNumber : UInt64.ofNat n ≠ 0 := by
      intro hZero
      rw [hZero] at hValue
      change 0 = n at hValue
      omega
    rw [@keep_cut _ ⟨UInt64.ofNat n, size⟩ rows hNumber hRows style,
      rowsOf_eq, hValue]
  rw [List.flatMap_congr hPage, take_mul_eq_flatMap]
  exact List.take_of_length_le hRoom

------------------------------------------------------------
-- Paged requests
------------------------------------------------------------

namespace Query

/- A page of an ordered query is accepted. -/
theorem checkedPage_paged
    {q : Query}
    {p : Page}
    (hOrdered : q.ordering ≠ [])
    (hNumber : p.number ≠ 0)
    (hSize : p.size ≠ 0) :
    (q.paged p).checkedPage = .ok (some p) := by
  have hValid : p.validate = .ok () := by
    rw [Page.validate, if_neg hNumber, if_neg hSize]
  have hItems : (q.paged p).ordering.isEmpty = false := by
    simpa [paged] using hOrdered
  unfold checkedPage
  change
    (do
      p.validate
      if (q.paged p).ordering.isEmpty then
        .error (.invalidPage .unordered)
      else .ok (some p)) = _
  rw [hValid, hItems]
  rfl

/- A page that is accepted exists, and cuts an ordered query. -/
theorem checkedPage_eq_ok
    {q : Query}
    {p : Page}
    {checked : Option Page}
    (hPage : q.page = some p)
    (hChecked : q.checkedPage = .ok checked) :
    checked = some p ∧ p.number ≠ 0 ∧ p.size ≠ 0 ∧
      q.ordering ≠ [] := by
  unfold checkedPage at hChecked
  rw [hPage] at hChecked
  by_cases hNumber : p.number = 0
  · simp [Page.validate, hNumber, Bind.bind, Except.bind] at hChecked
  · by_cases hSize : p.size = 0
    · simp [Page.validate, hNumber, hSize, Bind.bind, Except.bind]
        at hChecked
    · by_cases hItems : q.ordering.isEmpty = true
      · simp [Page.validate, hNumber, hSize, hItems, Bind.bind,
          Except.bind] at hChecked
      · simp only [Page.validate, if_neg hNumber, if_neg hSize,
          if_neg hItems, Bind.bind, Except.bind, Except.ok.injEq]
          at hChecked
        refine ⟨hChecked.symm, hNumber, hSize, ?_⟩
        simpa using hItems

/- A plan over one table has no roots to tell apart. -/
theorem ranking_of_flat
    {q : Query}
    {naming : TableNaming}
    {plan : SelectPlan}
    {s t : ParameterSet}
    (hFlat : q.isJoined = false)
    (hPlan : (q.plan naming).Yields s plan t) :
    plan.ranking = none := by
  rw [Query.plan, if_neg (by simp [hFlat])] at hPlan
  simp only [planFlat, Binding.yields_bind_iff,
    Binding.yields_liftM_iff, Binding.yields_pure_iff] at hPlan
  rcases hPlan with ⟨_, _, _, _, _, _, rfl, _⟩
  rfl

/-
  Every page of an ordered query over one table is selected by
  one plan, and only the cut is that of the page.
-/
theorem statement_paged
    {q : Query}
    {p : Page}
    {naming : TableNaming}
    {plan : SelectPlan}
    {bound : ParameterSet}
    (hFlat : q.isJoined = false)
    (hOrdered : q.ordering ≠ [])
    (hNumber : p.number ≠ 0)
    (hSize : p.size ≠ 0)
    (hPlan : (q.plan naming).Yields .empty plan bound)
    (d : Dialect) :
    (Request.select (q.paged p)).statement naming d =
        .ok
          { sql := (plan.cutSql (p.cut d.pageStyle)).text d
            params := bound.params
            kind := .select } ∧
      (Request.selectWithCount (q.paged p)).statement naming d =
        .ok
          { sql :=
              (plan.cutSql (p.cut d.pageStyle) ++
                Sql.words "; " ++ plan.countSql).text d
            params := bound.params
            kind := .multiResult } := by
  have hPage := checkedPage_paged hOrdered hNumber hSize
  have hCut :=
    SelectPlan.selectSql_eq_cutSql (ranking_of_flat hFlat hPlan) d p
  have hSelect :
      ((Request.select (q.paged p)).command naming).Yields .empty
        (.select plan (some p)) bound := by
    simp only [Request.command, Binding.yields_bind_iff,
      Binding.yields_liftM_iff, Binding.yields_pure_iff]
    exact ⟨_, _, ⟨hPage, rfl⟩, plan, bound, hPlan, rfl, rfl⟩
  have hBoth :
      ((Request.selectWithCount (q.paged p)).command naming).Yields
        .empty (.selectWithCount plan (some p)) bound := by
    simp only [Request.command, Binding.yields_bind_iff,
      Binding.yields_liftM_iff, Binding.yields_pure_iff]
    exact ⟨_, _, ⟨hPage, rfl⟩, plan, bound, hPlan, rfl, rfl⟩
  constructor
  · rw [Request.statement_of_yields hSelect, ← hCut]
    rfl
  · rw [Request.statement_of_yields hBoth, ← hCut]
    rfl

/-
  A select that can be written has a plan, and its page is one
  that exists.
-/
theorem exists_plan_of_select
    {q : Query}
    {naming : TableNaming}
    {d : Dialect}
    {st : Statement}
    (hStatement : (Request.select q).statement naming d = .ok st) :
    ∃ plan checked,
      q.checkedPage = .ok checked ∧
      (q.plan naming).Yields .empty plan ⟨st.params⟩ ∧
      (Request.select q).draft naming =
        .ok ⟨.select plan checked, st.params⟩ ∧
      st.sql = (plan.selectSql d checked).text d := by
  rcases Request.exists_yields_of_statement hStatement with
    ⟨command, params, hYields, rfl⟩
  have hDraft :
      (Request.select q).draft naming = .ok ⟨command, params⟩ :=
    Request.draft_eq_ok_iff.mpr hYields
  simp only [Request.command, Binding.yields_bind_iff,
    Binding.yields_liftM_iff, Binding.yields_pure_iff] at hYields
  rcases hYields with
    ⟨checked, _, ⟨hChecked, rfl⟩, plan, _, hPlan, rfl, rfl⟩
  exact ⟨plan, checked, hChecked, hPlan, hDraft, rfl⟩

/-
  Pages part the rows of an ordered query over one table. The
  statement for a page is that of one plan with the cut of the
  page, and in either style the cut keeps exactly the rows of
  the page. The counted pages hold every row once and in
  order; each of them has a row, and the later ones have none.
-/
theorem flat_pages_partition_rows
    {α : Type}
    {q : Query}
    {size : UInt64}
    {rows : List α}
    (hFlat : q.isJoined = false)
    (hOrdered : q.ordering ≠ [])
    (hSize : size ≠ 0)
    (hRows : rows.length < Page.greatestRow) :
    (∀ number : UInt64, number ≠ 0 →
      let page : Page := ⟨number, size⟩
      (∀ naming plan bound,
        (q.plan naming).Yields .empty plan bound →
        ∀ d : Dialect,
          let cut := plan.cutSql (page.cut d.pageStyle)
          (Request.select (q.paged page)).statement naming d =
              .ok ⟨cut.text d, bound.params, .select⟩ ∧
            (Request.selectWithCount (q.paged page)).statement
                naming d =
              .ok
                ⟨(cut ++ Sql.words "; " ++ plan.countSql).text d,
                  bound.params, .multiResult⟩) ∧
      ∀ style, (page.cut style).keep rows = page.rowsOf rows) ∧
    ∀ items asked style,
      let found : PageResult :=
        ⟨items, rows.length, some ⟨asked, size⟩⟩
      let kept (number : UInt64) : List α :=
        (Page.cut ⟨number, size⟩ style).keep rows
      found.pageCount < UInt64.size ∧
        (List.range' 1 found.pageCount).flatMap
            (fun n => kept (UInt64.ofNat n)) =
          rows ∧
        ∀ number : UInt64, number ≠ 0 →
          (kept number = [] ↔ found.pageCount < number.toNat) := by
  refine ⟨?_, ?_⟩
  · intro number hNumber page
    constructor
    · intro naming plan bound hPlan d
      exact statement_paged hFlat hOrdered hNumber hSize hPlan d
    · exact Page.keep_cut hNumber hRows
  · intro items asked style found kept
    refine ⟨?_, Page.flatMap_keep_cut hSize hRows asked style, ?_⟩
    · have hCount :=
        @Page.countOf_le ⟨asked, size⟩ hSize rows.length
      change Page.countOf ⟨asked, size⟩ rows.length <
        Page.greatestRow + 1
      omega
    · intro number hNumber
      have hKept : kept number = Page.rowsOf ⟨number, size⟩ rows :=
        Page.keep_cut hNumber hRows style
      rw [hKept]
      exact Page.rowsOf_eq_nil_iff hNumber hSize rows

/- Three documents in pairs: the second page has the third. -/
theorem flat_pages_partition_three :
    let doc : EntityType :=
      { key := ⟨0, "Doc"⟩, table := "doc",
        properties :=
          [ { column := "id", declaredType := "i64",
              type := ⟨.integer .int64, false⟩, identity := true } ] }
    let q := (Query.of doc).orderBy "-id"
    let second : Page := ⟨2, 2⟩
    let rows := ["a", "b", "c"]
    (Request.select (q.paged second)).statement {} .sqlServer =
        .ok
          ⟨"SELECT [id] FROM (SELECT ROW_NUMBER() OVER " ++
              "(ORDER BY [id] DESC) AS [RowNum], [id] FROM [doc]) " ++
              "AS [Paged] WHERE [RowNum] > 2 AND [RowNum] < 5 " ++
              "ORDER BY [RowNum]",
            [], .select⟩ ∧
      (second.cut .rowNumber).keep rows = ["c"] ∧
      (second.cut .limitOffset).keep rows = ["c"] ∧
      PageResult.pageCount ⟨[], rows.length, some second⟩ = 2 := by
  intro doc q second rows
  have hPages :=
    @flat_pages_partition_rows _ q 2 rows rfl (by decide) (by decide)
      (by decide)
  have hSecond := hPages.1 2 (by decide)
  have hStatement := hSecond.1 {} _ _ rfl .sqlServer
  refine ⟨hStatement.1.trans ?_, ?_, ?_, by decide⟩
  · decide +kernel
  · exact (hSecond.2 .rowNumber).trans (by decide)
  · exact (hSecond.2 .limitOffset).trans (by decide)

end Query

end EntitySql
